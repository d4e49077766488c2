import OcssdServer.ThreadPool

namespace OcssdServer.PoolCapacity
open MachineRuns

section Pool
variable {T : Type}

def Appends (pool : ThreadPool T) (step : PoolStep T) : Prop :=
  pool.gone = false ∧ ∃ appender request,step = .append appender request ∧
    pool.appenders[appender]? = some .outside

-- The queue stays within m_max_requests, and append refuses exactly at that size.
def Bounded (pool : ThreadPool T) (step : PoolStep T) : Prop :=
  (pool.step step).1.workqueue.length ≤ pool.maxRequests.toNat ∧
    (Appends pool step → ((pool.step step).2 = .refused ↔ pool.workqueue.length = pool.maxRequests.toNat))

def BelowLimit (pool : ThreadPool T) (step : PoolStep T) : Prop :=
  Appends pool step → pool.workqueue.length ≠ pool.maxRequests.toNat

theorem append_step {pool : ThreadPool T} {step : PoolStep T} (appends : Appends pool step)
    (within : pool.workqueue.length ≤ pool.maxRequests.toNat) :
    (pool.step step).2 ≠ .refused ∧ (pool.step step).1.workqueue.length = pool.workqueue.length+1 := by
  obtain ⟨live,appender,request,rfl,outside⟩ := appends
  rw [ThreadPool.step_live live,ThreadPool.act,if_pos outside,ThreadPool.append,if_neg (Nat.not_lt_of_le within)]
  refine ⟨?_,List.length_append⟩
  intro refused
  cases refused

theorem other_step {pool : ThreadPool T} {step : PoolStep T} (other : ¬ Appends pool step) :
    (pool.step step).1.workqueue.length ≤ pool.workqueue.length := by
  by_cases gone : pool.gone = true
  · rw [ThreadPool.step_gone gone]
  have stepped := ThreadPool.step_stepped pool step
  generalize pool.step step = r at stepped
  cases stepped with
  | silent next queue limit => rw [queue]
  | refused full => exact Nat.le_refl _
  | pushed next appender request appends outside room queue limit =>
    exact absurd ⟨Bool.eq_false_iff.mpr gone,appender,request,appends,outside⟩ other
  | dequeued next request queue limit =>
    rw [queue]
    exact Nat.le_succ _

-- The comparison lets one request more in: at the limit append still pushes.
theorem bounded_step {pool : ThreadPool T} (within : pool.workqueue.length ≤ pool.maxRequests.toNat)
    (step : PoolStep T) : BelowLimit pool step ↔ Bounded pool step := by
  by_cases appends : Appends pool step
  · obtain ⟨accepted,longer⟩ := append_step appends within
    constructor
    · intro below
      have room := below appends
      exact ⟨by omega,fun _ => iff_of_false accepted room⟩
    · rintro ⟨bound,_⟩ _ limit
      omega
  · exact iff_of_true (fun now => absurd now appends)
      ⟨(other_step appends).trans within,fun now => absurd now appends⟩

end Pool

theorem capacity_kept_iff {T : Type} {threadNumber : Int} {maxRequests : UInt64} {appenders : Nat}
    {pool : ThreadPool T} (made : ThreadPool.new threadNumber maxRequests appenders = some pool)
    (steps : List (PoolStep T)) :
    Each ThreadPool.step BelowLimit pool steps ↔ Each ThreadPool.step Bounded pool steps := by
  have empty : pool.workqueue.length ≤ pool.maxRequests.toNat := by
    unfold ThreadPool.new at made
    split at made
    · cases made
    · cases made
      exact Nat.zero_le _
  refine each_iff (fun pool _ => pool.workqueue.length ≤ pool.maxRequests.toNat) ?_ ?_ empty
  · intro pool step _ within below
    rw [ThreadPool.limit_kept]
    exact ((bounded_step within step).mp below).1
  · intro pool step _ within
    exact bounded_step within step

-- A pool for one request takes two.
theorem second_request_taken :
    ∃ pool : ThreadPool Nat,ThreadPool.new 1 1 2 = some pool ∧
      (final ThreadPool.step pool [.append 0 (some 7),.append 1 (some 8)]).workqueue.length = 2 ∧
      ¬ Each ThreadPool.step Bounded pool [.append 0 (some 7),.append 1 (some 8)] := by
  refine ⟨⟨1,[],0,false,false,[.looping],[.outside,.outside]⟩,rfl,by decide,?_⟩
  rintro ⟨_,⟨bound,_⟩,_⟩
  revert bound
  decide

theorem one_request_bounded :
    ∃ pool : ThreadPool Nat,ThreadPool.new 1 1 1 = some pool ∧
      Each ThreadPool.step Bounded pool [.append 0 (some 7)] := by
  have made : ThreadPool.new 1 1 1 = some (⟨1,[],0,false,false,[.looping],[.outside]⟩ : ThreadPool Nat) := rfl
  refine ⟨_,made,(capacity_kept_iff made _).mp ⟨fun _ => ?_,trivial⟩⟩
  decide

end OcssdServer.PoolCapacity
