import OcssdServer.RequestOutcomes

namespace OcssdServer.FailedGrants
open FirstFit ChannelBalance UnitGrants ManagerGrants RequestOutcomes

-- All that the allocator ever writes: used flags, block counters, LUN counters.
def channelUsage (channel : OcssdChannel) : Bool × UInt64 × List UInt64 :=
  (channel.used,channel.numUsedBlocks,channel.luns.map (·.numUsed))

def unitUsage (unit : OcssdUnit) : List (Bool × UInt64 × List UInt64) × List (Bool × UInt64 × List UInt64) :=
  (unit.sharedChannels.map channelUsage,unit.exclusiveChannels.map channelUsage)

def usage (manager : OcssdManager) :
    List (List (Bool × UInt64 × List UInt64) × List (Bool × UInt64 × List UInt64)) :=
  manager.ocssds.map unitUsage

section Commits
variable {request : OcssdAllocRequest}

theorem raise_usage {geo : NvmGeo} {channel : OcssdChannel} {blocks : UInt64} (balanced : Balanced geo channel)
    (served : serves blocks channel = true) : channelUsage (raise geo blocks channel) ≠ channelUsage channel := by
  intro same
  have counter : channel.numUsedBlocks+geo.nluns*lunShare channel blocks = channel.numUsedBlocks :=
    congrArg (fun usage => usage.2.1) same
  have given := UInt64.lt_iff_toNat_lt.mp (allocated_pos balanced served)
  have nothing : geo.nluns*lunShare channel blocks = 0 := by
    have less := congrArg (· - channel.numUsedBlocks) counter
    simpa [UInt64.add_comm channel.numUsedBlocks] using less
  rw [nothing] at given
  exact Nat.lt_irrefl _ given

theorem use_usage {channel : OcssdChannel} (ready : unused channel = true) :
    channelUsage channel.setUsed ≠ channelUsage channel := by
  intro same
  have flag : true = channel.used := congrArg (fun usage => usage.1) same
  simp [unused,←flag] at ready

theorem after_usage {unit : OcssdUnit} (valid : UnitValid unit) (drawn' : 0 < drawn request unit) :
    unitUsage (after request unit) ≠ unitUsage unit := by
  have some' : taken request unit ≠ [] := by
    intro nothing
    rw [←taken_drawn,nothing] at drawn'
    exact Nat.lt_irrefl _ drawn'
  intro same
  unfold taken at some'
  unfold after at same
  split at some'
  · rename_i shared
    rw [if_pos shared] at same
    refine left_differs _ _ ?_ some' (congrArg Prod.fst same)
    intro channel member served
    exact raise_usage (valid.shared channel member).1 served
  · rename_i exclusive
    rw [if_neg exclusive] at same
    refine left_differs _ _ ?_ some' (congrArg Prod.snd same)
    intro channel _ ready
    exact use_usage ready

theorem next_usage {units : List OcssdUnit} (valid : ∀ unit ∈ units,UnitValid unit)
    (some' : 0 < total (plan request units)) :
    (nextUnits request units).map unitUsage ≠ units.map unitUsage := by
  induction units generalizing request with
  | nil => exact absurd some' (Nat.lt_irrefl _)
  | cons unit rest ih =>
    intro same
    rw [nextUnits,plan,List.map_cons,List.map_cons,List.map_cons,List.cons.injEq] at same
    by_cases zero : drawn request unit = 0
    · rw [total,plan,List.map_cons,List.sum_cons,zero,Nat.zero_add] at some'
      exact ih (fun u member => valid u (by simp [member])) some' (by rw [zero] at same; exact same.2)
    · exact after_usage (valid unit (by simp)) (Nat.pos_of_ne_zero zero) same.1

end Commits

section Requests
variable {World Dev Vblk : Type} (lib : Lightnvm World Dev Vblk)

def Atomic (before after : OcssdConn Dev Vblk) (manager manager' : OcssdManager) : Prop :=
  after.writeq = before.writeq → usage manager' = usage manager ∧
    manager'.ocssds.map (·.getOcssdStats) = manager.ocssds.map (·.getOcssdStats)

-- The request asks for remote access, a channel is open for it, and the first
-- device with one cannot be opened again.
def LosesDevice (session : Session World Vblk) (message : List UInt8) : Prop :=
  ∃ request unit,OcssdAllocRequest.ofMessage message = some request ∧ request.remote ≠ 0 ∧
    firstOpen request session.manager.ocssds = some unit ∧ (lib.devOpen unit.name session.world).1 = none

theorem losesDevice_iff {request : OcssdAllocRequest} {session : Session World Vblk} {message : List UInt8}
    (decoded : OcssdAllocRequest.ofMessage message = some request) :
    LosesDevice lib session message ↔ ∃ unit,request.remote ≠ 0 ∧
      firstOpen request session.manager.ocssds = some unit ∧ (lib.devOpen unit.name session.world).1 = none := by
  constructor
  · rintro ⟨other,unit,given,remote,first,closed⟩
    cases Option.some.inj (decoded.symm.trans given)
    exact ⟨unit,remote,first,closed⟩
  · rintro ⟨unit,remote,first,closed⟩
    exact ⟨request,unit,decoded,remote,first,closed⟩

theorem kept_atomic {before after : OcssdConn Dev Vblk} {manager manager' : OcssdManager}
    (same : manager'.ocssds = manager.ocssds) : Atomic before after manager manager' := by
  intro _
  rw [usage,usage,same]
  exact ⟨rfl,rfl⟩

-- The grant is committed before the device is opened and is never taken back,
-- which is the only way a request that queues nothing leaves a trace.
theorem failed_alloc_atomic_iff (set : List (DevName × NvmGeo)) (requests : List OcssdAllocRequest) (world : World)
    (events : List (Event Vblk)) (conn : OcssdConn Dev Vblk) (message : List UInt8) :
    let session : Session World Vblk := ⟨reached set requests,world,events⟩
    let r := processAllocRequest lib conn session message
    Atomic conn r.conn session.manager r.session.manager ↔ ¬ LosesDevice lib session message := by
  intro session
  dsimp only
  have valid : ManagerValid session.manager := reached_valid set requests
  cases decoded : OcssdAllocRequest.ofMessage message with
  | none =>
    rw [processAllocRequest,decoded]
    refine iff_of_true (kept_atomic rfl) ?_
    rintro ⟨request,_,given,_⟩
    rw [decoded] at given
    cases given
  | some request =>
    rw [losesDevice_iff lib decoded]
    cases alloc_outcome lib valid decoded conn with
    | refused first conn' ocssds ending =>
      refine iff_of_true (kept_atomic ocssds) ?_
      rintro ⟨unit,_,found,_⟩
      rw [first] at found
      cases found
    | answers unit first opens bufferq queued evRead evWrite ending =>
      refine iff_of_true ?_ ?_
      · intro same
        rw [queued] at same
        exact absurd same (by simp)
      · rintro ⟨unit',remote,found,closed⟩
        cases Option.some.inj (first.symm.trans found)
        rcases opens with local' | opened
        · exact remote local'
        · exact opened closed
    | fails unit first remote closed output ocssds ending =>
      refine iff_of_false ?_ (not_not.mpr ⟨unit,remote,first,closed⟩)
      intro atomic
      have same := (atomic output.writeq).1
      rw [usage,usage,ocssds] at same
      exact next_usage valid (first_granted first).1 same

end Requests

-- One device that is gone when it is opened again: the request for one exclusive
-- channel ends by the exception, and the channel stays used.
def goneLib : Lightnvm Unit Unit Unit := {quietLib with devOpen := fun _ _ => (none,())}

def askRemote : List UInt8 := [1,0x65,0,0,1,0,0,0,0,0,0,0,0,0,0,0,0,0,0,0,1,0,0,0]

theorem lost_device_keeps_channel :
    let session : Session Unit Unit := ⟨reached [([110],⟨5,1,1,4,1,1,1,1,0⟩)] [],(),[]⟩
    let r := processAllocRequest goneLib (.accepted (fun _ => 0)) session askRemote
    r.ending = .threw ∧ r.conn.writeq.length = 0 ∧
      session.manager.ocssds.map (·.getOcssdStats) = [⟨4,1,20⟩] ∧
      r.session.manager.ocssds.map (·.getOcssdStats) = [⟨4,0,16⟩] ∧
      ¬ Atomic (.accepted (fun _ => 0)) r.conn session.manager r.session.manager := by
  have stats : (let session : Session Unit Unit := ⟨reached [([110],⟨5,1,1,4,1,1,1,1,0⟩)] [],(),[]⟩
      let r := processAllocRequest goneLib (.accepted (fun _ => 0)) session askRemote
      r.ending = .threw ∧ r.conn.writeq.length = 0 ∧
        session.manager.ocssds.map (·.getOcssdStats) = [⟨4,1,20⟩] ∧
        r.session.manager.ocssds.map (·.getOcssdStats) = [⟨4,0,16⟩]) := by decide +kernel
  obtain ⟨ending,queue,before,after⟩ := stats
  refine ⟨ending,queue,before,after,fun atomic => ?_⟩
  have same := (atomic (List.length_eq_zero_iff.mp queue)).2
  rw [before,after] at same
  cases same

end OcssdServer.FailedGrants
