import Mathlib.Data.List.ReduceOption
import OcssdServer.Descents
import OcssdServer.PoolHandOff
import OcssdServer.ThreadRows

namespace OcssdServer.PoolProgress
open MachineRuns PoolHandOff ThreadRows

section Pool
variable {T : Type}

def handled (pool : ThreadPool T) : PoolStep T → Option T
  | .processed worker =>
    match pool.gone,pool.workers[worker]? with
    | false,some (.processing request) => some request
    | _,_ => none
  | .append _ _ | .post _ | .wait _ | .wake _ _ | .dequeue _ | .stop | .destroy => none

def processed : ThreadPool T → List (PoolStep T) → List T
  | _,[] => []
  | pool,step :: rest => (handled pool step).toList ++ processed (pool.step step).1 rest

-- The turn of one worker through its loop, with what it shows and what it has
-- been through process with.
inductive Turn (stop : Bool) : WorkerState T → WorkerState T → PoolEvent T → Option T → Prop where
  | stays : stop = false → Turn stop .looping .waiting .silent none
  | leaves : stop = true → Turn stop .looping .ended .silent none
  | wakes : Turn stop .waiting .woken .silent none
  | finds : Turn stop .woken .looping .silent none
  | drops : Turn stop .woken .looping (.dequeued none) none
  | takes (request : T) : Turn stop .woken (.processing request) (.dequeued (some request)) none
  | returns (request : T) : Turn stop (.processing request) .looping .silent (some request)

theorem turn_ends {stop : Bool} {before : WorkerState T} {event : PoolEvent T} {handled : Option T}
    (turn : Turn stop before .ended event handled) : stop = true := by
  cases turn with
  | leaves stopped => exact stopped

-- At most one worker takes its turn in a step.
inductive Turned (pool : ThreadPool T) (next : ThreadPool T × PoolEvent T) (handled : Option T) : Prop where
  | nobody (workers : next.1.workers = pool.workers) (none' : handled = none)
      (quiet : PoolEvent.dequeues next.2 = none)
  | worker (i : Nat) (before after : WorkerState T) (here : pool.workers[i]? = some before)
      (turn : Turn pool.stop before after next.2 handled) (workers : next.1.workers = pool.workers.set i after)

theorem dequeue_turned {pool : ThreadPool T} {worker : Nat} (here : pool.workers[worker]? = some .woken) :
    Turned pool (pool.dequeue worker) none := by
  unfold ThreadPool.dequeue
  cases pool.workqueue with
  | nil => exact .worker worker _ _ here .finds rfl
  | cons request rest =>
    cases request with
    | none => exact .worker worker _ _ here .drops rfl
    | some r => exact .worker worker _ _ here (.takes r) rfl

theorem act_turned {pool : ThreadPool T} (live : pool.gone = false) (step : PoolStep T) :
    Turned pool (pool.act step) (handled pool step) := by
  have idle : Turned pool (pool,.silent) none := .nobody rfl rfl rfl
  cases step with
  | append appender request =>
    simp only [ThreadPool.act,ThreadPool.append,handled]
    split
    · split
      · exact .nobody rfl rfl rfl
      · exact .nobody rfl rfl rfl
    · exact idle
  | post appender =>
    simp only [ThreadPool.act,handled]
    split
    · exact .nobody rfl rfl rfl
    · exact idle
  | wait worker =>
    simp only [ThreadPool.act,handled]
    split
    · rename_i here
      cases stop : pool.stop with
      | true => exact .worker worker _ _ here (by rw [stop]; exact .leaves rfl) (by rw [if_pos rfl])
      | false => exact .worker worker _ _ here (by rw [stop]; exact .stays rfl) (by rw [if_neg Bool.false_ne_true])
    · exact idle
  | wake worker token =>
    simp only [ThreadPool.act,handled]
    split
    · rename_i here
      split
      · split
        · exact .worker worker _ _ here .wakes rfl
        · exact idle
      · exact .worker worker _ _ here .wakes rfl
    · exact idle
  | dequeue worker =>
    simp only [ThreadPool.act,handled]
    split
    · rename_i here
      exact dequeue_turned here
    · exact idle
  | processed worker =>
    simp only [ThreadPool.act,handled,live]
    cases here : pool.workers[worker]? with
    | none => exact idle
    | some state =>
      cases state with
      | processing request => exact .worker worker _ _ here (.returns request) rfl
      | looping | waiting | woken | ended => exact idle
  | stop => exact .nobody rfl rfl rfl
  | destroy =>
    simp only [ThreadPool.act,handled]
    split
    · exact .nobody rfl rfl rfl
    · exact idle

theorem step_turned (pool : ThreadPool T) (step : PoolStep T) : Turned pool (pool.step step) (handled pool step) := by
  cases gone : pool.gone with
  | false =>
    rw [ThreadPool.step_live gone]
    exact act_turned gone step
  | true =>
    rw [ThreadPool.step_gone gone]
    have nothing : handled pool step = none := by
      cases step with
      | processed worker => simp [handled,gone]
      | append | post | wait | wake | dequeue | stop | destroy => rfl
    exact .nobody rfl nothing rfl

def inHand : WorkerState T → Option T
  | .processing request => some request
  | .looping | .waiting | .woken | .ended => none

theorem turn_balance {stop : Bool} {before after : WorkerState T} {event : PoolEvent T} {handled : Option T}
    (turn : Turn stop before after event handled) :
    (handled.toList ++ (inHand after).toList) = (inHand before).toList ++ (PoolEvent.dequeues event).join.toList := by
  cases turn <;> rfl

theorem step_balance (pool : ThreadPool T) (step : PoolStep T) :
    ((handled pool step).toList ++ (pool.step step).1.workers.filterMap inHand).Perm
      (pool.workers.filterMap inHand ++ (PoolEvent.dequeues (pool.step step).2).join.toList) := by
  cases step_turned pool step with
  | nobody workers none' quiet =>
    rw [workers,none',quiet]
    exact (List.append_nil _).symm ▸ List.Perm.refl _
  | worker i before after here turn workers =>
    have balance := turn_balance turn
    have moved := @listed_moved _ _ _ _ _ after inHand here
    rw [workers]
    refine (List.perm_append_left_iff (inHand before).toList).mp ?_
    calc
      (inHand before).toList ++ ((handled pool step).toList ++ (pool.workers.set i after).filterMap inHand)
      _ |>.Perm ((handled pool step).toList ++ ((inHand before).toList ++ (pool.workers.set i after).filterMap inHand)) :=
        List.perm_append_comm_assoc _ _ _
      _ |>.Perm ((handled pool step).toList ++ ((inHand after).toList ++ pool.workers.filterMap inHand)) :=
        moved.append_left _
      _ = (inHand before).toList ++ ((PoolEvent.dequeues (pool.step step).2).join.toList ++
          pool.workers.filterMap inHand) := by rw [←List.append_assoc,balance,List.append_assoc]
      _ |>.Perm ((inHand before).toList ++ (pool.workers.filterMap inHand ++
          (PoolEvent.dequeues (pool.step step).2).join.toList)) := List.perm_append_comm.append_left _

theorem dequeued_cons (pool : ThreadPool T) (step : PoolStep T) (rest : List (PoolStep T)) :
    dequeued (trace ThreadPool.step pool (step :: rest)) =
      (PoolEvent.dequeues (pool.step step).2).toList ++ dequeued (trace ThreadPool.step (pool.step step).1 rest) := by
  rw [dequeued,trace_cons,List.filterMap_cons]
  cases PoolEvent.dequeues (pool.step step).2 <;> rfl

theorem run_balance (pool : ThreadPool T) (steps : List (PoolStep T)) :
    (processed pool steps ++ (final ThreadPool.step pool steps).workers.filterMap inHand).Perm
      (pool.workers.filterMap inHand ++ (dequeued (trace ThreadPool.step pool steps)).reduceOption) := by
  induction steps generalizing pool with
  | nil => exact List.perm_append_comm
  | cons step rest ih =>
    have taken : (dequeued (trace ThreadPool.step pool (step :: rest))).reduceOption =
        (PoolEvent.dequeues (pool.step step).2).join.toList ++
          (dequeued (trace ThreadPool.step (pool.step step).1 rest)).reduceOption := by
      rw [dequeued_cons,List.reduceOption_append]
      congr 1
      cases PoolEvent.dequeues (pool.step step).2 with
      | none => rfl
      | some request => cases request <;> rfl
    have later := (ih (pool.step step).1).append_left (handled pool step).toList
    rw [←List.append_assoc,←List.append_assoc] at later
    rw [taken,←List.append_assoc]
    exact later.trans ((step_balance pool step).append_right _)

-- The work that is left: requests in the queue, turns of the workers, posts.
def turns : WorkerState T → Nat
  | .processing _ => 3
  | .looping => 2
  | .waiting => 1
  | .woken | .ended => 0

def left (pool : ThreadPool T) : Nat :=
  4*pool.workqueue.length+(pool.workers.map turns).sum+pool.appenders.countP AppenderState.isPosting

def serves : PoolStep T → Bool
  | .append _ _ | .stop | .destroy => false
  | .wake _ token => token
  | .post _ | .wait _ | .dequeue _ | .processed _ => true

section Less
variable {pool : ThreadPool T} {i : Nat}

theorem post_less (here : pool.appenders[i]? = some .posting) : left (pool.act (.post i)).1 < left pool := by
  obtain ⟨some',fewer⟩ := @count_left _ AppenderState.isPosting _ _ _ .outside here rfl rfl
  simp only [ThreadPool.act,left,if_pos here,fewer]
  omega

theorem processed_less {request : T} (here : pool.workers[i]? = some (.processing request)) :
    left (pool.act (.processed i)).1 < left pool := by
  have moved := @sum_moved _ _ _ _ .looping turns here
  simp only [turns] at moved
  simp only [ThreadPool.act,left,here]
  omega

theorem wait_less (here : pool.workers[i]? = some .looping) (going : pool.stop = false) :
    left (pool.act (.wait i)).1 < left pool := by
  have moved := @sum_moved _ _ _ _ .waiting turns here
  simp only [turns] at moved
  simp only [ThreadPool.act,left,here,going,Bool.false_eq_true,if_false]
  omega

theorem wake_less (here : pool.workers[i]? = some .waiting) (token : 0 < pool.queuestat) :
    left (pool.act (.wake i true)).1 < left pool := by
  have moved := @sum_moved _ _ _ _ .woken turns here
  simp only [turns] at moved
  simp only [ThreadPool.act,left,here,if_true,if_pos token]
  omega

theorem dequeue_less (here : pool.workers[i]? = some .woken) (some' : pool.workqueue ≠ []) :
    left (pool.act (.dequeue i)).1 < left pool := by
  obtain ⟨request,rest,queue⟩ := List.exists_cons_of_ne_nil some'
  simp only [ThreadPool.act,ThreadPool.dequeue,left,here,queue,List.length_cons]
  cases request with
  | none =>
    have moved := @sum_moved _ _ _ _ .looping turns here
    simp only [turns] at moved ⊢
    omega
  | some r =>
    have moved := @sum_moved _ _ _ _ (.processing r) turns here
    simp only [turns] at moved ⊢
    omega

end Less

-- A pool that has not been stopped is there with all its workers.
structure Manned (count : Nat) (pool : ThreadPool T) : Prop where
  workers : pool.workers.length = count
  alive : pool.stop = false → .ended ∉ pool.workers
  there : pool.stop = false → pool.gone = false
  covered : TokenQueue.Covered (view pool)

-- The flags: only the destructor raises them, the second after the first.
theorem act_flags (pool : ThreadPool T) (step : PoolStep T) :
    (pool.act step).1.stop = pool.stop ∧ (pool.act step).1.gone = pool.gone ∨
      (pool.act step).1.stop = true := by
  have idle : pool.stop = pool.stop ∧ pool.gone = pool.gone := ⟨rfl,rfl⟩
  cases step with
  | append appender request =>
    simp only [ThreadPool.act,ThreadPool.append]
    split
    · split
      · exact .inl idle
      · exact .inl idle
    · exact .inl idle
  | post appender =>
    simp only [ThreadPool.act]
    split
    · exact .inl idle
    · exact .inl idle
  | wait worker | processed worker =>
    simp only [ThreadPool.act]
    split
    · exact .inl idle
    · exact .inl idle
  | wake worker token =>
    simp only [ThreadPool.act]
    split
    · split
      · split
        · exact .inl idle
        · exact .inl idle
      · exact .inl idle
    · exact .inl idle
  | dequeue worker =>
    simp only [ThreadPool.act,ThreadPool.dequeue]
    split
    · split
      · exact .inl idle
      · exact .inl idle
    · exact .inl idle
  | stop => exact .inr rfl
  | destroy =>
    simp only [ThreadPool.act]
    split
    · rename_i stopped
      exact .inr stopped
    · exact .inl idle

theorem step_going {pool : ThreadPool T} {step : PoolStep T} (going : (pool.step step).1.stop = false) :
    pool.stop = false ∧ (pool.gone = false → (pool.step step).1.gone = false) := by
  cases gone : pool.gone with
  | true =>
    rw [ThreadPool.step_gone gone] at going ⊢
    exact ⟨going,nofun⟩
  | false =>
    rw [ThreadPool.step_live gone] at going ⊢
    cases act_flags pool step with
    | inl same => exact ⟨same.1.symm.trans going,fun _ => same.2.trans gone⟩
    | inr stopped =>
      rw [stopped] at going
      cases going

theorem step_manned {count : Nat} (pool : ThreadPool T) (step : PoolStep T) (manned : Manned count pool) :
    Manned count (pool.step step).1 := by
  have covered : TokenQueue.Covered (view (pool.step step).1) := by
    have stepped := TokenQueue.step_covered (view pool) (move pool step) manned.covered
    rw [pool_simulates] at stepped
    exact stepped
  have turned := step_turned pool step
  refine ⟨?_,fun going => ?_,fun going => ?_,covered⟩
  · cases turned with
    | nobody workers => rw [workers,manned.workers]
    | worker i before after here turn workers => rw [workers,List.length_set,manned.workers]
  · have before' := (step_going going).1
    have alive := manned.alive before'
    cases turned with
    | nobody workers => rwa [workers]
    | worker i before after here turn workers =>
      rw [workers]
      intro ended
      rcases List.mem_or_eq_of_mem_set ended with old | new
      · exact alive old
      · subst new
        rw [turn_ends turn] at before'
        cases before'
  · obtain ⟨before',there⟩ := step_going going
    exact there (manned.there before')

structure Drained (pool : ThreadPool T) : Prop where
  queue : pool.workqueue = []
  posted : ∀ appender ∈ pool.appenders,appender = .outside
  idle : pool.workers.filterMap inHand = []

theorem drained_or {pool : ThreadPool T} (posted : .posting ∉ pool.appenders)
    (idle : ∀ request,.processing request ∉ pool.workers) (queue : pool.workqueue = []) : Drained pool := by
  refine ⟨queue,?_,List.filterMap_eq_nil_iff.mpr ?_⟩
  · intro appender member
    cases appender with
    | outside => rfl
    | posting => exact absurd member posted
  · intro worker member
    cases worker with
    | processing request => exact absurd member (idle request)
    | looping | waiting | woken | ended => rfl

-- With requests in the queue, no post to come and no worker about to look, there
-- is a token, and some worker waits for it or can go to wait.
theorem worker_goes {count : Nat} {pool : ThreadPool T} (manned : Manned count pool) (some' : 0 < count)
    (going : pool.stop = false) (posted : .posting ∉ pool.appenders) (idle : ∀ request,.processing request ∉ pool.workers)
    (queue : pool.workqueue ≠ []) :
    ∃ step,serves step = true ∧ left (pool.act step).1 < left pool ∧ (pool.act step).1.stop = false := by
  by_cases woken : .woken ∈ pool.workers
  · obtain ⟨i,here⟩ := List.mem_iff_getElem?.mp woken
    refine ⟨.dequeue i,rfl,dequeue_less here queue,?_⟩
    obtain ⟨request,rest,queue⟩ := List.exists_cons_of_ne_nil queue
    simp only [ThreadPool.act,ThreadPool.dequeue,here,queue]
    exact going
  have token : 0 < pool.queuestat := by
    have covered := manned.covered
    have nobody : pool.workers.countP WorkerState.isWoken = 0 := by
      refine List.countP_eq_zero.mpr fun worker member => ?_
      cases worker with
      | woken => exact absurd member woken
      | looping | waiting | processing | ended => exact Bool.false_ne_true
    have nothing : pool.appenders.countP AppenderState.isPosting = 0 := by
      refine List.countP_eq_zero.mpr fun appender member => ?_
      cases appender with
      | posting => exact absurd member posted
      | outside => exact Bool.false_ne_true
    have length := List.length_pos_of_ne_nil queue
    simp only [TokenQueue.Covered,view,nobody,nothing] at covered
    omega
  have first : 0 < pool.workers.length := by rw [manned.workers]; exact some'
  have here := List.getElem?_eq_getElem first
  have member := List.getElem_mem first
  generalize pool.workers[0] = worker at here member
  cases worker with
  | looping =>
    refine ⟨.wait 0,rfl,wait_less here going,?_⟩
    simp only [ThreadPool.act,here]
    exact going
  | waiting =>
    refine ⟨.wake 0 true,rfl,wake_less here token,?_⟩
    simp only [ThreadPool.act,here,if_true,if_pos token]
    exact going
  | woken => exact absurd member woken
  | processing request => exact absurd member (idle request)
  | ended => exact absurd member (manned.alive going)

theorem goes_on {count : Nat} {pool : ThreadPool T} (manned : Manned count pool) (some' : 0 < count)
    (going : pool.stop = false) : Drained pool ∨
      ∃ step,serves step = true ∧ left (pool.step step).1 < left pool ∧ (pool.step step).1.stop = false := by
  simp only [ThreadPool.step_live (manned.there going)]
  by_cases posting : .posting ∈ pool.appenders
  · obtain ⟨i,here⟩ := List.mem_iff_getElem?.mp posting
    refine .inr ⟨.post i,rfl,post_less here,?_⟩
    simp only [ThreadPool.act,if_pos here]
    exact going
  by_cases busy : ∃ request,.processing request ∈ pool.workers
  · obtain ⟨request,member⟩ := busy
    obtain ⟨i,here⟩ := List.mem_iff_getElem?.mp member
    refine .inr ⟨.processed i,rfl,processed_less here,?_⟩
    simp only [ThreadPool.act,here]
    exact going
  have idle : ∀ request,.processing request ∉ pool.workers := fun request member => busy ⟨request,member⟩
  by_cases queue : pool.workqueue = []
  · exact .inl (drained_or posting idle queue)
  · exact .inr (worker_goes manned some' going posting idle queue)

theorem new_manned {threadNumber : Int} {maxRequests : UInt64} {appenders : Nat} {pool : ThreadPool T}
    (made : ThreadPool.new threadNumber maxRequests appenders = some pool) :
    Manned threadNumber.toNat pool ∧ 0 < threadNumber.toNat ∧ pool.workers.filterMap inHand = [] := by
  have empty := new_view made
  unfold ThreadPool.new at made
  split at made
  · cases made
  · rename_i positive
    cases made
    refine ⟨⟨List.length_replicate,fun _ member => ?_,fun _ => rfl,?_⟩,by omega,?_⟩
    · cases List.eq_of_mem_replicate member
    · rw [empty]
      exact Nat.le_refl 0
    · exact List.filterMap_eq_nil_iff.mpr fun worker member => by rw [List.eq_of_mem_replicate member]; rfl

theorem hand_off_order (pool : ThreadPool T) (steps : List (PoolStep T)) :
    dequeued (trace ThreadPool.step pool steps) ++ (final ThreadPool.step pool steps).workqueue =
      pool.workqueue ++ pushed (trace ThreadPool.step pool steps) := by
  obtain ⟨moves,last,answers⟩ := simulates.runs pool steps
  have order := TokenQueue.run_order (view pool) moves
  rw [←last,TokenQueue.effects,←answers,←dequeued_effects,←pushed_effects] at order
  exact order

theorem pushed_serves (pool : ThreadPool T) {steps : List (PoolStep T)} (serving : ∀ step ∈ steps,serves step = true) :
    pushed (trace ThreadPool.step pool steps) = [] := by
  induction steps generalizing pool with
  | nil => rfl
  | cons step rest ih =>
    have quiet : PoolEvent.pushes (pool.step step).2 = none := by
      have stepped := ThreadPool.step_stepped pool step
      generalize pool.step step = next at stepped
      cases stepped with
      | silent | refused | dequeued => rfl
      | pushed next appender request appends =>
        subst appends
        cases serving _ List.mem_cons_self
    rw [pushed,trace_cons,List.filterMap_cons,quiet]
    exact ih (pool.step step).1 (fun step member => serving step (List.mem_cons_of_mem _ member))

def isInside : WorkerState T → Bool
  | .waiting | .woken => true
  | .looping | .processing _ | .ended => false

theorem stopped_turn {before after : WorkerState T} {event : PoolEvent T} {handled : Option T}
    (turn : Turn true before after event handled) :
    (PoolEvent.dequeues event).toList.length+(if isInside after then 1 else 0) ≤ if isInside before then 1 else 0 := by
  cases turn with
  | stays going => cases going
  | leaves | wakes | finds | drops | takes | returns => simp [PoolEvent.dequeues,isInside]

theorem stopped_step {pool : ThreadPool T} (stopped : pool.stop = true) (step : PoolStep T) :
    (PoolEvent.dequeues (pool.step step).2).toList.length+(pool.step step).1.workers.countP isInside ≤
      pool.workers.countP isInside := by
  cases step_turned pool step with
  | nobody workers none' quiet =>
    rw [workers,quiet]
    exact Nat.le_of_eq (Nat.zero_add _)
  | worker i before after here turn workers =>
    rw [stopped] at turn
    have fewer := stopped_turn turn
    have moved := @count_moved _ isInside _ _ _ after here
    rw [workers]
    omega

theorem stopped_run {pool : ThreadPool T} (stopped : pool.stop = true) (steps : List (PoolStep T)) :
    (dequeued (trace ThreadPool.step pool steps)).length+
      (final ThreadPool.step pool steps).workers.countP isInside ≤ pool.workers.countP isInside := by
  induction steps generalizing pool with
  | nil => exact Nat.le_of_eq (Nat.zero_add _)
  | cons step rest ih =>
    have still : (pool.step step).1.stop = true := by
      cases stop : (pool.step step).1.stop with
      | true => rfl
      | false =>
        rw [(step_going stop).1] at stopped
        cases stopped
    have here := stopped_step stopped step
    have later := ih still
    rw [dequeued_cons,List.length_append,final_cons]
    omega

end Pool

-- The destructor strands what the queue holds. Wherever a run has come to with
-- m_stop raised, and whatever the threads do until the members are destroyed: each
-- worker that was past the check of m_stop takes at most one more request, the
-- next in order, and append goes on to accept requests that nobody takes. What the
-- queue holds at the end was accepted and is processed by nobody.
theorem stop_strands {T : Type} {threadNumber : Int} {maxRequests : UInt64} {appenders : Nat} {pool : ThreadPool T}
    (made : ThreadPool.new threadNumber maxRequests appenders = some pool) (past : List (PoolStep T))
    (stopped : (final ThreadPool.step pool past).stop = true) (steps : List (PoolStep T)) :
    let now := final ThreadPool.step pool past
    let last := final ThreadPool.step now steps
    let events := trace ThreadPool.step now steps
    (dequeued events).length+last.workers.countP isInside ≤ now.workers.countP isInside ∧
      dequeued events <+: now.workqueue ++ pushed events ∧
      now.workqueue.length+(pushed events).length ≤ last.workqueue.length+now.workers.countP isInside ∧
      (processed now steps ++ last.workers.filterMap inHand).Perm
        (now.workers.filterMap inHand ++ (dequeued events).reduceOption) ∧
      (processed pool (past ++ steps) ++ last.workers.filterMap inHand ++ last.workqueue.reduceOption).Perm
        (pushed (trace ThreadPool.step pool (past ++ steps))).reduceOption := by
  intro now last events
  have few : (dequeued events).length+last.workers.countP isInside ≤ now.workers.countP isInside :=
    stopped_run stopped steps
  have order : dequeued events ++ last.workqueue = now.workqueue ++ pushed events := hand_off_order now steps
  refine ⟨few,⟨_,order⟩,?_,run_balance now steps,?_⟩
  · have lengths := congrArg List.length order
    rw [List.length_append,List.length_append] at lengths
    omega
  · obtain ⟨_,_,fresh⟩ := new_manned made
    have empty : pool.workqueue = [] := congrArg TokenQueue.Desk.items (new_view made)
    have all := hand_off_order pool (past ++ steps)
    have balance := run_balance pool (past ++ steps)
    rw [empty,List.nil_append,final_append] at all
    rw [fresh,List.nil_append,final_append] at balance
    rw [←all,List.reduceOption_append]
    exact balance.append_right _

-- Two workers, one of them waiting: it takes the first of three requests, and the
-- other two are destroyed with the pool.
def stoppedRun : List (PoolStep Nat) :=
  [.wait 0,.append 0 (some 1),.post 0,.append 0 (some 2),.post 0,.stop]

def strandedRun : List (PoolStep Nat) :=
  [.append 0 (some 3),.post 0,.wake 0 true,.dequeue 0,.wait 1,.processed 0,.wait 0,.destroy,.wake 0 true]

theorem two_stranded :
    ∃ pool : ThreadPool Nat,ThreadPool.new 2 5 1 = some pool ∧
      (final ThreadPool.step pool (stoppedRun ++ strandedRun)).gone = true ∧
      (processed pool (stoppedRun ++ strandedRun) ++ [2,3]).Perm [1,2,3] := by
  have made : ThreadPool.new 2 5 1 = some (⟨5,[],0,false,false,[.looping,.looping],[.outside]⟩ : ThreadPool Nat) := rfl
  obtain ⟨_,_,_,_,whole⟩ := stop_strands made stoppedRun (by decide) strandedRun
  exact ⟨_,made,by decide,whole⟩

-- No accepted request is left lying. Wherever a run has come to while the pool is
-- not stopped, the pool's own threads get from there to an empty queue without
-- new requests and without early wake-ups, and then each request that append has
-- accepted has been taken in its turn and processed once.
theorem pool_drains {T : Type} {threadNumber : Int} {maxRequests : UInt64} {appenders : Nat} {pool : ThreadPool T}
    (made : ThreadPool.new threadNumber maxRequests appenders = some pool) (steps : List (PoolStep T))
    (going : (final ThreadPool.step pool steps).stop = false) :
    ∃ more,(∀ step ∈ more,serves step = true) ∧ Drained (final ThreadPool.step pool (steps ++ more)) ∧
      dequeued (trace ThreadPool.step pool (steps ++ more)) = pushed (trace ThreadPool.step pool steps) ∧
      (processed pool (steps ++ more)).Perm (pushed (trace ThreadPool.step pool steps)).reduceOption := by
  obtain ⟨manned,some',fresh⟩ := new_manned made
  have goes : ∀ pool : ThreadPool T,(Manned threadNumber.toNat pool ∧ pool.stop = false) → Drained pool ∨
      ∃ step,serves step = true ∧ (Manned threadNumber.toNat (pool.step step).1 ∧ (pool.step step).1.stop = false) ∧
        left (pool.step step).1 < left pool := by
    rintro pool ⟨manned,going⟩
    rcases goes_on manned some' going with drained | ⟨step,own,less,still⟩
    · exact .inl drained
    · exact .inr ⟨step,own,⟨step_manned pool step manned,still⟩,less⟩
  obtain ⟨more,own,_,drained⟩ := descends left goes ⟨final_invariant step_manned manned steps,going⟩
  rw [←final_foldl,←final_append] at drained
  have empty : pool.workqueue = [] := congrArg TokenQueue.Desk.items (new_view made)
  have order := hand_off_order pool (steps ++ more)
  have accepted : pushed (trace ThreadPool.step pool (steps ++ more)) = pushed (trace ThreadPool.step pool steps) := by
    have quiet := pushed_serves (final ThreadPool.step pool steps) own
    rw [pushed] at quiet
    rw [trace_append,pushed,List.filterMap_append,quiet,List.append_nil,pushed]
  rw [drained.queue,empty,List.append_nil,List.nil_append,accepted] at order
  have balance := run_balance pool (steps ++ more)
  rw [drained.idle,fresh,List.append_nil,List.nil_append,order] at balance
  exact ⟨more,own,drained,order,balance⟩

-- The early wake-up leaves the second request in the queue.
theorem early_wake_drains :
    ∃ pool : ThreadPool Nat,ThreadPool.new 2 1 2 = some pool ∧ ∃ more,
      Drained (final ThreadPool.step pool (earlyWake ++ more)) ∧ (processed pool (earlyWake ++ more)).Perm [7,8] := by
  have made : ThreadPool.new 2 1 2 = some (⟨1,[],0,false,false,[.looping,.looping],[.outside,.outside]⟩ : ThreadPool Nat) :=
    rfl
  obtain ⟨more,_,drained,_,once⟩ := pool_drains made earlyWake (by decide)
  exact ⟨_,made,more,drained,once⟩

end OcssdServer.PoolProgress
