import OcssdServer.ThreadPool

namespace OcssdServer.PoolHandOff
open MachineRuns

section Counts
variable {σ : Type} {p : σ → Bool} {threads : List σ} {i : Nat} {before after : σ}

theorem count_moved (here : threads[i]? = some before) : (threads.set i after).countP p+(if p before then 1 else 0) =
    threads.countP p+(if p after then 1 else 0) := by
  obtain ⟨inside,same⟩ := List.getElem?_eq_some_iff.mp here
  have counted : (if p before then 1 else 0) ≤ threads.countP p := by
    rw [←same]
    exact List.boole_getElem_le_countP inside
  rw [List.countP_set inside,same]
  omega

theorem count_entered (here : threads[i]? = some before) (outside : p before = false) (inside : p after = true) :
    (threads.set i after).countP p = threads.countP p+1 := by
  have moved := @count_moved σ p threads i before after here
  rwa [outside,inside] at moved

theorem count_left (here : threads[i]? = some before) (inside : p before = true) (outside : p after = false) :
    0 < threads.countP p ∧ (threads.set i after).countP p = threads.countP p-1 := by
  have moved := @count_moved σ p threads i before after here
  rw [outside,inside] at moved
  simp only [if_true,Bool.false_eq_true,if_false] at moved
  omega

theorem count_kept (here : threads[i]? = some before) (same : p before = p after) :
    (threads.set i after).countP p = threads.countP p := by
  have moved := @count_moved σ p threads i before after here
  rw [same] at moved
  exact Nat.add_right_cancel moved

end Counts

section Pool
variable {T : Type}

-- The pool as a queue behind a semaphore: of the threads only those count that
-- are about to dequeue or to post.
def view (pool : ThreadPool T) : TokenQueue.Desk (Option T) :=
  ⟨pool.workqueue,pool.queuestat,pool.workers.countP WorkerState.isWoken,
    pool.appenders.countP AppenderState.isPosting⟩

def actMove (pool : ThreadPool T) : PoolStep T → TokenQueue.Move (Option T)
  | .append appender request =>
    if pool.appenders[appender]? = some .outside ∧ pool.workqueue.length ≤ pool.maxRequests.toNat then .put request
    else .idle
  | .post appender => if pool.appenders[appender]? = some .posting then .post else .idle
  | .wake worker token =>
    match pool.workers[worker]? with
    | some .waiting => .wake token
    | _ => .idle
  | .dequeue worker =>
    match pool.workers[worker]? with
    | some .woken => .take
    | _ => .idle
  | .wait _ | .processed _ | .stop | .destroy => .idle

def move (pool : ThreadPool T) (step : PoolStep T) : TokenQueue.Move (Option T) :=
  if pool.gone then .idle else actMove pool step

def effect : PoolEvent T → TokenQueue.Effect (Option T)
  | .pushed request => .put request
  | .dequeued request => .taken request
  | .silent | .refused => .nothing

theorem append_simulates (pool : ThreadPool T) (appender : Nat) (request : Option T) :
    TokenQueue.step (view pool) (actMove pool (.append appender request)) =
      (view (pool.act (.append appender request)).1,effect (pool.act (.append appender request)).2) := by
  simp only [ThreadPool.act,actMove]
  by_cases outside : pool.appenders[appender]? = some .outside
  · rw [if_pos outside,ThreadPool.append]
    by_cases full : pool.maxRequests.toNat < pool.workqueue.length
    · rw [if_pos full,if_neg (fun room => Nat.not_le_of_lt full room.2)]
      rfl
    · rw [if_neg full,if_pos ⟨outside,Nat.le_of_not_lt full⟩]
      simp only [TokenQueue.step,view,effect,@count_entered _ AppenderState.isPosting _ _ _ .posting outside rfl rfl]
  · rw [if_neg outside,if_neg (fun room => outside room.1)]
    rfl

theorem post_simulates (pool : ThreadPool T) (appender : Nat) :
    TokenQueue.step (view pool) (actMove pool (.post appender)) =
      (view (pool.act (.post appender)).1,effect (pool.act (.post appender)).2) := by
  simp only [ThreadPool.act,actMove]
  by_cases posting : pool.appenders[appender]? = some .posting
  · obtain ⟨some',left⟩ := @count_left _ AppenderState.isPosting _ _ _ .outside posting rfl rfl
    rw [if_pos posting,if_pos posting]
    simp only [TokenQueue.step,view,effect,some',if_true,left]
  · rw [if_neg posting,if_neg posting]
    rfl

theorem wait_simulates (pool : ThreadPool T) (worker : Nat) :
    TokenQueue.step (view pool) (actMove pool (.wait worker)) =
      (view (pool.act (.wait worker)).1,effect (pool.act (.wait worker)).2) := by
  simp only [actMove]
  cases here : pool.workers[worker]? with
  | none => simp only [ThreadPool.act,here]; rfl
  | some state =>
    cases state with
    | looping =>
      have kept : (.looping : WorkerState T).isWoken =
          (if pool.stop then .ended else .waiting : WorkerState T).isWoken := by
        split <;> rfl
      simp only [ThreadPool.act,TokenQueue.step,view,effect,here,count_kept here kept]
    | waiting | woken | processing | ended => simp only [ThreadPool.act,here]; rfl

theorem wake_simulates (pool : ThreadPool T) (worker : Nat) (token : Bool) :
    TokenQueue.step (view pool) (actMove pool (.wake worker token)) =
      (view (pool.act (.wake worker token)).1,effect (pool.act (.wake worker token)).2) := by
  cases here : pool.workers[worker]? with
  | none => simp only [ThreadPool.act,actMove,here]; rfl
  | some state =>
    cases state with
    | waiting =>
      have entered := @count_entered _ WorkerState.isWoken _ _ _ .woken here rfl rfl
      cases token with
      | true =>
        by_cases some' : 0 < pool.queuestat
        · simp only [ThreadPool.act,actMove,TokenQueue.step,view,effect,here,some',entered,if_true]
        · simp only [ThreadPool.act,actMove,TokenQueue.step,view,effect,here,some',if_true,if_false]
      | false => simp only [ThreadPool.act,actMove,TokenQueue.step,view,effect,here,entered,Bool.false_eq_true,if_false]
    | looping | woken | processing | ended => simp only [ThreadPool.act,actMove,here]; rfl

theorem dequeue_simulates (pool : ThreadPool T) (worker : Nat) :
    TokenQueue.step (view pool) (actMove pool (.dequeue worker)) =
      (view (pool.act (.dequeue worker)).1,effect (pool.act (.dequeue worker)).2) := by
  cases here : pool.workers[worker]? with
  | none => simp only [ThreadPool.act,actMove,here]; rfl
  | some state =>
    cases state with
    | woken =>
      have left (next : WorkerState T) (busy : next.isWoken = false) := count_left here rfl busy
      have ready := (left .looping rfl).1
      simp only [ThreadPool.act,actMove,here,ThreadPool.dequeue]
      cases queue : pool.workqueue with
      | nil => simp only [TokenQueue.step,view,effect,queue,ready,if_true,(left .looping rfl).2]
      | cons request rest =>
        cases request with
        | none => simp only [TokenQueue.step,view,effect,queue,ready,if_true,(left .looping rfl).2]
        | some r => simp only [TokenQueue.step,view,effect,queue,ready,if_true,(left (.processing r) rfl).2]
    | looping | waiting | processing | ended => simp only [ThreadPool.act,actMove,here]; rfl

theorem processed_simulates (pool : ThreadPool T) (worker : Nat) :
    TokenQueue.step (view pool) (actMove pool (.processed worker)) =
      (view (pool.act (.processed worker)).1,effect (pool.act (.processed worker)).2) := by
  simp only [actMove]
  cases here : pool.workers[worker]? with
  | none => simp only [ThreadPool.act,here]; rfl
  | some state =>
    cases state with
    | processing request =>
      have kept : (.processing request : WorkerState T).isWoken = (.looping : WorkerState T).isWoken := rfl
      simp only [ThreadPool.act,TokenQueue.step,view,effect,here,count_kept here kept]
    | looping | waiting | woken | ended => simp only [ThreadPool.act,here]; rfl

theorem act_simulates (pool : ThreadPool T) (step : PoolStep T) :
    TokenQueue.step (view pool) (actMove pool step) = (view (pool.act step).1,effect (pool.act step).2) := by
  cases step with
  | append appender request => exact append_simulates pool appender request
  | post appender => exact post_simulates pool appender
  | wait worker => exact wait_simulates pool worker
  | wake worker token => exact wake_simulates pool worker token
  | dequeue worker => exact dequeue_simulates pool worker
  | processed worker => exact processed_simulates pool worker
  | stop => rfl
  | destroy =>
    simp only [ThreadPool.act]
    split
    · rfl
    · rfl

theorem pool_simulates (pool : ThreadPool T) (step : PoolStep T) :
    TokenQueue.step (view pool) (move pool step) = (view (pool.step step).1,effect (pool.step step).2) := by
  unfold ThreadPool.step move
  split
  · rfl
  · exact act_simulates pool step

theorem simulates : Simulates ThreadPool.step TokenQueue.step (view (T := T)) move effect :=
  ⟨fun pool step => (congrArg Prod.fst (pool_simulates pool step)).symm,
    fun pool step => (congrArg Prod.snd (pool_simulates pool step)).symm⟩

theorem new_view {threadNumber : Int} {maxRequests : UInt64} {appenders : Nat} {pool : ThreadPool T}
    (made : ThreadPool.new threadNumber maxRequests appenders = some pool) : view pool = ⟨[],0,0,0⟩ := by
  unfold ThreadPool.new at made
  split at made
  · cases made
  · cases made
    simp [view,List.countP_replicate,WorkerState.isWoken,AppenderState.isPosting]

def PoolEvent.pushes : PoolEvent T → Option (Option T)
  | .pushed request => some request
  | .silent | .refused | .dequeued _ => none

def PoolEvent.dequeues : PoolEvent T → Option (Option T)
  | .dequeued request => some request
  | .silent | .refused | .pushed _ => none

def pushed (events : List (PoolStep T × PoolEvent T)) : List (Option T) :=
  events.filterMap (fun e => PoolEvent.pushes e.2)

def dequeued (events : List (PoolStep T × PoolEvent T)) : List (Option T) :=
  events.filterMap (fun e => PoolEvent.dequeues e.2)

theorem pushed_effects (events : List (PoolStep T × PoolEvent T)) :
    pushed events = (events.map (fun e => effect e.2)).filterMap TokenQueue.Effect.putItem := by
  have same : (fun e : PoolStep T × PoolEvent T => PoolEvent.pushes e.2) = fun e => (effect e.2).putItem := by
    funext e
    cases e.2 <;> rfl
  rw [pushed,List.filterMap_map,same]
  rfl

theorem dequeued_effects (events : List (PoolStep T × PoolEvent T)) :
    dequeued events = (events.map (fun e => effect e.2)).filterMap TokenQueue.Effect.takenItem := by
  have same : (fun e : PoolStep T × PoolEvent T => PoolEvent.dequeues e.2) = fun e => (effect e.2).takenItem := by
    funext e
    cases e.2 <;> rfl
  rw [dequeued,List.filterMap_map,same]
  rfl

-- Whatever the threads do: requests leave the queue in the order in which they
-- came, each once, and none waits without a token, a worker that is about to look
-- or an appender that is about to post.
theorem pool_loses_nothing {threadNumber : Int} {maxRequests : UInt64} {appenders : Nat} {pool : ThreadPool T}
    (made : ThreadPool.new threadNumber maxRequests appenders = some pool) (steps : List (PoolStep T)) :
    let last := final ThreadPool.step pool steps
    let events := trace ThreadPool.step pool steps
    dequeued events ++ last.workqueue = pushed events ∧ dequeued events <+: pushed events ∧
      ((pushed events).Nodup → (dequeued events).Nodup) ∧
      (∀ step,(last.step step).2 = .refused → (last.step step).1 = last) ∧
      last.workqueue.length ≤ last.queuestat+last.workers.countP WorkerState.isWoken+
        last.appenders.countP AppenderState.isPosting := by
  intro last events
  obtain ⟨moves,left,answers⟩ := simulates.runs pool steps
  rw [new_view made] at left answers
  have order := TokenQueue.run_order (⟨[],0,0,0⟩ : TokenQueue.Desk (Option T)) moves
  rw [←left,TokenQueue.effects,←answers,←dequeued_effects,←pushed_effects] at order
  have whole : dequeued events ++ last.workqueue = pushed events := order
  have ordered : dequeued events <+: pushed events := ⟨_,whole⟩
  have covered : TokenQueue.Covered (view last) := by
    change TokenQueue.Covered (view (final ThreadPool.step pool steps))
    rw [left]
    exact @TokenQueue.run_covered _ ⟨[],0,0,0⟩ (Nat.le_refl 0) moves
  exact ⟨whole,ordered,fun apart => apart.sublist ordered.sublist,fun _ => ThreadPool.refused_idle,covered⟩

end Pool

-- Two workers, one of which wakes up without a token and takes the request before
-- its append has posted.
def earlyWake : List (PoolStep Nat) :=
  [.wait 0,.wait 1,.append 0 (some 7),.wake 1 false,.dequeue 1,.post 0,.wake 0 true,.append 1 (some 8),.dequeue 0]

theorem early_wake_ordered :
    ∃ pool : ThreadPool Nat,ThreadPool.new 2 1 2 = some pool ∧
      dequeued (trace ThreadPool.step pool earlyWake) = [some 7,some 8] ∧
      dequeued (trace ThreadPool.step pool earlyWake) <+: pushed (trace ThreadPool.step pool earlyWake) := by
  have made : ThreadPool.new 2 1 2 = some (⟨1,[],0,false,false,[.looping,.looping],[.outside,.outside]⟩ : ThreadPool Nat) :=
    rfl
  exact ⟨_,made,by decide,(pool_loses_nothing made earlyWake).2.1⟩

end OcssdServer.PoolHandOff
