import OcssdServer.TokenQueue

namespace OcssdServer
open MachineRuns

-- Where a worker stands in run: at the head of its loop, in the semaphore's
-- wait, between that and its locked section, or in process.
inductive WorkerState (T : Type) where
  | looping
  | waiting
  | woken
  | processing (request : T)
  | ended
deriving DecidableEq, Repr

inductive AppenderState where
  | outside
  | posting
deriving DecidableEq, Repr

def WorkerState.isWoken {T : Type} : WorkerState T → Bool
  | .woken => true
  | _ => false

def AppenderState.isPosting : AppenderState → Bool
  | .posting => true
  | .outside => false

-- A shared_ptr in the queue may be null. The semaphore is an ideal one, which
-- every post raises. `gone`: queue, lock and semaphore are destroyed.
structure ThreadPool (T : Type) where
  maxRequests : UInt64
  workqueue : List (Option T)
  queuestat : Nat
  stop : Bool
  gone : Bool
  workers : List (WorkerState T)
  appenders : List AppenderState
deriving DecidableEq, Repr

-- A locked section, a post, the way into a wait and out of it, with a token or
-- without, the end of process; the body of the destructor, and the end of the members.
inductive PoolStep (T : Type) where
  | append (appender : Nat) (request : Option T)
  | post (appender : Nat)
  | wait (worker : Nat)
  | wake (worker : Nat) (token : Bool)
  | dequeue (worker : Nat)
  | processed (worker : Nat)
  | stop
  | destroy
deriving DecidableEq, Repr

inductive PoolEvent (T : Type) where
  | silent
  | pushed (request : Option T)
  | refused
  | dequeued (request : Option T)
deriving DecidableEq, Repr

namespace ThreadPool
variable {T : Type}

-- The threads start at the head of their loops.
def new (threadNumber : Int) (maxRequests : UInt64) (appenders : Nat) : Option (ThreadPool T) :=
  if threadNumber ≤ 0 ∨ maxRequests ≤ 0 then none
  else some ⟨maxRequests,[],0,false,false,List.replicate threadNumber.toNat .looping,List.replicate appenders .outside⟩

def append (pool : ThreadPool T) (appender : Nat) (request : Option T) : ThreadPool T × PoolEvent T :=
  if pool.maxRequests.toNat < pool.workqueue.length then (pool,.refused)
  else ({pool with
    workqueue := pool.workqueue ++ [request]
    appenders := pool.appenders.set appender .posting},.pushed request)

-- A null request is dropped.
def dequeue (pool : ThreadPool T) (worker : Nat) : ThreadPool T × PoolEvent T :=
  match pool.workqueue with
  | [] => ({pool with workers := pool.workers.set worker .looping},.silent)
  | request :: rest =>
    let next := match request with
      | none => .looping
      | some r => .processing r
    ({pool with workqueue := rest,workers := pool.workers.set worker next},.dequeued request)

-- A thread that stands elsewhere does not take the step.
def act (pool : ThreadPool T) : PoolStep T → ThreadPool T × PoolEvent T
  | .append appender request =>
    if pool.appenders[appender]? = some .outside then pool.append appender request else (pool,.silent)
  | .post appender =>
    if pool.appenders[appender]? = some .posting then
      ({pool with queuestat := pool.queuestat+1,appenders := pool.appenders.set appender .outside},.silent)
    else (pool,.silent)
  | .wait worker =>
    match pool.workers[worker]? with
    | some .looping =>
      ({pool with workers := pool.workers.set worker (if pool.stop then .ended else .waiting)},.silent)
    | _ => (pool,.silent)
  | .wake worker token =>
    match pool.workers[worker]? with
    | some .waiting =>
      if token then
        if 0 < pool.queuestat then
          ({pool with queuestat := pool.queuestat-1,workers := pool.workers.set worker .woken},.silent)
        else (pool,.silent)
      else ({pool with workers := pool.workers.set worker .woken},.silent)
    | _ => (pool,.silent)
  | .dequeue worker =>
    match pool.workers[worker]? with
    | some .woken => pool.dequeue worker
    | _ => (pool,.silent)
  | .processed worker =>
    match pool.workers[worker]? with
    | some (.processing _) => ({pool with workers := pool.workers.set worker .looping},.silent)
    | _ => (pool,.silent)
  | .stop => ({pool with stop := true},.silent)
  | .destroy => if pool.stop then ({pool with gone := true},.silent) else (pool,.silent)

-- The threads are detached and may outlive the pool. What they then do to it has
-- no defined meaning, and the state stays at what the pool was destroyed with.
def step (pool : ThreadPool T) (step : PoolStep T) : ThreadPool T × PoolEvent T :=
  if pool.gone then (pool,.silent) else pool.act step

theorem step_live {pool : ThreadPool T} (live : pool.gone = false) (step : PoolStep T) :
    pool.step step = pool.act step := by
  simp [ThreadPool.step,live]

theorem step_gone {pool : ThreadPool T} (gone : pool.gone = true) (step : PoolStep T) :
    pool.step step = (pool,.silent) := by
  simp [ThreadPool.step,gone]

inductive Stepped (pool : ThreadPool T) (step : PoolStep T) : ThreadPool T × PoolEvent T → Prop where
  | silent (next : ThreadPool T) (queue : next.workqueue = pool.workqueue)
      (limit : next.maxRequests = pool.maxRequests) : Stepped pool step (next,.silent)
  | refused (full : pool.maxRequests.toNat < pool.workqueue.length) : Stepped pool step (pool,.refused)
  | pushed (next : ThreadPool T) (appender : Nat) (request : Option T) (appends : step = .append appender request)
      (outside : pool.appenders[appender]? = some .outside) (room : pool.workqueue.length ≤ pool.maxRequests.toNat)
      (queue : next.workqueue = pool.workqueue ++ [request]) (limit : next.maxRequests = pool.maxRequests) :
      Stepped pool step (next,.pushed request)
  | dequeued (next : ThreadPool T) (request : Option T) (queue : pool.workqueue = request :: next.workqueue)
      (limit : next.maxRequests = pool.maxRequests) : Stepped pool step (next,.dequeued request)

theorem dequeue_stepped (pool : ThreadPool T) (step : PoolStep T) (worker : Nat) :
    Stepped pool step (pool.dequeue worker) := by
  unfold dequeue
  split
  · exact .silent _ rfl rfl
  · rename_i request rest queue
    exact .dequeued _ request queue rfl

theorem act_stepped (pool : ThreadPool T) (step : PoolStep T) : Stepped pool step (pool.act step) := by
  have idle : Stepped pool step (pool,.silent) := .silent pool rfl rfl
  cases step with
  | append appender request =>
    simp only [ThreadPool.act,ThreadPool.append]
    split
    · rename_i outside
      split
      · rename_i full
        exact .refused full
      · rename_i room
        exact .pushed _ appender request rfl outside (Nat.le_of_not_lt room) rfl rfl
    · exact idle
  | post appender =>
    simp only [ThreadPool.act]
    split
    · exact .silent _ rfl rfl
    · exact idle
  | wait worker | processed worker =>
    simp only [ThreadPool.act]
    split
    · exact .silent _ rfl rfl
    · exact idle
  | wake worker token =>
    simp only [ThreadPool.act]
    split
    · split
      · split
        · exact .silent _ rfl rfl
        · exact idle
      · exact .silent _ rfl rfl
    · exact idle
  | dequeue worker =>
    simp only [ThreadPool.act]
    split
    · exact dequeue_stepped pool _ worker
    · exact idle
  | stop => exact .silent _ rfl rfl
  | destroy =>
    simp only [ThreadPool.act]
    split
    · exact .silent _ rfl rfl
    · exact idle

theorem step_stepped (pool : ThreadPool T) (step : PoolStep T) : Stepped pool step (pool.step step) := by
  unfold ThreadPool.step
  split
  · exact .silent pool rfl rfl
  · exact act_stepped pool step

theorem limit_kept (pool : ThreadPool T) (step : PoolStep T) : (pool.step step).1.maxRequests = pool.maxRequests := by
  have stepped := step_stepped pool step
  generalize pool.step step = r at stepped
  cases stepped with
  | refused full => rfl
  | silent next queue limit => exact limit
  | pushed next appender request appends outside room queue limit => exact limit
  | dequeued next request queue limit => exact limit

theorem refused_idle {pool : ThreadPool T} {step : PoolStep T} (refused : (pool.step step).2 = .refused) :
    (pool.step step).1 = pool := by
  have stepped := step_stepped pool step
  generalize pool.step step = r at stepped refused
  cases stepped with
  | refused full => rfl
  | silent | pushed | dequeued => cases refused

end ThreadPool
end OcssdServer
