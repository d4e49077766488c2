import OcssdServer.BlockCalls
import OcssdServer.ClientSeat

namespace OcssdServer.RemoteAccess
open ByteBuffers SocketFill BlockOwnership RequestFraming WouldBlock ReplyStream TenantIsolation DescriptorEvents
  LoopTenants ClientSeat BlockCalls RemoteSite MachineRuns

section Caller

-- The client and both streams as a pipe: what it is owed is on its way down or
-- still queued in the server.
def pipe (user : BlockClient) (sent : List BlockCall) (owed : List UInt8) : CallPipe.Pipe BlockCall UInt8 :=
  ⟨user.todo,sent,owed,user.taking.map (fun t => (t.1.toNat,t.2)),user.results⟩

theorem await_pipe (user : BlockClient) (count : UInt64) (got : List UInt8) (sent : List BlockCall)
    (owed : List UInt8) : pipe (user.await count got) sent owed = (pipe user sent owed).await count.toNat got := by
  unfold BlockClient.await CallPipe.Pipe.await
  split <;> rfl

-- The call that the client's next send begins, if it begins one.
def issues (user : BlockClient) : List BlockCall :=
  match user.unsent,user.taking,user.todo with
  | [],none,call :: _ => [call]
  | _,_,_ => []

theorem send_balanced (user : BlockClient) (buffer : Memory) {sent : List BlockCall} {owed lead : List UInt8}
    {answered : List (BlockCall × List UInt8)} (balanced : CallPipe.Balanced asks lead answered (pipe user sent owed)) :
    CallPipe.Balanced asks lead answered (pipe (user.send buffer).1 (sent ++ issues user) owed) := by
  obtain ⟨todo,unsent,taking,results⟩ := user
  cases unsent with
  | cons byte rest =>
    simp only [issues,List.append_nil]
    exact balanced
  | nil =>
    cases taking with
    | some open' =>
      simp only [issues,List.append_nil]
      exact balanced
    | none =>
      cases todo with
      | nil =>
        simp only [issues,List.append_nil]
        exact balanced
      | cons call rest =>
        have issued := CallPipe.issue_balanced balanced
        cases call with
        | erase blockIdx => exact issued
        | write blockIdx data fits => exact issued
        | read blockIdx count offset =>
          have awaits := await_pipe ⟨rest,[],none,results⟩ count [] (sent ++ [.read blockIdx count offset]) owed
          have same : pipe ((⟨.read blockIdx count offset :: rest,[],none,results⟩ : BlockClient).send buffer).1
              (sent ++ [.read blockIdx count offset]) owed = _ := awaits
          simp only [issues]
          rw [same]
          exact issued

theorem send_keeps (user : BlockClient) (buffer : Memory)
    (whole : ∀ call ∈ user.todo,call.payload.length ≤ largestWrite) :
    (user.send buffer).2 ++ (user.send buffer).1.unsent = user.unsent ++ wires ((issues user).map callFrame) ∧
      user.todo = issues user ++ (user.send buffer).1.todo := by
  obtain ⟨todo,unsent,taking,results⟩ := user
  cases unsent with
  | cons byte rest => exact ⟨rfl,rfl⟩
  | nil =>
    cases taking with
    | some open' => exact ⟨rfl,rfl⟩
    | none =>
      cases todo with
      | nil => exact ⟨rfl,rfl⟩
      | cons call rest =>
        have wire := wire_sent call (whole call List.mem_cons_self) buffer
        have wires' : wires ((issues ⟨call :: rest,[],none,results⟩).map callFrame) = (callFrame call).wire :=
          List.append_nil _
        rw [wires',←wire]
        cases call with
        | erase blockIdx => exact ⟨rfl,rfl⟩
        | write blockIdx data fits => exact ⟨rfl,rfl⟩
        | read blockIdx count offset =>
          simp only [BlockClient.send,BlockClient.await]
          split
          · exact ⟨rfl,rfl⟩
          · exact ⟨rfl,rfl⟩

theorem recv_pipe (user : BlockClient) (stream queue : List UInt8) (more : Nat) (sent : List BlockCall) :
    ∃ count,pipe (user.recv stream more).1 sent ((user.recv stream more).2 ++ queue) =
      (pipe user sent (stream ++ queue)).collect count := by
  obtain ⟨todo,unsent,taking,results⟩ := user
  cases taking with
  | none => exact ⟨0,rfl⟩
  | some open' =>
    obtain ⟨count,got⟩ := open'
    refine ⟨min (min (more+1) (min (count.toNat-got.length) largestRead)) stream.length,?_⟩
    simp only [BlockClient.recv]
    rw [await_pipe]
    generalize length : min (more+1) (min (count.toNat-got.length) largestRead) = len
    have part : min (min len stream.length) (count.toNat-got.length) = min len stream.length := by omega
    have taken : (stream ++ queue).take (min len stream.length) = stream.take len := by
      rw [List.take_append_of_le_length (Nat.min_le_right _ _),←List.take_eq_take_min]
    have left : (stream ++ queue).drop (min len stream.length) = stream.drop len ++ queue := by
      rw [List.drop_append_of_le_length (Nat.min_le_right _ _)]
      congr 1
      by_cases short : len ≤ stream.length
      · rw [Nat.min_eq_left short]
      · rw [Nat.min_eq_right (by omega),List.drop_length,List.drop_of_length_le (by omega)]
    simp only [pipe,CallPipe.Pipe.collect,Option.map_some,part,taken,left]

theorem recv_keeps (user : BlockClient) (stream : List UInt8) (more : Nat) :
    (user.recv stream more).1.todo = user.todo ∧ (user.recv stream more).1.unsent = user.unsent := by
  unfold BlockClient.recv
  split
  · exact ⟨rfl,rfl⟩
  · dsimp only
    unfold BlockClient.await BlockClient.finish
    split
    · exact ⟨rfl,rfl⟩
    · exact ⟨rfl,rfl⟩

end Caller

section Site
variable {World Dev Vblk Client γ κ : Type}

-- What the run so far comes to for one client: which calls the server has
-- answered and with what, which are on their way to it, and the world of a
-- program that has made the answered ones alone.
structure Account (World Dev Vblk : Type) where
  endpoint : Endpoint Dev Vblk
  answered : List (BlockCall × List UInt8)
  sent : List BlockCall
  alone : World

structure Task (World Vblk Client : Type) where
  client : Client
  blksArray : List (Option Vblk)
  start : World
  calls : List BlockCall

def Account.pipe (account : Account World Dev Vblk) (site : RemoteSite World Dev Vblk Client) :
    CallPipe.Pipe BlockCall UInt8 :=
  RemoteAccess.pipe site.user account.sent (site.down ++ (chunks account.endpoint.conn).flatten)

structure Live (lib : Lightnvm World Dev Vblk) (set : List (DevName × NvmGeo)) (span : Vblk → Set PhysBlock)
    (content : World → PhysBlock → γ) (cursor : World → Vblk → κ) (task : Task World Vblk Client) (lead : List UInt8)
    (account : Account World Dev Vblk) (site : RemoteSite World Dev Vblk Client) : Prop where
  tenants : Tenants set span site.loop
  found : site.loop.clients task.client = some account.endpoint
  boundary : AtBoundary account.endpoint.conn
  array : account.endpoint.conn.blksArray = task.blksArray
  armed : Armed account.endpoint.conn
  quiet : ∀ other e,other ≠ task.client → site.loop.clients other = some e → e.fd = account.endpoint.fd →
    e.conn.evWrite = false
  order : account.answered.map Prod.fst ++ (account.sent ++ site.user.todo) = task.calls
  up : site.up ++ site.user.unsent = wires (account.sent.map callFrame)
  balanced : CallPipe.Balanced asks lead account.answered (account.pipe site)
  made : Alone lib task.blksArray task.start account.answered account.alone
  alike : AllAlike span content cursor task.blksArray account.alone site.loop.world

-- The calls are on blocks of the array, a write fits one send, and every block
-- of the array stands on something.
structure Feasible (span : Vblk → Set PhysBlock) (task : Task World Vblk Client) : Prop where
  inside : ∀ call ∈ task.calls,call.blockIdx.toNat < task.blksArray.length
  whole : ∀ call ∈ task.calls,call.payload.length ≤ largestWrite
  built : ∀ v,some v ∈ task.blksArray → (span v).Nonempty

variable {lib : Lightnvm World Dev Vblk} {set : List (DevName × NvmGeo)} {nameOf : Dev → DevName}
  {span : Vblk → Set PhysBlock} {content : World → PhysBlock → γ} {cursor : World → Vblk → κ}
  {task : Task World Vblk Client} {lead : List UInt8} {account : Account World Dev Vblk}
  {site : RemoteSite World Dev Vblk Client}

theorem Live.seat (live : Live lib set span content cursor task lead account site) :
    Seat set span task.client site.loop account.endpoint :=
  ⟨live.tenants,live.found,live.boundary,live.armed,live.quiet⟩

theorem Live.owner (live : Live lib set span content cursor task lead account site) :
    site.loop.owner account.endpoint.fd = some task.client := live.seat.owner

theorem send_live (feasible : Feasible span task) (live : Live lib set span content cursor task lead account site)
    (buffer : Memory) : ∃ account',Live lib set span content cursor task lead account'
      {site with user := (site.user.send buffer).1,up := site.up ++ (site.user.send buffer).2} := by
  have whole : ∀ call ∈ site.user.todo,call.payload.length ≤ largestWrite := by
    intro call member
    apply feasible.whole
    rw [←live.order]
    exact List.mem_append_right _ (List.mem_append_right _ member)
  obtain ⟨wire,todo⟩ := send_keeps site.user buffer whole
  refine ⟨{account with sent := account.sent ++ issues site.user},live.tenants,live.found,live.boundary,live.array,
    live.armed,live.quiet,?_,?_,send_balanced site.user buffer live.balanced,live.made,live.alike⟩
  · rw [←live.order,todo]
    simp only [List.append_assoc]
  · rw [List.append_assoc,wire,←List.append_assoc,live.up,List.map_append,wires,wires,wires,List.flatMap_append]

theorem recv_live (live : Live lib set span content cursor task lead account site) (more : Nat) :
    Live lib set span content cursor task lead account
      {site with user := (site.user.recv site.down more).1,down := (site.user.recv site.down more).2} := by
  obtain ⟨count,collected⟩ := recv_pipe site.user site.down (chunks account.endpoint.conn).flatten more account.sent
  obtain ⟨todo,unsent⟩ := recv_keeps site.user site.down more
  refine ⟨live.tenants,live.found,live.boundary,live.array,live.armed,live.quiet,?_,?_,?_,live.made,live.alike⟩
  · rw [todo]
    exact live.order
  · rw [unsent]
    exact live.up
  · change CallPipe.Balanced asks lead account.answered (pipe _ _ _)
    rw [collected]
    exact CallPipe.collect_balanced live.balanced count

section First
variable {call : BlockCall} {rest : List BlockCall}

theorem Live.first (live : Live lib set span content cursor task lead account site) (some' : site.up ≠ []) :
    ∃ call rest,account.sent = call :: rest := by
  cases sent : account.sent with
  | nil =>
    have wire := live.up
    rw [sent] at wire
    exact absurd (List.append_eq_nil_iff.mp wire).1 some'
  | cons call rest => exact ⟨call,rest,rfl⟩

theorem Live.drained (live : Live lib set span content cursor task lead account site) (up : site.up = [])
    (unsent : site.user.unsent = []) : account.sent = [] := by
  have wire := live.up
  rw [up,unsent] at wire
  cases sent : account.sent with
  | nil => rfl
  | cons call rest =>
    have size := congrArg List.length wire
    have header := (callFrame call).size
    have some' : messageBufferSize = 24 := rfl
    simp only [sent,List.map_cons,wires,List.flatMap_cons,List.length_append,Frame.wire,List.length_nil] at size
    omega

theorem Live.inside (live : Live lib set span content cursor task lead account site) (feasible : Feasible span task)
    (sent : account.sent = call :: rest) : call.blockIdx.toNat < account.endpoint.conn.blksArray.length := by
  rw [live.array]
  refine feasible.inside call ?_
  rw [←live.order,sent]
  simp

theorem Live.call_first (live : Live lib set span content cursor task lead account site) (feasible : Feasible span task)
    (sent : account.sent = call :: rest) {cuts : List Nat} (come : offered (pieces cuts) ≤ site.up.length) :
    FirstCall lib account.endpoint.conn ⟨site.loop.manager,site.loop.world,[]⟩ (callFrame call) site.user.unsent
      (wires (rest.map callFrame)) ⟨site.up,pieces cuts⟩ .eagain := by
  refine first_call live.boundary (frame_inside (live.inside feasible sent)) _ ?_ (pieces_bytes cuts) come .eagain
  rw [live.up,sent]
  rfl

end First

section Server
variable [DecidableEq Client]

-- A read that would block inside a request: what has come of it is used up.
def starves (lib : Lightnvm World Dev Vblk) (client : Client) (site : RemoteSite World Dev Vblk Client) :
    SiteMove Client → Prop
  | .serve cuts => ∃ endpoint socket,site.fires client cuts = some (endpoint,socket) ∧
      (processIncomingRequests lib endpoint.conn ⟨site.loop.manager,site.loop.world,[]⟩
        ⟨site.up,pieces cuts⟩).ending = .waiting
  | .send _ | .recv _ | .hangup | .reply _ | .other _ => False

-- What a move comes to for a client that is being served: its connection is lost
-- by such a read and in no other way.
inductive Next (lib : Lightnvm World Dev Vblk) (set : List (DevName × NvmGeo)) (span : Vblk → Set PhysBlock)
    (content : World → PhysBlock → γ) (cursor : World → Vblk → κ) (task : Task World Vblk Client) (lead : List UInt8)
    (site : RemoteSite World Dev Vblk Client) (move : SiteMove Client) : Prop where
  | lives (fed : ¬ starves lib task.client site move) (account : Account World Dev Vblk)
      (live : Live lib set span content cursor task lead account (site.step lib task.client move))
  | starves (dry : starves lib task.client site move) (gone : Gone (site.step lib task.client move).loop task.client)

theorem answered_live (rules : DeviceRules lib set nameOf span content) (store : StoreRules lib span content cursor)
    (fit : DevicesFit set) (fields : ∀ d ∈ set,FieldsHold lib d.2) (feasible : Feasible span task)
    (live : Live lib set span content cursor task lead account site) (going : site.loop.ended = false)
    (event : account.endpoint.conn.evRead = true) {call : BlockCall} {rest : List BlockCall}
    (sent : account.sent = call :: rest) {socket : Socket Errno} {left : List UInt8} {plan : List (ReadEvent Errno)}
    (missing : left ++ site.user.unsent = wires (rest.map callFrame))
    (same : processIncomingRequests lib account.endpoint.conn ⟨site.loop.manager,site.loop.world,[]⟩ socket =
      ⟨serveFrame lib account.endpoint.conn ⟨site.loop.manager,site.loop.world,[]⟩ (callFrame call),⟨left,plan⟩⟩)
    (running : (site.loop.serve lib (.readable task.client socket)).1.ended = false) :
    ∃ account',Live lib set span content cursor task lead account'
      {site.callsBack lib task.client (.readable task.client socket) with up := left} := by
  have inside := live.inside feasible sent
  have served := call_served lib live.boundary.held inside
    (⟨site.loop.manager,site.loop.world,[]⟩ : Session World Vblk)
  have boundary := (serveFrame_boundary lib live.boundary (frame_inside inside)
    (⟨site.loop.manager,site.loop.world,[]⟩ : Session World Vblk)).1
  obtain ⟨reply,made,queued⟩ := served.makes
  rw [live.array] at made
  obtain ⟨alone,made',alike⟩ := makes_alike rules store live.alike made
  have tenants := serve_tenants rules fit fields (fun _ => live.tenants) _ running
  have step := live.seat.reads lib going event socket
  rw [step] at tenants
  unfold callsBack
  rw [step]
  unfold EventLoop.onRead at tenants ⊢
  rw [same] at tenants ⊢
  refine ⟨⟨_,account.answered ++ [(call,reply)],rest,alone⟩,tenants,Function.update_self _ _ _,boundary,
    served.array.trans live.array,served.armed live.armed,?_,?_,missing,?_,
    alone_append live.made ⟨alone,made',rfl⟩,alike⟩
  · intro other e different found
    exact live.quiet other e different ((Function.update_of_ne different _ _).symm.trans found)
  · rw [←live.order,sent]
    simp
  · have answered := CallPipe.answer_balanced live.balanced (show (account.pipe site).sent = call :: rest from sent)
      (makes_sized made)
    simp only [CallPipe.Pipe.answer,Account.pipe,pipe,sent,List.tail_cons,List.append_assoc] at answered
    simp only [Account.pipe,pipe,received,queued,List.append_nil]
    exact answered

variable (rules : DeviceRules lib set nameOf span content)
  (store : StoreRules lib span content cursor) (fit : DevicesFit set) (fields : ∀ d ∈ set,FieldsHold lib d.2)
  (feasible : Feasible span task)
include rules store fit fields feasible

theorem serve_next (live : Live lib set span content cursor task lead account site) (cuts : List Nat)
    (running : (site.reads lib task.client cuts).loop.ended = false) :
    Next lib set span content cursor task lead site (.serve cuts) := by
  have step : site.step lib task.client (.serve cuts) = site.reads lib task.client cuts := rfl
  unfold RemoteSite.reads at running step
  cases fires : site.fires task.client cuts with
  | none =>
    rw [fires] at step
    refine .lives ?_ account (step ▸ live)
    intro dry
    obtain ⟨endpoint,socket,fires',_⟩ := dry
    cases fires.symm.trans fires'
  | some pair =>
    obtain ⟨endpoint,socket⟩ := pair
    rw [fires] at running step
    obtain ⟨guard,rfl⟩ := fires_some.mp fires
    cases guard.found.symm.trans live.found
    obtain ⟨call,rest,sent⟩ := live.first guard.some_up
    cases live.call_first feasible sent guard.come with
    | answers back left plan missing same =>
      obtain ⟨account',live'⟩ := answered_live rules store fit fields feasible live guard.going guard.event sent missing
        same running
      refine .lives ?_ account' ?_
      · intro dry
        obtain ⟨endpoint,socket,fires',waits⟩ := dry
        cases fires.symm.trans fires'
        exact back waits
      · rw [step]
        dsimp only
        unfold WouldBlock.extend at same
        rw [same]
        exact live'
    | starves waits _ gone =>
      refine .starves ⟨_,_,fires,waits⟩ ?_
      rw [step]
      exact live.seat.lost guard.going guard.event gone

omit store feasible in
theorem reply_live (live : Live lib set span content cursor task lead account site) (event : WriteEvent)
    (running : (site.callsBack lib task.client (.writable task.client event)).loop.ended = false) :
    ∃ account',Live lib set span content cursor task lead account'
      (site.callsBack lib task.client (.writable task.client event)) := by
  obtain ⟨conn,seat,array,bytes,_,world⟩ := reply_seat rules fit fields live.seat event running
  refine ⟨{account with endpoint := {account.endpoint with conn := conn}},seat.tenants,seat.found,seat.boundary,
    array.trans live.array,seat.armed,seat.quiet,live.order,live.up,?_,live.made,?_⟩
  · have balanced := live.balanced
    unfold Account.pipe at balanced ⊢
    rw [←bytes,←List.append_assoc] at balanced
    exact balanced
  · unfold callsBack
    rw [world]
    exact live.alike

theorem other_world (live : Live lib set span content cursor task lead account site) {event : LoopEvent Client}
    (foreign : event.client ≠ task.client) :
    AllAlike span content cursor task.blksArray site.loop.world (site.loop.serve lib event).1.world := by
  have step := serve_step lib site.loop event
  generalize site.loop.serve lib event = next at step ⊢
  cases step with
  | rests _ => exact fun v _ => Alike.refl v _
  | accepts other fd messageBuf =>
    have still : (site.loop.onAccept other fd messageBuf).world = site.loop.world := by
      unfold EventLoop.onAccept
      split <;> rfl
    rw [still]
    exact fun v _ => Alike.refl v _
  | reads other socket e _ found fires =>
    have spans := live.tenants.apart task.client other account.endpoint e (Ne.symm foreign) live.found found
    have mine := live.tenants.inside task.client account.endpoint live.found
    rw [live.array] at spans mine
    exact foreign_call rules store fit fields live.tenants.holds (live.tenants.held other e found) mine feasible.built
      spans site.loop.world socket
  | writes other event e _ found fires => exact fun v _ => Alike.refl v _

theorem other_live (live : Live lib set span content cursor task lead account site) {event : LoopEvent Client}
    (foreign : event.client ≠ task.client) (running : (site.callsBack lib task.client event).loop.ended = false) :
    ∃ account',Live lib set span content cursor task lead account' (site.callsBack lib task.client event) := by
  obtain ⟨seat,nothing⟩ := other_seat rules fit fields live.seat foreign running
  have untouched := other_world rules store fit fields feasible live foreign
  simp only [callsBack,nothing,List.append_nil]
  exact ⟨account,seat.tenants,seat.found,seat.boundary,live.array,seat.armed,seat.quiet,live.order,live.up,
    live.balanced,live.made,fun v member => (live.alike v member).trans (untouched v member)⟩

theorem step_next (live : Live lib set span content cursor task lead account site) (move : SiteMove Client)
    (running : (site.step lib task.client move).loop.ended = false) :
    Next lib set span content cursor task lead site move := by
  cases move with
  | send buffer =>
    obtain ⟨account',live'⟩ := send_live feasible live buffer
    exact .lives id account' live'
  | recv more =>
    refine .lives id account ?_
    simp only [RemoteSite.step]
    split
    · exact live
    · exact recv_live live more
  | hangup =>
    refine .lives id account ?_
    simp only [RemoteSite.step,live.found,live.boundary.closed,Bool.false_eq_true,false_and,if_false]
    exact live
  | serve cuts => exact serve_next rules store fit fields feasible live cuts running
  | reply event =>
    obtain ⟨account',live'⟩ := reply_live rules fit fields live event running
    exact .lives id account' live'
  | other event =>
    by_cases foreign : event.client = task.client
    · refine .lives id account ?_
      simp only [RemoteSite.step,if_pos foreign]
      exact live
    · simp only [RemoteSite.step,if_neg foreign] at running
      obtain ⟨account',live'⟩ := other_live rules store fit fields feasible live foreign running
      refine .lives id account' ?_
      simp only [RemoteSite.step,if_neg foreign]
      exact live'

end Server

end Site

-- Devices that store what was written to a block since its last erase. A virtual
-- block is its device with its addresses and is read from the first of them.
def change (v : Option (DevName × List NvmAddr)) (f : List UInt8 → List UInt8) (w : PhysBlock → List UInt8) :
    PhysBlock → List UInt8 :=
  match v with
  | none => w
  | some v => fun b => if covers v b then f (w b) else w b

end OcssdServer.RemoteAccess
