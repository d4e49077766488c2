import OcssdServer.EventLoop
import OcssdServer.RequestOutcomes

namespace OcssdServer.DescriptorEvents
open ByteBuffers SocketFill ServeLoop RequestOutcomes MachineRuns

section Calls
variable {World Dev Vblk : Type} (lib : Lightnvm World Dev Vblk)

-- The two read loops that close the descriptor: at the end of the stream or on
-- an error, inside a message or inside the payload of a write.
def PayloadLost (conn : OcssdConn Dev Vblk) (session : Session World Vblk) (socket : Socket Errno)
    (message : List UInt8) : Prop :=
  getHeader message = writeBlockMagic ∧ ∃ io blk,OcssdIoRequest.ofMessage message = some io ∧
    conn.blksArray[io.blockIndex.toNat]? = some (some blk) ∧
    let payload := fill largestRead io.count.toNat socket.plan socket.stream (lib.malloc io.count session.world) 0
    payload.ending = .eof ∨ payload.ending = .failed

def HangsUp (conn : OcssdConn Dev Vblk) (session : Session World Vblk) (socket : Socket Errno) : Prop :=
  let header := fill largestRead messageBufferSize socket.plan socket.stream conn.messageBuf conn.messageEnd
  conn.state = .receivingCommand ∧ (header.ending = .eof ∨ header.ending = .failed ∨ header.ending = .full ∧
    PayloadLost lib conn session header.socket (load header.memory 0 messageBufferSize))

variable {lib}

-- A call that hangs up leaves the queue and the write event as they are.
structure Hung (before after : OcssdConn Dev Vblk) : Prop where
  writeq : after.writeq = before.writeq
  evRead : after.evRead = false
  evWrite : after.evWrite = before.evWrite
  closed : after.closed = true

def Runs (before after : OcssdConn Dev Vblk) : Prop := Output before after ∧ after.closed = before.closed

theorem Hung.unfilled {conn after : OcssdConn Dev Vblk} {memory : Memory} {messageEnd : Nat}
    (hung : Hung {conn with messageBuf := memory,messageEnd := messageEnd} after) : Hung conn after :=
  ⟨hung.writeq,hung.evRead,hung.evWrite,hung.closed⟩

theorem Runs.unfilled {conn after : OcssdConn Dev Vblk} {memory : Memory} {messageEnd : Nat}
    (runs : Runs {conn with messageBuf := memory,messageEnd := messageEnd} after) : Runs conn after := by
  refine ⟨?_,runs.2⟩
  cases runs.1 with
  | keeps same => exact .keeps ⟨same.writeq,same.evRead,same.evWrite⟩
  | queues bufferq queued evRead evWrite => exact .queues bufferq queued evRead evWrite

theorem payloadLost_iff {conn : OcssdConn Dev Vblk} {session : Session World Vblk} {socket : Socket Errno}
    {message : List UInt8} {io : OcssdIoRequest} (write : getHeader message = writeBlockMagic)
    (decoded : OcssdIoRequest.ofMessage message = some io) :
    PayloadLost lib conn session socket message ↔
      ∃ blk,conn.blksArray[io.blockIndex.toNat]? = some (some blk) ∧
        ((fill largestRead io.count.toNat socket.plan socket.stream (lib.malloc io.count session.world) 0).ending =
          .eof ∨
        (fill largestRead io.count.toNat socket.plan socket.stream (lib.malloc io.count session.world) 0).ending =
          .failed) := by
  constructor
  · rintro ⟨_,other,blk,given,found,ended⟩
    rw [decoded] at given
    cases given
    exact ⟨blk,found,ended⟩
  · rintro ⟨blk,found,ended⟩
    exact ⟨write,io,blk,decoded,found,ended⟩

theorem write_ends (conn : OcssdConn Dev Vblk) (session : Session World Vblk) (socket : Socket Errno)
    {message : List UInt8} (write : getHeader message = writeBlockMagic) :
    let r := processWriteRequest lib conn session socket message
    (PayloadLost lib conn session socket message ∧ Hung conn r.conn) ∨
      (¬ PayloadLost lib conn session socket message ∧ Runs conn r.conn) := by
  have runs : Runs conn conn := ⟨.keeps ⟨rfl,rfl,rfl⟩,rfl⟩
  unfold processWriteRequest
  cases decoded : OcssdIoRequest.ofMessage message with
  | none =>
    refine .inr ⟨?_,runs⟩
    rintro ⟨_,io,_,given,_⟩
    rw [decoded] at given
    cases given
  | some io =>
    dsimp only
    rw [payloadLost_iff write decoded]
    cases found : conn.blksArray[io.blockIndex.toNat]? with
    | none => exact .inr ⟨(by rintro ⟨_,given,_⟩; cases given),runs⟩
    | some pointer =>
      cases pointer with
      | none => exact .inr ⟨(by rintro ⟨_,given,_⟩; cases given),runs⟩
      | some blk =>
        generalize fill largestRead io.count.toNat socket.plan socket.stream (lib.malloc io.count session.world) 0 = r
        dsimp only
        unfold finishWrite
        cases ended : r.ending with
        | waiting => exact .inr ⟨(by rintro ⟨_,_,eof | failed⟩ <;> contradiction),runs⟩
        | eof => exact .inl ⟨⟨blk,rfl,.inl rfl⟩,rfl,rfl,rfl,rfl⟩
        | failed => exact .inl ⟨⟨blk,rfl,.inr rfl⟩,rfl,rfl,rfl,rfl⟩
        | full => exact .inr ⟨(by rintro ⟨_,_,eof | failed⟩ <;> contradiction),runs⟩

variable (lib) in
theorem dispatch_ends (conn : OcssdConn Dev Vblk) (session : Session World Vblk) (socket : Socket Errno)
    (message : List UInt8) :
    let r := dispatch lib conn session socket message
    (PayloadLost lib conn session socket message ∧ Hung conn r.conn) ∨
      (¬ PayloadLost lib conn session socket message ∧ Runs conn r.conn) := by
  have other : getHeader message ≠ writeBlockMagic → ¬ PayloadLost lib conn session socket message :=
    fun different lost => different lost.1
  unfold dispatch
  dsimp only
  split
  · rename_i alloc
    exact .inr ⟨other (by rw [alloc]; decide),alloc_output lib conn _ message,
      (alloc_carried lib conn _ message).1.closed⟩
  · split
    · rename_i read
      exact .inr ⟨other (by rw [read]; decide),read_output lib conn _ message,
        (read_carried lib conn _ message).1.closed⟩
    · split
      · rename_i write
        exact write_ends conn (session.log (.dispatched message)) socket write
      · rename_i write
        split
        · exact .inr ⟨other write,erase_output lib conn _ message,(erase_carried lib conn _ message).1.closed⟩
        · exact .inr ⟨other write,.keeps ⟨rfl,rfl,rfl⟩,rfl⟩

theorem call_ends (conn : OcssdConn Dev Vblk) (session : Session World Vblk) (socket : Socket Errno) :
    let r := processIncomingRequests lib conn session socket
    (HangsUp lib conn session socket ∧ Hung conn r.conn) ∨
      (¬ HangsUp lib conn session socket ∧ Runs conn r.conn) := by
  unfold processIncomingRequests HangsUp
  by_cases receiving : conn.state = .receivingCommand
  swap
  · rw [if_neg receiving]
    exact .inr ⟨fun hangs => receiving hangs.1,.keeps ⟨rfl,rfl,rfl⟩,rfl⟩
  rw [if_pos receiving]
  unfold processCommand
  generalize fill largestRead messageBufferSize socket.plan socket.stream conn.messageBuf conn.messageEnd = r
  unfold finishMessage
  dsimp only
  cases ended : r.ending with
  | waiting => exact .inr ⟨(by rintro ⟨_,eof | failed | ⟨full,_⟩⟩ <;> contradiction),.keeps ⟨rfl,rfl,rfl⟩,rfl⟩
  | eof => exact .inl ⟨⟨receiving,.inl rfl⟩,rfl,rfl,rfl,rfl⟩
  | failed => exact .inl ⟨⟨receiving,.inr (.inl rfl)⟩,rfl,rfl,rfl,rfl⟩
  | full =>
    rcases dispatch_ends lib {conn with messageBuf := r.memory,messageEnd := 0} session r.socket
      (load r.memory 0 messageBufferSize) with ⟨lost,hung⟩ | ⟨kept,runs⟩
    · exact .inl ⟨⟨receiving,.inr (.inr ⟨rfl,lost⟩)⟩,hung.unfilled⟩
    · refine .inr ⟨?_,runs.unfilled⟩
      rintro ⟨_,eof | failed | ⟨_,lost⟩⟩
      · cases eof
      · cases failed
      · exact kept lost

end Calls

section Loop
variable {World Dev Vblk Client : Type} [DecidableEq Client]

-- No event of a connection outlives its descriptor.
def Detached (loop : EventLoop World Dev Vblk Client) : Prop :=
  ∀ client endpoint,loop.clients client = some endpoint → endpoint.conn.closed = true →
    endpoint.conn.evRead = false ∧ endpoint.conn.evWrite = false

-- A step that leaves every closed connection detached and writes the bytes of a
-- client to that client only.
def Contained (lib : Lightnvm World Dev Vblk) (loop : EventLoop World Dev Vblk Client) (event : LoopEvent Client) :
    Prop :=
  Detached (loop.serve lib event).1 ∧
    ∀ delivery,(loop.serve lib event).2 = some delivery → delivery.receiver = some delivery.sender

def HangsUpIdle (lib : Lightnvm World Dev Vblk) (loop : EventLoop World Dev Vblk Client) : LoopEvent Client → Prop
  | .readable client socket => loop.ended = false → ∀ endpoint,loop.clients client = some endpoint →
      endpoint.conn.evRead = true → HangsUp lib endpoint.conn ⟨loop.manager,loop.world,[]⟩ socket →
      endpoint.conn.writeq = []
  | .acceptable _ _ _ => True
  | .writable _ _ => True

structure Consistent (loop : EventLoop World Dev Vblk Client) : Prop where
  detached : Detached loop
  owned : ∀ client endpoint,loop.clients client = some endpoint → endpoint.conn.closed = false →
    loop.owner endpoint.fd = some client
  armed : loop.ended = false → ∀ client endpoint,loop.clients client = some endpoint →
    endpoint.conn.closed = false → (endpoint.conn.evWrite = true ↔ endpoint.conn.writeq ≠ [])

omit [DecidableEq Client] in
theorem start_consistent (set : List (DevName × NvmGeo)) (world : World) :
    Consistent (EventLoop.start set world : EventLoop World Dev Vblk Client) := by
  have nobody : ∀ client endpoint,
      (EventLoop.start set world : EventLoop World Dev Vblk Client).clients client ≠ some endpoint :=
    fun _ _ => (Option.some_ne_none _).symm
  refine ⟨?_,?_,?_⟩
  · exact fun client endpoint found => absurd found (nobody client endpoint)
  · exact fun client endpoint found => absurd found (nobody client endpoint)
  · exact fun _ client endpoint found => absurd found (nobody client endpoint)

omit [DecidableEq Client] in
theorem Consistent.open_of_event {loop : EventLoop World Dev Vblk Client} (consistent : Consistent loop)
    {client : Client} {endpoint : Endpoint Dev Vblk} (found : loop.clients client = some endpoint)
    (event : endpoint.conn.evRead = true ∨ endpoint.conn.evWrite = true) : endpoint.conn.closed = false := by
  cases closed : endpoint.conn.closed with
  | false => rfl
  | true =>
    obtain ⟨read,write⟩ := consistent.detached client endpoint found closed
    rcases event with event | event
    · rw [read] at event; cases event
    · rw [write] at event; cases event

theorem found_update {clients : Client → Option (Endpoint Dev Vblk)} {client other : Client}
    {endpoint found : Endpoint Dev Vblk}
    (lookup : Function.update clients client (some endpoint) other = some found) :
    (other = client ∧ found = endpoint) ∨ (other ≠ client ∧ clients other = some found) := by
  by_cases same : other = client
  · subst same
    rw [Function.update_self] at lookup
    exact .inl ⟨rfl,(Option.some.inj lookup).symm⟩
  · rw [Function.update_of_ne same] at lookup
    exact .inr ⟨same,lookup⟩

theorem replace_consistent {loop : EventLoop World Dev Vblk Client} (consistent : Consistent loop)
    (running : loop.ended = false) {client : Client} {endpoint : Endpoint Dev Vblk} (found : loop.clients client = some endpoint)
    (open' : endpoint.conn.closed = false) {conn : OcssdConn Dev Vblk} {owner : Nat → Option Client}
    (detached : conn.closed = true → conn.evRead = false ∧ conn.evWrite = false)
    {ended : Bool} (armed : ended = false → conn.closed = false → (conn.evWrite = true ↔ conn.writeq ≠ []))
    (owner' : owner = if conn.closed then Function.update loop.owner endpoint.fd none else loop.owner)
    (manager : OcssdManager) (world : World) :
    Consistent ⟨manager,world,Function.update loop.clients client (some {endpoint with conn := conn}),owner,ended⟩ := by
  refine ⟨?_,?_,?_⟩
  · intro other e lookup closed
    rcases found_update lookup with ⟨rfl,rfl⟩ | ⟨_,old⟩
    · exact detached closed
    · exact consistent.detached other e old closed
  · intro other e lookup closed
    rcases found_update lookup with ⟨rfl,rfl⟩ | ⟨different,old⟩
    · have open'' : conn.closed = false := closed
      rw [owner',open'']
      exact consistent.owned other endpoint found open'
    · have mine := consistent.owned client endpoint found open'
      have theirs := consistent.owned other e old closed
      change owner e.fd = some other
      rw [owner']
      split
      · -- Another open connection has another number.
        have apart : e.fd ≠ endpoint.fd := by
          intro same
          rw [same,mine] at theirs
          exact different (Option.some.inj theirs).symm
        rw [Function.update_of_ne apart]
        exact theirs
      · exact theirs
  · intro going other e lookup closed
    rcases found_update lookup with ⟨rfl,rfl⟩ | ⟨_,old⟩
    · exact armed going closed
    · exact consistent.armed running other e old closed

theorem accept_consistent {loop : EventLoop World Dev Vblk Client} (consistent : Consistent loop) (client : Client)
    (fd : Nat) (messageBuf : Memory) : Consistent (loop.onAccept client fd messageBuf) := by
  unfold EventLoop.onAccept
  split
  swap
  · exact consistent
  rename_i fresh
  refine ⟨?_,?_,?_⟩
  · intro other e lookup closed
    rcases found_update lookup with ⟨rfl,rfl⟩ | ⟨_,old⟩
    · cases closed
    · exact consistent.detached other e old closed
  · intro other e lookup closed
    rcases found_update lookup with ⟨rfl,rfl⟩ | ⟨_,old⟩
    · exact Function.update_self _ _ _
    · have theirs := consistent.owned other e old closed
      have apart : e.fd ≠ fd := by
        intro same
        rw [same] at theirs
        rw [theirs] at fresh
        cases fresh.2
      exact (Function.update_of_ne apart _ _).trans theirs
  · intro running other e lookup closed
    rcases found_update lookup with ⟨rfl,rfl⟩ | ⟨_,old⟩
    · exact ⟨nofun,fun some' => absurd rfl some'⟩
    · exact consistent.armed running other e old closed

theorem output_armed {before after : OcssdConn Dev Vblk} (output : Output before after)
    (armed : before.evWrite = true ↔ before.writeq ≠ []) : after.evWrite = true ↔ after.writeq ≠ [] := by
  cases output with
  | keeps same => rw [same.evWrite,same.writeq]; exact armed
  | queues bufferq queued evRead evWrite =>
    rw [queued]
    exact iff_of_true evWrite (List.append_ne_nil_of_right_ne_nil _ (List.cons_ne_nil _ _))

theorem fire_armed {conn : OcssdConn Dev Vblk} (armed : conn.evWrite = true ↔ conn.writeq ≠ [])
    (fires : conn.evWrite = true) (event : WriteEvent) :
    let r := fireWrite conn event
    r.conn.closed = conn.closed ∧ (r.ending = .returned → (r.conn.evWrite = true ↔ r.conn.writeq ≠ [])) := by
  have some' := armed.mp fires
  rw [fireWrite,if_pos fires,onWrite]
  cases queue : conn.writeq with
  | nil => exact absurd queue some'
  | cons bufferq rest =>
    cases event with
    | fails errno =>
      dsimp only
      split
      · exact ⟨rfl,fun _ => iff_of_true rfl (List.cons_ne_nil _ _)⟩
      · exact ⟨rfl,nofun⟩
    | accepts count =>
      dsimp only
      split
      · exact ⟨rfl,fun _ => iff_of_true rfl (List.cons_ne_nil _ _)⟩
      · refine ⟨rfl,fun _ => ?_⟩
        cases rest with
        | nil => simp
        | cons b rest => simp

section Steps
variable {lib : Lightnvm World Dev Vblk}

theorem serve_reads {loop : EventLoop World Dev Vblk Client} (running : loop.ended = false) {client : Client}
    (socket : Socket Errno) {endpoint : Endpoint Dev Vblk} (found : loop.clients client = some endpoint)
    (event : endpoint.conn.evRead = true) {peer : Client} (owned : loop.owner endpoint.fd = some peer) :
    loop.serve lib (.readable client socket) = (loop.onRead lib client endpoint socket,none) := by
  have fires : endpoint.conn.evRead = true ∧ (loop.owner endpoint.fd).isSome = true := by rw [owned]; exact ⟨event,rfl⟩
  rw [EventLoop.serve,running,if_neg Bool.false_ne_true]
  simp only [found]
  exact if_pos fires

-- What a step comes to: nothing, or one of the three kinds where it takes place.
inductive Step (lib : Lightnvm World Dev Vblk) (loop : EventLoop World Dev Vblk Client) :
    LoopEvent Client → EventLoop World Dev Vblk Client × Option (Delivery Client) → Prop where
  | rests (event : LoopEvent Client) : Step lib loop event (loop,none)
  | accepts (client : Client) (fd : Nat) (messageBuf : Memory) :
      Step lib loop (.acceptable client fd messageBuf) (loop.onAccept client fd messageBuf,none)
  | reads (client : Client) (socket : Socket Errno) (endpoint : Endpoint Dev Vblk) (running : loop.ended = false)
      (found : loop.clients client = some endpoint) (event : endpoint.conn.evRead = true) :
      Step lib loop (.readable client socket) (loop.onRead lib client endpoint socket,none)
  | writes (client : Client) (event : WriteEvent) (endpoint : Endpoint Dev Vblk) (running : loop.ended = false)
      (found : loop.clients client = some endpoint) (fires : endpoint.conn.evWrite = true) :
      Step lib loop (.writable client event)
        ({loop with
          clients := Function.update loop.clients client
            (some {endpoint with conn := (fireWrite endpoint.conn event).conn})
          ended := (fireWrite endpoint.conn event).ending ≠ .returned},
          some ⟨client,loop.owner endpoint.fd,(fireWrite endpoint.conn event).bytes⟩)

theorem serve_step (lib : Lightnvm World Dev Vblk) (loop : EventLoop World Dev Vblk Client)
    (event : LoopEvent Client) : Step lib loop event (loop.serve lib event) := by
  unfold EventLoop.serve
  split
  · exact .rests event
  rename_i going
  have running : loop.ended = false := Bool.not_eq_true _ ▸ going
  cases event with
  | acceptable client fd messageBuf => exact .accepts client fd messageBuf
  | readable client socket =>
    dsimp only
    split
    · exact .rests _
    · rename_i endpoint found
      split
      · rename_i fires
        exact .reads client socket endpoint running found fires.1
      · exact .rests _
  | writable client event =>
    dsimp only
    split
    · exact .rests _
    · rename_i endpoint found
      split
      · rename_i fires
        exact .writes client event endpoint running found fires.1
      · exact .rests _

-- A handler that runs on an open connection: its events are gone if it closed
-- the connection with nothing left to write.
theorem read_consistent {loop : EventLoop World Dev Vblk Client} (consistent : Consistent loop)
    (running : loop.ended = false) {client : Client} (socket : Socket Errno) {endpoint : Endpoint Dev Vblk}
    (found : loop.clients client = some endpoint) (event : endpoint.conn.evRead = true)
    (idle : HangsUp lib endpoint.conn ⟨loop.manager,loop.world,[]⟩ socket → endpoint.conn.writeq = []) :
    Consistent (loop.onRead lib client endpoint socket) := by
  have open' := consistent.open_of_event found (.inl event)
  have armed := consistent.armed running client endpoint found open'
  unfold EventLoop.onRead
  rcases call_ends endpoint.conn ⟨loop.manager,loop.world,[]⟩ socket with ⟨hangs,hung⟩ | ⟨_,output,still⟩
  · refine replace_consistent consistent running found open' (fun _ => ⟨hung.evRead,?_⟩) ?_ rfl _ _
    · rw [hung.evWrite,← Bool.not_eq_true,armed]
      exact fun left => left (idle hangs)
    · intro _ opened
      rw [hung.closed] at opened
      cases opened
  · refine replace_consistent consistent running found open' ?_ (fun _ _ => output_armed output armed) rfl _ _
    intro closed
    rw [still,open'] at closed
    cases closed

theorem write_consistent {loop : EventLoop World Dev Vblk Client} (consistent : Consistent loop)
    (running : loop.ended = false) {client : Client} (event : WriteEvent) {endpoint : Endpoint Dev Vblk}
    (found : loop.clients client = some endpoint) (fires : endpoint.conn.evWrite = true) :
    Consistent {loop with
      clients := Function.update loop.clients client
        (some {endpoint with conn := (fireWrite endpoint.conn event).conn})
      ended := (fireWrite endpoint.conn event).ending ≠ .returned} := by
  have open' := consistent.open_of_event found (.inr fires)
  obtain ⟨closed,armed⟩ := fire_armed (consistent.armed running client endpoint found open') fires event
  rw [open'] at closed
  refine replace_consistent consistent running found open' ?_ ?_ ?_ _ _
  · intro shut
    rw [closed] at shut
    cases shut
  · intro going _
    exact armed (by simpa using going)
  · rw [closed]
    rfl

theorem serve_consistent {loop : EventLoop World Dev Vblk Client} {event : LoopEvent Client}
    (consistent : Consistent loop) (idle : HangsUpIdle lib loop event) : Consistent (loop.serve lib event).1 := by
  have step := serve_step lib loop event
  generalize loop.serve lib event = next at step
  cases step with
  | rests event => exact consistent
  | accepts client fd messageBuf => exact accept_consistent consistent client fd messageBuf
  | reads client socket endpoint running found fires =>
    exact read_consistent consistent running socket found fires (idle running endpoint found fires)
  | writes client event endpoint running found fires => exact write_consistent consistent running event found fires

theorem serve_delivers {loop : EventLoop World Dev Vblk Client} (consistent : Consistent loop)
    (event : LoopEvent Client) {delivery : Delivery Client} (sent : (loop.serve lib event).2 = some delivery) :
    delivery.receiver = some delivery.sender := by
  have step := serve_step lib loop event
  generalize loop.serve lib event = next at step sent
  cases step with
  | rests event => cases sent
  | accepts client fd messageBuf => cases sent
  | reads client socket endpoint running found fires => cases sent
  | writes client event endpoint running found fires =>
    cases sent
    exact consistent.owned client endpoint found (consistent.open_of_event found (.inr fires))

theorem idle_of_detached {loop : EventLoop World Dev Vblk Client} {event : LoopEvent Client}
    (consistent : Consistent loop) (detached : Detached (loop.serve lib event).1) : HangsUpIdle lib loop event := by
  cases event with
  | acceptable client fd messageBuf => trivial
  | writable client event => trivial
  | readable client socket =>
    intro running endpoint found fires hangs
    have open' := consistent.open_of_event found (.inl fires)
    rw [serve_reads running socket found fires (consistent.owned client endpoint found open')] at detached
    rcases call_ends endpoint.conn ⟨loop.manager,loop.world,[]⟩ socket with ⟨_,hung⟩ | ⟨stays,_⟩
    · have silent := (detached client _ (Function.update_self _ _ _) hung.closed).2
      have armed := consistent.armed running client endpoint found open'
      by_contra left
      have still := hung.evWrite.trans (armed.mpr left)
      rw [still] at silent
      cases silent
    · exact absurd hangs stays

theorem idle_iff_contained {loop : EventLoop World Dev Vblk Client} {event : LoopEvent Client}
    (consistent : Consistent loop) : HangsUpIdle lib loop event ↔ Contained lib loop event := by
  constructor
  · intro idle
    exact ⟨(serve_consistent consistent idle).detached,fun _ => serve_delivers consistent event⟩
  · intro contained
    exact idle_of_detached consistent contained.1

end Steps

-- Along a run: every step leaves the closed connections detached and delivers to
-- its own client exactly when no connection hangs up with replies still queued.
theorem events_detached_iff (lib : Lightnvm World Dev Vblk) (set : List (DevName × NvmGeo)) (world : World)
    (inputs : List (LoopEvent Client)) :
      Each (EventLoop.serve lib) (HangsUpIdle lib) (EventLoop.start set world) inputs ↔
      Each (EventLoop.serve lib) (Contained lib) (EventLoop.start set world) inputs :=
  each_iff (fun loop _ => Consistent loop)
    (fun _ _ _ consistent idle => serve_consistent consistent idle)
    (fun _ _ _ consistent => idle_iff_contained consistent) (start_consistent set world)

end Loop

-- Client 0 leaves with a reply still queued and client 1 is given its number:
-- the reply goes to client 1.
def askOne : List UInt8 := [1,0x65,0,0,1,0,0,0,0,0,0,0,0,0,0,0,0,0,0,0,0,0,0,0]

def numberReused : List (LoopEvent Nat) :=
  [.acceptable 0 7 (fun _ => 0),.readable 0 ⟨askOne,[.bytes 23]⟩,.readable 0 ⟨[],[.bytes 0]⟩,
    .acceptable 1 7 (fun _ => 0)]

def oneUnit : EventLoop Unit Unit Unit Nat := .start [([110],⟨5,1,1,4,1,1,1,1,0⟩)] ()

theorem reply_reaches_other_client :
    let reused := final (EventLoop.serve quietLib) oneUnit numberReused
    let sent := (reused.serve quietLib (.writable 0 (.accepts 4096))).2
    sent.map (fun delivery => (delivery.sender,delivery.receiver,delivery.bytes.length)) = some (0,some 1,112) ∧
      ¬ Each (EventLoop.serve quietLib) (Contained quietLib) oneUnit
        (numberReused ++ [.writable 0 (.accepts 4096)]) := by
  have delivered : (let reused := final (EventLoop.serve quietLib) oneUnit numberReused
      (reused.serve quietLib (.writable 0 (.accepts 4096))).2.map
        fun delivery => (delivery.sender,delivery.receiver,delivery.bytes.length)) = some (0,some 1,112) := by
    decide +kernel
  refine ⟨delivered,?_⟩
  intro each
  obtain ⟨_,⟨contained,_⟩⟩ := (each_append _ oneUnit numberReused _).mp each
  obtain ⟨delivery,sent,shown⟩ := Option.map_eq_some_iff.mp delivered
  obtain ⟨sender,ends⟩ := Prod.mk.inj shown
  have receiver := contained.2 delivery sent
  rw [(Prod.mk.inj ends).1,sender] at receiver
  cases receiver

end OcssdServer.DescriptorEvents
