import OcssdServer.RequestFraming
import OcssdServer.RequestOutcomes

namespace OcssdServer.ConnectionTurns
open ByteBuffers SocketFill ManagerGrants ServeLoop DeviceEffects RequestFraming

-- A request as it is sent, of any kind or of none that the server knows: its
-- message and, after a write, the bytes that the message announces.
structure Sent where
  message : List UInt8
  payload : List UInt8
  size : message.length = messageBufferSize
  carries : payload.length = payloadLength message

def Sent.wire (request : Sent) : List UInt8 := request.message ++ request.payload

-- One call of the read handler of a connection that stays open: the server as
-- the other connections have left it, the queue as on_write has left it, and
-- reads of any sizes that bring the request whole.
structure Turn (World Vblk : Type) (set : List (DevName × NvmGeo)) where
  request : Sent
  session : Session World Vblk
  reachable : ∃ requests,session.manager = reached set requests
  writeq : List Bufferq
  evWrite : Bool
  plan : List (ReadEvent Errno)
  cuts : OnlyBytes plan
  brings : request.wire.length ≤ plan.length

structure Line (Dev Vblk : Type) where
  conn : OcssdConn Dev Vblk
  stream : List UInt8

section Turns
variable {World Dev Vblk : Type} {set : List (DevName × NvmGeo)}

def wires (turns : List (Turn World Vblk set)) : List UInt8 := turns.flatMap (fun turn => turn.request.wire)

def Line.ready (line : Line Dev Vblk) (turn : Turn World Vblk set) : OcssdConn Dev Vblk :=
  {line.conn with writeq := turn.writeq,evWrite := turn.evWrite}

def Line.filled (line : Line Dev Vblk) (turn : Turn World Vblk set) : OcssdConn Dev Vblk :=
  {line.ready turn with messageBuf := store line.conn.messageBuf 0 turn.request.message}

def Line.serve (lib : Lightnvm World Dev Vblk) (line : Line Dev Vblk) (turn : Turn World Vblk set) :
    Line Dev Vblk × Handled World Dev Vblk :=
  let r := processIncomingRequests lib (line.ready turn) turn.session ⟨line.stream,turn.plan⟩
  (⟨r.conn,r.socket.stream⟩,r)

-- The connection is open and its stream stands at the first of the requests that
-- are still to come.
structure InStep (line : Line Dev Vblk) (turns : List (Turn World Vblk set)) : Prop where
  messageEnd : line.conn.messageEnd = 0
  state : line.conn.state = .receivingCommand
  closed : line.conn.closed = false
  stream : ∃ tail,line.stream = wires turns ++ tail

variable (lib : Lightnvm World Dev Vblk)

theorem turn_dispatches {line : Line Dev Vblk} {turn : Turn World Vblk set} {turns : List (Turn World Vblk set)}
    (inStep : InStep line (turn :: turns)) : ∃ rest plan,OnlyBytes plan ∧
      turn.request.payload.length ≤ plan.length ∧ line.stream = turn.request.wire ++ rest ∧
      (∃ tail,rest = wires turns ++ tail) ∧
      (line.serve lib turn).2 = dispatch lib (line.filled turn) turn.session
        ⟨turn.request.payload ++ rest,plan⟩ turn.request.message := by
  obtain ⟨tail,stream⟩ := inStep.stream
  rw [wires,List.flatMap_cons,List.append_assoc] at stream
  have brings := turn.brings
  rw [Sent.wire,List.length_append] at brings
  have boundary : (line.ready turn).messageEnd = 0 := inStep.messageEnd
  have header := header_read lib boundary inStep.state turn.session turn.cuts turn.request.size
    (turn.request.payload ++ (wires turns ++ tail))
  rw [←List.append_assoc,←Sent.wire] at header
  rcases header with ⟨later,part,paid,called⟩ | ⟨_,_,_,few⟩
  · refine ⟨wires turns ++ tail,later,turn.cuts.suffix part,by omega,stream,⟨tail,rfl⟩,?_⟩
    rw [Line.serve]
    dsimp only
    rw [stream]
    exact called
  · omega

variable {lib}

theorem next_inStep {line : Line Dev Vblk} {turn : Turn World Vblk set} {turns : List (Turn World Vblk set)}
    {rest : List UInt8} (tail : ∃ tail,rest = wires turns ++ tail) (inStep : InStep line (turn :: turns))
    (carried : Carried (line.filled turn) (line.serve lib turn).1.conn)
    (left : (line.serve lib turn).1.stream = rest) : InStep (line.serve lib turn).1 turns := by
  refine ⟨carried.messageEnd.trans inStep.messageEnd,carried.state.trans inStep.state,
    carried.closed.trans inStep.closed,?_⟩
  rw [left]
  exact tail

theorem dispatch_bare (lib : Lightnvm World Dev Vblk) (conn : OcssdConn Dev Vblk) (session : Session World Vblk)
    (socket : Socket Errno) {message : List UInt8} (other : getHeader message ≠ writeBlockMagic) :
    let r := dispatch lib conn session socket message
    Carried conn r.conn ∧ r.socket = socket ∧ r.ending ≠ .waiting ∧ r.ending ≠ .outOfRange := by
  unfold dispatch
  dsimp only
  split
  · obtain ⟨carried,ended⟩ := alloc_carried lib conn (session.log (.dispatched message)) message
    refine ⟨carried,rfl,?_,?_⟩
    · intro waits
      rw [waits] at ended
      cases ended
    · intro past
      rw [past] at ended
      cases ended
  · split
    · obtain ⟨carried,back⟩ := read_carried lib conn (session.log (.dispatched message)) message
      exact ⟨carried,rfl,back,(read_inside message).ending⟩
    · split
      · obtain ⟨carried,back⟩ := erase_carried lib conn (session.log (.dispatched message)) message
        exact ⟨carried,rfl,back,(erase_inside message).ending⟩
      · exact ⟨.refl conn,rfl,nofun,nofun⟩

-- A write with its payload at hand: it is taken whole where its block is held,
-- and left in the stream where it is not.
theorem dispatch_write (lib : Lightnvm World Dev Vblk) (conn : OcssdConn Dev Vblk) (session : Session World Vblk)
    {request : Sent} (write : getHeader request.message = writeBlockMagic) {io : OcssdIoRequest}
    (decoded : OcssdIoRequest.ofMessage request.message = some io) {plan : List (ReadEvent Errno)}
    (cuts : OnlyBytes plan) (brings : request.payload.length ≤ plan.length) (rest : List UInt8) :
    let r := dispatch lib conn session ⟨request.payload ++ rest,plan⟩ request.message
    r.conn = conn ∧ match conn.blksArray[io.blockIndex.toNat]? with
      | none => r.ending = .badIndex ∧ r.socket.stream = request.payload ++ rest
      | some none => r.ending = .returned (-1) ∧ r.socket.stream = request.payload ++ rest
      | some (some _) => r.ending = .returned 0 ∧ r.socket.stream = rest := by
  have size : request.payload.length = io.count.toNat := by
    rw [request.carries,payloadLength,if_pos write,decoded]
    rfl
  rw [dispatch,write,if_neg (by decide),if_neg (by decide),if_pos rfl,processWriteRequest,decoded]
  dsimp only
  cases conn.blksArray[io.blockIndex.toNat]? with
  | none => exact ⟨rfl,rfl,rfl⟩
  | some pointer =>
    cases pointer with
    | none => exact ⟨rfl,rfl,rfl⟩
    | some blk =>
      have enough : io.count.toNat-0 ≤ (request.payload ++ rest).length := by
        rw [List.length_append]
        omega
      dsimp only
      rcases fill_delivers (by decide : 0 < largestRead) (Nat.zero_le io.count.toNat) cuts enough
        (lib.malloc io.count (session.log (.dispatched request.message)).world) with
        ⟨later,_,_,filled⟩ | ⟨_,_,few⟩
      · rw [filled,finishWrite,Nat.sub_zero,←size,List.drop_left]
        exact ⟨rfl,rfl,rfl⟩
      · omega

theorem stream_drop {line : Line Dev Vblk} {turn : Turn World Vblk set} {rest : List UInt8}
    (stream : line.stream = turn.request.wire ++ rest) : line.stream.drop turn.request.wire.length = rest := by
  rw [stream,List.drop_left]

section Steps
variable {line : Line Dev Vblk} {turn : Turn World Vblk set} {turns : List (Turn World Vblk set)}

theorem bare_turn (lib : Lightnvm World Dev Vblk) (inStep : InStep line (turn :: turns))
    (other : getHeader turn.request.message ≠ writeBlockMagic) :
    let r := (line.serve lib turn).2
    InStep (line.serve lib turn).1 turns ∧ Carried (line.filled turn) r.conn ∧ r.ending ≠ .waiting ∧
      r.ending ≠ .outOfRange ∧ r.socket.stream = line.stream.drop turn.request.wire.length := by
  obtain ⟨rest,plan,_,_,stream,tail,called⟩ := turn_dispatches lib inStep
  have bare : turn.request.payload = [] := by
    apply List.eq_nil_of_length_eq_zero
    rw [turn.request.carries,payloadLength,if_neg other]
  have handled := dispatch_bare lib (line.filled turn) turn.session ⟨turn.request.payload ++ rest,plan⟩ other
  rw [←called,bare,List.nil_append] at handled
  obtain ⟨carried,socket,back,inside⟩ := handled
  have left : (line.serve lib turn).2.socket.stream = rest := by rw [socket]
  exact ⟨next_inStep tail inStep carried left,carried,back,inside,left.trans (stream_drop stream).symm⟩

theorem write_turn (lib : Lightnvm World Dev Vblk) (inStep : InStep line (turn :: turns))
    (write : getHeader turn.request.message = writeBlockMagic) {io : OcssdIoRequest}
    (decoded : OcssdIoRequest.ofMessage turn.request.message = some io) :
    let r := (line.serve lib turn).2
    let rest := line.stream.drop turn.request.wire.length
    r.conn = line.filled turn ∧ (r.socket.stream = rest → InStep (line.serve lib turn).1 turns) ∧
      match line.conn.blksArray[io.blockIndex.toNat]? with
      | none => r.ending = .badIndex ∧ r.socket.stream = turn.request.payload ++ rest
      | some none => r.ending = .returned (-1) ∧ r.socket.stream = turn.request.payload ++ rest
      | some (some _) => r.ending = .returned 0 ∧ r.socket.stream = rest := by
  obtain ⟨rest,plan,cuts,brings,stream,tail,called⟩ := turn_dispatches lib inStep
  obtain ⟨same,outcome⟩ := dispatch_write lib (line.filled turn) turn.session write decoded cuts brings rest
  rw [←called] at same outcome
  dsimp only
  rw [stream_drop stream]
  refine ⟨same,fun left => next_inStep tail inStep ?_ left,outcome⟩
  rw [show (line.serve lib turn).1.conn = (line.serve lib turn).2.conn from rfl,same]
  exact .refl _

end Steps
end Turns
end OcssdServer.ConnectionTurns
