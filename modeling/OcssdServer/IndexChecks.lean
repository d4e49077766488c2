import OcssdServer.TenantIsolation
import OcssdServer.RequestOutcomes

namespace OcssdServer.IndexChecks
open ByteBuffers SocketFill RequestOutcomes TenantIsolation MachineRuns

section Calls
variable {World Dev Vblk Client : Type}

def taken (conn : OcssdConn Dev Vblk) (socket : Socket Errno) : Option (List UInt8) :=
  let r := fill largestRead messageBufferSize socket.plan socket.stream conn.messageBuf conn.messageEnd
  if conn.closed = false ∧ conn.state = .receivingCommand ∧ r.ending = .full then
    some (load r.memory 0 messageBufferSize)
  else none

def Names (conn : OcssdConn Dev Vblk) (socket : Socket Errno) (message : List UInt8) (io : OcssdIoRequest) : Prop :=
  taken conn socket = some message ∧ namesBlock message ∧ OcssdIoRequest.ofMessage message = some io

-- blks_array_ is read below its size only, and an index past it is answered
-- with -1, before any device operation and with nothing changed.
def Guarded (lib : Lightnvm World Dev Vblk) (server : Server World Dev Vblk Client)
    (input : Client × Socket Errno) : Prop :=
  let conn := server.conns input.1
  let r := processIncomingRequests lib conn ⟨server.manager,server.world,[]⟩ input.2
  ∀ message io,Names conn input.2 message io → r.ending ≠ .badIndex ∧
    (conn.blksArray.length ≤ io.blockIndex.toNat → r.ending = .returned (-1) ∧
      r.session = ⟨server.manager,server.world,[.dispatched message]⟩ ∧
      r.conn.blksArray = conn.blksArray ∧ r.conn.writeq = conn.writeq)

def IndexKnown (server : Server World Dev Vblk Client) (input : Client × Socket Errno) : Prop :=
  ∀ message io,Names (server.conns input.1) input.2 message io →
    io.blockIndex.toNat < (server.conns input.1).blksArray.length

theorem taken_dispatches (lib : Lightnvm World Dev Vblk) {conn : OcssdConn Dev Vblk} {socket : Socket Errno}
    {message : List UInt8} (takes : taken conn socket = some message) (session : Session World Vblk) :
    ∃ conn' socket',conn'.blksArray = conn.blksArray ∧
      processIncomingRequests lib conn session socket = dispatch lib conn' session socket' message := by
  unfold taken at takes
  dsimp only at takes
  split at takes
  · rename_i filled
    obtain ⟨_,receiving,full⟩ := filled
    rw [processIncomingRequests,if_pos receiving,processCommand]
    generalize fill largestRead messageBufferSize socket.plan socket.stream conn.messageBuf conn.messageEnd = r at *
    rw [finishMessage,full,←Option.some.inj takes]
    exact ⟨{conn with messageBuf := r.memory,messageEnd := 0},r.socket,rfl,rfl⟩
  · cases takes

theorem guarded_iff (lib : Lightnvm World Dev Vblk) (server : Server World Dev Vblk Client)
    (input : Client × Socket Errno) : IndexKnown server input ↔ Guarded lib server input := by
  refine forall_congr' fun message => forall_congr' fun io => imp_congr_right fun names => ?_
  obtain ⟨takes,names,decoded⟩ := names
  obtain ⟨conn',socket',array,called⟩ := taken_dispatches lib takes ⟨server.manager,server.world,[]⟩
  rw [called,←array]
  by_cases inside : io.blockIndex.toNat < conn'.blksArray.length
  · refine iff_of_true inside ⟨?_,fun outside => by omega⟩
    exact dispatch_known lib names decoded conn' _ socket' (List.getElem?_eq_getElem inside)
  · refine iff_of_false inside ?_
    rintro ⟨defined,_⟩
    apply defined
    rw [dispatch_unknown lib names decoded conn' _ socket' (List.getElem?_eq_none (Nat.le_of_not_lt inside))]

end Calls

-- In no run is an index checked: the handlers stay inside the array exactly as
-- long as the clients name only blocks that are there.
theorem indexes_guarded_iff {World Dev Vblk Client : Type} [DecidableEq Client] (lib : Lightnvm World Dev Vblk)
    (set : List (DevName × NvmGeo)) (world : World) (messageBuf : Client → Memory)
    (inputs : List (Client × Socket Errno)) :
    Each (Server.serve lib) IndexKnown (Server.start set world messageBuf) inputs ↔
      Each (Server.serve lib) (Guarded lib) (Server.start set world messageBuf) inputs :=
  each_iff (fun _ _ => True) (fun _ _ _ _ _ => trivial) (fun server input _ _ => guarded_iff lib server input)
    trivial

-- A client that has never asked for remote access erases block 0.
theorem empty_array_indexed :
    let server : Server Unit Unit Unit Nat := Server.start [] () (fun _ _ => 0)
    let input : Nat × Socket Errno := (0,⟨eraseFirst,[.bytes 23]⟩)
    (server.serve quietLib input).2.ending = .badIndex ∧
      ¬ Each (Server.serve quietLib) (Guarded quietLib) server [input] := by
  have called : (processIncomingRequests quietLib (.accepted (fun _ => 0) : OcssdConn Unit Unit)
      ⟨.ofDevices [],(),[]⟩ ⟨eraseFirst,[.bytes 23]⟩).ending = .badIndex := by decide +kernel
  have takes : taken (.accepted (fun _ => 0) : OcssdConn Unit Unit) ⟨eraseFirst,[.bytes 23]⟩ = some eraseFirst := by
    decide +kernel
  refine ⟨called,?_⟩
  rintro ⟨guarded,_⟩
  exact (guarded eraseFirst ⟨.eraseBlock,0,0,0⟩ ⟨takes,.inr (.inr (by decide)),by decide⟩).1 called

end OcssdServer.IndexChecks
