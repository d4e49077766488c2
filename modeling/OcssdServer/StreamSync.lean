import OcssdServer.ConnectionTurns

namespace OcssdServer.StreamSync
open ByteBuffers SocketFill ManagerGrants ServeLoop RequestFraming ConnectionTurns MachineRuns

section Turns
variable {World Dev Vblk : Type} {set : List (DevName × NvmGeo)}

-- The call as it ends where GetBlockPointer yields null past the end of the
-- array: the handlers then return -1 and have done nothing else.
def nullChecked (r : Handled World Dev Vblk) : Handled World Dev Vblk :=
  {r with ending := if r.ending = .badIndex then .returned (-1) else r.ending}

def Synchronised (lib : Lightnvm World Dev Vblk) (line : Line Dev Vblk) (turn : Turn World Vblk set) : Prop :=
  let r := nullChecked (line.serve lib turn).2
  r.ending.stuck = false ∧ r.conn.messageEnd = 0 ∧
    r.socket.stream = line.stream.drop turn.request.wire.length

def TargetHeld (line : Line Dev Vblk) (turn : Turn World Vblk set) : Prop :=
  getHeader turn.request.message = writeBlockMagic → turn.request.payload ≠ [] →
    ∃ io blk,OcssdIoRequest.ofMessage turn.request.message = some io ∧
      line.conn.blksArray[io.blockIndex.toNat]? = some (some blk)

theorem nullChecked_back {r : Handled World Dev Vblk} (back : r.ending ≠ .waiting) (inside : r.ending ≠ .outOfRange) :
    (nullChecked r).ending.stuck = false := by
  unfold nullChecked
  dsimp only
  split
  · rfl
  · rename_i other
    cases ended : r.ending with
    | returned ret => rfl
    | threw => rfl
    | badIndex => exact absurd ended other
    | outOfRange => exact absurd ended inside
    | waiting => exact absurd ended back

variable {lib : Lightnvm World Dev Vblk} {line : Line Dev Vblk} {turn : Turn World Vblk set}
  {turns : List (Turn World Vblk set)}

theorem bare_step (inStep : InStep line (turn :: turns)) (other : getHeader turn.request.message ≠ writeBlockMagic) :
    InStep (line.serve lib turn).1 turns ∧ Synchronised lib line turn := by
  obtain ⟨next,_,back,inside,left⟩ := bare_turn lib inStep other
  exact ⟨next,nullChecked_back back inside,next.messageEnd,left⟩

theorem refused_held (write : getHeader turn.request.message = writeBlockMagic)
    {io : OcssdIoRequest} (decoded : OcssdIoRequest.ofMessage turn.request.message = some io)
    (missing : ∀ blk,line.conn.blksArray[io.blockIndex.toNat]? ≠ some (some blk)) :
    TargetHeld line turn ↔ turn.request.payload = [] := by
  constructor
  · intro held
    by_contra some'
    obtain ⟨other,blk,given,found⟩ := held write some'
    rw [decoded] at given
    cases given
    exact missing blk found
  · intro empty _ some'
    exact absurd empty some'

theorem write_step (inStep : InStep line (turn :: turns)) (write : getHeader turn.request.message = writeBlockMagic) :
    (TargetHeld line turn → InStep (line.serve lib turn).1 turns) ∧
      (TargetHeld line turn ↔ Synchronised lib line turn) := by
  obtain ⟨io,decoded⟩ := decoded_io turn.request.size (.inr (.inl write))
  obtain ⟨same,next,outcome⟩ := write_turn lib inStep write decoded
  have reset : (line.serve lib turn).2.conn.messageEnd = 0 := by
    rw [same]
    exact inStep.messageEnd
  have synchronised : (line.serve lib turn).2.ending ≠ .waiting → (line.serve lib turn).2.ending ≠ .outOfRange →
      (Synchronised lib line turn ↔
        (line.serve lib turn).2.socket.stream = line.stream.drop turn.request.wire.length) := by
    intro back inside
    exact ⟨fun synced => synced.2.2,fun left => ⟨nullChecked_back back inside,reset,left⟩⟩
  have refused : (line.serve lib turn).2.socket.stream =
        turn.request.payload ++ line.stream.drop turn.request.wire.length →
      (∀ blk,line.conn.blksArray[io.blockIndex.toNat]? ≠ some (some blk)) →
      (TargetHeld line turn → InStep (line.serve lib turn).1 turns) ∧
        (TargetHeld line turn ↔
          (line.serve lib turn).2.socket.stream = line.stream.drop turn.request.wire.length) := by
    intro left missing
    rw [refused_held write decoded missing,left,List.append_left_eq_self]
    exact ⟨fun empty => next (by rw [left,empty,List.nil_append]),Iff.rfl⟩
  cases found : line.conn.blksArray[io.blockIndex.toNat]? with
  | none =>
    rw [found] at outcome
    rw [synchronised (by rw [outcome.1]; nofun) (by rw [outcome.1]; nofun)]
    exact refused outcome.2 (by simp [found])
  | some pointer =>
    cases pointer with
    | none =>
      rw [found] at outcome
      rw [synchronised (by rw [outcome.1]; nofun) (by rw [outcome.1]; nofun)]
      exact refused outcome.2 (by simp [found])
    | some blk =>
      rw [found] at outcome
      rw [synchronised (by rw [outcome.1]; nofun) (by rw [outcome.1]; nofun)]
      exact ⟨fun _ => next outcome.2,iff_of_true (fun _ _ => ⟨io,blk,decoded,found⟩) outcome.2⟩

end Turns

-- The stream stays in step as long as every write with a payload names a block
-- that is held, and leaves it with the first one that does not.
theorem stream_synchronised_iff {World Dev Vblk : Type} (lib : Lightnvm World Dev Vblk)
    {set : List (DevName × NvmGeo)} {line : Line Dev Vblk} {turns : List (Turn World Vblk set)}
    (inStep : InStep line turns) :
    Each (Line.serve lib) TargetHeld line turns ↔ Each (Line.serve lib) (Synchronised lib) line turns := by
  refine each_iff InStep ?_ ?_ inStep
  · intro line turn turns inStep held
    by_cases write : getHeader turn.request.message = writeBlockMagic
    · exact (write_step inStep write).1 held
    · exact (bare_step inStep write).1
  · intro line turn turns inStep
    by_cases write : getHeader turn.request.message = writeBlockMagic
    · exact (write_step inStep write).2
    · exact iff_of_true (fun write' => absurd write' write) (bare_step inStep write).2

-- The message of an erase of block 0, and a write of 24 bytes to block `index`
-- whose payload is that message.
def eraseZero : List UInt8 := [3,0x64,0,0,0,0,0,0,0,0,0,0,0,0,0,0,0,0,0,0,0,0,0,0]

def writeErase (index : UInt8) : Sent where
  message := [2,0x64,0,0,index,0,0,0,24,0,0,0,0,0,0,0,0,0,0,0,0,0,0,0]
  payload := eraseZero
  size := rfl
  carries := rfl

def writeTurn (index : UInt8) : Turn Unit Unit [] where
  request := writeErase index
  session := ⟨reached [] [],(),[]⟩
  reachable := ⟨[],rfl⟩
  writeq := []
  evWrite := false
  plan := List.replicate 48 (.bytes 23)
  cuts := fun _ member => ⟨23,List.eq_of_mem_replicate member⟩
  brings := Nat.le_refl 48

def heldZero (index : UInt8) : Line Unit Unit :=
  ⟨(OcssdConn.accepted (fun _ => 0)).addBlock (some ()) 4096,(writeErase index).wire⟩

theorem heldZero_inStep (index : UInt8) : InStep (heldZero index) [writeTurn index] :=
  ⟨rfl,rfl,rfl,[],rfl⟩

theorem held_write_synchronised :
    Each (Line.serve quietLib) (Synchronised quietLib) (heldZero 0) [writeTurn 0] :=
  (stream_synchronised_iff quietLib (heldZero_inStep 0)).mp
    ⟨fun _ _ => ⟨⟨.writeBlock,0,24,0⟩,(),by decide,rfl⟩,trivial⟩

-- Sent to block 1 the write is refused, and the next call of the handler takes
-- its payload for a request and erases block 0.
theorem refused_payload_erases :
    let refused := (heldZero 1).serve quietLib (writeTurn 1)
    let next := processIncomingRequests quietLib refused.1.conn ⟨reached [] [],(),[]⟩
      ⟨refused.1.stream,[.bytes 23]⟩
    (nullChecked refused.2).ending = .returned (-1) ∧
      next.session.events = [.dispatched eraseZero,.called (some ()) .erase] ∧
      ¬ Each (Line.serve quietLib) (Synchronised quietLib) (heldZero 1) [writeTurn 1] := by
  have calls : (let refused := (heldZero 1).serve quietLib (writeTurn 1)
      let next := processIncomingRequests quietLib refused.1.conn ⟨reached [] [],(),[]⟩
        ⟨refused.1.stream,[.bytes 23]⟩
      (nullChecked refused.2).ending = .returned (-1) ∧ refused.2.socket.stream = eraseZero ∧
        next.session.events = [.dispatched eraseZero,.called (some ()) .erase]) := by decide +kernel
  obtain ⟨ended,left,events⟩ := calls
  refine ⟨ended,events,?_⟩
  rintro ⟨⟨_,_,drained⟩,_⟩
  cases left.symm.trans drained

end OcssdServer.StreamSync
