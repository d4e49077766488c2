import OcssdServer.ConnectionTurns

namespace OcssdServer.ReplyCount
open ByteBuffers SocketFill ManagerGrants ServeLoop RequestFraming RequestOutcomes ConnectionTurns MachineRuns

-- A client waits for a reply after an allocation and after a read.
def expects (message : List UInt8) : Nat :=
  if getHeader message = requestMagic ∨ getHeader message = readBlockMagic then 1 else 0

section Turns
variable {World Dev Vblk : Type} {set : List (DevName × NvmGeo)}

-- The call of a request comes back and has pushed the replies that its client
-- expects, behind those of the requests before it.
def Answered (lib : Lightnvm World Dev Vblk) (line : Line Dev Vblk) (turn : Turn World Vblk set) : Prop :=
  let r := (line.serve lib turn).2
  r.ending.stuck = false ∧ ∃ pushed : List Bufferq,r.conn.writeq = turn.writeq ++ pushed ∧
    pushed.length = expects turn.request.message

-- A channel is open for an allocation, and its device opens again for remote
-- access; a block that is named is in the array.
structure Answerable (lib : Lightnvm World Dev Vblk) (line : Line Dev Vblk) (turn : Turn World Vblk set) : Prop where
  alloc : getHeader turn.request.message = requestMagic → ∃ request unit,
    OcssdAllocRequest.ofMessage turn.request.message = some request ∧
    firstOpen request turn.session.manager.ocssds = some unit ∧
    (request.remote = 0 ∨ (lib.devOpen unit.name turn.session.world).1 ≠ none)
  block : namesBlock turn.request.message → ∃ io,OcssdIoRequest.ofMessage turn.request.message = some io ∧
    io.blockIndex.toNat < line.conn.blksArray.length

structure Holding (line : Line Dev Vblk) (turns : List (Turn World Vblk set)) : Prop extends InStep line turns where
  held : none ∉ line.conn.blksArray

variable {lib : Lightnvm World Dev Vblk} {line : Line Dev Vblk} {turn : Turn World Vblk set}
  {turns : List (Turn World Vblk set)}

theorem alloc_answerable {request : OcssdAllocRequest}
    (decoded : OcssdAllocRequest.ofMessage turn.request.message = some request)
    (alloc : getHeader turn.request.message = requestMagic) :
    Answerable lib line turn ↔ ∃ unit,firstOpen request turn.session.manager.ocssds = some unit ∧
      (request.remote = 0 ∨ (lib.devOpen unit.name turn.session.world).1 ≠ none) := by
  constructor
  · intro ready
    obtain ⟨other,unit,given,first,opens⟩ := ready.alloc alloc
    rw [decoded] at given
    cases given
    exact ⟨unit,first,opens⟩
  · rintro ⟨unit,first,opens⟩
    exact ⟨fun _ => ⟨request,unit,decoded,first,opens⟩,fun names => absurd alloc (names_other names)⟩

theorem block_answerable {io : OcssdIoRequest} (decoded : OcssdIoRequest.ofMessage turn.request.message = some io)
    (names : namesBlock turn.request.message) :
    Answerable lib line turn ↔ io.blockIndex.toNat < line.conn.blksArray.length := by
  constructor
  · intro ready
    obtain ⟨other,given,inside⟩ := ready.block names
    rw [decoded] at given
    cases given
    exact inside
  · intro inside
    exact ⟨fun alloc => absurd alloc (names_other names),fun _ => ⟨io,decoded,inside⟩⟩

theorem silent_unanswered (one : expects turn.request.message = 1)
    (same : (line.serve lib turn).2.conn.writeq = turn.writeq) : ¬ Answered lib line turn := by
  rintro ⟨_,pushed,queued,size⟩
  have none' := List.append_right_eq_self.mp (queued.symm.trans same)
  rw [one,none'] at size
  cases size

theorem alloc_answered (inStep : InStep line (turn :: turns))
    (alloc : getHeader turn.request.message = requestMagic) :
    Answerable lib line turn ↔ Answered lib line turn := by
  obtain ⟨rest,plan,_,_,_,_,called⟩ := turn_dispatches lib inStep
  obtain ⟨request,decoded⟩ := decoded_alloc turn.request.size alloc
  obtain ⟨requests,reachable⟩ := turn.reachable
  have valid : ManagerValid (turn.session.log (.dispatched turn.request.message)).manager := by
    change ManagerValid turn.session.manager
    rw [reachable]
    exact reached_valid set requests
  have outcome := alloc_outcome lib valid decoded (line.filled turn)
  have served : (line.serve lib turn).2.toReply = processAllocRequest lib (line.filled turn)
      (turn.session.log (.dispatched turn.request.message)) turn.request.message := by
    rw [called,dispatch,if_pos alloc]
  rw [←served] at outcome
  have one : expects turn.request.message = 1 := if_pos (.inl alloc)
  rw [alloc_answerable decoded alloc]
  cases outcome with
  | refused first conn' ocssds ending =>
    refine iff_of_false ?_ (silent_unanswered one (by rw [conn']; rfl))
    rintro ⟨unit,found,_⟩
    cases first.symm.trans found
  | answers unit first opens bufferq queued evRead evWrite ending =>
    refine iff_of_true ⟨unit,first,opens⟩ ⟨by rw [ending]; rfl,[bufferq],queued,?_⟩
    rw [one]
    rfl
  | fails unit first remote closed output ocssds ending =>
    refine iff_of_false ?_ (silent_unanswered one output.writeq)
    rintro ⟨unit',found,opens⟩
    cases first.symm.trans found
    rcases opens with local' | opened
    · exact remote local'
    · exact opened closed

theorem block_answered (holding : Holding line (turn :: turns)) (names : namesBlock turn.request.message) :
    Answerable lib line turn ↔ Answered lib line turn := by
  obtain ⟨rest,plan,cuts,brings,_,_,called⟩ := turn_dispatches lib holding.toInStep
  obtain ⟨io,decoded⟩ := decoded_io turn.request.size names
  rw [block_answerable decoded names]
  by_cases inside : io.blockIndex.toNat < line.conn.blksArray.length
  · obtain ⟨blk,found⟩ := found_block holding.held inside
    have found' : (line.filled turn).blksArray[io.blockIndex.toNat]? = some (some blk) := found
    refine iff_of_true inside ?_
    rcases names with read | write | erase
    · have other : getHeader turn.request.message ≠ requestMagic := by rw [read]; decide
      have one : expects turn.request.message = 1 := if_pos (.inr read)
      rw [Answered,called,dispatch,if_neg other,if_pos read,processReadRequest,decoded]
      dsimp only
      rw [found',one]
      exact ⟨rfl,[_],rfl,rfl⟩
    · have none' : expects turn.request.message = 0 := by rw [expects,write]; rfl
      obtain ⟨same,_,outcome⟩ := write_turn lib holding.toInStep write decoded
      rw [found] at outcome
      refine ⟨by rw [outcome.1]; rfl,[],?_,none'.symm⟩
      rw [same]
      exact (List.append_nil _).symm
    · have none' : expects turn.request.message = 0 := by rw [expects,erase]; rfl
      rw [Answered,called,dispatch,erase,if_neg (by decide),if_neg (by decide),if_neg (by decide),if_pos rfl,
        processEraseRequest,decoded]
      dsimp only
      rw [found']
      exact ⟨rfl,[],(List.append_nil _).symm,none'.symm⟩
  · refine iff_of_false inside ?_
    rintro ⟨back,_⟩
    have missing : (line.filled turn).blksArray[io.blockIndex.toNat]? = none :=
      List.getElem?_eq_none (Nat.le_of_not_lt inside)
    rw [called,dispatch_unknown lib names decoded _ _ _ missing] at back
    cases back

theorem unknown_answered (inStep : InStep line (turn :: turns))
    (alloc : getHeader turn.request.message ≠ requestMagic) (other : ¬ namesBlock turn.request.message) :
    Answerable lib line turn ∧ Answered lib line turn := by
  obtain ⟨rest,plan,_,_,_,_,called⟩ := turn_dispatches lib inStep
  refine ⟨⟨fun magic => absurd magic alloc,fun names => absurd names other⟩,?_⟩
  have none' : expects turn.request.message = 0 := if_neg (by
    rintro (magic | read)
    · exact alloc magic
    · exact other (.inl read))
  rw [Answered,called,dispatch,if_neg alloc,if_neg (fun read => other (.inl read)),
    if_neg (fun write => other (.inr (.inl write))),if_neg (fun erase => other (.inr (.inr erase)))]
  exact ⟨rfl,[],(List.append_nil _).symm,none'.symm⟩

theorem answerable_iff (holding : Holding line (turn :: turns)) :
    Answerable lib line turn ↔ Answered lib line turn := by
  by_cases alloc : getHeader turn.request.message = requestMagic
  · exact alloc_answered holding.toInStep alloc
  · by_cases names : namesBlock turn.request.message
    · exact block_answered holding names
    · obtain ⟨ready,done⟩ : Answerable lib line turn ∧ Answered lib line turn :=
        unknown_answered holding.toInStep alloc names
      exact iff_of_true ready done

theorem next_holding (holding : Holding line (turn :: turns)) (ready : Answerable lib line turn) :
    Holding (line.serve lib turn).1 turns := by
  by_cases write : getHeader turn.request.message = writeBlockMagic
  · obtain ⟨io,decoded,inside⟩ := ready.block (.inr (.inl write))
    obtain ⟨blk,found⟩ := found_block holding.held inside
    obtain ⟨same,next,outcome⟩ := write_turn lib holding.toInStep write decoded
    rw [found] at outcome
    refine ⟨next outcome.2,?_⟩
    change none ∉ (line.serve lib turn).2.conn.blksArray
    rw [same]
    exact holding.held
  · obtain ⟨next,carried,_⟩ := bare_turn lib holding.toInStep write
    exact ⟨next,carried.held holding.held⟩

end Turns

-- The replies keep pace with the requests as long as every request can be served,
-- and fall behind with the first that cannot: nothing is sent in its place.
theorem replies_correspond_iff {World Dev Vblk : Type} (lib : Lightnvm World Dev Vblk)
    {set : List (DevName × NvmGeo)} {line : Line Dev Vblk} {turns : List (Turn World Vblk set)}
    (holding : Holding line turns) :
    Each (Line.serve lib) (Answerable lib) line turns ↔ Each (Line.serve lib) (Answered lib) line turns := by
  refine each_iff Holding ?_ ?_ holding
  · intro line turn turns holding ready
    exact next_holding holding ready
  · intro line turn turns holding
    exact answerable_iff holding

-- One device with four shared channels and an exclusive one, and requests for one
-- channel of four blocks of either kind.
def fiveChannels : List (DevName × NvmGeo) := [([110],⟨5,1,1,4,1,1,1,1,0⟩)]

def askChannel (shared : UInt8) : Sent where
  message := [1,0x65,0,0,1,0,0,0,4,0,0,0,shared,0,0,0,0,0,0,0,0,0,0,0]
  payload := []
  size := rfl
  carries := rfl

def askTurn (before : List OcssdAllocRequest) (shared : UInt8) : Turn Unit Unit fiveChannels where
  request := askChannel shared
  session := ⟨reached fiveChannels before,(),[]⟩
  reachable := ⟨before,rfl⟩
  writeq := []
  evWrite := false
  plan := List.replicate 24 (.bytes 23)
  cuts := fun _ member => ⟨23,List.eq_of_mem_replicate member⟩
  brings := Nat.le_refl 24

def twoAsked : Line Unit Unit := ⟨.accepted (fun _ => 0),(askChannel 0).wire ++ (askChannel 1).wire⟩

theorem twoAsked_holding (one two : List OcssdAllocRequest) : Holding twoAsked [askTurn one 0,askTurn two 1] :=
  ⟨⟨rfl,rfl,rfl,[],rfl⟩,nofun⟩

theorem open_channels_answered :
    Each (Line.serve quietLib) (Answered quietLib) twoAsked [askTurn [] 0,askTurn [⟨1,4,0,0,0⟩] 1] := by
  refine (replies_correspond_iff quietLib (twoAsked_holding [] [⟨1,4,0,0,0⟩])).mp ⟨⟨?_,?_⟩,⟨?_,?_⟩,trivial⟩
  · intro _
    have first : (firstOpen ⟨1,4,0,0,0⟩ (reached fiveChannels []).ocssds).isSome = true := by decide +kernel
    obtain ⟨unit,found⟩ := Option.isSome_iff_exists.mp first
    exact ⟨⟨1,4,0,0,0⟩,unit,by decide,found,.inl rfl⟩
  · intro names
    exact absurd names (by unfold namesBlock; decide)
  · intro _
    have first : (firstOpen ⟨1,4,1,0,0⟩ (reached fiveChannels [⟨1,4,0,0,0⟩]).ocssds).isSome = true := by
      decide +kernel
    obtain ⟨unit,found⟩ := Option.isSome_iff_exists.mp first
    exact ⟨⟨1,4,1,0,0⟩,unit,by decide,found,.inl rfl⟩
  · intro names
    exact absurd names (by unfold namesBlock; decide)

-- The exclusive channel is already given away: the first request gets no reply,
-- and the first reply on the wire is the answer to the second.
theorem refused_request_unanswered :
    let first := twoAsked.serve quietLib (askTurn [⟨1,4,0,0,0⟩] 0)
    let second := first.1.serve quietLib (askTurn [⟨1,4,0,0,0⟩] 1)
    first.2.ending = .returned (-1) ∧ first.2.conn.writeq.length = 0 ∧ second.2.conn.writeq.length = 1 ∧
      ¬ Each (Line.serve quietLib) (Answered quietLib) twoAsked
        [askTurn [⟨1,4,0,0,0⟩] 0,askTurn [⟨1,4,0,0,0⟩] 1] := by
  have calls : (let first := twoAsked.serve quietLib (askTurn [⟨1,4,0,0,0⟩] 0)
      let second := first.1.serve quietLib (askTurn [⟨1,4,0,0,0⟩] 1)
      first.2.ending = .returned (-1) ∧ first.2.conn.writeq.length = 0 ∧
        second.2.conn.writeq.length = 1) := by decide +kernel
  refine ⟨calls.1,calls.2.1,calls.2.2,?_⟩
  rintro ⟨⟨_,pushed,queued,one⟩,_⟩
  have size := congrArg List.length queued
  rw [calls.2.1,List.length_append,one] at size
  revert size
  decide

end OcssdServer.ReplyCount
