import OcssdServer.DeviceEffects

namespace OcssdServer.RequestFraming
open ByteBuffers SocketFill StripeLanes ServeLoop DeviceEffects

def payloadLength (message : List UInt8) : Nat :=
  if getHeader message = writeBlockMagic then ((OcssdIoRequest.ofMessage message).map (·.count.toNat)).getD 0
  else 0

-- A request as a client sends it: a message of one of the four kinds and, after
-- a write, exactly the bytes it announces.
structure Frame where
  message : List UInt8
  payload : List UInt8
  size : message.length = messageBufferSize
  known : getHeader message = requestMagic ∨ getHeader message = readBlockMagic ∨
    getHeader message = writeBlockMagic ∨ getHeader message = eraseBlockMagic
  carries : payload.length = payloadLength message

theorem Frame.erases (frame : Frame) (alloc : getHeader frame.message ≠ requestMagic)
    (read : getHeader frame.message ≠ readBlockMagic) (write : getHeader frame.message ≠ writeBlockMagic) :
    getHeader frame.message = eraseBlockMagic := by
  rcases frame.known with magic | magic | magic | magic
  · exact absurd magic alloc
  · exact absurd magic read
  · exact absurd magic write
  · exact magic

def Frame.wire (frame : Frame) : List UInt8 := frame.message ++ frame.payload

def wires (frames : List Frame) : List UInt8 := frames.flatMap Frame.wire

section Spec
variable {World Dev Vblk : Type} (lib : Lightnvm World Dev Vblk)

-- What a request asks for, served in one piece: the abstract server knows no
-- sockets, and a write has its payload at hand.
def serveWrite (conn : OcssdConn Dev Vblk) (session : Session World Vblk) (frame : Frame) :
    Reply World Dev Vblk :=
  match OcssdIoRequest.ofMessage frame.message with
  | none => ⟨conn,session,.threw⟩
  | some request =>
    match conn.blksArray[request.blockIndex.toNat]? with
    | none => ⟨conn,session,.badIndex⟩
    | some none => ⟨conn,session,.returned (-1)⟩
    | some (some blk) => ⟨conn,(vblkWrite lib (some blk) frame.payload session).2,.returned 0⟩

def answer (conn : OcssdConn Dev Vblk) (session : Session World Vblk) (frame : Frame) :
    Reply World Dev Vblk :=
  let header := getHeader frame.message
  let noted := session.log (.dispatched frame.message)
  if header = requestMagic then processAllocRequest lib conn noted frame.message
  else if header = readBlockMagic then processReadRequest lib conn noted frame.message
  else if header = writeBlockMagic then serveWrite lib conn noted frame
  else processEraseRequest lib conn noted frame.message

def serveFrame (conn : OcssdConn Dev Vblk) (session : Session World Vblk) (frame : Frame) :
    Reply World Dev Vblk :=
  answer lib {conn with messageBuf := store conn.messageBuf 0 frame.message} session frame

def serveFrames : OcssdConn Dev Vblk → Session World Vblk → List Frame →
    OcssdConn Dev Vblk × Session World Vblk
  | conn,session,[] => (conn,session)
  | conn,session,frame :: rest =>
    let r := serveFrame lib conn session frame
    serveFrames r.conn r.session rest

-- Every block index of the requests is below the size of the array at its time.
def IndexInside (conn : OcssdConn Dev Vblk) (frame : Frame) : Prop :=
  ∀ request,OcssdIoRequest.ofMessage frame.message = some request →
    request.blockIndex.toNat < conn.blksArray.length

def IndexesInside : OcssdConn Dev Vblk → Session World Vblk → List Frame → Prop
  | _,_,[] => True
  | conn,session,frame :: rest =>
    let r := serveFrame lib conn session frame
    IndexInside conn frame ∧ IndexesInside r.conn r.session rest

end Spec

structure AtBoundary {Dev Vblk : Type} (conn : OcssdConn Dev Vblk) : Prop where
  messageEnd : conn.messageEnd = 0
  state : conn.state = .receivingCommand
  closed : conn.closed = false
  held : none ∉ conn.blksArray

section Frames
variable {World Dev Vblk : Type} (lib : Lightnvm World Dev Vblk)

theorem carried_boundary {one two : OcssdConn Dev Vblk} (carried : Carried one two)
    (boundary : AtBoundary one) : AtBoundary two :=
  ⟨carried.messageEnd.trans boundary.messageEnd,carried.state.trans boundary.state,
    carried.closed.trans boundary.closed,carried.held boundary.held⟩

-- A whole message is read to its end, so its constructor only looks at the magic.
theorem read4 (message : List UInt8) {p : Nat} (bound : p+4 ≤ message.length) :
    ∃ data,deserializeData4 message p = some (data,p+4) := by
  rw [deserializeData4,readLe,if_pos bound]
  exact ⟨_,rfl⟩

theorem read8 (message : List UInt8) {p : Nat} (bound : p+8 ≤ message.length) :
    ∃ data,deserializeData8 message p = some (data,p+8) := by
  rw [deserializeData8,readLe,if_pos bound]
  exact ⟨_,rfl⟩

theorem read_header {message : List UInt8} (size : message.length = messageBufferSize) :
    deserializeData4 message 0 = some (getHeader message,4) := by
  rw [deserializeData4,readLe,if_pos (by rw [size]; decide)]
  rfl

theorem decoded_io {message : List UInt8} (size : message.length = messageBufferSize)
    (known : getHeader message = readBlockMagic ∨ getHeader message = writeBlockMagic ∨
      getHeader message = eraseBlockMagic) : ∃ request,OcssdIoRequest.ofMessage message = some request := by
  obtain ⟨blockIndex,first⟩ := read4 message (p := 4) (by rw [size]; decide)
  obtain ⟨count,second⟩ := read8 message (p := 8) (by rw [size]; decide)
  obtain ⟨offset,third⟩ := read8 message (p := 16) (by rw [size]; decide)
  unfold OcssdIoRequest.ofMessage
  rw [read_header size]
  rcases known with magic | magic | magic
  · exact ⟨⟨.readBlock,blockIndex,count,offset⟩,by simp [magic,first,second,third]⟩
  · exact ⟨⟨.writeBlock,blockIndex,count,offset⟩,by
      simp [magic,first,second,third,readBlockMagic,writeBlockMagic]⟩
  · exact ⟨⟨.eraseBlock,blockIndex,count,offset⟩,by
      simp [magic,first,second,third,readBlockMagic,writeBlockMagic,eraseBlockMagic]⟩

theorem decoded_alloc {message : List UInt8} (size : message.length = messageBufferSize)
    (magic : getHeader message = requestMagic) : ∃ request,OcssdAllocRequest.ofMessage message = some request := by
  obtain ⟨numChannels,first⟩ := read4 message (p := 4) (by rw [size]; decide)
  obtain ⟨numBlocks,second⟩ := read4 message (p := 8) (by rw [size]; decide)
  obtain ⟨shared,third⟩ := read4 message (p := 12) (by rw [size]; decide)
  obtain ⟨numaId,fourth⟩ := read4 message (p := 16) (by rw [size]; decide)
  obtain ⟨remote,fifth⟩ := read4 message (p := 20) (by rw [size]; decide)
  unfold OcssdAllocRequest.ofMessage
  rw [read_header size]
  exact ⟨⟨numChannels,numBlocks,shared,numaId,remote⟩,by simp [magic,first,second,third,fourth,fifth]⟩

theorem found_block {conn : OcssdConn Dev Vblk} (held : none ∉ conn.blksArray) {index : Nat}
    (inside : index < conn.blksArray.length) : ∃ blk,conn.blksArray[index]? = some (some blk) := by
  have found := List.getElem?_eq_getElem inside
  cases pointer : conn.blksArray[index] with
  | none => exact absurd (pointer ▸ List.getElem_mem inside) held
  | some blk => exact ⟨blk,by rw [found,pointer]⟩

-- A call that is given a request of this size and then `rest`: it answers it and
-- leaves `rest`, or it is still waiting for reads that bring the request.
def Answers (plan : List (ReadEvent Errno)) (size : Nat) (rest : List UInt8) (reply : Reply World Dev Vblk)
    (r : Handled World Dev Vblk) : Prop :=
  (∃ plan',plan' <:+ plan ∧ plan.length ≤ plan'.length+size ∧ r = ⟨reply,⟨rest,plan'⟩⟩) ∨
    (r.ending = .waiting ∧ r.socket.stream ≠ [] ∧ plan.length < size)

theorem write_target {conn : OcssdConn Dev Vblk} (held : none ∉ conn.blksArray) {frame : Frame}
    (inside : IndexInside conn frame) (write : getHeader frame.message = writeBlockMagic)
    (session : Session World Vblk) : ∃ blk memory,
      serveWrite lib conn session frame =
        ⟨conn,(vblkWrite lib (some blk) frame.payload session).2,.returned 0⟩ ∧
      ∀ socket,processWriteRequest lib conn session socket frame.message = finishWrite lib conn session blk
        (fill largestRead frame.payload.length socket.plan socket.stream memory 0) := by
  obtain ⟨request,decoded⟩ := decoded_io frame.size (.inr (.inl write))
  obtain ⟨blk,found⟩ := found_block held (inside request decoded)
  have size : frame.payload.length = request.count.toNat := by
    rw [frame.carries,payloadLength,if_pos write,decoded]
    rfl
  refine ⟨blk,lib.malloc request.count session.world,?_,fun socket => ?_⟩
  · rw [serveWrite,decoded]
    dsimp only
    rw [found]
  · rw [processWriteRequest,decoded]
    dsimp only
    rw [found,size]

theorem write_answers {conn : OcssdConn Dev Vblk} (held : none ∉ conn.blksArray) {frame : Frame}
    (inside : IndexInside conn frame) (write : getHeader frame.message = writeBlockMagic)
    (session : Session World Vblk) {plan : List (ReadEvent Errno)} (cuts : OnlyBytes plan)
    (rest : List UInt8) : Answers plan frame.payload.length rest (serveWrite lib conn session frame)
      (processWriteRequest lib conn session ⟨frame.payload ++ rest,plan⟩ frame.message) := by
  obtain ⟨blk,memory,served,receives⟩ := write_target lib held inside write session
  rw [served,receives]
  have enough : frame.payload.length-0 ≤ (frame.payload ++ rest).length := by simp
  rcases fill_delivers (by decide : 0 < largestRead) (Nat.zero_le frame.payload.length) cuts enough
    memory with ⟨plan',part,paid,filled⟩ | ⟨waits,left,few⟩
  · refine .inl ⟨plan',part,paid,?_⟩
    rw [filled,finishWrite]
    simp only [Nat.sub_zero,List.take_left,List.drop_left,load_store]
  · refine .inr ⟨?_,?_,few⟩
    · rw [finishWrite,waits]
    · rw [finishWrite,waits]
      exact left

theorem dispatch_answers {conn : OcssdConn Dev Vblk} (held : none ∉ conn.blksArray) {frame : Frame}
    (inside : IndexInside conn frame) (session : Session World Vblk) {plan : List (ReadEvent Errno)}
    (cuts : OnlyBytes plan) (rest : List UInt8) :
    Answers plan frame.payload.length rest (answer lib conn session frame)
      (dispatch lib conn session ⟨frame.payload ++ rest,plan⟩ frame.message) := by
  have bare : getHeader frame.message ≠ writeBlockMagic → frame.payload = [] := by
    intro other
    apply List.eq_nil_of_length_eq_zero
    rw [frame.carries,payloadLength,if_neg other]
  -- Without a payload the handlers leave the socket as it is.
  have whole : ∀ reply : Reply World Dev Vblk,frame.payload = [] →
      Answers plan frame.payload.length rest reply ⟨reply,⟨frame.payload ++ rest,plan⟩⟩ := by
    intro reply empty
    exact .inl ⟨plan,List.suffix_rfl,by omega,by rw [empty,List.nil_append]⟩
  unfold answer dispatch
  dsimp only
  split
  · rename_i alloc
    exact whole _ (bare (by rw [alloc]; decide))
  · split
    · rename_i read
      exact whole _ (bare (by rw [read]; decide))
    · split
      · rename_i write
        exact write_answers lib held inside write _ cuts rest
      · rename_i alloc read write
        rw [if_pos (frame.erases alloc read write)]
        exact whole _ (bare write)

inductive Answered (lib : Lightnvm World Dev Vblk) (conn : OcssdConn Dev Vblk) (session : Session World Vblk)
    (frame : Frame) (r : Reply World Dev Vblk) : Prop where
  | allocates (magic : getHeader frame.message = requestMagic) (request : OcssdAllocRequest)
      (decoded : OcssdAllocRequest.ofMessage frame.message = some request)
      (served : r = processAllocRequest lib conn (session.log (.dispatched frame.message)) frame.message)
  | writes (blk : Vblk) (served : r = ⟨conn,(vblkWrite lib (some blk) frame.payload
      (session.log (.dispatched frame.message))).2,.returned 0⟩)
  | operates (other : getHeader frame.message ≠ writeBlockMagic) (blk : Vblk) (call : VblkCall)
      (carried : Carried conn r.conn) (ending : r.ending = .returned 0)
      (log : r.session.events = session.events ++ [.dispatched frame.message,.called (some blk) call])

theorem answer_answered {conn : OcssdConn Dev Vblk} (held : none ∉ conn.blksArray) {frame : Frame}
    (inside : IndexInside conn frame) (session : Session World Vblk) :
    Answered lib conn session frame (answer lib conn session frame) := by
  have found : ∀ {request},OcssdIoRequest.ofMessage frame.message = some request →
      ∃ blk,conn.blksArray[request.blockIndex.toNat]? = some (some blk) :=
    fun decoded => found_block held (inside _ decoded)
  unfold answer
  dsimp only
  split
  · rename_i alloc
    obtain ⟨request,decoded⟩ := decoded_alloc frame.size alloc
    exact .allocates alloc request decoded rfl
  · split
    · rename_i read
      obtain ⟨request,decoded⟩ := decoded_io frame.size (.inl read)
      obtain ⟨blk,block⟩ := found decoded
      rw [processReadRequest,decoded]
      dsimp only
      rw [block]
      exact .operates (by rw [read]; decide) blk (.pread request.count request.offset) (.queue conn _) rfl
        (List.append_assoc _ _ _)
    · split
      · rename_i write
        obtain ⟨blk,memory,served,_⟩ := write_target lib held inside write
          (session.log (.dispatched frame.message))
        exact .writes blk served
      · rename_i alloc read write
        obtain ⟨request,decoded⟩ := decoded_io frame.size (.inr (.inr (frame.erases alloc read write)))
        obtain ⟨blk,block⟩ := found decoded
        rw [processEraseRequest,decoded]
        dsimp only
        rw [block]
        exact .operates write blk .erase (.refl conn) rfl (List.append_assoc _ _ _)

theorem answer_boundary {conn : OcssdConn Dev Vblk} (boundary : AtBoundary conn) {frame : Frame}
    (inside : IndexInside conn frame) (session : Session World Vblk) :
    AtBoundary (answer lib conn session frame).conn ∧ (answer lib conn session frame).ending.stuck = false := by
  cases answer_answered lib boundary.held inside session with
  | allocates magic request decoded served =>
    obtain ⟨carried,ended⟩ := alloc_carried lib conn (session.log (.dispatched frame.message)) frame.message
    rw [served]
    exact ⟨carried_boundary carried boundary,ended⟩
  | writes blk served =>
    rw [served]
    exact ⟨boundary,rfl⟩
  | operates other blk call carried ending log =>
    rw [ending]
    exact ⟨carried_boundary carried boundary,rfl⟩

theorem noted_boundary {conn : OcssdConn Dev Vblk} (boundary : AtBoundary conn) (messageBuf : Memory) :
    AtBoundary {conn with messageBuf := messageBuf} :=
  ⟨boundary.messageEnd,boundary.state,boundary.closed,boundary.held⟩

theorem serveFrame_boundary {conn : OcssdConn Dev Vblk} (boundary : AtBoundary conn) {frame : Frame}
    (inside : IndexInside conn frame) (session : Session World Vblk) :
    AtBoundary (serveFrame lib conn session frame).conn ∧
      (serveFrame lib conn session frame).ending.stuck = false :=
  answer_boundary lib (noted_boundary boundary (store conn.messageBuf 0 frame.message)) inside session

theorem AtBoundary.active {conn : OcssdConn Dev Vblk} (boundary : AtBoundary conn) :
    ¬ (conn.closed = true ∨ conn.state ≠ .receivingCommand) := by
  rintro (closed | other)
  · rw [boundary.closed] at closed
    cases closed
  · exact other boundary.state

-- A call at a boundary either dispatches the message that comes first or is
-- still waiting for reads that bring it.
theorem header_read {conn : OcssdConn Dev Vblk} (start : conn.messageEnd = 0)
    (receiving : conn.state = .receivingCommand) (session : Session World Vblk) {plan : List (ReadEvent Errno)}
    (cuts : OnlyBytes plan) {message : List UInt8} (size : message.length = messageBufferSize)
    (rest : List UInt8) :
    let r := processIncomingRequests lib conn session ⟨message ++ rest,plan⟩
    (∃ later,later <:+ plan ∧ plan.length ≤ later.length+message.length ∧
        r = dispatch lib {conn with messageBuf := store conn.messageBuf 0 message} session ⟨rest,later⟩ message) ∨
      (r.ending = .waiting ∧ r.session = session ∧ r.socket.stream ≠ [] ∧ plan.length < message.length) := by
  dsimp only
  rw [processIncomingRequests,if_pos receiving,processCommand,start]
  have enough : messageBufferSize-0 ≤ (message ++ rest).length := by
    rw [List.length_append]
    omega
  rcases fill_delivers (by decide : 0 < largestRead) (Nat.zero_le messageBufferSize) cuts enough
    conn.messageBuf with ⟨later,part,paid,filled⟩ | ⟨waits,left,few⟩
  · rw [Nat.sub_zero,←size,List.take_left,List.drop_left] at filled
    rw [←size,filled,finishMessage]
    dsimp only
    rw [←start,←size,load_store]
    exact .inl ⟨later,part,by omega,rfl⟩
  · refine .inr ⟨?_,?_,?_,by omega⟩
    · rw [finishMessage,waits]
    · rw [finishMessage,waits]
    · rw [finishMessage,waits]
      exact left

theorem call_answers {conn : OcssdConn Dev Vblk} (boundary : AtBoundary conn) {frame : Frame}
    (inside : IndexInside conn frame) (session : Session World Vblk) {plan : List (ReadEvent Errno)}
    (cuts : OnlyBytes plan) (rest : List UInt8) :
    Answers plan frame.wire.length rest (serveFrame lib conn session frame)
      (processIncomingRequests lib conn session ⟨frame.wire ++ rest,plan⟩) := by
  have sizes : frame.wire.length = frame.message.length+frame.payload.length := List.length_append
  rw [Frame.wire,List.append_assoc]
  rcases header_read lib boundary.messageEnd boundary.state session cuts frame.size (frame.payload ++ rest) with
    ⟨later,part,paid,called⟩ | ⟨waits,_,left,few⟩
  · rw [called]
    rcases dispatch_answers lib (noted_boundary boundary (store conn.messageBuf 0 frame.message)).held
      inside session (cuts.suffix part) rest with ⟨plan',part',paid',same⟩ | ⟨waits,left,few⟩
    · exact .inl ⟨plan',part'.trans part,by rw [List.length_append]; omega,same⟩
    · exact .inr ⟨waits,left,by rw [List.length_append]; omega⟩
  · exact .inr ⟨waits,left,by rw [List.length_append]; omega⟩

theorem serve_frames {conn : OcssdConn Dev Vblk} (boundary : AtBoundary conn) {session : Session World Vblk}
    {frames : List Frame} (indexes : IndexesInside lib conn session frames) {plan : List (ReadEvent Errno)}
    (cuts : OnlyBytes plan) (tail : List UInt8) :
    (∃ plan',OnlyBytes plan' ∧ plan.length ≤ plan'.length+(wires frames).length ∧
        AtBoundary (serveFrames lib conn session frames).1 ∧
        serveReads lib conn session ⟨wires frames ++ tail,plan⟩ =
          serveReads lib (serveFrames lib conn session frames).1 (serveFrames lib conn session frames).2
            ⟨tail,plan'⟩) ∨
      ((serveReads lib conn session ⟨wires frames ++ tail,plan⟩).socket.stream ≠ [] ∧
        plan.length < (wires frames).length) := by
  induction frames generalizing conn session plan with
  | nil => exact .inl ⟨plan,cuts,by simp,boundary,rfl⟩
  | cons frame frames ih =>
    obtain ⟨inside,indexes⟩ := indexes
    obtain ⟨boundary',back⟩ := serveFrame_boundary lib boundary inside session
    have here : wires (frame :: frames) ++ tail = frame.wire ++ (wires frames ++ tail) := by
      rw [wires,List.flatMap_cons,List.append_assoc]
      rfl
    have size : (wires (frame :: frames)).length = frame.wire.length+(wires frames).length := by
      rw [wires,List.flatMap_cons,List.length_append]
      rfl
    rw [here,size]
    rcases call_answers lib boundary inside session cuts (wires frames ++ tail) with
      ⟨later,part,paid,called⟩ | ⟨waits,left,few⟩
    · rw [serve_goes boundary.active (by rw [called]; exact Bool.eq_false_iff.mp back),called]
      rcases ih boundary' indexes (cuts.suffix part) with ⟨plan',cuts',paid',boundary'',same⟩ | ⟨left,few⟩
      · exact .inl ⟨plan',cuts',by omega,boundary'',same⟩
      · exact .inr ⟨left,by omega⟩
    · refine .inr ⟨?_,by omega⟩
      rw [serve_stops boundary.active (by rw [waits]; rfl)]
      exact left

-- A stream that stops inside a request. Its index counts once the header is there.
def Unfinished (conn : OcssdConn Dev Vblk) (tail : List UInt8) : Prop :=
  tail = [] ∨ ∃ last : Frame,tail <+: last.wire ∧ tail.length < last.wire.length ∧ IndexInside conn last

def begun (tail : List UInt8) : List (Event Vblk) :=
  if tail.length < messageBufferSize then [] else [.dispatched (tail.take messageBufferSize)]

-- What becomes of a request that the stream does not finish, in a call or in the
-- whole run that ends with it. `noted` is what the log gets of it.
structure Abandoned (session : Session World Vblk) (plan : List (ReadEvent Errno)) (tail : List UInt8)
    (noted : List (Event Vblk)) (after : Session World Vblk) (socket : Socket Errno) : Prop where
  reads : tail.length ≤ plan.length → socket.stream = []
  manager : after.manager = session.manager
  world : after.world = session.world
  events : socket.stream = [] → after.events = session.events ++ noted

def Over (r : Handled World Dev Vblk) : Prop :=
  r.ending = .waiting ∨ r.ending = .returned (-1) ∧ r.conn.closed = true

theorem serve_over {conn : OcssdConn Dev Vblk} (boundary : AtBoundary conn) {session : Session World Vblk}
    {socket : Socket Errno} (past : Over (processIncomingRequests lib conn session socket)) :
    (serveReads lib conn session socket).session = (processIncomingRequests lib conn session socket).session ∧
      (serveReads lib conn session socket).socket = (processIncomingRequests lib conn session socket).socket := by
  rcases past with waits | ⟨returned,closed⟩
  · rw [serve_stops boundary.active (by rw [waits]; rfl)]
    exact ⟨rfl,rfl⟩
  · rw [serve_goes boundary.active (by rw [returned]; nofun),serve_rests (.inl closed)]
    exact ⟨rfl,rfl⟩

theorem header_abandoned {conn : OcssdConn Dev Vblk} (boundary : AtBoundary conn) (session : Session World Vblk)
    {plan : List (ReadEvent Errno)} (cuts : OnlyBytes plan) {tail : List UInt8}
    (short : tail.length < messageBufferSize) :
    Over (processIncomingRequests lib conn session ⟨tail,plan⟩) ∧
      Abandoned session plan tail [] (processIncomingRequests lib conn session ⟨tail,plan⟩).session
        (processIncomingRequests lib conn session ⟨tail,plan⟩).socket := by
  obtain ⟨ended,reads⟩ := fill_starves (by decide : 0 < largestRead) (Nat.zero_le messageBufferSize) cuts short
    conn.messageBuf
  rw [processIncomingRequests,if_pos boundary.state,processCommand,boundary.messageEnd,finishMessage]
  rcases ended with eof | waits
  · rw [eof]
    exact ⟨.inr ⟨rfl,rfl⟩,reads,rfl,rfl,fun _ => (List.append_nil _).symm⟩
  · rw [waits]
    exact ⟨.inl rfl,reads,rfl,rfl,fun _ => (List.append_nil _).symm⟩

theorem payload_abandoned {conn : OcssdConn Dev Vblk} (held : none ∉ conn.blksArray) {frame : Frame}
    (inside : IndexInside conn frame) (write : getHeader frame.message = writeBlockMagic)
    (session : Session World Vblk) {plan : List (ReadEvent Errno)} (cuts : OnlyBytes plan) {part : List UInt8}
    (short : part.length < frame.payload.length) :
    Over (processWriteRequest lib conn session ⟨part,plan⟩ frame.message) ∧
      Abandoned session plan part [] (processWriteRequest lib conn session ⟨part,plan⟩ frame.message).session
        (processWriteRequest lib conn session ⟨part,plan⟩ frame.message).socket := by
  obtain ⟨blk,memory,_,receives⟩ := write_target lib held inside write session
  obtain ⟨ended,reads⟩ := fill_starves (by decide : 0 < largestRead) (Nat.zero_le frame.payload.length) cuts
    short memory
  rw [receives,finishWrite]
  rcases ended with eof | waits
  · rw [eof]
    exact ⟨.inr ⟨rfl,rfl⟩,reads,rfl,rfl,fun _ => (List.append_nil _).symm⟩
  · rw [waits]
    exact ⟨.inl rfl,reads,rfl,rfl,fun _ => (List.append_nil _).symm⟩

theorem write_abandoned {conn : OcssdConn Dev Vblk} (boundary : AtBoundary conn) {frame : Frame}
    (inside : IndexInside conn frame) (session : Session World Vblk) {plan : List (ReadEvent Errno)}
    (cuts : OnlyBytes plan) {part : List UInt8} (short : part.length < frame.payload.length) :
    let r := processIncomingRequests lib conn session ⟨frame.message ++ part,plan⟩
    Over r ∧ Abandoned session plan (frame.message ++ part) [.dispatched frame.message] r.session r.socket := by
  have write : getHeader frame.message = writeBlockMagic := by
    by_contra other
    have bare := frame.carries
    rw [payloadLength,if_neg other] at bare
    omega
  dsimp only
  rcases header_read lib boundary.messageEnd boundary.state session cuts frame.size part with
    ⟨later,rest,paid,called⟩ | ⟨waits,same,left,few⟩
  · rw [called,dispatch]
    rw [write,if_neg (by decide),if_neg (by decide),if_pos rfl]
    obtain ⟨past,abandoned⟩ := payload_abandoned lib
      (noted_boundary boundary (store conn.messageBuf 0 frame.message)).held inside write
      (session.log (.dispatched frame.message)) (cuts.suffix rest) short
    refine ⟨past,?_,abandoned.manager,abandoned.world,?_⟩
    · intro many
      rw [List.length_append] at many
      exact abandoned.reads (by omega)
    · intro all
      rw [abandoned.events all,List.append_nil]
      rfl
  · refine ⟨.inl waits,?_,by rw [same],by rw [same],?_⟩
    · intro many
      rw [List.length_append] at many
      omega
    · intro all
      exact absurd all left

theorem call_abandoned {conn : OcssdConn Dev Vblk} (boundary : AtBoundary conn) (session : Session World Vblk)
    {plan : List (ReadEvent Errno)} (cuts : OnlyBytes plan) {tail : List UInt8}
    (unfinished : Unfinished conn tail) :
    let r := processIncomingRequests lib conn session ⟨tail,plan⟩
    Over r ∧ Abandoned session plan tail (begun tail) r.session r.socket := by
  by_cases short : tail.length < messageBufferSize
  · rw [begun,if_pos short]
    exact header_abandoned lib boundary session cuts short
  · rcases unfinished with empty | ⟨last,⟨missing,whole⟩,less,inside⟩
    · rw [empty] at short
      exact absurd (by decide) short
    have front : tail.take messageBufferSize = last.message := by
      have taken := congrArg (List.take messageBufferSize) whole
      rwa [List.take_append_of_le_length (Nat.le_of_not_lt short),Frame.wire,
        List.take_append_of_le_length (Nat.le_of_eq last.size.symm),
        List.take_of_length_le (Nat.le_of_eq last.size)] at taken
    have cut : tail = last.message ++ tail.drop messageBufferSize := by
      rw [←front,List.take_append_drop]
    have size := last.size
    have lengths : tail.length = last.message.length+(tail.drop messageBufferSize).length := by
      rw [←List.length_append,←cut]
    have few : (tail.drop messageBufferSize).length < last.payload.length := by
      rw [Frame.wire,List.length_append] at less
      omega
    have abandoned := write_abandoned lib boundary inside session cuts few
    rw [←cut] at abandoned
    rw [begun,if_neg short,front]
    exact abandoned

theorem tail_abandoned {conn : OcssdConn Dev Vblk} (boundary : AtBoundary conn) (session : Session World Vblk)
    {plan : List (ReadEvent Errno)} (cuts : OnlyBytes plan) {tail : List UInt8}
    (unfinished : Unfinished conn tail) :
    Abandoned session plan tail (begun tail) (serveReads lib conn session ⟨tail,plan⟩).session
      (serveReads lib conn session ⟨tail,plan⟩).socket := by
  obtain ⟨past,abandoned⟩ := call_abandoned lib boundary session cuts unfinished
  obtain ⟨session',socket'⟩ := serve_over lib boundary past
  rw [session',socket']
  exact abandoned

-- What one request leaves in the log: its dispatch, no other, and for a write
-- one vblk write of its payload.
structure Segment (frame : Frame) (segment : List (Event Vblk)) : Prop where
  once : ∃ rest,segment = .dispatched frame.message :: rest ∧ ∀ message,.dispatched message ∉ rest
  writes : getHeader frame.message = writeBlockMagic →
    ∃ blk,segment = [.dispatched frame.message,.called (some blk) (.write frame.payload)]

theorem answer_segment {conn : OcssdConn Dev Vblk} (held : none ∉ conn.blksArray) {frame : Frame}
    (inside : IndexInside conn frame) (session : Session World Vblk) :
    ∃ segment,Segment frame segment ∧ (answer lib conn session frame).session.events = session.events ++ segment := by
  cases answer_answered lib held inside session with
  | allocates magic request decoded served =>
    have other : getHeader frame.message ≠ writeBlockMagic := by rw [magic]; decide
    obtain ⟨calls,grown,fine⟩ := (@allocRequest_worked World Dev Vblk lib (fun _ => True) (fun _ _ => True)
      (respects_all lib) conn (session.log (.dispatched frame.message)) frame.message request decoded
      (fun _ _ _ _ _ _ _ _ _ _ => trivial) (fun _ _ => trivial)).1.calls
    simp only [Session.log,List.append_assoc,List.cons_append,List.nil_append] at grown
    rw [served]
    refine ⟨_,⟨⟨_,rfl,?_⟩,fun write => absurd write other⟩,grown⟩
    intro message member
    rcases List.mem_cons.mp member with grant | call
    · cases grant
    · obtain ⟨_,_,same,_⟩ := fine _ call
      cases same
  | writes blk served =>
    rw [served]
    exact ⟨[.dispatched frame.message,.called (some blk) (.write frame.payload)],
      ⟨⟨_,rfl,nofun⟩,fun _ => ⟨blk,rfl⟩⟩,List.append_assoc _ _ _⟩
  | operates other blk call carried ending log =>
    exact ⟨[.dispatched frame.message,.called (some blk) call],
      ⟨⟨_,rfl,nofun⟩,fun write => absurd write other⟩,log⟩

theorem frames_segments {conn : OcssdConn Dev Vblk} (boundary : AtBoundary conn) {session : Session World Vblk}
    {frames : List Frame} (indexes : IndexesInside lib conn session frames) :
    ∃ segments,List.Forall₂ Segment frames segments ∧
      (serveFrames lib conn session frames).2.events = session.events ++ segments.flatten := by
  induction frames generalizing conn session with
  | nil => exact ⟨[],.nil,(List.append_nil _).symm⟩
  | cons frame frames ih =>
    obtain ⟨inside,indexes⟩ := indexes
    obtain ⟨segment,here,grown⟩ := answer_segment lib
      (noted_boundary boundary (store conn.messageBuf 0 frame.message)).held inside session
    obtain ⟨segments,rest,all⟩ := ih (serveFrame_boundary lib boundary inside session).1 indexes
    refine ⟨segment :: segments,.cons here rest,?_⟩
    rw [serveFrames]
    rw [all,serveFrame,grown,List.flatten_cons,List.append_assoc]

end Frames

variable {World Dev Vblk : Type}

-- However the stream of these requests and of the beginning of one more is cut
-- into reads: enough reads bring all of it, and a run that has read all of it has
-- served the whole requests as if each had come in one piece, and nothing else.
theorem requests_framed (lib : Lightnvm World Dev Vblk) {conn : OcssdConn Dev Vblk} (boundary : AtBoundary conn)
    (session : Session World Vblk) {frames : List Frame} (indexes : IndexesInside lib conn session frames)
    {tail : List UInt8} (unfinished : Unfinished (serveFrames lib conn session frames).1 tail)
    {plan : List (ReadEvent Errno)} (cuts : OnlyBytes plan) :
    let r := serveReads lib conn session ⟨wires frames ++ tail,plan⟩
    let served := (serveFrames lib conn session frames).2
    ((wires frames ++ tail).length ≤ plan.length → r.socket.stream = []) ∧
      (r.socket.stream = [] → r.session.manager = served.manager ∧ r.session.world = served.world ∧
        ∃ segments,List.Forall₂ Segment frames segments ∧
          r.session.events = session.events ++ segments.flatten ++ begun tail) := by
  obtain ⟨segments,each,log⟩ := frames_segments lib boundary indexes
  dsimp only
  rw [List.length_append]
  rcases serve_frames lib boundary indexes cuts tail with ⟨later,cuts',paid,boundary',same⟩ | ⟨left,few⟩
  · have abandoned := tail_abandoned lib boundary' (serveFrames lib conn session frames).2 cuts' unfinished
    rw [same]
    refine ⟨fun many => abandoned.reads (by omega),fun all => ⟨abandoned.manager,abandoned.world,segments,each,?_⟩⟩
    rw [abandoned.events all,log]
  · exact ⟨fun many => by omega,fun all => absurd all left⟩

-- A write of two bytes to the one block of a connection, then the same write
-- without its last byte, in reads of four bytes and less.
def writeTwo : Frame where
  message := [2,0x64,0,0,0,0,0,0,2,0,0,0,0,0,0,0,0,0,0,0,0,0,0,0]
  payload := [7,8]
  size := rfl
  known := by decide
  carries := by decide

def oneBlock : OcssdConn Unit Unit := (OcssdConn.accepted (fun _ => 0)).addBlock (some ()) 4096

theorem writeTwo_inside : IndexInside oneBlock writeTwo := by
  intro request decoded
  cases (by decide : OcssdIoRequest.ofMessage writeTwo.message = some ⟨.writeBlock,0,2,0⟩).symm.trans decoded
  decide

theorem cut_write_framed :
    let r := serveReads quietLib oneBlock ⟨.ofDevices [],(),[]⟩
      ⟨wires [writeTwo] ++ (writeTwo.message ++ [7]),List.replicate 51 (.bytes 3)⟩
    r.socket.stream = [] ∧ ∃ segment,Segment writeTwo segment ∧
      r.session.events = segment ++ [.dispatched writeTwo.message] := by
  have boundary : AtBoundary oneBlock := ⟨rfl,rfl,rfl,by decide⟩
  have cuts : OnlyBytes (List.replicate 51 (.bytes 3 : ReadEvent Errno)) :=
    fun event member => ⟨3,List.eq_of_mem_replicate member⟩
  have indexes : IndexesInside quietLib oneBlock ⟨.ofDevices [],(),[]⟩ [writeTwo] := ⟨writeTwo_inside,trivial⟩
  have unfinished : Unfinished (serveFrames quietLib oneBlock ⟨.ofDevices [],(),[]⟩ [writeTwo]).1
      (writeTwo.message ++ [7]) := .inr ⟨writeTwo,⟨[8],rfl⟩,by decide,writeTwo_inside⟩
  obtain ⟨reads,serves⟩ := requests_framed quietLib boundary ⟨.ofDevices [],(),[]⟩ indexes unfinished cuts
  have all := reads (by decide)
  obtain ⟨_,_,segments,each,log⟩ := serves all
  cases each with
  | cons here rest =>
    cases rest
    exact ⟨all,_,here,by rw [log]; simp [begun,messageBufferSize,writeTwo]⟩

end OcssdServer.RequestFraming
