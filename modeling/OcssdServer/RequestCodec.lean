import OcssdServer.RequestFraming
import OcssdServer.VirtualSsdCodec

namespace OcssdServer.RequestCodec
open ByteBuffers SocketFill VirtualSsdCodec RequestFraming

-- The two request formats of the header comments.
def ioWire (magic : UInt32) (request : OcssdIoRequest) : List UInt8 :=
  leBytes 4 magic.toNat ++ (leBytes 4 request.blockIndex.toNat ++
    (leBytes 8 request.count.toNat ++ leBytes 8 request.offset.toNat))

def allocWire (request : OcssdAllocRequest) : List UInt8 :=
  leBytes 4 requestMagic.toNat ++ (leBytes 4 request.numChannels.toNat ++
    (leBytes 4 request.numBlocks.toNat ++ (leBytes 4 request.shared.toNat ++
      (leBytes 4 request.numaId.toNat ++ leBytes 4 request.remote.toNat))))

theorem ioWire_length (magic : UInt32) (request : OcssdIoRequest) :
    (ioWire magic request).length = messageBufferSize := by
  simp [ioWire,messageBufferSize]

theorem allocWire_length (request : OcssdAllocRequest) : (allocWire request).length = messageBufferSize := by
  simp [allocWire,messageBufferSize]

theorem io_serialize {request : OcssdIoRequest} {magic : UInt32} (known : request.command.magic = some magic)
    (buffer : Memory) : request.serialize buffer = (store buffer 0 (ioWire magic request),messageBufferSize) := by
  rw [OcssdIoRequest.serialize,known]
  simp only [serializeData4,serializeData8,Cursor.put_put]
  rw [ioWire,Cursor.put]
  simp [messageBufferSize]

theorem alloc_serialize (request : OcssdAllocRequest) (buffer : Memory) :
    request.serialize buffer = (store buffer 0 (allocWire request),messageBufferSize) := by
  rw [OcssdAllocRequest.serialize]
  simp only [serializeData4,Cursor.put_put]
  rw [allocWire,Cursor.put]
  simp [messageBufferSize]

theorem wire_header (magic : UInt32) (rest : List UInt8) : getHeader (leBytes 4 magic.toNat ++ rest) = magic := by
  have front : (leBytes 4 magic.toNat ++ rest).take 4 = leBytes 4 magic.toNat := by simp
  have fits : magic.toNat < 256 ^ 4 := magic.toNat_lt
  rw [getHeader,front,leValue_leBytes fits,UInt32.ofNat_toNat]

-- The decoder's switch over the magic, the other way round than the encoder's.
def ofMagic (magic : UInt32) : Option RequestCode :=
  if magic = readBlockMagic then some .readBlock
  else if magic = writeBlockMagic then some .writeBlock
  else if magic = eraseBlockMagic then some .eraseBlock
  else none

theorem ofMagic_iff {magic : UInt32} {command : RequestCode} :
    ofMagic magic = some command ↔ command.magic = some magic := by
  constructor
  · intro selected
    unfold ofMagic at selected
    split at selected
    · rename_i read
      cases selected
      rw [read]
      rfl
    · split at selected
      · rename_i write
        cases selected
        rw [write]
        rfl
      · split at selected
        · rename_i erase
          cases selected
          rw [erase]
          rfl
        · cases selected
  · intro known
    cases command with
    | noRequest => cases known
    | allocVssdRequest => cases known
    | readBlock => cases known; decide
    | writeBlock => cases known; decide
    | eraseBlock => cases known; decide

theorem io_fields (message : List UInt8) : OcssdIoRequest.ofMessage message =
    (deserializeData4 message 0).bind fun magic => (ofMagic magic.1).bind fun command =>
      (deserializeData4 message magic.2).bind fun blockIndex =>
        (deserializeData8 message blockIndex.2).bind fun count =>
          (deserializeData8 message count.2).bind fun offset =>
            some ⟨command,blockIndex.1,count.1,offset.1⟩ := by
  unfold OcssdIoRequest.ofMessage ofMagic
  cases deserializeData4 message 0 with
  | none => rfl
  | some magic =>
    simp only [Option.bind_eq_bind,Option.bind_some]
    split
    · rfl
    · split
      · rfl
      · split
        · rfl
        · rfl

theorem io_roundtrip {request : OcssdIoRequest} {magic : UInt32} (known : request.command.magic = some magic) :
    OcssdIoRequest.ofMessage (ioWire magic request) = some request := by
  have whole := carries_start (ioWire magic request) []
  rw [List.append_nil] at whole
  nth_rewrite 2 [ioWire] at whole
  simp only [carries_append,leBytes_length] at whole
  obtain ⟨one,two,three,four⟩ := whole
  rw [io_fields,data4_read one,Option.bind_some,ofMagic_iff.mpr known,Option.bind_some,data4_read two,
    Option.bind_some,data8_read three,Option.bind_some,data8_read four]
  rfl

theorem io_canonical {message : List UInt8} (size : message.length = messageBufferSize) {request : OcssdIoRequest}
    (decoded : OcssdIoRequest.ofMessage message = some request) :
    ∃ magic,request.command.magic = some magic ∧ message = ioWire magic request := by
  rw [io_fields] at decoded
  obtain ⟨⟨magic,p1⟩,first,decoded⟩ := Option.bind_eq_some_iff.mp decoded
  obtain ⟨command,selected,decoded⟩ := Option.bind_eq_some_iff.mp decoded
  obtain ⟨⟨blockIndex,p2⟩,second,decoded⟩ := Option.bind_eq_some_iff.mp decoded
  obtain ⟨⟨count,p3⟩,third,decoded⟩ := Option.bind_eq_some_iff.mp decoded
  obtain ⟨⟨offset,p4⟩,fourth,decoded⟩ := Option.bind_eq_some_iff.mp decoded
  cases decoded
  obtain ⟨one,rfl⟩ := data4_iff.mp first
  obtain ⟨two,rfl⟩ := data4_iff.mp second
  obtain ⟨three,rfl⟩ := data8_iff.mp third
  obtain ⟨four,rfl⟩ := data8_iff.mp fourth
  have whole : Carries message 0 (ioWire magic ⟨command,blockIndex,count,offset⟩) := by
    simp only [ioWire,carries_append,leBytes_length]
    exact ⟨one,two,three,four⟩
  exact ⟨magic,ofMagic_iff.mp selected,(whole.whole ((ioWire_length _ _).trans size.symm)).symm⟩

theorem alloc_roundtrip (request : OcssdAllocRequest) :
    OcssdAllocRequest.ofMessage (allocWire request) = some request := by
  have whole := carries_start (allocWire request) []
  rw [List.append_nil] at whole
  nth_rewrite 2 [allocWire] at whole
  simp only [carries_append,leBytes_length] at whole
  obtain ⟨one,two,three,four,five,six⟩ := whole
  rw [OcssdAllocRequest.ofMessage]
  simp [data4_read one,data4_read two,data4_read three,data4_read four,data4_read five,data4_read six]

theorem alloc_canonical {message : List UInt8} (size : message.length = messageBufferSize)
    {request : OcssdAllocRequest} (decoded : OcssdAllocRequest.ofMessage message = some request) :
    message = allocWire request := by
  unfold OcssdAllocRequest.ofMessage at decoded
  obtain ⟨⟨magic,p1⟩,first,decoded⟩ := Option.bind_eq_some_iff.mp decoded
  dsimp only at decoded
  split at decoded
  · cases decoded
  rename_i known
  obtain ⟨⟨numChannels,p2⟩,second,decoded⟩ := Option.bind_eq_some_iff.mp decoded
  obtain ⟨⟨numBlocks,p3⟩,third,decoded⟩ := Option.bind_eq_some_iff.mp decoded
  obtain ⟨⟨shared,p4⟩,fourth,decoded⟩ := Option.bind_eq_some_iff.mp decoded
  obtain ⟨⟨numaId,p5⟩,fifth,decoded⟩ := Option.bind_eq_some_iff.mp decoded
  obtain ⟨⟨remote,p6⟩,sixth,decoded⟩ := Option.bind_eq_some_iff.mp decoded
  cases decoded
  obtain ⟨one,rfl⟩ := data4_iff.mp first
  obtain ⟨two,rfl⟩ := data4_iff.mp second
  obtain ⟨three,rfl⟩ := data4_iff.mp third
  obtain ⟨four,rfl⟩ := data4_iff.mp fourth
  obtain ⟨five,rfl⟩ := data4_iff.mp fifth
  obtain ⟨six,rfl⟩ := data4_iff.mp sixth
  rw [not_not.mp known] at one
  have whole : Carries message 0 (allocWire ⟨numChannels,numBlocks,shared,numaId,remote⟩) := by
    simp only [allocWire,carries_append,leBytes_length]
    exact ⟨one,two,three,four,five,six⟩
  exact (whole.whole ((allocWire_length _).trans size.symm)).symm

inductive ClientRequest where
  | io (request : OcssdIoRequest)
  | alloc (request : OcssdAllocRequest)

namespace ClientRequest

def serialize : ClientRequest → Memory → Memory × Nat
  | .io request => request.serialize
  | .alloc request => request.serialize

def Sendable : ClientRequest → Prop
  | .io request => request.command = .readBlock ∨ request.command = .writeBlock ∨ request.command = .eraseBlock
  | .alloc _ => True

def Encodes (request : ClientRequest) (message : List UInt8) : Prop :=
  message.length = messageBufferSize ∧ ∀ buffer,request.serialize buffer = (store buffer 0 message,messageBufferSize)

theorem sendable_iff {request : OcssdIoRequest} :
    Sendable (.io request) ↔ ∃ magic,request.command.magic = some magic := by
  cases command : request.command with
  | noRequest => simp [Sendable,RequestCode.magic,command]
  | allocVssdRequest => simp [Sendable,RequestCode.magic,command]
  | readBlock => simp [Sendable,RequestCode.magic,command]
  | writeBlock => simp [Sendable,RequestCode.magic,command]
  | eraseBlock => simp [Sendable,RequestCode.magic,command]

end ClientRequest

section Calls
variable {World Dev Vblk : Type} (lib : Lightnvm World Dev Vblk)

def onBlock (conn : OcssdConn Dev Vblk) (session : Session World Vblk) (socket : Socket Errno)
    (request : OcssdIoRequest) (work : Vblk → Handled World Dev Vblk) : Handled World Dev Vblk :=
  match conn.blksArray[request.blockIndex.toNat]? with
  | none => ⟨⟨conn,session,.badIndex⟩,socket⟩
  | some none => ⟨⟨conn,session,.returned (-1)⟩,socket⟩
  | some (some blk) => work blk

def readWork (conn : OcssdConn Dev Vblk) (session : Session World Vblk) (socket : Socket Errno)
    (request : OcssdIoRequest) : Handled World Dev Vblk :=
  onBlock conn session socket request fun blk =>
    let r := vblkPread lib (some blk) (lib.malloc request.count session.world) request.count request.offset session
    ⟨⟨conn.queue ⟨r.1.2,request.count,0⟩,r.2,.returned 0⟩,socket⟩

def writeWork (conn : OcssdConn Dev Vblk) (session : Session World Vblk) (socket : Socket Errno)
    (request : OcssdIoRequest) : Handled World Dev Vblk :=
  onBlock conn session socket request fun blk =>
    finishWrite lib conn session blk (fill largestRead request.count.toNat socket.plan socket.stream
      (lib.malloc request.count session.world) 0)

def eraseWork (conn : OcssdConn Dev Vblk) (session : Session World Vblk) (socket : Socket Errno)
    (request : OcssdIoRequest) : Handled World Dev Vblk :=
  onBlock conn session socket request fun blk =>
    ⟨⟨conn,(vblkErase lib (some blk) session).2,.returned 0⟩,socket⟩

def allocWork (conn : OcssdConn Dev Vblk) (session : Session World Vblk) (socket : Socket Errno)
    (request : OcssdAllocRequest) : Handled World Dev Vblk :=
  let grant := session.manager.allocOcssdResource .new request
  let remote := grant.request.remote ≠ 0
  let session := Session.log {session with manager := grant.manager} (.granted grant.vssd remote)
  if grant.granted = 0 ∨ grant.vssd.units.length < 1 then ⟨⟨conn,session,.returned (-1)⟩,socket⟩
  else
    let buf := lib.malloc (UInt64.ofNat vssdBufferSize) session.world
    if remote then
      let r := initializeRemoteVssd lib {conn with remoteVssd := true} session grant.vssd
      match r.ending with
      | .returned _ => ⟨⟨queueVssd r.conn grant.vssd buf,r.session,.returned 0⟩,socket⟩
      | _ => ⟨r,socket⟩
    else ⟨⟨queueVssd conn grant.vssd buf,session,.returned 0⟩,socket⟩

variable {lib} in
theorem read_works {message : List UInt8} {request : OcssdIoRequest}
    (decoded : OcssdIoRequest.ofMessage message = some request) (conn : OcssdConn Dev Vblk)
    (session : Session World Vblk) (socket : Socket Errno) :
    ⟨processReadRequest lib conn session message,socket⟩ = readWork lib conn session socket request := by
  rw [processReadRequest,decoded,readWork,onBlock]
  dsimp only
  cases conn.blksArray[request.blockIndex.toNat]? with
  | none => rfl
  | some pointer => cases pointer <;> rfl

variable {lib} in
theorem write_works {message : List UInt8} {request : OcssdIoRequest}
    (decoded : OcssdIoRequest.ofMessage message = some request) (conn : OcssdConn Dev Vblk)
    (session : Session World Vblk) (socket : Socket Errno) :
    processWriteRequest lib conn session socket message = writeWork lib conn session socket request := by
  rw [processWriteRequest,decoded]
  rfl

variable {lib} in
theorem erase_works {message : List UInt8} {request : OcssdIoRequest}
    (decoded : OcssdIoRequest.ofMessage message = some request) (conn : OcssdConn Dev Vblk)
    (session : Session World Vblk) (socket : Socket Errno) :
    ⟨processEraseRequest lib conn session message,socket⟩ = eraseWork lib conn session socket request := by
  rw [processEraseRequest,decoded,eraseWork,onBlock]
  dsimp only
  cases conn.blksArray[request.blockIndex.toNat]? with
  | none => rfl
  | some pointer => cases pointer <;> rfl

variable {lib} in
theorem alloc_works {message : List UInt8} {request : OcssdAllocRequest}
    (decoded : OcssdAllocRequest.ofMessage message = some request) (conn : OcssdConn Dev Vblk)
    (session : Session World Vblk) (socket : Socket Errno) :
    ⟨processAllocRequest lib conn session message,socket⟩ = allocWork lib conn session socket request := by
  rw [processAllocRequest,decoded,allocWork]
  dsimp only
  split
  · rfl
  · split
    · generalize initializeRemoteVssd lib _ _ _ = r
      cases r.ending <;> rfl
    · rfl

-- The handler of each kind of request, called with a message that its own
-- constructor decodes to the request, and at work on what that request says.
inductive Handles (conn : OcssdConn Dev Vblk) (session : Session World Vblk) (socket : Socket Errno)
    (message : List UInt8) : ClientRequest → Handled World Dev Vblk → Prop where
  | alloc (request : OcssdAllocRequest) (decoded : OcssdAllocRequest.ofMessage message = some request)
      (works : ⟨processAllocRequest lib conn session message,socket⟩ = allocWork lib conn session socket request) :
      Handles conn session socket message (.alloc request) ⟨processAllocRequest lib conn session message,socket⟩
  | read (request : OcssdIoRequest) (decoded : OcssdIoRequest.ofMessage message = some request)
      (command : request.command = .readBlock)
      (works : ⟨processReadRequest lib conn session message,socket⟩ = readWork lib conn session socket request) :
      Handles conn session socket message (.io request) ⟨processReadRequest lib conn session message,socket⟩
  | write (request : OcssdIoRequest) (decoded : OcssdIoRequest.ofMessage message = some request)
      (command : request.command = .writeBlock)
      (works : processWriteRequest lib conn session socket message = writeWork lib conn session socket request) :
      Handles conn session socket message (.io request) (processWriteRequest lib conn session socket message)
  | erase (request : OcssdIoRequest) (decoded : OcssdIoRequest.ofMessage message = some request)
      (command : request.command = .eraseBlock)
      (works : ⟨processEraseRequest lib conn session message,socket⟩ = eraseWork lib conn session socket request) :
      Handles conn session socket message (.io request) ⟨processEraseRequest lib conn session message,socket⟩

variable {lib} {message : List UInt8} (conn : OcssdConn Dev Vblk) (session : Session World Vblk)
  (socket : Socket Errno)

theorem io_dispatched (size : message.length = messageBufferSize) {request : OcssdIoRequest}
    (decoded : OcssdIoRequest.ofMessage message = some request) :
    Handles lib conn (session.log (.dispatched message)) socket message (.io request)
      (dispatch lib conn session socket message) := by
  obtain ⟨magic,known,whole⟩ := io_canonical size decoded
  have header : getHeader message = magic := by
    rw [whole]
    exact wire_header _ _
  rw [dispatch,header]
  cases command : request.command with
  | noRequest => rw [command] at known; cases known
  | allocVssdRequest => rw [command] at known; cases known
  | readBlock =>
    rw [command] at known
    cases known
    exact .read request decoded command (read_works decoded conn _ socket)
  | writeBlock =>
    rw [command] at known
    cases known
    exact .write request decoded command (write_works decoded conn _ socket)
  | eraseBlock =>
    rw [command] at known
    cases known
    exact .erase request decoded command (erase_works decoded conn _ socket)

theorem alloc_dispatched (size : message.length = messageBufferSize) {request : OcssdAllocRequest}
    (decoded : OcssdAllocRequest.ofMessage message = some request) :
    Handles lib conn (session.log (.dispatched message)) socket message (.alloc request)
      (dispatch lib conn session socket message) := by
  have header : getHeader message = requestMagic := by
    rw [alloc_canonical size decoded]
    exact wire_header _ _
  rw [dispatch,if_pos header]
  exact .alloc request decoded (alloc_works decoded conn _ socket)

theorem message_dispatched (size : message.length = messageBufferSize) :
    dispatch lib conn session socket message = ⟨⟨conn,session,.returned (-1)⟩,socket⟩ ∨
      ∃ request,request.Sendable ∧ request.Encodes message ∧
        Handles lib conn (session.log (.dispatched message)) socket message request
          (dispatch lib conn session socket message) := by
  by_cases alloc : getHeader message = requestMagic
  · obtain ⟨request,decoded⟩ := decoded_alloc size alloc
    refine .inr ⟨.alloc request,trivial,⟨size,fun buffer => ?_⟩,alloc_dispatched conn session socket size decoded⟩
    rw [alloc_canonical size decoded]
    exact alloc_serialize request buffer
  by_cases names : getHeader message = readBlockMagic ∨ getHeader message = writeBlockMagic ∨
      getHeader message = eraseBlockMagic
  · obtain ⟨request,decoded⟩ := decoded_io size names
    obtain ⟨magic,known,whole⟩ := io_canonical size decoded
    refine .inr ⟨.io request,?_,⟨size,fun buffer => ?_⟩,io_dispatched conn session socket size decoded⟩
    · exact ClientRequest.sendable_iff.mpr ⟨magic,known⟩
    · rw [whole]
      exact io_serialize known buffer
  · obtain ⟨read,write,erase⟩ : _ ∧ _ ∧ _ := ⟨fun read => names (.inl read),fun write => names (.inr (.inl write)),
      fun erase => names (.inr (.inr erase))⟩
    rw [dispatch,if_neg alloc,if_neg read,if_neg write,if_neg erase]
    exact .inl rfl

structure Arrives (conn : OcssdConn Dev Vblk) (socket : Socket Errno) (message : List UInt8) : Prop where
  full : (fill largestRead messageBufferSize socket.plan socket.stream conn.messageBuf conn.messageEnd).ending = .full
  bytes : load (fill largestRead messageBufferSize socket.plan socket.stream conn.messageBuf conn.messageEnd).memory 0
    messageBufferSize = message

def arrived (conn : OcssdConn Dev Vblk) (socket : Socket Errno) : OcssdConn Dev Vblk × Socket Errno :=
  let r := fill largestRead messageBufferSize socket.plan socket.stream conn.messageBuf conn.messageEnd
  ({conn with messageBuf := r.memory,messageEnd := 0},r.socket)

theorem arrives_dispatched {conn : OcssdConn Dev Vblk} {socket : Socket Errno} (arrives : Arrives conn socket message) :
    processCommand lib conn session socket =
      dispatch lib (arrived conn socket).1 session (arrived conn socket).2 message := by
  rw [processCommand,finishMessage,arrives.full]
  dsimp only
  rw [arrives.bytes]
  rfl

theorem Arrives.size {conn : OcssdConn Dev Vblk} {socket : Socket Errno} (arrives : Arrives conn socket message) :
    message.length = messageBufferSize := by
  rw [←arrives.bytes,load_length]

theorem whole_arrives (size : message.length = messageBufferSize) (messageBuf : Memory) :
    Arrives (.accepted messageBuf : OcssdConn Dev Vblk) ⟨message,[.bytes 23]⟩ message := by
  have all : message.take (min (23+1) (min (messageBufferSize-0) largestRead)) = message :=
    List.take_of_length_le (by rw [size]; decide)
  have some' : message ≠ [] := by
    rintro rfl
    cases size
  have filled : fill largestRead messageBufferSize [.bytes 23] message messageBuf 0 =
      (⟨.full,store messageBuf 0 message,messageBufferSize,⟨[],[]⟩⟩ : Filled Errno) := by
    rw [fill_bytes (by decide),all,if_neg some',size,fill_done (by decide),Nat.zero_add]
    rw [List.drop_eq_nil_of_le (by rw [size]; decide)]
  constructor
  · exact congrArg Filled.ending filled
  · have same := load_store messageBuf 0 message
    rw [size] at same
    exact (congrArg (fun r => load (Filled.memory r) 0 messageBufferSize) filled).trans same

end Calls

-- The encoders, the decoders and the switch of process_command agree on every
-- message: what a client sends reaches its handler unchanged, and what reaches a
-- handler is what some client would have sent.
theorem request_codec_agrees {World Dev Vblk : Type} (lib : Lightnvm World Dev Vblk) :
    (∀ request : ClientRequest,request.Sendable → ∃ message,request.Encodes message ∧
      ∀ (conn : OcssdConn Dev Vblk) (session : Session World Vblk) (socket : Socket Errno),
        Arrives conn socket message →
        Handles lib (arrived conn socket).1 (session.log (.dispatched message)) (arrived conn socket).2 message request
          (processCommand lib conn session socket)) ∧
    ∀ (message : List UInt8) (conn : OcssdConn Dev Vblk) (session : Session World Vblk) (socket : Socket Errno),
      Arrives conn socket message →
      processCommand lib conn session socket =
          ⟨⟨(arrived conn socket).1,session,.returned (-1)⟩,(arrived conn socket).2⟩ ∨
        ∃ request : ClientRequest,request.Sendable ∧ request.Encodes message ∧
          Handles lib (arrived conn socket).1 (session.log (.dispatched message)) (arrived conn socket).2 message
            request (processCommand lib conn session socket) := by
  constructor
  · intro request sendable
    cases request with
    | alloc request =>
      refine ⟨allocWire request,⟨allocWire_length request,alloc_serialize request⟩,?_⟩
      intro conn session socket arrives
      rw [arrives_dispatched session arrives]
      exact alloc_dispatched _ session _ arrives.size (alloc_roundtrip request)
    | io request =>
      obtain ⟨magic,known⟩ := ClientRequest.sendable_iff.mp sendable
      refine ⟨ioWire magic request,⟨ioWire_length magic request,io_serialize known⟩,?_⟩
      intro conn session socket arrives
      rw [arrives_dispatched session arrives]
      exact io_dispatched _ session _ arrives.size (io_roundtrip known)
  · intro message conn session socket arrives
    rw [arrives_dispatched session arrives]
    exact message_dispatched _ session _ arrives.size

-- The largest write to the last block, sent to a new connection.
theorem largest_write_handled : ∃ message,
    let request : ClientRequest := .io ⟨.writeBlock,4294967295,18446744073709551615,18446744073709551615⟩
    let conn : OcssdConn Unit Unit := .accepted (fun _ => 0)
    let socket : Socket Errno := ⟨message,[.bytes 23]⟩
    let session : Session Unit Unit := ⟨.ofDevices [],(),[]⟩
    request.Encodes message ∧
      Handles quietLib (arrived conn socket).1 (session.log (.dispatched message)) (arrived conn socket).2 message
        request (processCommand quietLib conn session socket) := by
  obtain ⟨message,encodes,handled⟩ := (request_codec_agrees quietLib).1
    (.io ⟨.writeBlock,4294967295,18446744073709551615,18446744073709551615⟩) (.inr (.inl rfl))
  exact ⟨message,encodes,handled _ _ _ (whole_arrives encodes.1 _)⟩

end OcssdServer.RequestCodec
