import OcssdServer.StripeSweep
import OcssdServer.SocketFill

namespace OcssdServer
open ByteBuffers SocketFill

def messageBufferSize : Nat := 24
def vssdBufferSize : Nat := 1024

def readBlockMagic : UInt32 := 0x6401
def writeBlockMagic : UInt32 := 0x6402
def eraseBlockMagic : UInt32 := 0x6403
def requestMagic : UInt32 := 0x6501

inductive Errno where
  | eagain
  | eintr
  | other (code : Nat)
deriving DecidableEq, Repr

inductive RequestCode where
  | noRequest
  | allocVssdRequest
  | readBlock
  | writeBlock
  | eraseBlock
deriving DecidableEq, Repr

structure OcssdIoRequest where
  command : RequestCode
  blockIndex : UInt32
  count : UInt64
  offset : UInt64
deriving DecidableEq, Repr

def getHeader (message : List UInt8) : UInt32 := UInt32.ofNat (leValue (message.take 4))

-- The constructors over a message throw on a magic that is not theirs.
def OcssdIoRequest.ofMessage (message : List UInt8) : Option OcssdIoRequest := do
  let (magic,p) ← deserializeData4 message 0
  let command ← if magic = readBlockMagic then some .readBlock
    else if magic = writeBlockMagic then some .writeBlock
    else if magic = eraseBlockMagic then some .eraseBlock
    else none
  let (blockIndex,p) ← deserializeData4 message p
  let (count,p) ← deserializeData8 message p
  let (offset,_) ← deserializeData8 message p
  return ⟨command,blockIndex,count,offset⟩

def OcssdAllocRequest.ofMessage (message : List UInt8) : Option OcssdAllocRequest := do
  let (magic,p) ← deserializeData4 message 0
  if magic ≠ requestMagic then none
  let (numChannels,p) ← deserializeData4 message p
  let (numBlocks,p) ← deserializeData4 message p
  let (shared,p) ← deserializeData4 message p
  let (numaId,p) ← deserializeData4 message p
  let (remote,_) ← deserializeData4 message p
  return ⟨numChannels,numBlocks,shared,numaId,remote⟩

-- The switch of serialize; its default branch returns 0.
def RequestCode.magic : RequestCode → Option UInt32
  | .readBlock => some readBlockMagic
  | .writeBlock => some writeBlockMagic
  | .eraseBlock => some eraseBlockMagic
  | .noRequest | .allocVssdRequest => none

def OcssdIoRequest.serialize (request : OcssdIoRequest) (buffer : Memory) : Memory × Nat :=
  match request.command.magic with
  | none => (buffer,0)
  | some magic =>
    let p := serializeData4 ⟨buffer,0⟩ magic
    let p := serializeData4 p request.blockIndex
    let p := serializeData8 p request.count
    let p := serializeData8 p request.offset
    (p.memory,p.position)

def OcssdAllocRequest.serialize (request : OcssdAllocRequest) (buffer : Memory) : Memory × Nat :=
  let p := serializeData4 ⟨buffer,0⟩ requestMagic
  let p := serializeData4 p request.numChannels
  let p := serializeData4 p request.numBlocks
  let p := serializeData4 p request.shared
  let p := serializeData4 p request.numaId
  let p := serializeData4 p request.remote
  (p.memory,p.position)

structure Bufferq where
  buf : Memory
  len : UInt64
  offset : UInt64

inductive ConnState where
  | receivingCommand
  | receivingWriteData
deriving DecidableEq, Repr

-- `geo`, `numBlks` and `blkSize` are not set by the constructor.
structure OcssdConn (Dev Vblk : Type) where
  messageEnd : Nat
  messageBuf : Memory
  state : ConnState
  remoteVssd : Bool
  dev : Option Dev
  geo : Option NvmGeo
  numBlks : Option UInt64
  blkSize : Option UInt64
  blksArray : List (Option Vblk)
  writeq : List Bufferq
  evRead : Bool
  evWrite : Bool
  closed : Bool

-- How a call ends. `badIndex` and `outOfRange`: an index past the end of
-- blks_array_ or of curr_blocks, where the code has no defined meaning.
-- `waiting`: the call is still in its read.
inductive CallEnd where
  | returned (ret : Int)
  | threw
  | badIndex
  | outOfRange
  | waiting
deriving DecidableEq, Repr

def CallEnd.stuck : CallEnd → Bool
  | .badIndex | .outOfRange | .waiting => true
  | .returned _ | .threw => false

structure Reply (World Dev Vblk : Type) where
  conn : OcssdConn Dev Vblk
  session : Session World Vblk
  ending : CallEnd

structure Handled (World Dev Vblk : Type) extends Reply World Dev Vblk where
  socket : Socket Errno

section Handlers
variable {World Dev Vblk : Type}

-- A connection as on_accept leaves it, its message buffer not yet written.
def OcssdConn.accepted (messageBuf : Memory) : OcssdConn Dev Vblk :=
  ⟨0,messageBuf,.receivingCommand,false,none,none,none,none,[],[],true,false,false⟩

def OcssdConn.disconnect (conn : OcssdConn Dev Vblk) : OcssdConn Dev Vblk :=
  {conn with closed := true,evRead := false}

def OcssdConn.queue (conn : OcssdConn Dev Vblk) (bufferq : Bufferq) : OcssdConn Dev Vblk :=
  {conn with writeq := conn.writeq ++ [bufferq],evWrite := true}

def OcssdConn.addBlock (conn : OcssdConn Dev Vblk) (blk : Option Vblk) (blkSize : UInt64) :
    OcssdConn Dev Vblk :=
  {conn with blksArray := conn.blksArray ++ [blk],blkSize := some blkSize}

variable (lib : Lightnvm World Dev Vblk)

-- The while (true) loop of initialize_vssd_blocks. A block that fails its test
-- is freed before its pointer is looked at.
def stripeLoop (geo : NvmGeo) (vunit : VirtualOcssdUnit) (conn : OcssdConn Dev Vblk)
    (session : Session World Vblk) (currBlocks : List UInt32) (count : Nat) : Reply World Dev Vblk :=
  match swept : sweepUnit lib geo vunit currBlocks with
  | none => ⟨conn,session,.outOfRange⟩
  | some sweep =>
    if none' : sweep.addrs = [] then
      ⟨{conn with numBlks := some (UInt64.ofNat count)},session,.returned 0⟩
    else
      let allocated := vblkAlloc lib conn.dev sweep.addrs session
      let tested := nvmVblkTest lib geo allocated.1 allocated.2
      if tested.1 < 0 then
        stripeLoop geo vunit conn (vblkFree lib allocated.1 tested.2) sweep.currBlocks count
      else if allocated.1.isNone then
        ⟨conn,conn.blksArray.foldl (fun session blk => vblkFree lib blk session) tested.2,.returned (-12)⟩
      else
        stripeLoop geo vunit (conn.addBlock allocated.1 (lib.vblkGetNbytes allocated.1 tested.2.world))
          tested.2 sweep.currBlocks (count+1)
termination_by remaining currBlocks
decreasing_by all_goals exact StripeSweep.sweepUnit_shrinks swept none'

def initializeVssdBlocks (geo : NvmGeo) (conn : OcssdConn Dev Vblk) (session : Session World Vblk)
    (vunit : VirtualOcssdUnit) : Reply World Dev Vblk :=
  stripeLoop lib geo vunit conn session (vunit.generateUnits []) 0

-- Only the first unit is set up. What initialize_vssd_blocks returns is ignored.
def initializeRemoteVssd (conn : OcssdConn Dev Vblk) (session : Session World Vblk) (vssd : VirtualOcssd) :
    Reply World Dev Vblk :=
  match vssd.units with
  | [] => ⟨conn,session,.outOfRange⟩
  | vunit :: _ =>
    let opened := devOpen lib vunit.devName session
    match opened.1 with
    | none => ⟨{conn with dev := none},opened.2,.threw⟩
    | some dev =>
      let geo := lib.devGetGeo dev
      let r := initializeVssdBlocks lib geo {conn with dev := some dev,geo := some geo} opened.2 vunit
      if r.ending = .outOfRange then r else {r with ending := .returned 0}

def queueVssd (conn : OcssdConn Dev Vblk) (vssd : VirtualOcssd) (buf : Memory) : OcssdConn Dev Vblk :=
  let serialized := vssd.serialize buf
  conn.queue ⟨serialized.1,UInt64.ofNat serialized.2,0⟩

def processAllocRequest (conn : OcssdConn Dev Vblk) (session : Session World Vblk)
    (message : List UInt8) : Reply World Dev Vblk :=
  match OcssdAllocRequest.ofMessage message with
  | none => ⟨conn,session,.threw⟩
  | some request =>
    let grant := session.manager.allocOcssdResource .new request
    let remote := grant.request.remote ≠ 0
    let session := Session.log {session with manager := grant.manager} (.granted grant.vssd remote)
    if grant.granted = 0 ∨ grant.vssd.units.length < 1 then ⟨conn,session,.returned (-1)⟩
    else
      let buf := lib.malloc (UInt64.ofNat vssdBufferSize) session.world
      if remote then
        let r := initializeRemoteVssd lib {conn with remoteVssd := true} session grant.vssd
        match r.ending with
        | .returned _ => ⟨queueVssd r.conn grant.vssd buf,r.session,.returned 0⟩
        | _ => r
      else ⟨queueVssd conn grant.vssd buf,session,.returned 0⟩

def processReadRequest (conn : OcssdConn Dev Vblk) (session : Session World Vblk)
    (message : List UInt8) : Reply World Dev Vblk :=
  match OcssdIoRequest.ofMessage message with
  | none => ⟨conn,session,.threw⟩
  | some request =>
    match conn.blksArray[request.blockIndex.toNat]? with
    | none => ⟨conn,session,.badIndex⟩
    | some none => ⟨conn,session,.returned (-1)⟩
    | some (some blk) =>
      let buf := lib.malloc request.count session.world
      let r := vblkPread lib (some blk) buf request.count request.offset session
      ⟨conn.queue ⟨r.1.2,request.count,0⟩,r.2,.returned 0⟩

def processEraseRequest (conn : OcssdConn Dev Vblk) (session : Session World Vblk)
    (message : List UInt8) : Reply World Dev Vblk :=
  match OcssdIoRequest.ofMessage message with
  | none => ⟨conn,session,.threw⟩
  | some request =>
    match conn.blksArray[request.blockIndex.toNat]? with
    | none => ⟨conn,session,.badIndex⟩
    | some none => ⟨conn,session,.returned (-1)⟩
    | some (some blk) => ⟨conn,(vblkErase lib (some blk) session).2,.returned 0⟩

-- read(2) moves at most this many bytes in one call.
def largestRead : Nat := 2147483647

def finishWrite (conn : OcssdConn Dev Vblk) (session : Session World Vblk) (blk : Vblk)
    (r : Filled Errno) : Handled World Dev Vblk :=
  match r.ending with
  | .waiting => ⟨⟨conn,session,.waiting⟩,r.socket⟩
  | .eof | .failed => ⟨⟨conn.disconnect,session,.returned (-1)⟩,r.socket⟩
  | .full =>
    ⟨⟨conn,(vblkWrite lib (some blk) (load r.memory 0 r.received) session).2,.returned 0⟩,r.socket⟩

def processWriteRequest (conn : OcssdConn Dev Vblk) (session : Session World Vblk)
    (socket : Socket Errno) (message : List UInt8) : Handled World Dev Vblk :=
  match OcssdIoRequest.ofMessage message with
  | none => ⟨⟨conn,session,.threw⟩,socket⟩
  | some request =>
    match conn.blksArray[request.blockIndex.toNat]? with
    | none => ⟨⟨conn,session,.badIndex⟩,socket⟩
    | some none => ⟨⟨conn,session,.returned (-1)⟩,socket⟩
    | some (some blk) =>
      let buf := lib.malloc request.count session.world
      finishWrite lib conn session blk
        (fill largestRead request.count.toNat socket.plan socket.stream buf 0)

def dispatch (conn : OcssdConn Dev Vblk) (session : Session World Vblk) (socket : Socket Errno)
    (message : List UInt8) : Handled World Dev Vblk :=
  let header := getHeader message
  let noted := session.log (.dispatched message)
  if header = requestMagic then ⟨processAllocRequest lib conn noted message,socket⟩
  else if header = readBlockMagic then ⟨processReadRequest lib conn noted message,socket⟩
  else if header = writeBlockMagic then processWriteRequest lib conn noted socket message
  else if header = eraseBlockMagic then ⟨processEraseRequest lib conn noted message,socket⟩
  else ⟨⟨conn,session,.returned (-1)⟩,socket⟩

def finishMessage (conn : OcssdConn Dev Vblk) (session : Session World Vblk) (r : Filled Errno) :
    Handled World Dev Vblk :=
  let conn := {conn with messageBuf := r.memory,messageEnd := r.received}
  match r.ending with
  | .waiting => ⟨⟨conn,session,.waiting⟩,r.socket⟩
  | .eof | .failed => ⟨⟨conn.disconnect,session,.returned (-1)⟩,r.socket⟩
  | .full =>
    dispatch lib {conn with messageEnd := 0} session r.socket (load conn.messageBuf 0 messageBufferSize)

def processCommand (conn : OcssdConn Dev Vblk) (session : Session World Vblk) (socket : Socket Errno) :
    Handled World Dev Vblk :=
  finishMessage lib conn session
    (fill largestRead messageBufferSize socket.plan socket.stream conn.messageBuf conn.messageEnd)

def processWriteData (conn : OcssdConn Dev Vblk) (session : Session World Vblk) (socket : Socket Errno) :
    Handled World Dev Vblk := ⟨⟨conn,session,.returned 0⟩,socket⟩

def processIncomingRequests (conn : OcssdConn Dev Vblk) (session : Session World Vblk)
    (socket : Socket Errno) : Handled World Dev Vblk :=
  if conn.state = .receivingCommand then processCommand lib conn session socket
  else processWriteData conn session socket

end Handlers
end OcssdServer
