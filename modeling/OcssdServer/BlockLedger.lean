import OcssdServer.IndexChecks

namespace OcssdServer.BlockLedger
open ByteBuffers SocketFill DeviceEffects IndexChecks

-- A block as a connection holds it, with the call of nvm_vblk_alloc that built
-- it and the addresses of that call.
structure Stamped (Vblk : Type) where
  number : Nat
  addrs : List NvmAddr
  blk : Vblk
deriving DecidableEq, Repr

structure Ledger where
  built : List Bool
  freed : List Nat
deriving DecidableEq, Repr

section Library
variable {World Dev Vblk : Type}

def numbered (lib : Lightnvm World Dev Vblk) : Lightnvm (World × Ledger) Dev (Stamped Vblk) where
  chBits := lib.chBits
  lunBits := lib.lunBits
  blkBits := lib.blkBits
  devOpen := fun devPath w => ((lib.devOpen devPath w.1).1,((lib.devOpen devPath w.1).2,w.2))
  devGetGeo := lib.devGetGeo
  vblkAlloc := fun dev addrs w =>
    let r := lib.vblkAlloc dev addrs w.1
    (r.1.map (⟨w.2.built.length,addrs,·⟩),(r.2,{w.2 with built := w.2.built ++ [r.1.isSome]}))
  vblkFree := fun blk w =>
    (lib.vblkFree (blk.map (·.blk)) w.1,{w.2 with freed := w.2.freed ++ (blk.map (·.number)).toList})
  vblkGetNbytes := fun blk w => lib.vblkGetNbytes (blk.map (·.blk)) w.1
  vblkErase := fun blk w =>
    let r := lib.vblkErase (blk.map (·.blk)) w.1
    (r.1,(r.2,w.2))
  vblkWrite := fun blk data w =>
    let r := lib.vblkWrite (blk.map (·.blk)) data w.1
    (r.1,(r.2,w.2))
  vblkRead := fun blk buf count w =>
    let r := lib.vblkRead (blk.map (·.blk)) buf count w.1
    (r.1,(r.2,w.2))
  vblkPread := fun blk buf count offset w =>
    let r := lib.vblkPread (blk.map (·.blk)) buf count offset w.1
    (r.1,(r.2,w.2))
  bufAlloc := fun geo count w => lib.bufAlloc geo count w.1
  malloc := fun count w => lib.malloc count w.1

theorem test_ledger (lib : Lightnvm World Dev Vblk) (geo : NvmGeo) (blk : Option (Stamped Vblk))
    (session : Session (World × Ledger) (Stamped Vblk)) :
    (nvmVblkTest (numbered lib) geo blk session).2.world.2 = session.world.2 :=
  test_leaves (numbered lib) (·.2) (fun _ _ => rfl) (fun _ _ _ => rfl) (fun _ _ _ _ => rfl) geo blk session

theorem alloc_ledger (lib : Lightnvm World Dev Vblk) (dev : Option Dev) (addrs : List NvmAddr)
    (session : Session (World × Ledger) (Stamped Vblk)) :
    (vblkAlloc (numbered lib) dev addrs session).2.world.2 =
      {session.world.2 with built := session.world.2.built ++ [(lib.vblkAlloc dev addrs session.world.1).1.isSome]} := rfl

theorem free_ledger (lib : Lightnvm World Dev Vblk) (blk : Option (Stamped Vblk))
    (session : Session (World × Ledger) (Stamped Vblk)) :
    (vblkFree (numbered lib) blk session).world.2 =
      {session.world.2 with freed := session.world.2.freed ++ (blk.map (·.number)).toList} := rfl

structure Life (Dev Vblk : Type) where
  conn : OcssdConn Dev (Stamped Vblk)
  ledger : Ledger

-- One call of the read handler. What the other connections, the publisher and
-- the devices did since the last one is in the manager and the world it finds.
structure Turn (World : Type) where
  manager : OcssdManager
  world : World
  socket : Socket Errno

def Life.accepted (messageBuf : Memory) : Life Dev Vblk := ⟨.accepted messageBuf,⟨[],[]⟩⟩

def Life.session (life : Life Dev Vblk) (turn : Turn World) : Session (World × Ledger) (Stamped Vblk) :=
  ⟨turn.manager,(turn.world,life.ledger),[]⟩

-- A closed connection has had its read event deleted.
def Life.call (lib : Lightnvm World Dev Vblk) (life : Life Dev Vblk) (turn : Turn World) :
    Handled (World × Ledger) Dev (Stamped Vblk) :=
  if life.conn.closed then ⟨⟨life.conn,life.session turn,.returned 0⟩,turn.socket⟩
  else processIncomingRequests (numbered lib) life.conn (life.session turn) turn.socket

def Life.serve (lib : Lightnvm World Dev Vblk) (life : Life Dev Vblk) (turn : Turn World) :
    Life Dev Vblk × Handled (World × Ledger) Dev (Stamped Vblk) :=
  (⟨(life.call lib turn).conn,(life.call lib turn).session.world.2⟩,life.call lib turn)

def destroy (lib : Lightnvm World Dev Vblk) (devClose : Option Dev → World → World)
    (conn : OcssdConn Dev Vblk) (session : Session World Vblk) : Session World Vblk :=
  if conn.remoteVssd then
    conn.blksArray.foldl (fun session blk => vblkFree lib blk session)
      {session with world := devClose conn.dev session.world}
  else session

-- What a request that is no allocation does: calls on the block at its index
-- and nothing that the connection keeps about its blocks.
structure Operated (conn : OcssdConn Dev (Stamped Vblk)) (session : Session (World × Ledger) (Stamped Vblk))
    (message : List UInt8) (r : Reply (World × Ledger) Dev (Stamped Vblk)) : Prop where
  array : r.conn.blksArray = conn.blksArray
  numBlks : r.conn.numBlks = conn.numBlks
  ledger : r.session.world.2 = session.world.2
  calls : ∀ blk call,.called blk call ∈ r.session.events → .called blk call ∈ session.events ∨
    ∃ io held,OcssdIoRequest.ofMessage message = some io ∧ blk = some held ∧
      conn.blksArray[io.blockIndex.toNat]? = some (some held)

section Requests
variable {lib : Lightnvm World Dev Vblk} {conn : OcssdConn Dev (Stamped Vblk)}
  {session : Session (World × Ledger) (Stamped Vblk)} {message : List UInt8}

theorem idle_operated (ending : CallEnd) : Operated conn session message ⟨conn,session,ending⟩ :=
  ⟨rfl,rfl,rfl,fun _ _ => .inl⟩

theorem call_operated {io : OcssdIoRequest} (decoded : OcssdIoRequest.ofMessage message = some io)
    {held : Stamped Vblk} (found : conn.blksArray[io.blockIndex.toNat]? = some (some held))
    {after : OcssdConn Dev (Stamped Vblk)} (array : after.blksArray = conn.blksArray)
    (numBlks : after.numBlks = conn.numBlks) (call : VblkCall) (w : World) (ending : CallEnd) :
    Operated conn session message
      ⟨after,{session.log (.called (some held) call) with world := (w,session.world.2)},ending⟩ := by
  refine ⟨array,numBlks,rfl,?_⟩
  intro blk other listed
  rcases List.mem_append.mp listed with old | new
  · exact .inl old
  · cases List.mem_singleton.mp new
    exact .inr ⟨io,held,decoded,rfl,found⟩

theorem read_operated : Operated conn session message (processReadRequest (numbered lib) conn session message) := by
  unfold processReadRequest
  split
  · exact idle_operated _
  · rename_i io decoded
    split
    · exact idle_operated _
    · exact idle_operated _
    · rename_i held found
      dsimp only
      refine call_operated decoded found ?_ ?_ _ _ _
      · rfl
      · rfl

theorem erase_operated : Operated conn session message (processEraseRequest (numbered lib) conn session message) := by
  unfold processEraseRequest
  split
  · exact idle_operated _
  · rename_i io decoded
    split
    · exact idle_operated _
    · exact idle_operated _
    · rename_i held found
      exact call_operated decoded found rfl rfl _ _ _

theorem write_operated (socket : Socket Errno) :
    Operated conn session message (processWriteRequest (numbered lib) conn session socket message).toReply := by
  unfold processWriteRequest
  split
  · exact idle_operated _
  · rename_i io decoded
    split
    · exact idle_operated _
    · exact idle_operated _
    · rename_i held found
      unfold finishWrite
      dsimp only
      split
      · exact idle_operated _
      · exact ⟨rfl,rfl,rfl,fun _ _ => .inl⟩
      · exact ⟨rfl,rfl,rfl,fun _ _ => .inl⟩
      · exact call_operated decoded found rfl rfl _ _ _

theorem dispatch_operated (other : getHeader message ≠ requestMagic) (socket : Socket Errno) :
    Operated conn (session.log (.dispatched message)) message
      (dispatch (numbered lib) conn session socket message).toReply := by
  unfold dispatch
  dsimp only
  rw [if_neg other]
  split
  · exact read_operated
  · split
    · exact write_operated socket
    · split
      · exact erase_operated
      · exact ⟨rfl,rfl,rfl,fun _ _ member => .inl (List.mem_append_left _ member)⟩

theorem dispatch_allocates (header : getHeader message = requestMagic) (socket : Socket Errno) :
    (dispatch (numbered lib) conn session socket message).toReply =
      processAllocRequest (numbered lib) conn (session.log (.dispatched message)) message := by
  unfold dispatch
  dsimp only
  rw [if_pos header]

end Requests

inductive LifeCall (lib : Lightnvm World Dev Vblk) (life : Life Dev Vblk) (turn : Turn World)
    (r : Reply (World × Ledger) Dev (Stamped Vblk)) : Prop where
  | idle (takes : taken life.conn turn.socket = none) (session : r.session = life.session turn)
      (array : r.conn.blksArray = life.conn.blksArray) (numBlks : r.conn.numBlks = life.conn.numBlks)
  | allocates (message : List UInt8) (conn : OcssdConn Dev (Stamped Vblk))
      (takes : taken life.conn turn.socket = some message) (header : getHeader message = requestMagic)
      (array : conn.blksArray = life.conn.blksArray) (numBlks : conn.numBlks = life.conn.numBlks)
      (served : r = processAllocRequest (numbered lib) conn ((life.session turn).log (.dispatched message)) message)
  | operates (message : List UInt8) (conn : OcssdConn Dev (Stamped Vblk))
      (takes : taken life.conn turn.socket = some message) (header : getHeader message ≠ requestMagic)
      (array : conn.blksArray = life.conn.blksArray) (numBlks : conn.numBlks = life.conn.numBlks)
      (served : Operated conn ((life.session turn).log (.dispatched message)) message r)

theorem life_call (lib : Lightnvm World Dev Vblk) (life : Life Dev Vblk) (turn : Turn World) :
    LifeCall lib life turn (life.call lib turn).toReply := by
  unfold Life.call
  by_cases closed : life.conn.closed = true
  · rw [if_pos closed]
    refine .idle (if_neg ?_) rfl rfl rfl
    rintro ⟨open',_⟩
    rw [closed] at open'
    cases open'
  rw [if_neg closed,processIncomingRequests]
  by_cases receiving : life.conn.state = .receivingCommand
  · rw [if_pos receiving,processCommand,finishMessage]
    have takes : taken life.conn turn.socket = if life.conn.closed = false ∧ life.conn.state = .receivingCommand ∧
        (fill largestRead messageBufferSize turn.socket.plan turn.socket.stream life.conn.messageBuf
          life.conn.messageEnd).ending = .full then
      some (load (fill largestRead messageBufferSize turn.socket.plan turn.socket.stream life.conn.messageBuf
        life.conn.messageEnd).memory 0 messageBufferSize) else none := rfl
    generalize fill largestRead messageBufferSize turn.socket.plan turn.socket.stream life.conn.messageBuf
      life.conn.messageEnd = r at takes ⊢
    have short : r.ending ≠ .full → taken life.conn turn.socket = none :=
      fun other => takes.trans (if_neg fun all => other all.2.2)
    dsimp only
    split
    · rename_i waiting
      exact .idle (short (by rw [waiting]; intro same; cases same)) rfl rfl rfl
    · rename_i eof
      exact .idle (short (by rw [eof]; intro same; cases same)) rfl rfl rfl
    · rename_i failed
      exact .idle (short (by rw [failed]; intro same; cases same)) rfl rfl rfl
    · rename_i full
      rw [if_pos ⟨Bool.eq_false_of_not_eq_true closed,receiving,full⟩] at takes
      generalize noted : ({life.conn with messageBuf := r.memory,messageEnd := 0} : OcssdConn Dev (Stamped Vblk)) = conn
      have array : conn.blksArray = life.conn.blksArray := by rw [←noted]
      have numBlks : conn.numBlks = life.conn.numBlks := by rw [←noted]
      by_cases header : getHeader (load r.memory 0 messageBufferSize) = requestMagic
      · exact .allocates _ conn takes header array numBlks (dispatch_allocates header _)
      · exact .operates _ conn takes header array numBlks (dispatch_operated header _)
  · rw [if_neg receiving]
    exact .idle (if_neg fun all => receiving all.2.1) rfl rfl rfl

end Library
end OcssdServer.BlockLedger
