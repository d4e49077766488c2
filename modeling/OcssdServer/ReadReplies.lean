import OcssdServer.BytePatterns
import OcssdServer.ReplyStream

namespace OcssdServer.ReadReplies
open ByteBuffers BytePatterns ReplyStream

-- What nvm_vblk_pread can do with a buffer of `count` bytes: it fills the front
-- of it, and a result that is no error says how far.
structure DeviceRead (count : UInt64) where
  result : Int
  data : List UInt8
  inside : data.length ≤ count.toNat
  counted : 0 ≤ result → result = data.length

abbrev Device (World Vblk : Type) :=
  Option Vblk → (count : UInt64) → UInt64 → World → DeviceRead count × World

section Replies
variable {World Dev Vblk : Type}

-- The server's library with such a device under it and a malloc whose buffers
-- hold what `found` holds.
def withDevice (lib : Lightnvm World Dev Vblk) (device : Device World Vblk) (found : Memory) :
    Lightnvm World Dev Vblk :=
  {lib with
    malloc := fun _ _ => found
    vblkPread := fun vblk buf count offset world =>
      let r := device vblk count offset world
      ((r.1.result,store buf 0 r.1.data),r.2)}

def queued (conn : OcssdConn Dev Vblk) (r : Reply World Dev Vblk) : List UInt8 :=
  (r.conn.writeq.drop conn.writeq.length).flatMap unsent

theorem queued_same (conn : OcssdConn Dev Vblk) (session : Session World Vblk) (ending : CallEnd) :
    queued conn ⟨conn,session,ending⟩ = [] := by simp [queued]

theorem queued_one (conn : OcssdConn Dev Vblk) (session : Session World Vblk) (ending : CallEnd)
    (bufferq : Bufferq) : queued conn ⟨conn.queue bufferq,session,ending⟩ = unsent bufferq := by
  simp [queued,OcssdConn.queue]

def replyPattern {count : UInt64} (read : DeviceRead count) : Pattern :=
  read.data.map some ++ List.replicate (count.toNat-read.data.length) none

theorem replyPattern_length {count : UInt64} (read : DeviceRead count) :
    (replyPattern read).length = count.toNat := by
  have inside := read.inside
  simp only [replyPattern,List.length_append,List.length_map,List.length_replicate]
  omega

theorem replyPattern_filled_iff {count : UInt64} (read : DeviceRead count) :
    none ∉ replyPattern read ↔ read.data.length = count.toNat := by
  have inside := read.inside
  have open' : none ∈ replyPattern read ↔ count.toNat-read.data.length ≠ 0 := by simp [replyPattern]
  rw [open']
  omega

theorem unsent_pattern {count : UInt64} (read : DeviceRead count) (found : Memory) :
    unsent ⟨store found 0 read.data,count,0⟩ =
      load (paint found 0 (replyPattern read)) 0 (replyPattern read).length := by
  have painted := paint_append found 0 (read.data.map some)
    (List.replicate (count.toNat-read.data.length) none)
  rw [paint_store,paint_blank] at painted
  rw [replyPattern_length,replyPattern,←painted]
  rfl

def Asks (conn : OcssdConn Dev Vblk) (message : List UInt8) (request : OcssdIoRequest) (blk : Vblk) : Prop :=
  OcssdIoRequest.ofMessage message = some request ∧
    conn.blksArray[request.blockIndex.toNat]? = some (some blk)

theorem asks_sole {conn : OcssdConn Dev Vblk} {message : List UInt8} {request request' : OcssdIoRequest}
    {blk blk' : Vblk} (asks : Asks conn message request blk) (asks' : Asks conn message request' blk') :
    request = request' ∧ blk = blk' := by
  obtain ⟨decoded,found⟩ := asks
  obtain ⟨decoded',found'⟩ := asks'
  cases decoded.symm.trans decoded'
  cases found.symm.trans found'
  exact ⟨rfl,rfl⟩

variable (lib : Lightnvm World Dev Vblk) (device : Device World Vblk)

theorem read_queued {conn : OcssdConn Dev Vblk} {message : List UInt8} {request : OcssdIoRequest}
    {blk : Vblk} (asks : Asks conn message request blk) (session : Session World Vblk) (found : Memory) :
    queued conn (processReadRequest (withDevice lib device found) conn session message) =
      let pattern := replyPattern (device (some blk) request.count request.offset session.world).1
      load (paint found 0 pattern) 0 pattern.length := by
  obtain ⟨decoded,here⟩ := asks
  simp only [processReadRequest,decoded,here,queued_one]
  exact unsent_pattern _ found

theorem unread_queued {conn : OcssdConn Dev Vblk} {message : List UInt8}
    (asks : ∀ request blk,¬ Asks conn message request blk) (session : Session World Vblk) :
    queued conn (processReadRequest lib conn session message) = [] := by
  unfold processReadRequest
  cases decoded : OcssdIoRequest.ofMessage message with
  | none => exact queued_same _ _ _
  | some request =>
    dsimp only
    cases here : conn.blksArray[request.blockIndex.toNat]? with
    | none => exact queued_same _ _ _
    | some entry =>
      cases entry with
      | none => exact queued_same _ _ _
      | some blk => exact absurd ⟨decoded,here⟩ (asks request blk)

-- For one request the queued bytes are the device's alone just when it filled
-- all of the buffer; the result of the call is printed and not looked at.
theorem read_reply_determined_iff (conn : OcssdConn Dev Vblk) (session : Session World Vblk)
    (message : List UInt8) :
    (∀ one two : Memory,
        queued conn (processReadRequest (withDevice lib device one) conn session message) =
          queued conn (processReadRequest (withDevice lib device two) conn session message)) ↔
      ∀ request blk, Asks conn message request blk →
        (device (some blk) request.count request.offset session.world).1.data.length =
          request.count.toNat := by
  by_cases asked : ∃ request blk,Asks conn message request blk
  · obtain ⟨request,blk,asks⟩ := asked
    simp only [read_queued lib device asks,load_paint_iff,replyPattern_filled_iff]
    constructor
    · intro whole request' blk' asks'
      obtain ⟨rfl,rfl⟩ := asks_sole asks asks'
      exact whole
    · intro whole
      exact whole request blk asks
  · have silent : ∀ request blk,¬ Asks conn message request blk :=
      fun request blk asks => asked ⟨request,blk,asks⟩
    simp only [unread_queued _ silent,implies_true,true_iff]
    intro request blk asks
    exact absurd asks (silent request blk)

end Replies

def failedRead : Device Unit Unit := fun _ _ _ _ => (⟨-1,[],Nat.zero_le _,nofun⟩,())

-- A connection with one block is asked for its first four bytes.
def oneBlock : OcssdConn Unit Unit := (OcssdConn.accepted (fun _ => 0)).addBlock (some ()) 4
def readFour : List UInt8 := leBytes 4 readBlockMagic.toNat ++ leBytes 4 0 ++ leBytes 8 4 ++ leBytes 8 0

theorem failed_read_leaks :
    ¬∀ one two : Memory,
      queued oneBlock (processReadRequest (withDevice quietLib failedRead one) oneBlock
          ⟨.ofDevices [],(),[]⟩ readFour) =
        queued oneBlock (processReadRequest (withDevice quietLib failedRead two) oneBlock
          ⟨.ofDevices [],(),[]⟩ readFour) := by
  intro same
  have differ := same (fun _ => 0) (fun _ => 1)
  revert differ
  decide

end OcssdServer.ReadReplies
