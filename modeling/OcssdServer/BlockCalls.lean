import OcssdServer.BlockClient
import OcssdServer.CallPipe
import OcssdServer.LoopTenants
import OcssdServer.ReplyStream
import OcssdServer.RequestCodec

namespace OcssdServer.BlockCalls
open ByteBuffers SocketFill ManagerGrants BlockOwnership StripeLanes ServeLoop DeviceEffects RequestFraming RequestCodec
  ReplyStream TenantIsolation DescriptorEvents LoopTenants MachineRuns

section Frames

def magic : BlockCall → UInt32
  | .erase _ => eraseBlockMagic
  | .write _ _ _ => writeBlockMagic
  | .read _ _ _ => readBlockMagic

theorem request_magic (call : BlockCall) : call.request.command.magic = some (magic call) := by
  cases call <;> rfl

theorem header_magic (call : BlockCall) : getHeader (ioWire (magic call) call.request) = magic call :=
  wire_header _ _

def asks : BlockCall → Option Nat
  | .read _ count _ => some count.toNat
  | .erase _ => none
  | .write _ _ _ => none

def callFrame (call : BlockCall) : Frame where
  message := ioWire (magic call) call.request
  payload := call.payload
  size := ioWire_length _ _
  known := by
    rw [header_magic]
    cases call with
    | erase blockIdx => exact .inr (.inr (.inr rfl))
    | write blockIdx data fits => exact .inr (.inr (.inl rfl))
    | read blockIdx count offset => exact .inr (.inl rfl)
  carries := by
    rw [payloadLength,header_magic,io_roundtrip (request_magic call)]
    cases call with
    | erase blockIdx => rfl
    | read blockIdx count offset => rfl
    | write blockIdx data fits => exact (UInt64.toNat_ofNat_of_lt fits).symm

theorem message_sent (call : BlockCall) (buffer : Memory) : call.message buffer = (callFrame call).message := by
  have size := ioWire_length (magic call) call.request
  have message := load_store buffer 0 (ioWire (magic call) call.request)
  rw [size] at message
  rw [BlockCall.message,io_serialize (request_magic call)]
  exact message

theorem wire_sent (call : BlockCall) (whole : call.payload.length ≤ largestWrite) (buffer : Memory) :
    call.message buffer ++ call.data = (callFrame call).wire := by
  rw [message_sent,BlockCall.data,List.take_of_length_le whole]
  rfl

theorem frame_inside {Dev Vblk : Type} {conn : OcssdConn Dev Vblk} {call : BlockCall}
    (inside : call.blockIdx.toNat < conn.blksArray.length) : IndexInside conn (callFrame call) := by
  intro request decoded
  have same : some call.request = some request := (io_roundtrip (request_magic call)).symm.trans decoded
  cases same
  cases call <;> exact inside

end Frames

section Store
variable {World Dev Vblk γ κ : Type} (lib : Lightnvm World Dev Vblk) (span : Vblk → Set PhysBlock)
  (content : World → PhysBlock → γ) (cursor : World → Vblk → κ)

-- One call on the blocks themselves, made next to the device. Into which buffer
-- a read goes is the caller's affair.
inductive Makes (blksArray : List (Option Vblk)) : World → BlockCall × List UInt8 → World → Prop where
  | erase (w : World) (blockIdx : UInt32) (v : Vblk) (found : blksArray[blockIdx.toNat]? = some (some v)) :
      Makes blksArray w (.erase blockIdx,[]) (lib.vblkErase (some v) w).2
  | write (w : World) (blockIdx : UInt32) (v : Vblk) (found : blksArray[blockIdx.toNat]? = some (some v))
      (data : List UInt8) (fits : data.length < 2^64) :
      Makes blksArray w (.write blockIdx data fits,[]) (lib.vblkWrite (some v) data w).2
  | read (w : World) (blockIdx : UInt32) (v : Vblk) (found : blksArray[blockIdx.toNat]? = some (some v))
      (count offset : UInt64) (buf : Memory) :
      Makes blksArray w
        (.read blockIdx count offset,load (lib.vblkPread (some v) buf count offset w).1.2 0 count.toNat)
        (lib.vblkPread (some v) buf count offset w).2

-- A program that makes these calls alone, with nobody else on the machine.
def Alone (blksArray : List (Option Vblk)) : World → List (BlockCall × List UInt8) → World → Prop
  | w,[],last => last = w
  | w,event :: rest,last => ∃ w',Makes lib blksArray w event w' ∧ Alone blksArray w' rest last

-- A virtual block as two worlds see it: what its physical blocks store and where
-- its next write goes.
structure Alike (v : Vblk) (w w' : World) : Prop where
  content : ∀ b ∈ span v,content w' b = content w b
  cursor : cursor w' v = cursor w v

-- What is relied on of liblightnvm besides the rules of content: the position of
-- a virtual block moves in operations on that block only, and what an operation
-- does to a block and reads from it is decided by that block.
structure StoreRules : Prop where
  opened : ∀ devPath w v,cursor (lib.devOpen devPath w).2 v = cursor w v
  allocated : ∀ dev addrs w v,cursor (lib.vblkAlloc dev addrs w).2 v = cursor w v
  freed : ∀ blk w v,v ≠ blk → cursor (lib.vblkFree (some blk) w) v = cursor w v
  erased : ∀ blk w v,v ≠ blk → cursor (lib.vblkErase (some blk) w).2 v = cursor w v
  written : ∀ blk data w v,v ≠ blk → cursor (lib.vblkWrite (some blk) data w).2 v = cursor w v
  read : ∀ blk buf count w v,v ≠ blk → cursor (lib.vblkRead (some blk) buf count w).2 v = cursor w v
  pread : ∀ blk buf count offset w v,v ≠ blk → cursor (lib.vblkPread (some blk) buf count offset w).2 v = cursor w v
  erases : ∀ v w w',Alike span content cursor v w w' →
    Alike span content cursor v (lib.vblkErase (some v) w).2 (lib.vblkErase (some v) w').2
  writes : ∀ v data w w',Alike span content cursor v w w' →
    Alike span content cursor v (lib.vblkWrite (some v) data w).2 (lib.vblkWrite (some v) data w').2
  preads : ∀ v buf count offset w w',Alike span content cursor v w w' →
    (lib.vblkPread (some v) buf count offset w').1 = (lib.vblkPread (some v) buf count offset w).1 ∧
      Alike span content cursor v (lib.vblkPread (some v) buf count offset w).2
        (lib.vblkPread (some v) buf count offset w').2

variable {lib span content cursor}

theorem Alike.refl (v : Vblk) (w : World) : Alike span content cursor v w w := ⟨fun _ _ => rfl,rfl⟩

theorem Alike.trans {v : Vblk} {u w w' : World} (first : Alike span content cursor v u w)
    (second : Alike span content cursor v w w') : Alike span content cursor v u w' :=
  ⟨fun b inside => (second.content b inside).trans (first.content b inside),second.cursor.trans first.cursor⟩

theorem alone_append {blksArray : List (Option Vblk)} {w w' last : World} {one two : List (BlockCall × List UInt8)}
    (first : Alone lib blksArray w one w') (second : Alone lib blksArray w' two last) :
    Alone lib blksArray w (one ++ two) last := by
  induction one generalizing w with
  | nil =>
    have same : w' = w := first
    exact same ▸ second
  | cons event rest ih =>
    obtain ⟨u,made,later⟩ := first
    exact ⟨u,made,ih later⟩

theorem makes_sized {blksArray : List (Option Vblk)} {w w' : World} {event : BlockCall × List UInt8}
    (made : Makes lib blksArray w event w') : event.2.length = (asks event.1).getD 0 := by
  cases made with
  | erase | write => rfl
  | read => exact load_length _ _ _

end Store

section Foreign
variable {World Dev Vblk Client γ κ : Type} {lib : Lightnvm World Dev Vblk} {set : List (DevName × NvmGeo)}
  {nameOf : Dev → DevName} {span : Vblk → Set PhysBlock} {content : World → PhysBlock → γ}
  {cursor : World → Vblk → κ}

def Apart (span : Vblk → Set PhysBlock) (blksArray : List (Option Vblk)) (blk : Option Vblk) : Prop :=
  ∃ v,blk = some v ∧ ∀ mine,some mine ∈ blksArray → mine ≠ v ∧ Disjoint (span mine) (span v)

def AllAlike (span : Vblk → Set PhysBlock) (content : World → PhysBlock → γ) (cursor : World → Vblk → κ)
    (blksArray : List (Option Vblk)) (w w' : World) : Prop :=
  ∀ v,some v ∈ blksArray → Alike span content cursor v w w'

theorem foreign_respects (rules : DeviceRules lib set nameOf span content) (store : StoreRules lib span content cursor)
    (blksArray : List (Option Vblk)) :
    Respects lib (Apart span blksArray) (AllAlike span content cursor blksArray) where
  refl := fun w v _ => Alike.refl v w
  trans := fun _ _ _ first second v member => (first v member).trans (second v member)
  opened := fun devPath w v _ => ⟨fun b _ => rules.opened devPath w b,store.opened devPath w v⟩
  allocated := fun dev addrs w v _ => ⟨fun b _ => rules.allocated dev addrs w b,store.allocated dev addrs w v⟩
  freed := by
    rintro _ w ⟨blk,rfl,apart⟩ v member
    exact ⟨fun b inside => rules.freed blk w b (Set.disjoint_left.mp (apart v member).2 inside),
      store.freed blk w v (apart v member).1⟩
  erased := by
    rintro _ w ⟨blk,rfl,apart⟩ v member
    exact ⟨fun b inside => rules.erased blk w b (Set.disjoint_left.mp (apart v member).2 inside),
      store.erased blk w v (apart v member).1⟩
  written := by
    rintro _ data w ⟨blk,rfl,apart⟩ v member
    exact ⟨fun b inside => rules.written blk data w b (Set.disjoint_left.mp (apart v member).2 inside),
      store.written blk data w v (apart v member).1⟩
  read := by
    rintro _ buf count w ⟨blk,rfl,apart⟩ v member
    exact ⟨fun b inside => rules.read blk buf count w b (Set.disjoint_left.mp (apart v member).2 inside),
      store.read blk buf count w v (apart v member).1⟩
  pread := by
    rintro _ buf count offset w ⟨blk,rfl,apart⟩ v member
    exact ⟨fun b inside => rules.pread blk buf count offset w b (Set.disjoint_left.mp (apart v member).2 inside),
      store.pread blk buf count offset w v (apart v member).1⟩

-- A block inside an area that does not meet the array is apart from it, as every
-- block of the array stands on something.
theorem apart_of_area {blksArray : List (Option Vblk)} (built : ∀ v,some v ∈ blksArray → (span v).Nonempty)
    {area : Set PhysBlock} (disjoint : Disjoint (arraySpan span blksArray) area) {blk : Option Vblk}
    (inside : Inside span area blk) : Apart span blksArray blk := by
  obtain ⟨v,same,part⟩ := inside
  refine ⟨v,same,fun mine member => ?_⟩
  have stands : span mine ⊆ arraySpan span blksArray := fun b inside => ⟨mine,member,inside⟩
  have clear : Disjoint (span mine) (span v) := disjoint.mono stands part
  refine ⟨?_,clear⟩
  rintro rfl
  exact (built mine member).ne_empty (disjoint_self.mp clear)

variable {manager : OcssdManager} {conn : OcssdConn Dev Vblk} {blksArray : List (Option Vblk)}

-- Whatever another connection is sent and does with it, the blocks of this array
-- stay as they are.
theorem foreign_call (rules : DeviceRules lib set nameOf span content) (store : StoreRules lib span content cursor)
    (fit : DevicesFit set) (fields : ∀ d ∈ set,FieldsHold lib d.2) (holds : Holds set manager)
    (held : none ∉ conn.blksArray) (mine : arraySpan span blksArray ⊆ owned manager)
    (built : ∀ v,some v ∈ blksArray → (span v).Nonempty)
    (apart : Disjoint (arraySpan span blksArray) (arraySpan span conn.blksArray)) (w : World)
    (socket : Socket Errno) : AllAlike span content cursor blksArray w
      (processIncomingRequests lib conn ⟨manager,w,[]⟩ socket).session.world := by
  have respects := foreign_respects rules store blksArray
  have own : ∀ blk ∈ conn.blksArray,Apart span blksArray blk := by
    intro blk member
    cases blk with
    | none => exact absurd member held
    | some v => exact apart_of_area built apart ⟨v,rfl,fun b stands => ⟨v,member,stands⟩⟩
  cases call_effect lib conn ⟨manager,w,[]⟩ socket with
  | idle same array ending =>
    rw [same]
    exact respects.refl w
  | operates message conn' array served =>
    rw [←array] at own
    exact (served.worked _ _ respects own).same
  | allocates message conn' array served =>
    rw [←array] at own
    have world := congrArg (fun r => r.session.world) served
    rw [world]
    cases decoded : OcssdAllocRequest.ofMessage message with
    | none =>
      rw [processAllocRequest,decoded]
      exact respects.refl w
    | some request =>
      refine (@allocRequest_worked World Dev Vblk lib _ _ respects conn'
        (Session.log ⟨manager,w,[]⟩ (.dispatched message)) message request decoded ?_ own).1.same
      intro vunit rest dev u addrs u' _ units opened inside
      have member : vunit ∈ (manager.serve request).2.1.units := by
        change vunit ∈ (manager.allocOcssdResource .new request).vssd.units
        have units' : (manager.allocOcssdResource .new request).vssd.units = vunit :: rest := units
        rw [units']
        exact List.mem_cons_self
      refine apart_of_area built (Set.disjoint_left.mpr ?_) (built_inside rules fit fields holds member opened inside u')
      rintro b old ⟨grant,listed,new⟩
      exact Set.disjoint_left.mp (granted_fresh fit holds request grant listed) (mine old) new

end Foreign

section Own
variable {World Dev Vblk : Type} (lib : Lightnvm World Dev Vblk)

-- What the server does with one call of the client: the call itself, next to the
-- device, and its reply at the end of the queue.
structure Served (conn : OcssdConn Dev Vblk) (session : Session World Vblk) (call : BlockCall)
    (r : Reply World Dev Vblk) : Prop where
  array : r.conn.blksArray = conn.blksArray
  ending : r.ending = .returned 0
  armed : Armed conn → Armed r.conn
  makes : ∃ reply,Makes lib conn.blksArray session.world (call,reply) r.session.world ∧
    (chunks r.conn).flatten = (chunks conn).flatten ++ reply

theorem noted_armed {conn : OcssdConn Dev Vblk} (armed : Armed conn) (messageBuf : Memory) :
    Armed {conn with messageBuf := messageBuf} := ⟨armed.event,armed.offsets⟩

theorem call_served {conn : OcssdConn Dev Vblk} (held : none ∉ conn.blksArray) {call : BlockCall}
    (inside : call.blockIdx.toNat < conn.blksArray.length) (session : Session World Vblk) :
    Served lib conn session call (serveFrame lib conn session (callFrame call)) := by
  obtain ⟨v,found⟩ := found_block held inside
  have decoded : OcssdIoRequest.ofMessage (callFrame call).message = some call.request :=
    io_roundtrip (request_magic call)
  have header : getHeader (callFrame call).message = magic call := header_magic call
  unfold serveFrame answer
  dsimp only
  rw [header]
  cases call with
  | erase blockIdx =>
    rw [magic,if_neg (by decide),if_neg (by decide),if_neg (by decide),processEraseRequest,decoded]
    dsimp only [BlockCall.request,BlockCall.blockIdx] at found ⊢
    rw [found]
    exact ⟨rfl,rfl,fun armed => noted_armed armed _,[],.erase _ blockIdx v found,(List.append_nil _).symm⟩
  | write blockIdx data fits =>
    rw [magic,if_neg (by decide),if_neg (by decide),if_pos rfl,serveWrite,decoded]
    dsimp only [BlockCall.request,BlockCall.blockIdx] at found ⊢
    rw [found]
    exact ⟨rfl,rfl,fun armed => noted_armed armed _,[],.write _ blockIdx v found data fits,
      (List.append_nil _).symm⟩
  | read blockIdx count offset =>
    rw [magic,if_neg (by decide),if_pos rfl,processReadRequest,decoded]
    dsimp only [BlockCall.request,BlockCall.blockIdx] at found ⊢
    rw [found]
    dsimp only
    refine ⟨rfl,rfl,fun armed => queue_armed (noted_armed armed _) _ _,_,
      .read _ blockIdx v found count offset (lib.malloc count session.world),?_⟩
    simp [chunks,OcssdConn.queue,unsent]
    rfl

variable {lib} {span : Vblk → Set PhysBlock} {γ κ : Type} {content : World → PhysBlock → γ}
  {cursor : World → Vblk → κ} {set : List (DevName × NvmGeo)} {nameOf : Dev → DevName}

-- The same call on worlds that agree on the array: the same reply, and they agree
-- again, on the blocks that overlap the one of the call as well.
theorem makes_alike (rules : DeviceRules lib set nameOf span content) (store : StoreRules lib span content cursor)
    {blksArray : List (Option Vblk)} {u w w' : World} {event : BlockCall × List UInt8}
    (alike : AllAlike span content cursor blksArray u w) (made : Makes lib blksArray w event w') :
    ∃ u',Makes lib blksArray u event u' ∧ AllAlike span content cursor blksArray u' w' := by
  have spread : ∀ (v : Vblk) (f : World → World),
      (∀ b s,b ∉ span v → content (f s) b = content s b) → (∀ other s,other ≠ v → cursor (f s) other = cursor s other) →
      Alike span content cursor v (f u) (f w) → AllAlike span content cursor blksArray (f u) (f w) := by
    intro v f outside others here other member
    refine ⟨fun b stands => ?_,?_⟩
    · by_cases inside : b ∈ span v
      · exact here.content b inside
      · rw [outside b w inside,outside b u inside]
        exact (alike other member).content b stands
    · by_cases same : other = v
      · rw [same]
        exact here.cursor
      · rw [others other w same,others other u same]
        exact (alike other member).cursor
  cases made with
  | erase blockIdx v found =>
    have here := store.erases v u w (alike v (List.mem_of_getElem? found))
    exact ⟨_,.erase u blockIdx v found,spread v (fun s => (lib.vblkErase (some v) s).2)
      (fun b s out => rules.erased v s b out) (fun other s apart => store.erased v s other apart) here⟩
  | write blockIdx v found data fits =>
    have here := store.writes v data u w (alike v (List.mem_of_getElem? found))
    exact ⟨_,.write u blockIdx v found data fits,spread v (fun s => (lib.vblkWrite (some v) data s).2)
      (fun b s out => rules.written v data s b out) (fun other s apart => store.written v data s other apart) here⟩
  | read blockIdx v found count offset buf =>
    obtain ⟨same,here⟩ := store.preads v buf count offset u w (alike v (List.mem_of_getElem? found))
    rw [same]
    exact ⟨_,.read u blockIdx v found count offset buf,
      spread v (fun s => (lib.vblkPread (some v) buf count offset s).2)
      (fun b s out => rules.pread v buf count offset s b out)
      (fun other s apart => store.pread v buf count offset s other apart) here⟩

end Own
end OcssdServer.BlockCalls
