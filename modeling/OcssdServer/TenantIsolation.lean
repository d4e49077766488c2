import OcssdServer.DeviceEffects

namespace OcssdServer.TenantIsolation
open ByteBuffers SocketFill FirstFit UnitGrants ManagerGrants BlockOwnership StripeLanes ServeLoop DeviceEffects MachineRuns

structure Server (World Dev Vblk Client : Type) where
  manager : OcssdManager
  world : World
  conns : Client → OcssdConn Dev Vblk

structure Record (World Vblk : Type) where
  before : World
  after : World
  events : List (Event Vblk)
  ending : CallEnd

section System
variable {World Dev Vblk Client : Type}

-- A client that has not connected yet is as on_accept will leave it.
def Server.start (set : List (DevName × NvmGeo)) (world : World) (messageBuf : Client → Memory) :
    Server World Dev Vblk Client :=
  ⟨.ofDevices set,world,fun client => .accepted (messageBuf client)⟩

-- The event loop calls back one connection at a time. A closed connection has
-- had its read event deleted.
def Server.serve [DecidableEq Client] (lib : Lightnvm World Dev Vblk) (server : Server World Dev Vblk Client)
    (input : Client × Socket Errno) : Server World Dev Vblk Client × Record World Vblk :=
  let conn := server.conns input.1
  if conn.closed then (server,⟨server.world,server.world,[],.returned 0⟩)
  else
    let r := processIncomingRequests lib conn ⟨server.manager,server.world,[]⟩ input.2
    (⟨r.session.manager,r.session.world,Function.update server.conns input.1 r.conn⟩,
      ⟨server.world,r.session.world,r.session.events,r.ending⟩)

end System

-- The fields of struct nvm_addr hold every address of the device.
structure FieldsHold {World Dev Vblk : Type} (lib : Lightnvm World Dev Vblk) (geo : NvmGeo) : Prop where
  channels : geo.nchannels.toNat ≤ 2^lib.chBits
  luns : geo.nluns.toNat ≤ 2^lib.lunBits
  blocks : geo.nblocks.toNat ≤ 2^lib.blkBits

-- What is relied on of liblightnvm. `span` is what a virtual block stands for and
-- `content` what the devices store: opening and building succeed, a device that
-- is opened again is the same, and only the operations on a virtual block change
-- content, inside its span.
structure DeviceRules {World Dev Vblk γ : Type} (lib : Lightnvm World Dev Vblk) (set : List (DevName × NvmGeo))
    (nameOf : Dev → DevName) (span : Vblk → Set PhysBlock) (content : World → PhysBlock → γ) : Prop where
  opens : ∀ d ∈ set,∀ w,∃ dev,(lib.devOpen d.1 w).1 = some dev ∧ nameOf dev = d.1 ∧ lib.devGetGeo dev = d.2
  builds : ∀ dev addrs w,∃ blk,(lib.vblkAlloc (some dev) addrs w).1 = some blk ∧
    ∀ b ∈ span blk,∃ addr ∈ addrs,b = ⟨nameOf dev,addr.ch,addr.lun,addr.blk⟩
  opened : ∀ devPath w b,content (lib.devOpen devPath w).2 b = content w b
  allocated : ∀ dev addrs w b,content (lib.vblkAlloc dev addrs w).2 b = content w b
  freed : ∀ blk w b,b ∉ span blk → content (lib.vblkFree (some blk) w) b = content w b
  erased : ∀ blk w b,b ∉ span blk → content (lib.vblkErase (some blk) w).2 b = content w b
  written : ∀ blk data w b,b ∉ span blk → content (lib.vblkWrite (some blk) data w).2 b = content w b
  read : ∀ blk buf count w b,b ∉ span blk → content (lib.vblkRead (some blk) buf count w).2 b = content w b
  pread : ∀ blk buf count offset w b,b ∉ span blk →
    content (lib.vblkPread (some blk) buf count offset w).2 b = content w b

section Rules
variable {World Dev Vblk γ : Type} {lib : Lightnvm World Dev Vblk} {set : List (DevName × NvmGeo)}
  {nameOf : Dev → DevName} {span : Vblk → Set PhysBlock} {content : World → PhysBlock → γ}

def Inside (span : Vblk → Set PhysBlock) (area : Set PhysBlock) (blk : Option Vblk) : Prop :=
  ∃ v,blk = some v ∧ span v ⊆ area

def SameOutside (content : World → PhysBlock → γ) (area : Set PhysBlock) (w w' : World) : Prop :=
  ∀ b,b ∉ area → content w' b = content w b

theorem rules_respect (rules : DeviceRules lib set nameOf span content) (area : Set PhysBlock) :
    Respects lib (Inside span area) (SameOutside content area) where
  refl := fun _ _ _ => rfl
  trans := fun _ _ _ first second b outside => (second b outside).trans (first b outside)
  opened := fun devPath w b _ => rules.opened devPath w b
  allocated := fun dev addrs w b _ => rules.allocated dev addrs w b
  freed := by
    rintro _ w ⟨v,rfl,part⟩ b outside
    exact rules.freed v w b (fun inside => outside (part inside))
  erased := by
    rintro _ w ⟨v,rfl,part⟩ b outside
    exact rules.erased v w b (fun inside => outside (part inside))
  written := by
    rintro _ data w ⟨v,rfl,part⟩ b outside
    exact rules.written v data w b (fun inside => outside (part inside))
  read := by
    rintro _ buf count w ⟨v,rfl,part⟩ b outside
    exact rules.read v buf count w b (fun inside => outside (part inside))
  pread := by
    rintro _ buf count offset w ⟨v,rfl,part⟩ b outside
    exact rules.pread v buf count offset w b (fun inside => outside (part inside))

end Rules

section Stripes
variable {World Dev Vblk : Type} {lib : Lightnvm World Dev Vblk} {set : List (DevName × NvmGeo)}
  {manager : OcssdManager} {request : OcssdAllocRequest}

theorem lane_blocks {unit : OcssdUnit} (valid : UnitValid unit) {vunit : VirtualOcssdUnit}
    (geo : vunit.geo = unit.geo) {vchannel : VirtualOcssdChannel} (member : vchannel ∈ vchannels request unit)
    {lane : Lane} (listed : lane ∈ channelLanes vunit.geo vchannel) {block : UInt32}
    (start : lane.blockStart ≤ block) (stop : block < lane.blockEnd) :
    (⟨vunit.devName,lane.channelId.toNat,lane.lunId.toNat,block.toNat⟩ : PhysBlock) ∈ blocksOf vunit vchannel := by
  rcases vchannels_drawnFrom member with ⟨_,channel,drawn',rfl⟩ | ⟨_,channel,drawn',rfl⟩
  · have flag := sharedGrant_flag unit.geo request channel
    unfold channelLanes at listed
    rw [if_pos (by rw [VirtualOcssdChannel.isShared,flag]; decide)] at listed
    obtain ⟨vlun,inside,rfl⟩ := List.mem_map.mp listed
    refine ⟨rfl,rfl,?_⟩
    rw [if_pos flag]
    -- Where the end of the range overflows, the range is empty.
    have below := UInt32.lt_iff_toNat_lt.mp stop
    rw [UInt32.toNat_add] at below
    exact ⟨vlun,inside,rfl,UInt32.le_iff_toNat_le.mp start,Nat.lt_of_lt_of_le below (Nat.mod_le _ _)⟩
  · obtain ⟨inside,_⟩ := mem_taken _ _ drawn'
    have balanced := (valid.exclusive channel inside).1
    have flag : (exclusiveGrant channel).shared = 0 := rfl
    unfold channelLanes at listed
    rw [if_neg (by rw [VirtualOcssdChannel.isShared,flag]; decide)] at listed
    obtain ⟨lunId,few,rfl⟩ := List.mem_map.mp listed
    have bound := List.mem_range.mp few
    refine ⟨rfl,rfl,?_⟩
    rw [if_neg (by rw [flag]; decide)]
    constructor
    · change (UInt32.ofNat lunId).toNat < _
      have narrow := exclusiveGrant_luns balanced
      rw [UInt32.toNat_ofNat',geo]
      exact Nat.lt_of_le_of_lt (Nat.mod_le _ _) (Nat.lt_of_lt_of_le bound narrow)
    · have below := UInt32.lt_iff_toNat_lt.mp stop
      change block.toNat < vunit.geo.nblocks.toUInt32.toNat at below
      rw [UInt64.toNat_toUInt32] at below
      exact Nat.lt_of_lt_of_le below (Nat.mod_le _ _)

-- Every address that a stripe collects is a block of the grant it is built for:
-- the address fields hold what the allocator gave.
theorem address_granted (fit : DevicesFit set) (fields : ∀ d ∈ set,FieldsHold lib d.2)
    (holds : Holds set manager) {vunit : VirtualOcssdUnit} (member : vunit ∈ (manager.serve request).2.1.units)
    {addrs : List NvmAddr} (inside : InLanes lib vunit.geo vunit addrs) {addr : NvmAddr} (listed : addr ∈ addrs) :
    ∃ grant ∈ channelGrants (manager.serve request).2.1,
      (⟨vunit.devName,addr.ch,addr.lun,addr.blk⟩ : PhysBlock) ∈ blocksOf grant.1 grant.2 := by
  obtain ⟨lane,held,block,start,stop,rfl⟩ := inside addr listed
  obtain ⟨vchannel,channel,listed'⟩ := List.mem_flatMap.mp held
  have grant : (vunit,vchannel) ∈ channelGrants (manager.serve request).2.1 :=
    List.mem_flatMap.mpr ⟨vunit,member,List.mem_map_of_mem channel⟩
  have block' : (⟨vunit.devName,lane.channelId.toNat,lane.lunId.toNat,block.toNat⟩ : PhysBlock) ∈
      blocksOf vunit vchannel := by
    have planned := grant
    rw [serve_plan holds.valid] at planned
    obtain ⟨entry,inPlan,same,drawn'⟩ := channelGrants_plan planned
    have valid := holds.valid _ (plan_member inPlan)
    refine lane_blocks valid ?_ drawn' listed' start stop
    change (vunit,vchannel).1.geo = _
    rw [same]
    rfl
  have given := granted_within fit holds request _ grant block'
  obtain ⟨d,device,_,ch,lun,blk⟩ := owned_inside (holds_kept manager request holds) given
  have hold := fields d device
  refine ⟨_,grant,?_⟩
  rw [Lane.addr,Nat.mod_eq_of_lt (Nat.lt_of_lt_of_le ch hold.channels),
    Nat.mod_eq_of_lt (Nat.lt_of_lt_of_le lun hold.luns),Nat.mod_eq_of_lt (Nat.lt_of_lt_of_le blk hold.blocks)]
  exact block'

end Stripes

section Calls
variable {World Dev Vblk γ : Type} {lib : Lightnvm World Dev Vblk} {set : List (DevName × NvmGeo)}
  {nameOf : Dev → DevName} {span : Vblk → Set PhysBlock} {content : World → PhysBlock → γ}

def grantOf : Event Vblk → Option (VirtualOcssd × Bool)
  | .granted vssd remote => some (vssd,remote)
  | _ => none

def grants (events : List (Event Vblk)) : List (VirtualOcssd × Bool) := events.filterMap grantOf

-- The physical blocks behind a connection's array, and those a log gave to be
-- set up on the server.
def arraySpan (span : Vblk → Set PhysBlock) (blksArray : List (Option Vblk)) : Set PhysBlock :=
  fun b => ∃ v,some v ∈ blksArray ∧ b ∈ span v

def remoteBlocks (events : List (Event Vblk)) : Set PhysBlock :=
  fun b => ∃ gift ∈ grants events,gift.2 = true ∧ ∃ grant ∈ channelGrants gift.1,b ∈ blocksOf grant.1 grant.2

def Moved (manager : OcssdManager) (events : List (Event Vblk)) (after : OcssdManager) : Prop :=
  (grants events = [] ∧ after = manager) ∨
    ∃ request remote,grants events = [((manager.serve request).2.1,remote)] ∧ after = (manager.serve request).1

structure Confined (span : Vblk → Set PhysBlock) (content : World → PhysBlock → γ)
    (blksArray : List (Option Vblk)) (manager : OcssdManager) (w : World) (r : Reply World Dev Vblk) : Prop where
  moved : Moved manager r.session.events r.session.manager
  same : SameOutside content (arraySpan span blksArray ∪ remoteBlocks r.session.events) w r.session.world
  calls : ∀ blk call,.called blk call ∈ r.session.events →
    Inside span (arraySpan span blksArray ∪ remoteBlocks r.session.events) blk
  array : ∀ blk ∈ r.conn.blksArray,Inside span (arraySpan span blksArray ∪ remoteBlocks r.session.events) blk

theorem array_inside {blksArray : List (Option Vblk)} (held : none ∉ blksArray) (more : Set PhysBlock) :
    ∀ blk ∈ blksArray,Inside span (arraySpan span blksArray ∪ more) blk := by
  intro blk member
  cases blk with
  | none => exact absurd member held
  | some v => exact ⟨v,rfl,fun b inside => .inl ⟨v,member,inside⟩⟩

theorem calls_grants {ok : Option Vblk → Prop} {calls : List (Event Vblk)}
    (each : ∀ event ∈ calls,∃ blk call,event = .called blk call ∧ ok blk) : grants calls = [] := by
  refine List.filterMap_eq_nil_iff.mpr fun event member => ?_
  obtain ⟨_,_,rfl,_⟩ := each event member
  rfl

theorem remoteBlocks_congr {one two : List (Event Vblk)} (same : grants one = grants two) :
    remoteBlocks one = remoteBlocks two := by
  funext b
  exact congrArg (fun gifts : List (VirtualOcssd × Bool) => ∃ gift ∈ gifts,gift.2 = true ∧
    ∃ grant ∈ channelGrants gift.1,b ∈ blocksOf grant.1 grant.2) same

theorem worked_confined {blksArray : List (Option Vblk)} {manager : OcssdManager} {w : World}
    {start : Session World Vblk} {r : Reply World Dev Vblk} {area : Set PhysBlock}
    (moved : Moved manager start.events start.manager) (from' : start.world = w)
    (fresh : ∀ blk call,.called blk call ∉ start.events)
    (allowed : area = arraySpan span blksArray ∪ remoteBlocks start.events)
    (worked : Worked (Inside span area) (SameOutside content area) start r.session)
    (held : ∀ blk ∈ r.conn.blksArray,Inside span area blk) : Confined span content blksArray manager w r := by
  obtain ⟨calls,grown,each⟩ := worked.calls
  have silent : grants r.session.events = grants start.events := by
    rw [grown,grants,List.filterMap_append]
    exact (congrArg _ (calls_grants each)).trans (List.append_nil _)
  have area' : arraySpan span blksArray ∪ remoteBlocks r.session.events = area := by
    rw [allowed]
    exact congrArg _ (remoteBlocks_congr silent)
  refine ⟨?_,?_,?_,?_⟩
  · rw [Moved,silent,worked.manager]
    exact moved
  · rw [area',←from']
    exact worked.same
  · intro blk call member
    rw [grown] at member
    rcases List.mem_append.mp member with old | new
    · exact absurd old (fresh blk call)
    · obtain ⟨_,_,same,fine⟩ := each _ new
      cases same
      rw [area']
      exact fine
  · rw [area']
    exact held

variable (rules : DeviceRules lib set nameOf span content) (fit : DevicesFit set)
  (fields : ∀ d ∈ set,FieldsHold lib d.2) {manager : OcssdManager} (holds : Holds set manager)
include rules fit fields holds

theorem built_inside {request : OcssdAllocRequest} {vunit : VirtualOcssdUnit}
    (member : vunit ∈ (manager.serve request).2.1.units) {dev : Dev} {w : World}
    (opened : (lib.devOpen vunit.devName w).1 = some dev) {addrs : List NvmAddr}
    (inside : InLanes lib (lib.devGetGeo dev) vunit addrs) (w' : World) :
    Inside span (fun b => ∃ grant ∈ channelGrants (manager.serve request).2.1,b ∈ blocksOf grant.1 grant.2)
      (lib.vblkAlloc (some dev) addrs w').1 := by
  have device : (vunit.devName,vunit.geo) ∈ set := by
    have planned := member
    rw [serve_plan holds.valid] at planned
    obtain ⟨entry,kept,rfl⟩ := List.mem_map.mp planned
    exact unit_device holds (plan_member (List.mem_filter.mp kept).1)
  obtain ⟨dev',opened',named,geo⟩ := rules.opens _ device w
  cases opened.symm.trans opened'
  obtain ⟨blk,given,part⟩ := rules.builds dev addrs w'
  refine ⟨blk,given,fun b inside' => ?_⟩
  obtain ⟨addr,listed,rfl⟩ := part b inside'
  rw [named]
  rw [geo] at inside
  exact address_granted fit fields holds member inside listed

theorem alloc_confined {conn : OcssdConn Dev Vblk} (held : none ∉ conn.blksArray) (w : World)
    (message : List UInt8) : Confined span content conn.blksArray manager w
      (processAllocRequest lib conn ⟨manager,w,[.dispatched message]⟩ message) := by
  cases decoded : OcssdAllocRequest.ofMessage message with
  | none =>
    rw [processAllocRequest,decoded]
    refine worked_confined (.inl ⟨rfl,rfl⟩) rfl ?_ rfl (worked_refl (rules_respect rules _) _) (array_inside held _)
    intro blk call member
    cases List.mem_singleton.mp member
  | some request =>
    let grant := manager.allocOcssdResource .new request
    let start : Session World Vblk :=
      ⟨grant.manager,w,[.dispatched message,.granted grant.vssd (decide (grant.request.remote ≠ 0))]⟩
    have built : ∀ vunit rest dev u addrs u',grant.request.remote ≠ 0 → grant.vssd.units = vunit :: rest →
        (lib.devOpen vunit.devName u).1 = some dev → InLanes lib (lib.devGetGeo dev) vunit addrs →
        Inside span (arraySpan span conn.blksArray ∪ remoteBlocks start.events) (lib.vblkAlloc (some dev) addrs u').1 := by
      intro vunit rest dev u addrs u' remote units opened inside
      have member : vunit ∈ (manager.serve request).2.1.units := by
        change vunit ∈ grant.vssd.units
        rw [units]
        exact List.mem_cons_self
      obtain ⟨v,given,part⟩ := built_inside rules fit fields holds member opened inside u'
      refine ⟨v,given,fun b inside' => .inr ?_⟩
      exact ⟨_,List.mem_singleton.mpr rfl,decide_eq_true remote,part inside'⟩
    obtain ⟨worked,held'⟩ := @allocRequest_worked World Dev Vblk lib _ _
      (rules_respect rules (arraySpan span conn.blksArray ∪ remoteBlocks start.events)) conn
      ⟨manager,w,[.dispatched message]⟩ message request decoded built (array_inside held _)
    refine worked_confined (.inr ⟨request,_,rfl,rfl⟩) rfl ?_ rfl worked held'
    intro blk call member
    rcases List.mem_cons.mp member with first | second
    · cases first
    · cases List.mem_singleton.mp second

theorem call_confined {conn : OcssdConn Dev Vblk} (held : none ∉ conn.blksArray) (w : World)
    (socket : Socket Errno) : Confined span content conn.blksArray manager w
      (processIncomingRequests lib conn ⟨manager,w,[]⟩ socket).toReply ∧
      (processIncomingRequests lib conn ⟨manager,w,[]⟩ socket).ending ≠ .outOfRange := by
  cases call_effect lib conn ⟨manager,w,[]⟩ socket with
  | idle same array ending =>
    refine ⟨@worked_confined _ _ _ _ _ _ _ _ _ ⟨manager,w,[]⟩ _ _ (.inl ⟨rfl,rfl⟩) rfl nofun rfl ?_ ?_,ending⟩
    · rw [same]
      exact worked_refl (rules_respect rules _) _
    · rw [array]
      exact array_inside held _
  | allocates message conn' array served =>
    rw [←array] at held ⊢
    rw [served]
    refine ⟨alloc_confined rules fit fields holds held w message,fun out => ?_⟩
    have back := (alloc_carried lib conn' ⟨manager,w,[.dispatched message]⟩ message).2
    change (processAllocRequest lib conn' ⟨manager,w,[.dispatched message]⟩ message).ending = _ at out
    rw [out] at back
    cases back
  | operates message conn' array served =>
    rw [←array] at held ⊢
    refine ⟨worked_confined (.inl ⟨rfl,rfl⟩) rfl ?_ rfl
      (served.worked _ _ (rules_respect rules _) (array_inside held _)) ?_,served.ending⟩
    · intro blk call member
      cases List.mem_singleton.mp member
    · rw [served.array]
      exact array_inside held _

end Calls

section Run
variable {World Dev Vblk Client γ : Type} [DecidableEq Client] {lib : Lightnvm World Dev Vblk}
  {set : List (DevName × NvmGeo)} {nameOf : Dev → DevName} {span : Vblk → Set PhysBlock}
  {content : World → PhysBlock → γ}

-- Every granted virtual channel with its blocks, under its client and the remote
-- flag of the allocation.
def given (input : Client × Socket Errno) (record : Record World Vblk) : List ((Client × Bool) × Set PhysBlock) :=
  (grants record.events).flatMap (fun gift =>
    (channelGrants gift.1).map (fun grant => ((input.1,gift.2),blocksOf grant.1 grant.2)))

def reach (span : Vblk → Set PhysBlock) (server : Server World Dev Vblk Client) (tag : Client × Bool) :
    Set PhysBlock :=
  fun b => tag.2 = true ∧ b ∈ arraySpan span (server.conns tag.1).blksArray

def actor (input : Client × Socket Errno) : Client × Bool := (input.1,true)

def touched (span : Vblk → Set PhysBlock) (content : World → PhysBlock → γ) (record : Record World Vblk) :
    Set PhysBlock :=
  fun b => (∃ v call,.called (some v) call ∈ record.events ∧ b ∈ span v) ∨
    content record.after b ≠ content record.before b

structure Sound (set : List (DevName × NvmGeo)) (server : Server World Dev Vblk Client) : Prop where
  holds : Holds set server.manager
  held : ∀ client,none ∉ (server.conns client).blksArray

omit [DecidableEq Client] in
theorem start_sound (set : List (DevName × NvmGeo)) (world : World) (messageBuf : Client → Memory) :
    Sound set (.start set world messageBuf : Server World Dev Vblk Client) := ⟨holds_start set,fun _ => nofun⟩

structure StepConfined (set : List (DevName × NvmGeo)) (span : Vblk → Set PhysBlock)
    (content : World → PhysBlock → γ) (server : Server World Dev Vblk Client) (client : Client)
    (next : Server World Dev Vblk Client) (record : Record World Vblk) : Prop where
  moved : Moved server.manager record.events next.manager
  others : ∀ other,other ≠ client → next.conns other = server.conns other
  touches : touched span content record ⊆
    arraySpan span (server.conns client).blksArray ∪ remoteBlocks record.events
  array : ∀ blk ∈ (next.conns client).blksArray,
    Inside span (arraySpan span (server.conns client).blksArray ∪ remoteBlocks record.events) blk
  ending : record.ending ≠ .outOfRange

theorem serve_confined (rules : DeviceRules lib set nameOf span content) (fit : DevicesFit set)
    (fields : ∀ d ∈ set,FieldsHold lib d.2) {server : Server World Dev Vblk Client} (sound : Sound set server)
    (input : Client × Socket Errno) :
    StepConfined set span content server input.1 (server.serve lib input).1 (server.serve lib input).2 := by
  unfold Server.serve
  dsimp only
  split
  · refine ⟨.inl ⟨rfl,rfl⟩,fun _ _ => rfl,?_,array_inside (sound.held _) _,nofun⟩
    rintro b (⟨v,call,member,_⟩ | changed)
    · cases member
    · exact absurd rfl changed
  · obtain ⟨confined,ending⟩ := call_confined rules fit fields sound.holds (sound.held input.1) server.world input.2
    refine ⟨confined.moved,fun other foreign => Function.update_of_ne foreign _ _,?_,?_,ending⟩
    · rintro b (⟨v,call,member,inside⟩ | changed)
      · obtain ⟨_,same,part⟩ := confined.calls _ _ member
        cases same
        exact part inside
      · by_contra outside
        exact changed (confined.same b outside)
    · dsimp only
      rw [Function.update_self]
      exact confined.array

omit [DecidableEq Client] in
theorem remote_under {record : Record World Vblk} (input : Client × Socket Errno) :
    remoteBlocks record.events ⊆ under (actor input) (given input record) := by
  rintro b ⟨gift,member,remote,grant,listed,inside⟩
  refine ⟨_,List.mem_flatMap.mpr ⟨gift,member,List.mem_map_of_mem listed⟩,?_,inside⟩
  rw [remote]
  rfl

omit [DecidableEq Client] in
theorem moved_given {manager after : OcssdManager} {record : Record World Vblk}
    (moved : Moved manager record.events after) (input : Client × Socket Errno) :
    (given input record = [] ∧ after = manager) ∨
      ∃ request remote,after = (manager.serve request).1 ∧
        given input record = (channelGrants (manager.serve request).2.1).map
          (fun grant => ((input.1,remote),blocksOf grant.1 grant.2)) := by
  rcases moved with ⟨none',same⟩ | ⟨request,remote,one,served⟩
  · exact .inl ⟨by rw [given,none']; rfl,same⟩
  · exact .inr ⟨request,remote,served,by rw [given,one]; exact List.append_nil _⟩

omit [DecidableEq Client] in
theorem gift_granted {manager after : OcssdManager} {record : Record World Vblk}
    (moved : Moved manager record.events after) {input : Client × Socket Errno}
    {g : (Client × Bool) × Set PhysBlock} (member : g ∈ given input record) :
    ∃ request,∃ grant ∈ channelGrants (manager.serve request).2.1,g.2 = blocksOf grant.1 grant.2 ∧
      after = (manager.serve request).1 := by
  rcases moved_given moved input with ⟨none',_⟩ | ⟨request,remote,served,gifts⟩
  · rw [none'] at member
    cases member
  · rw [gifts] at member
    obtain ⟨grant,listed,rfl⟩ := List.mem_map.mp member
    exact ⟨request,grant,listed,rfl,served⟩

variable (rules : DeviceRules lib set nameOf span content) (fit : DevicesFit set)
  (fields : ∀ d ∈ set,FieldsHold lib d.2)
include rules fit fields

theorem serve_sound (server : Server World Dev Vblk Client) (input : Client × Socket Errno)
    (sound : Sound set server) : Sound set (server.serve lib input).1 := by
  have step := serve_confined rules fit fields sound input
  constructor
  · rcases step.moved with ⟨_,same⟩ | ⟨request,_,_,served⟩
    · rw [same]
      exact sound.holds
    · rw [served]
      exact holds_kept _ _ sound.holds
  · intro client
    by_cases own : client = input.1
    · subst own
      intro null
      obtain ⟨_,missing,_⟩ := step.array none null
      cases missing
    · rw [step.others client own]
      exact sound.held client

theorem server_hands : Hands (Server.serve lib) (Sound set)
    (fun server : Server World Dev Vblk Client => owned server.manager) given where
  kept := serve_sound rules fit fields
  fresh := by
    intro server input sound g member
    obtain ⟨request,grant,listed,same,_⟩ := gift_granted (serve_confined rules fit fields sound input).moved member
    rw [same]
    exact granted_fresh fit sound.holds request grant listed
  within := by
    intro server input sound g member
    obtain ⟨request,grant,listed,same,served⟩ :=
      gift_granted (serve_confined rules fit fields sound input).moved member
    rw [same,served]
    exact granted_within fit sound.holds request grant listed
  grows := by
    intro server input sound
    have step := serve_confined rules fit fields sound input
    rcases step.moved with ⟨_,same⟩ | ⟨request,_,_,served⟩
    · rw [same]
    · rw [served]
      exact owned_grows sound.holds request
  apart := by
    intro server input sound
    have step := serve_confined rules fit fields sound input
    rcases moved_given step.moved input with ⟨none',_⟩ | ⟨request,remote,_,gifts⟩
    · rw [none']
      exact .nil
    · rw [gifts]
      exact List.pairwise_map.mpr (granted_apart fit sound.holds request)

theorem server_keeps : Keeps (Server.serve lib) (Sound set) given
    (fun server : Server World Dev Vblk Client => reach span server) actor
    (fun _ => touched span content) where
  reached := by
    rintro server input ⟨client,flag⟩ sound b ⟨remote,v,member,inside⟩
    have step := serve_confined rules fit fields sound input
    by_cases own : client = input.1
    · subst own
      obtain ⟨_,same,part⟩ := step.array _ member
      cases same
      rcases part inside with old | new
      · exact .inl ⟨remote,old⟩
      · have tag : (input.1,flag) = actor input := congrArg (Prod.mk input.1) remote
        rw [tag]
        exact .inr (remote_under input new)
    · rw [step.others client own] at member
      exact .inl ⟨remote,v,member,inside⟩
  touches := by
    intro server input sound b touch
    rcases (serve_confined rules fit fields sound input).touches touch with old | new
    · exact .inl ⟨rfl,old⟩
    · exact .inr (remote_under input new)

-- Over any interleaving of the connections' calls: what was granted to a client
-- is left alone in every step of another, and what was granted to a client that
-- is not remote in every step at all. No step runs past the end of curr_blocks.
theorem tenant_isolation (world : World) (messageBuf : Client → Memory) (inputs : List (Client × Socket Errno))
    (inRange : ∀ e ∈ trace (Server.serve lib) (.start set world messageBuf) inputs,e.2.ending ≠ .badIndex) :
    (∀ e ∈ trace (Server.serve lib) (.start set world messageBuf) inputs,
        e.2.ending = .waiting ∨ e.2.ending.stuck = false) ∧
      ∀ g ∈ handed given (trace (Server.serve lib) (.start set world messageBuf) inputs),
        ∀ e ∈ trace (Server.serve lib) (.start set world messageBuf) inputs,
          g.1.1 ≠ e.1.1 ∨ g.1.2 = false → ∀ b ∈ g.2,
            content e.2.after b = content e.2.before b ∧
              ∀ v call,.called (some v) call ∈ e.2.events → b ∉ span v := by
  have start : Sound set (.start set world messageBuf : Server World Dev Vblk Client) := start_sound set world messageBuf
  constructor
  · intro e member
    have inside := trace_forall (P := fun e => e.2.ending ≠ .outOfRange) (serve_sound rules fit fields)
      (fun server input sound => (serve_confined rules fit fields sound input).ending) start inputs e member
    have indexed := inRange e member
    cases ended : e.2.ending with
    | returned ret => exact .inr rfl
    | threw => exact .inr rfl
    | badIndex => exact absurd ended indexed
    | outOfRange => exact absurd ended inside
    | waiting => exact .inl rfl
  · intro g gift e member foreign b inside
    have other : g.1 ≠ actor e.1 := by
      intro same
      rcases foreign with client | local'
      · exact client (congrArg Prod.fst same)
      · rw [same] at local'
        cases local'
    have empty : ∀ tag,reach span (.start set world messageBuf : Server World Dev Vblk Client) tag = ∅ := by
      intro tag
      refine Set.eq_empty_iff_forall_notMem.mpr ?_
      rintro b ⟨_,v,member,_⟩
      cases member
    have apart := (server_hands rules fit fields).foreign_untouched (server_keeps rules fit fields) start empty
      inputs gift member other
    have untouched : b ∉ touched span content e.2 := Set.disjoint_left.mp apart inside
    exact ⟨not_not.mp fun changed => untouched (.inr changed),
      fun v call called part => untouched (.inl ⟨v,call,called,part⟩)⟩

end Run

-- Devices that remember one number for every block: 0 after an erase, 1 after a
-- write. A virtual block is its device with its addresses.
def covers (v : DevName × List NvmAddr) (b : PhysBlock) : Prop :=
  b.dev = v.1 ∧ (⟨b.ch,b.lun,b.blk⟩ : NvmAddr) ∈ v.2

instance (v : DevName × List NvmAddr) (b : PhysBlock) : Decidable (covers v b) :=
  inferInstanceAs (Decidable (_ ∧ _))

def mark (v : Option (DevName × List NvmAddr)) (value : Nat) (w : PhysBlock → Nat) : PhysBlock → Nat :=
  match v with
  | none => w
  | some v => fun b => if covers v b then value else w b

def markingLib (set : List (DevName × NvmGeo)) :
    Lightnvm (PhysBlock → Nat) (DevName × NvmGeo) (DevName × List NvmAddr) where
  chBits := 8
  lunBits := 8
  blkBits := 16
  devOpen := fun devPath w => (set.find? (fun d => d.1 = devPath),w)
  devGetGeo := fun dev => dev.2
  vblkAlloc := fun dev addrs w => (dev.map (fun dev => (dev.1,addrs)),w)
  vblkFree := fun _ w => w
  vblkGetNbytes := fun _ _ => 4096
  vblkErase := fun v w => (0,mark v 0 w)
  vblkWrite := fun v data w => (data.length,mark v 1 w)
  vblkRead := fun _ buf count w => ((count.toNat,buf),w)
  vblkPread := fun _ buf count _ w => ((count.toNat,buf),w)
  bufAlloc := fun _ _ _ _ => 0
  malloc := fun _ _ _ => 0

def smallDevice : List (DevName × NvmGeo) := [([110],⟨5,1,1,4,1,1,1,1,0⟩)]

theorem mark_outside {v : DevName × List NvmAddr} {b : PhysBlock} (outside : ¬ covers v b) (value : Nat)
    (w : PhysBlock → Nat) : mark (some v) value w b = w b := if_neg outside

theorem marking_rules : DeviceRules (markingLib smallDevice) smallDevice Prod.fst covers (fun w => w) where
  opens := by
    intro d member w
    rw [List.mem_singleton.mp member]
    exact ⟨_,rfl,rfl,rfl⟩
  builds := by
    intro dev addrs w
    refine ⟨_,rfl,?_⟩
    rintro b ⟨named,member⟩
    exact ⟨_,member,by rw [←named]⟩
  opened := fun _ _ _ => rfl
  allocated := fun _ _ _ _ => rfl
  freed := fun _ _ _ _ => rfl
  erased := fun _ w _ outside => mark_outside outside 0 w
  written := fun _ _ w _ outside => mark_outside outside 1 w
  read := fun _ _ _ _ _ _ => rfl
  pread := fun _ _ _ _ _ _ _ => rfl

-- Two clients ask for two shared blocks each, the first of them remotely; then
-- the first erases the virtual block that the server set up for it.
def askTwo (remote : UInt8) : List UInt8 := [1,0x65,0,0,1,0,0,0,2,0,0,0,1,0,0,0,0,0,0,0,remote,0,0,0]

def eraseFirst : List UInt8 := [3,0x64,0,0,0,0,0,0,0,0,0,0,0,0,0,0,0,0,0,0,0,0,0,0]

def twoClients : List ((Nat × Socket Errno) × Record (PhysBlock → Nat) (DevName × List NvmAddr)) :=
  trace (Server.serve (markingLib smallDevice)) (.start smallDevice (fun _ => 7) (fun _ _ => 0))
    [(0,⟨askTwo 1,[.bytes 23]⟩),(1,⟨askTwo 0,[.bytes 9,.bytes 13]⟩),(0,⟨eraseFirst,[.bytes 23]⟩)]

theorem two_clients_isolated :
    twoClients.map (fun e => e.2.events.length) = [4,2,2] ∧ (handed given twoClients).length = 2 ∧
      ∀ g ∈ handed given twoClients,∀ e ∈ twoClients,g.1.1 ≠ e.1.1 ∨ g.1.2 = false → ∀ b ∈ g.2,
        e.2.after b = e.2.before b ∧ ∀ v call,.called (some v) call ∈ e.2.events → ¬ covers v b := by
  have fit : DevicesFit smallDevice := by
    refine ⟨by decide,fun d member => ?_⟩
    rw [List.mem_singleton.mp member]
    exact ⟨by decide,by decide⟩
  have fields : ∀ d ∈ smallDevice,FieldsHold (markingLib smallDevice) d.2 := by
    intro d member
    rw [List.mem_singleton.mp member]
    exact ⟨by decide,by decide,by decide⟩
  have inRange : ∀ e ∈ twoClients,e.2.ending ≠ .badIndex := by decide +kernel
  exact ⟨by decide +kernel,by decide +kernel,
    (tenant_isolation marking_rules fit fields _ _ _ inRange).2⟩

end OcssdServer.TenantIsolation
