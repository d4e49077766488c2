import OcssdServer.ManagerGrants
import Mathlib.Data.List.Nodup

namespace OcssdServer.BlockOwnership
open ChannelBalance FirstFit UnitGrants ManagerGrants

structure PhysBlock where
  dev : DevName
  ch : Nat
  lun : Nat
  blk : Nat

def blocksOf (vunit : VirtualOcssdUnit) (vchannel : VirtualOcssdChannel) : Set PhysBlock :=
  fun b => b.dev = vunit.devName ∧ b.ch = vchannel.channelId.toNat ∧
    if vchannel.shared = 1 then
      ∃ vlun ∈ vchannel.luns,b.lun = vlun.lunId.toNat ∧
        vlun.blockStart.toNat ≤ b.blk ∧ b.blk < vlun.blockStart.toNat+vlun.numBlocks.toNat
    else b.lun < vunit.geo.nluns.toNat ∧ b.blk < vunit.geo.nblocks.toNat

def channelGrants (vssd : VirtualOcssd) : List (VirtualOcssdUnit × VirtualOcssdChannel) :=
  vssd.units.flatMap (fun vunit => vunit.channels.map (fun vchannel => (vunit,vchannel)))

structure GeoFits (geo : NvmGeo) : Prop where
  channels : geo.nchannels.toNat < 2^32
  blocks : geo.nluns.toNat*geo.nblocks.toNat < 2^32

-- What the state of the allocator counts as given away.
def inShared (unit : OcssdUnit) (channel : OcssdChannel) : Set PhysBlock :=
  fun b => b.dev = unit.name ∧ b.ch = channel.channelId.toNat ∧ b.lun < unit.geo.nluns.toNat ∧
    b.blk < (level channel).toNat

def inChannel (unit : OcssdUnit) (channel : OcssdChannel) : Set PhysBlock :=
  fun b => b.dev = unit.name ∧ b.ch = channel.channelId.toNat ∧ b.lun < unit.geo.nluns.toNat ∧
    b.blk < unit.geo.nblocks.toNat

def ownedUnit (unit : OcssdUnit) : Set PhysBlock :=
  fun b => (∃ channel ∈ unit.sharedChannels,b ∈ inShared unit channel) ∨
    ∃ channel ∈ unit.exclusiveChannels,channel.used = true ∧ b ∈ inChannel unit channel

def owned (manager : OcssdManager) : Set PhysBlock :=
  fun b => ∃ unit ∈ manager.ocssds,b ∈ ownedUnit unit

section Totals

theorem ofAllocUnits_from (allocUnits : AllocUnits) (vchannel : VirtualOcssdChannel) :
    allocUnits.foldl (fun vchannel it =>
        {vchannel with
          luns := vchannel.luns ++ [VirtualOcssdLun.ofAllocUnit it]
          totalBlocks := vchannel.totalBlocks+(VirtualOcssdLun.ofAllocUnit it).numBlocks
          numLuns := vchannel.numLuns+1}) vchannel =
      {vchannel with
        luns := vchannel.luns ++ allocUnits.map .ofAllocUnit
        totalBlocks := vchannel.totalBlocks+(allocUnits.map (fun it => it.2.2.toUInt32)).sum
        numLuns := vchannel.numLuns+UInt32.ofNat allocUnits.length} := by
  induction allocUnits generalizing vchannel with
  | nil => simp
  | cons it rest ih =>
    rw [List.foldl_cons,ih]
    simp only [List.map_cons,List.append_assoc,List.singleton_append,List.sum_cons,List.length_cons,
      UInt32.ofNat_add,VirtualOcssdLun.ofAllocUnit]
    congr 1 <;> grind

theorem ofAllocUnits_parts (channelId shared : UInt32) (allocUnits : AllocUnits) :
    VirtualOcssdChannel.ofAllocUnits channelId shared allocUnits =
      ⟨channelId,shared,(allocUnits.map (fun it => it.2.2.toUInt32)).sum,
        UInt32.ofNat allocUnits.length,allocUnits.map .ofAllocUnit⟩ := by
  refine (ofAllocUnits_from allocUnits ⟨channelId,shared,0,0,[]⟩).trans ?_
  simp

theorem sharedGrant_id (geo : NvmGeo) (request : OcssdAllocRequest) (channel : OcssdChannel) :
    (sharedGrant geo request channel).channelId = channel.channelId.toUInt32 := by
  rw [sharedGrant,ofAllocUnits_parts]

theorem sharedGrant_flag (geo : NvmGeo) (request : OcssdAllocRequest) (channel : OcssdChannel) :
    (sharedGrant geo request channel).shared = 1 := by
  rw [sharedGrant,ofAllocUnits_parts]

theorem sharedGrant_luns (geo : NvmGeo) (request : OcssdAllocRequest) (channel : OcssdChannel) :
    (sharedGrant geo request channel).luns = (List.range geo.nluns.toNat).map fun i =>
      .ofAllocUnit (UInt64.ofNat i,level channel,lunShare channel (share request)) := by
  rw [sharedGrant,ofAllocUnits_parts]
  exact List.map_map

theorem exclusiveGrant_luns {geo : NvmGeo} {channel : OcssdChannel} (balanced : Balanced geo channel) :
    (exclusiveGrant channel).numLuns.toNat ≤ geo.nluns.toNat := by
  rw [←balanced.numLuns]
  exact Nat.le_trans (Nat.le_of_eq (UInt64.toNat_toUInt32 _)) (Nat.mod_le _ _)

end Totals

section Unit
variable {unit : OcssdUnit}

theorem ids_nodup (valid : UnitValid unit) :
    ((unit.sharedChannels ++ unit.exclusiveChannels).map (·.channelId)).Nodup := by
  rw [valid.ids]
  refine List.Nodup.map_on ?_ List.nodup_range
  intro i below j below' same
  have word := unit.geo.nchannels.toNat_lt
  have bounds := And.intro (List.mem_range.mp below) (List.mem_range.mp below')
  have nats := congrArg UInt64.toNat same
  rw [UInt64.toNat_ofNat',UInt64.toNat_ofNat',Nat.mod_eq_of_lt (by omega),
    Nat.mod_eq_of_lt (by omega)] at nats
  exact nats

theorem id_bound (valid : UnitValid unit) {channel : OcssdChannel}
    (member : channel ∈ unit.sharedChannels ++ unit.exclusiveChannels) :
    channel.channelId.toNat < unit.geo.nchannels.toNat := by
  have inside : channel.channelId ∈ (List.range unit.geo.nchannels.toNat).map UInt64.ofNat := by
    rw [←valid.ids]
    exact List.mem_map_of_mem member
  obtain ⟨i,below,same⟩ := List.mem_map.mp inside
  have word := unit.geo.nchannels.toNat_lt
  have bound := List.mem_range.mp below
  rw [←same,UInt64.toNat_ofNat',Nat.mod_eq_of_lt (by omega)]
  exact bound

theorem same_channel (valid : UnitValid unit) {one two : OcssdChannel}
    (left : one ∈ unit.sharedChannels ++ unit.exclusiveChannels)
    (right : two ∈ unit.sharedChannels ++ unit.exclusiveChannels)
    (same : one.channelId.toNat = two.channelId.toNat) : one = two :=
  List.inj_on_of_nodup_map (ids_nodup valid) left right (UInt64.toNat_inj.mp same)

theorem pools_apart (valid : UnitValid unit) {one two : OcssdChannel}
    (left : one ∈ unit.sharedChannels) (right : two ∈ unit.exclusiveChannels) :
    one.channelId.toNat ≠ two.channelId.toNat := by
  intro same
  have nodup := ids_nodup valid
  rw [List.map_append,List.nodup_append] at nodup
  exact nodup.2.2 _ (List.mem_map_of_mem left) _ (List.mem_map_of_mem right)
    (UInt64.toNat_inj.mp same)

theorem narrow_id (small : unit.geo.nchannels.toNat ≤ 2^32) (valid : UnitValid unit) {channel : OcssdChannel}
    (member : channel ∈ unit.sharedChannels ++ unit.exclusiveChannels) :
    channel.channelId.toUInt32.toNat = channel.channelId.toNat := by
  have bound := id_bound valid member
  rw [UInt64.toNat_toUInt32,Nat.mod_eq_of_lt (by omega)]

-- A shared grant is the band of blocks between the old and the new level.
theorem sharedGrant_blocks (fits : GeoFits unit.geo) (valid : UnitValid unit)
    {request : OcssdAllocRequest} {channel : OcssdChannel} (member : channel ∈ unit.sharedChannels)
    (served : serves (share request) channel = true) {vunit : VirtualOcssdUnit}
    (named : vunit.devName = unit.name) (b : PhysBlock) :
    b ∈ blocksOf vunit (sharedGrant unit.geo request channel) ↔
      b.dev = unit.name ∧ b.ch = channel.channelId.toNat ∧ b.lun < unit.geo.nluns.toNat ∧
        (level channel).toNat ≤ b.blk ∧
        b.blk < (level channel).toNat+(lunShare channel (share request)).toNat := by
  have balanced := (valid.shared channel member).1
  have id := narrow_id (Nat.le_of_lt fits.channels) valid (List.mem_append_left unit.exclusiveChannels member)
  have room := UInt64.lt_iff_toNat_lt.mp (serves_room balanced served)
  have luns : 0 < unit.geo.nluns.toNat := Nat.pos_of_ne_zero fun zero =>
    serves_luns balanced served (UInt64.toNat_inj.mp zero)
  have few : unit.geo.nluns.toNat ≤ unit.geo.nluns.toNat*unit.geo.nblocks.toNat :=
    Nat.le_mul_of_pos_right _ (by omega)
  have low : unit.geo.nblocks.toNat ≤ unit.geo.nluns.toNat*unit.geo.nblocks.toNat :=
    Nat.le_mul_of_pos_left _ luns
  have small := fits.blocks
  have given := lunShare_toNat (share request) balanced
  have fields : ∀ i < unit.geo.nluns.toNat,
      (VirtualOcssdLun.ofAllocUnit (UInt64.ofNat i,level channel,lunShare channel (share request))).lunId.toNat = i ∧
      (VirtualOcssdLun.ofAllocUnit (UInt64.ofNat i,level channel,lunShare channel (share request))).blockStart.toNat =
        (level channel).toNat ∧
      (VirtualOcssdLun.ofAllocUnit (UInt64.ofNat i,level channel,lunShare channel (share request))).numBlocks.toNat =
        (lunShare channel (share request)).toNat := by
    intro i below
    simp only [VirtualOcssdLun.ofAllocUnit,UInt64.toNat_toUInt32,UInt64.toNat_ofNat']
    omega
  change b.dev = vunit.devName ∧ b.ch = _ ∧ _ ↔ _
  simp only [sharedGrant,ofAllocUnits_parts,id,if_true,named]
  refine and_congr_right fun _ => and_congr_right fun _ => ?_
  constructor
  · rintro ⟨vlun,listed,lun,start,stop⟩
    obtain ⟨unit',inside,rfl⟩ := List.mem_map.mp listed
    obtain ⟨i,below,rfl⟩ := List.mem_map.mp inside
    have bound := List.mem_range.mp below
    obtain ⟨same,first,count⟩ := fields i bound
    rw [same] at lun
    rw [first] at start stop
    rw [count] at stop
    exact ⟨by omega,start,stop⟩
  · rintro ⟨lun,start,stop⟩
    obtain ⟨same,first,count⟩ := fields b.lun lun
    refine ⟨_,List.mem_map_of_mem (List.mem_map_of_mem (List.mem_range.mpr lun)),same.symm,?_,?_⟩
    · rw [first]; exact start
    · rw [first,count]; exact stop

theorem exclusiveGrant_blocks (fits : GeoFits unit.geo) (valid : UnitValid unit)
    {channel : OcssdChannel} (member : channel ∈ unit.exclusiveChannels) {vunit : VirtualOcssdUnit}
    (named : vunit.devName = unit.name) (geo : vunit.geo = unit.geo) (b : PhysBlock) :
    b ∈ blocksOf vunit (exclusiveGrant channel) ↔ b ∈ inChannel unit channel := by
  have id := narrow_id (Nat.le_of_lt fits.channels) valid (List.mem_append_right unit.sharedChannels member)
  change b.dev = vunit.devName ∧ b.ch = _ ∧ _ ↔ b.dev = unit.name ∧ b.ch = _ ∧ _
  simp only [exclusiveGrant,id,named,geo]
  simp

theorem owned_named {b : PhysBlock} (inside : b ∈ ownedUnit unit) : b.dev = unit.name := by
  rcases inside with ⟨_,_,in'⟩ | ⟨_,_,_,in'⟩
  · exact in'.1
  · exact in'.1

theorem owned_geometry (valid : UnitValid unit) {b : PhysBlock} (inside : b ∈ ownedUnit unit) :
    b.ch < unit.geo.nchannels.toNat ∧ b.lun < unit.geo.nluns.toNat ∧ b.blk < unit.geo.nblocks.toNat := by
  rcases inside with ⟨channel,member,_,ch,lun,blk⟩ | ⟨channel,member,_,_,ch,lun,blk⟩
  · have bounded := UInt64.le_iff_toNat_le.mp (valid.shared channel member).1.bounded
    exact ⟨ch ▸ id_bound valid (List.mem_append_left _ member),lun,by omega⟩
  · exact ⟨ch ▸ id_bound valid (List.mem_append_right _ member),lun,blk⟩

theorem vchannels_drawnFrom {request : OcssdAllocRequest} {vchannel : VirtualOcssdChannel}
    (member : vchannel ∈ vchannels request unit) :
    (request.shared = 1 ∧ ∃ channel ∈ (sharedDraw request unit).1,
        vchannel = sharedGrant unit.geo request channel) ∨
      (request.shared ≠ 1 ∧ ∃ channel ∈ (exclusiveDraw request unit).1,
        vchannel = exclusiveGrant channel) := by
  unfold vchannels at member
  split at member
  · rename_i shared
    obtain ⟨channel,inside,rfl⟩ := List.mem_map.mp member
    exact .inl ⟨shared,channel,inside,rfl⟩
  · rename_i exclusive
    obtain ⟨channel,inside,rfl⟩ := List.mem_map.mp member
    exact .inr ⟨exclusive,channel,inside,rfl⟩

variable {request : OcssdAllocRequest} {vunit : VirtualOcssdUnit}

theorem unit_fresh (fits : GeoFits unit.geo) (valid : UnitValid unit) (named : vunit.devName = unit.name)
    (geo : vunit.geo = unit.geo) {vchannel : VirtualOcssdChannel}
    (member : vchannel ∈ vchannels request unit) : Disjoint (ownedUnit unit) (blocksOf vunit vchannel) := by
  rw [Set.disjoint_left]
  intro b old new
  rcases vchannels_drawnFrom member with ⟨_,channel,drawn',rfl⟩ | ⟨_,channel,drawn',rfl⟩
  · -- A band above the level of its channel, against blocks below a level.
    obtain ⟨inside,served⟩ := mem_taken _ _ drawn'
    obtain ⟨_,ch,_,start,_⟩ := (sharedGrant_blocks fits valid inside served named b).mp new
    rcases old with ⟨other,member',_,ch',_,below⟩ | ⟨other,member',_,_,ch',_,_⟩
    · have same := same_channel valid (List.mem_append_left _ inside) (List.mem_append_left _ member')
        (ch.symm.trans ch')
      subst same
      omega
    · exact pools_apart valid inside member' (ch.symm.trans ch')
  · -- A whole channel that was unused, against used ones.
    obtain ⟨inside,ready⟩ := mem_taken _ _ drawn'
    obtain ⟨_,ch,_,_⟩ := (exclusiveGrant_blocks fits valid inside named geo b).mp new
    rcases old with ⟨other,member',_,ch',_,_⟩ | ⟨other,member',used,_,ch',_,_⟩
    · exact pools_apart valid member' inside (ch'.symm.trans ch)
    · have same := same_channel valid (List.mem_append_right _ inside) (List.mem_append_right _ member')
        (ch.symm.trans ch')
      subst same
      simp [unused,used] at ready

theorem unit_within (fits : GeoFits unit.geo) (valid : UnitValid unit) (named : vunit.devName = unit.name)
    (geo : vunit.geo = unit.geo) {vchannel : VirtualOcssdChannel}
    (member : vchannel ∈ vchannels request unit) : blocksOf vunit vchannel ⊆ ownedUnit (after request unit) := by
  intro b new
  rcases vchannels_drawnFrom member with ⟨shared,channel,drawn',rfl⟩ | ⟨exclusive,channel,drawn',rfl⟩
  · obtain ⟨inside,served⟩ := mem_taken _ _ drawn'
    have balanced := (valid.shared channel inside).1
    obtain ⟨dev,ch,lun,_,stop⟩ := (sharedGrant_blocks fits valid inside served named b).mp new
    rw [after,if_pos shared]
    refine .inl ⟨_,mem_used _ _ drawn',dev,ch,lun,?_⟩
    rw [raised_level balanced served,raised_toNat _ balanced]
    exact stop
  · obtain ⟨inside,_⟩ := mem_taken _ _ drawn'
    have whole := (exclusiveGrant_blocks fits valid inside named geo b).mp new
    rw [after,if_neg exclusive]
    exact .inr ⟨_,mem_used _ _ drawn',rfl,whole⟩

theorem unit_grows (valid : UnitValid unit) (request : OcssdAllocRequest) :
    ownedUnit unit ⊆ ownedUnit (after request unit) := by
  intro b old
  unfold after
  split
  · rcases old with ⟨channel,inside,dev,ch,lun,below⟩ | exclusive
    · rcases mem_old (serves (share request)) (raise unit.geo (share request))
        (n := request.numChannels.toNat) inside with left | ⟨served,left⟩
      · exact .inl ⟨channel,left,dev,ch,lun,below⟩
      · have balanced := (valid.shared channel inside).1
        refine .inl ⟨_,left,dev,ch,lun,?_⟩
        rw [raised_level balanced served,raised_toNat _ balanced]
        omega
    · exact .inr exclusive
  · rcases old with shared | ⟨channel,inside,used,whole⟩
    · exact .inl shared
    · rcases mem_old unused OcssdChannel.setUsed (n := request.numChannels.toNat) inside with left | ⟨_,left⟩
      · exact .inr ⟨channel,left,used,whole⟩
      · exact .inr ⟨_,left,rfl,whole⟩

theorem drawn_apart (valid : UnitValid unit) {pool : List OcssdChannel}
    (part : pool.Sublist (unit.sharedChannels ++ unit.exclusiveChannels)) {taken : List OcssdChannel}
    (drawn' : taken.Sublist pool) :
    taken.Pairwise (fun one two => one.channelId.toNat ≠ two.channelId.toNat) := by
  have nodup := (ids_nodup valid).sublist ((drawn'.trans part).map _)
  rw [List.Nodup,List.pairwise_map] at nodup
  exact nodup.imp fun different same => different (UInt64.toNat_inj.mp same)

theorem taken_sublist (ready : OcssdChannel → Bool) (use : OcssdChannel → OcssdChannel) (n : Nat)
    (cells : List OcssdChannel) : (draw ready use n cells).1.Sublist cells := by
  rw [draw_taken]
  exact (List.take_sublist _ _).trans List.filter_sublist

theorem vchannels_apart (small : unit.geo.nchannels.toNat ≤ 2^32) (valid : UnitValid unit)
    (request : OcssdAllocRequest) :
    (vchannels request unit).Pairwise fun v w => v.channelId.toNat ≠ w.channelId.toNat := by
  unfold vchannels
  split
  · have part := taken_sublist (serves (share request)) (raise unit.geo (share request))
      request.numChannels.toNat unit.sharedChannels
    refine List.pairwise_map.mpr ((drawn_apart valid (List.sublist_append_left _ _) part).imp_of_mem ?_)
    intro one two left right different
    rwa [sharedGrant_id,sharedGrant_id,narrow_id small valid (List.mem_append_left _ (part.subset left)),
      narrow_id small valid (List.mem_append_left _ (part.subset right))]
  · have part := taken_sublist unused OcssdChannel.setUsed
      request.numChannels.toNat unit.exclusiveChannels
    refine List.pairwise_map.mpr ((drawn_apart valid (List.sublist_append_right _ _) part).imp_of_mem ?_)
    intro one two left right different
    change one.channelId.toUInt32.toNat ≠ two.channelId.toUInt32.toNat
    rwa [narrow_id small valid (List.mem_append_right _ (part.subset left)),
      narrow_id small valid (List.mem_append_right _ (part.subset right))]

theorem unit_apart (fits : GeoFits unit.geo) (valid : UnitValid unit) (vunit : VirtualOcssdUnit)
    (request : OcssdAllocRequest) : (vchannels request unit).Pairwise
      (fun v w => Disjoint (blocksOf vunit v) (blocksOf vunit w)) := by
  refine (vchannels_apart (Nat.le_of_lt fits.channels) valid request).imp ?_
  intro v w different
  rw [Set.disjoint_left]
  exact fun b left right => different (left.2.1.symm.trans right.2.1)

end Unit

-- The devices of a manager: different names, geometries within the 32-bit fields.
structure DevicesFit (set : List (DevName × NvmGeo)) : Prop where
  distinct : (set.map Prod.fst).Nodup
  fits : ∀ d ∈ set,GeoFits d.2

structure Holds (set : List (DevName × NvmGeo)) (manager : OcssdManager) : Prop where
  valid : ManagerValid manager
  same : devices manager = set

theorem holds_start (set : List (DevName × NvmGeo)) : Holds set (.ofDevices set) :=
  ⟨ofDevices_valid set,ofDevices_devices set⟩

theorem holds_kept {set : List (DevName × NvmGeo)} (manager : OcssdManager) (request : OcssdAllocRequest)
    (holds : Holds set manager) : Holds set (manager.serve request).1 :=
  ⟨serve_valid manager request holds.valid,(serve_devices holds.valid request).trans holds.same⟩

section Manager
variable {set : List (DevName × NvmGeo)} {manager : OcssdManager}

theorem unit_device (holds : Holds set manager) {unit : OcssdUnit} (member : unit ∈ manager.ocssds) :
    (unit.name,unit.geo) ∈ set := by
  rw [←holds.same]
  exact List.mem_map_of_mem member

theorem unit_fits (fit : DevicesFit set) (holds : Holds set manager) {unit : OcssdUnit}
    (member : unit ∈ manager.ocssds) : GeoFits unit.geo := fit.fits _ (unit_device holds member)

theorem names_nodup (fit : DevicesFit set) (holds : Holds set manager) :
    (manager.ocssds.map (·.name)).Nodup := by
  have distinct := fit.distinct
  rw [←holds.same,devices,List.map_map] at distinct
  exact distinct

theorem same_unit (fit : DevicesFit set) (holds : Holds set manager) {one two : OcssdUnit}
    (left : one ∈ manager.ocssds) (right : two ∈ manager.ocssds) (same : one.name = two.name) :
    one = two := List.inj_on_of_nodup_map (names_nodup fit holds) left right same

theorem channelGrants_plan {id : UInt32} {request : OcssdAllocRequest} {units : List OcssdUnit}
    {grant : VirtualOcssdUnit × VirtualOcssdChannel}
    (member : grant ∈ channelGrants ⟨id,grantedUnits request units⟩) :
    ∃ entry ∈ plan request units,grant.1 = vunit entry ∧ grant.2 ∈ vchannels entry.1 entry.2 := by
  obtain ⟨unit',inside,listed⟩ := List.mem_flatMap.mp member
  obtain ⟨vchannel,held,rfl⟩ := List.mem_map.mp listed
  obtain ⟨entry,kept,rfl⟩ := List.mem_map.mp inside
  exact ⟨entry,(List.mem_filter.mp kept).1,rfl,held⟩

theorem granted_fresh (fit : DevicesFit set) (holds : Holds set manager) (request : OcssdAllocRequest) :
    ∀ grant ∈ channelGrants (manager.serve request).2.1,
      Disjoint (owned manager) (blocksOf grant.1 grant.2) := by
  rw [serve_plan holds.valid]
  intro grant member
  obtain ⟨entry,planned,same,held⟩ := channelGrants_plan member
  have inside := plan_member planned
  rw [same,Set.disjoint_left]
  rintro b ⟨other,member',old⟩ new
  have one := same_unit fit holds member' inside ((owned_named old).symm.trans new.1)
  subst one
  exact Set.disjoint_left.mp (unit_fresh (unit_fits fit holds member') (holds.valid _ member') rfl rfl held)
    old new

theorem granted_within (fit : DevicesFit set) (holds : Holds set manager) (request : OcssdAllocRequest) :
    ∀ grant ∈ channelGrants (manager.serve request).2.1,
      blocksOf grant.1 grant.2 ⊆ owned (manager.serve request).1 := by
  rw [serve_plan holds.valid]
  intro grant member b new
  obtain ⟨entry,planned,same,held⟩ := channelGrants_plan member
  have inside := plan_member planned
  rw [same] at new
  exact ⟨_,List.mem_map_of_mem planned,
    unit_within (unit_fits fit holds inside) (holds.valid _ inside) rfl rfl held new⟩

theorem owned_grows (holds : Holds set manager) (request : OcssdAllocRequest) :
    owned manager ⊆ owned (manager.serve request).1 := by
  rw [serve_plan holds.valid]
  rintro b ⟨unit,member,old⟩
  rw [←plan_units request manager.ocssds] at member
  obtain ⟨entry,planned,rfl⟩ := List.mem_map.mp member
  exact ⟨_,List.mem_map_of_mem planned,unit_grows (holds.valid _ (plan_member planned)) _ old⟩

theorem granted_apart (fit : DevicesFit set) (holds : Holds set manager) (request : OcssdAllocRequest) :
    (channelGrants (manager.serve request).2.1).Pairwise
      (fun g h => Disjoint (blocksOf g.1 g.2) (blocksOf h.1 h.2)) := by
  rw [serve_plan holds.valid,channelGrants,List.pairwise_flatMap]
  constructor
  · -- Two channels of one unit.
    intro vunit' inside
    obtain ⟨entry,kept,rfl⟩ := List.mem_map.mp inside
    have planned := plan_member (List.mem_filter.mp kept).1
    exact List.pairwise_map.mpr
      (unit_apart (unit_fits fit holds planned) (holds.valid _ planned) _ entry.1)
  · -- Two units: different names.
    have names : ((plan request manager.ocssds).map (fun e => e.2.name)).Nodup := by
      have nodup := names_nodup fit holds
      rw [←plan_units request manager.ocssds,List.map_map] at nodup
      exact nodup
    have apart := names.sublist ((List.filter_sublist (p := contributes)).map _)
    rw [List.Nodup,List.pairwise_map] at apart
    refine List.pairwise_map.mpr (apart.imp ?_)
    intro one two different g listed h listed'
    obtain ⟨v,_,rfl⟩ := List.mem_map.mp listed
    obtain ⟨w,_,rfl⟩ := List.mem_map.mp listed'
    rw [Set.disjoint_left]
    exact fun b left right => different (left.1.symm.trans right.1)

theorem owned_inside (holds : Holds set manager) {b : PhysBlock} (inside : b ∈ owned manager) :
    ∃ d ∈ set,b.dev = d.1 ∧ b.ch < d.2.nchannels.toNat ∧ b.lun < d.2.nluns.toNat ∧
      b.blk < d.2.nblocks.toNat := by
  obtain ⟨unit,member,old⟩ := inside
  exact ⟨_,unit_device holds member,owned_named old,owned_geometry (holds.valid unit member) old⟩

end Manager

def given (vssd : VirtualOcssd) : List ((VirtualOcssdUnit × VirtualOcssdChannel) × Set PhysBlock) :=
  (channelGrants vssd).map (fun grant => (grant,blocksOf grant.1 grant.2))

theorem serve_hands {set : List (DevName × NvmGeo)} (fit : DevicesFit set) :
    MachineRuns.Hands OcssdManager.serve (Holds set) owned (fun _ o => given o.1) where
  kept := holds_kept
  fresh := by
    intro manager request holds g member
    obtain ⟨grant,listed,rfl⟩ := List.mem_map.mp member
    exact granted_fresh fit holds request grant listed
  within := by
    intro manager request holds g member
    obtain ⟨grant,listed,rfl⟩ := List.mem_map.mp member
    exact granted_within fit holds request grant listed
  grows := fun manager request holds => owned_grows holds request
  apart := fun manager request holds => List.pairwise_map.mpr (granted_apart fit holds request)

def runGrants (set : List (DevName × NvmGeo)) (requests : List OcssdAllocRequest) :
    List (VirtualOcssdUnit × VirtualOcssdChannel) :=
  (MachineRuns.trace OcssdManager.serve (.ofDevices set) requests).flatMap (fun e => channelGrants e.2.1)

theorem handed_runGrants (set : List (DevName × NvmGeo)) (requests : List OcssdAllocRequest) :
    MachineRuns.handed (fun (_ : OcssdAllocRequest) (o : VirtualOcssd × UInt64) => given o.1)
        (MachineRuns.trace OcssdManager.serve (.ofDevices set) requests) =
      (runGrants set requests).map (fun grant => (grant,blocksOf grant.1 grant.2)) := by
  simp [MachineRuns.handed,runGrants,given,List.map_flatMap]

theorem no_block_granted_twice (set : List (DevName × NvmGeo)) (fit : DevicesFit set)
    (requests : List OcssdAllocRequest) :
    (runGrants set requests).Pairwise (fun g h => Disjoint (blocksOf g.1 g.2) (blocksOf h.1 h.2)) ∧
      ∀ grant ∈ runGrants set requests,(grant.1.devName,grant.1.geo) ∈ set ∧
        ∀ b ∈ blocksOf grant.1 grant.2,∃ d ∈ set,b.dev = d.1 ∧ b.ch < d.2.nchannels.toNat ∧
          b.lun < d.2.nluns.toNat ∧ b.blk < d.2.nblocks.toNat := by
  constructor
  · have apart := (serve_hands fit).handed_disjoint (holds_start set) requests
    rw [handed_runGrants,List.pairwise_map] at apart
    exact apart
  · intro grant member
    obtain ⟨e,traced,listed⟩ := List.mem_flatMap.mp member
    -- Where the grant was made, its unit was a device and its blocks became owned.
    refine MachineRuns.trace_forall (P := fun e => ∀ grant ∈ channelGrants e.2.1,
      (grant.1.devName,grant.1.geo) ∈ set ∧ ∀ b ∈ blocksOf grant.1 grant.2,∃ d ∈ set,b.dev = d.1 ∧
        b.ch < d.2.nchannels.toNat ∧ b.lun < d.2.nluns.toNat ∧ b.blk < d.2.nblocks.toNat)
      holds_kept ?_ (holds_start set) requests e traced grant listed
    intro manager request holds grant listed
    refine ⟨?_,fun b inside => owned_inside (holds_kept manager request holds)
      (granted_within fit holds request grant listed inside)⟩
    rw [serve_plan holds.valid] at listed
    obtain ⟨entry,planned,same,_⟩ := channelGrants_plan listed
    rw [same]
    exact unit_device holds (plan_member planned)

-- Two devices, a shared request that spills over from the first to the second,
-- then an exclusive one.
theorem spilled_blocks_apart :
    (runGrants [([110],⟨2,2,1,4,1,1,1,1,0⟩),([111],⟨5,1,1,3,1,1,1,1,0⟩)] [⟨3,9,1,0,0⟩,⟨2,0,0,0,0⟩]).Pairwise
        (fun g h => Disjoint (blocksOf g.1 g.2) (blocksOf h.1 h.2)) ∧
      (runGrants [([110],⟨2,2,1,4,1,1,1,1,0⟩),([111],⟨5,1,1,3,1,1,1,1,0⟩)]
        [⟨3,9,1,0,0⟩,⟨2,0,0,0,0⟩]).length = 4 :=
  ⟨(no_block_granted_twice [([110],⟨2,2,1,4,1,1,1,1,0⟩),([111],⟨5,1,1,3,1,1,1,1,0⟩)]
    ⟨by decide,by
      intro d member
      rcases List.mem_cons.mp member with rfl | member
      · exact ⟨by decide,by decide⟩
      · rw [List.mem_singleton.mp member]
        exact ⟨by decide,by decide⟩⟩ [⟨3,9,1,0,0⟩,⟨2,0,0,0,0⟩]).1,by decide⟩

end OcssdServer.BlockOwnership
