import OcssdServer.RangeStripes
import OcssdServer.TenantIsolation

namespace OcssdServer.StripePartition
open ByteBuffers ChannelBalance FirstFit UnitGrants ManagerGrants BlockOwnership StripeLanes TenantIsolation RangeStripes

-- A channel and a LUN of it.
abbrev LunKey := Nat × Nat

-- The ranges of a grant, a (channel, LUN) at a time: those listed for a shared
-- channel, and every LUN of an exclusive channel from its first block on.
def channelRanges (geo : NvmGeo) (vchannel : VirtualOcssdChannel) : List (Range LunKey) :=
  if vchannel.shared = 1 then
    vchannel.luns.map (fun vlun =>
      ⟨(vchannel.channelId.toNat,vlun.lunId.toNat),vlun.blockStart.toNat,vlun.numBlocks.toNat⟩)
  else
    (List.range vchannel.numLuns.toNat).map (fun lunId => ⟨(vchannel.channelId.toNat,lunId),0,geo.nblocks.toNat⟩)

def ranges (vunit : VirtualOcssdUnit) : List (Range LunKey) := vunit.channels.flatMap (channelRanges vunit.geo)

def address (cell : LunKey × Nat) : NvmAddr := ⟨cell.1.1,cell.1.2,cell.2⟩

section Rounds
variable {World Dev Vblk : Type} (lib : Lightnvm World Dev Vblk)

-- A lane that runs through a range, with every number inside its field.
structure Follows (lane : Lane) (range : Range LunKey) : Prop where
  channel : lane.channelId.toNat = range.key.1
  lun : lane.lunId.toNat = range.key.2
  start : lane.blockStart.toNat = range.start
  stop : lane.blockEnd.toNat = range.start+range.count
  holds : range.key.1 < 2^lib.chBits ∧ range.key.2 < 2^lib.lunBits ∧ range.start+range.count ≤ 2^lib.blkBits

def progress (k : Nat) (range : Range LunKey) : UInt32 := UInt32.ofNat (range.start+min k range.count)

variable {lib} {lane : Lane} {range : Range LunKey} (follows : Follows lib lane range)
include follows

theorem progress_toNat (k : Nat) : (progress k range).toNat = range.start+min k range.count := by
  have word := lane.blockEnd.toNat_lt
  rw [follows.stop] at word
  rw [progress,UInt32.toNat_ofNat',Nat.mod_eq_of_lt (by omega)]

theorem progress_short (k : Nat) : progress k range < lane.blockEnd ↔ k < range.count := by
  rw [UInt32.lt_iff_toNat_lt,progress_toNat follows,follows.stop]
  omega

theorem collect_progress (k : Nat) : lane.collect lib (progress k range) = (range.cell k).map address := by
  rw [Lane.collect,Range.cell]
  by_cases reaches : k < range.count
  · obtain ⟨ch,lun,blk⟩ := follows.holds
    have block : (progress k range).toNat = range.start+k := by
      rw [progress_toNat follows]
      omega
    rw [if_pos ((progress_short follows k).mpr reaches),if_pos reaches,Lane.addr,follows.channel,follows.lun,block,
      Nat.mod_eq_of_lt ch,Nat.mod_eq_of_lt lun,Nat.mod_eq_of_lt (by omega)]
    rfl
  · rw [if_neg fun short => reaches ((progress_short follows k).mp short),if_neg reaches]
    rfl

theorem bump_progress (k : Nat) : lane.bump (progress k range) = progress (k+1) range := by
  have now := progress_toNat follows k
  have next := progress_toNat follows (k+1)
  have word := lane.blockEnd.toNat_lt
  rw [follows.stop] at word
  rw [Lane.bump]
  apply UInt32.toNat_inj.mp
  rw [next]
  split
  · rename_i short
    have reaches := (progress_short follows k).mp short
    rw [UInt32.toNat_add,now,UInt32.toNat_one,Nat.mod_eq_of_lt (by omega)]
    omega
  · rename_i past
    have short := mt (progress_short follows k).mpr past
    rw [now]
    omega

theorem start_progress : lane.blockStart = progress 0 range := by
  apply UInt32.toNat_inj.mp
  rw [progress_toNat follows,follows.start,Nat.zero_min,Nat.add_zero]

end Rounds

section Loop
variable {World Dev Vblk : Type} {lib : Lightnvm World Dev Vblk}

theorem row_stripe {row : List Lane} {cells : List (Range LunKey)} (follow : List.Forall₂ (Follows lib) row cells)
    (k : Nat) : (List.zipWith (Lane.collect lib) row (cells.map (progress k))).reduceOption =
      (stripe cells k).map address := by
  induction follow with
  | nil => rfl
  | @cons lane range row cells here _ ih =>
    rw [List.map_cons,List.zipWith_cons_cons,collect_progress here,stripe,List.filterMap_cons]
    cases range.cell k with
    | none =>
      rw [Option.map_none,List.reduceOption_cons_of_none,ih]
      rfl
    | some cell =>
      rw [Option.map_some,List.reduceOption_cons_of_some,ih]
      rfl

theorem row_bump {row : List Lane} {cells : List (Range LunKey)} (follow : List.Forall₂ (Follows lib) row cells)
    (k : Nat) : List.zipWith Lane.bump row (cells.map (progress k)) = cells.map (progress (k+1)) := by
  induction follow with
  | nil => rfl
  | cons here _ ih => rw [List.map_cons,List.zipWith_cons_cons,bump_progress here,ih,List.map_cons]

theorem row_start {row : List Lane} {cells : List (Range LunKey)} (follow : List.Forall₂ (Follows lib) row cells) :
    row.map (·.blockStart) = cells.map (progress 0) := by
  induction follow with
  | nil => rfl
  | cons here _ ih => rw [List.map_cons,start_progress here,ih,List.map_cons]

-- The same library, which also keeps the address lists nvm_vblk_alloc is called with.
def recording (lib : Lightnvm World Dev Vblk) : Lightnvm (World × List (List NvmAddr)) Dev Vblk where
  chBits := lib.chBits
  lunBits := lib.lunBits
  blkBits := lib.blkBits
  devOpen := fun devPath w => ((lib.devOpen devPath w.1).1,((lib.devOpen devPath w.1).2,w.2))
  devGetGeo := lib.devGetGeo
  vblkAlloc := fun dev addrs w => ((lib.vblkAlloc dev addrs w.1).1,((lib.vblkAlloc dev addrs w.1).2,w.2 ++ [addrs]))
  vblkFree := fun blk w => (lib.vblkFree blk w.1,w.2)
  vblkGetNbytes := fun blk w => lib.vblkGetNbytes blk w.1
  vblkErase := fun blk w => ((lib.vblkErase blk w.1).1,((lib.vblkErase blk w.1).2,w.2))
  vblkWrite := fun blk data w => ((lib.vblkWrite blk data w.1).1,((lib.vblkWrite blk data w.1).2,w.2))
  vblkRead := fun blk buf count w => ((lib.vblkRead blk buf count w.1).1,((lib.vblkRead blk buf count w.1).2,w.2))
  vblkPread := fun blk buf count offset w =>
    ((lib.vblkPread blk buf count offset w.1).1,((lib.vblkPread blk buf count offset w.1).2,w.2))
  bufAlloc := fun geo count w => lib.bufAlloc geo count w.1
  malloc := fun count w => lib.malloc count w.1

theorem test_recorded (lib : Lightnvm World Dev Vblk) (geo : NvmGeo) (blk : Option Vblk)
    (session : Session (World × List (List NvmAddr)) Vblk) :
    (nvmVblkTest (recording lib) geo blk session).2.world.2 = session.world.2 :=
  DeviceEffects.test_leaves (recording lib) (·.2) (fun _ _ => rfl) (fun _ _ _ => rfl) (fun _ _ _ _ => rfl) geo blk session

theorem round_swept {geo : NvmGeo} {vunit : VirtualOcssdUnit} {cells : List (Range LunKey)}
    (follow : List.Forall₂ (Follows lib) (lanes geo vunit) cells) (k : Nat) :
    sweepUnit (recording lib) geo vunit (cells.map (progress k)) =
      some ⟨(stripe cells k).map address,cells.map (progress (k+1)),(lanes geo vunit).length⟩ := by
  have size : (cells.map (progress k)).length = (lanes geo vunit).length := by
    rw [List.length_map,follow.length_eq]
  have collected : (List.zipWith (Lane.collect (recording lib)) (lanes geo vunit)
      (cells.map (progress k))).reduceOption = (stripe cells k).map address := row_stripe follow k
  rw [sweepUnit_round (recording lib) geo vunit size,collected,row_bump follow]

-- What is left of the loop after `k` rounds: one allocation for each stripe that
-- is still to come, whatever the tests say.
theorem stripeLoop_stripes {geo : NvmGeo} {vunit : VirtualOcssdUnit} {cells : List (Range LunKey)}
    (follow : List.Forall₂ (Follows lib) (lanes geo vunit) cells) {dev : Dev}
    (builds : ∀ addrs w,(lib.vblkAlloc (some dev) addrs w).1 ≠ none) (more : Nat) {k : Nat}
    (left : longest cells = k+more) {conn : OcssdConn Dev Vblk} (opened : conn.dev = some dev)
    (session : Session (World × List (List NvmAddr)) Vblk) (count : Nat) :
    let r := stripeLoop (recording lib) geo vunit conn session (cells.map (progress k)) count
    r.ending = .returned 0 ∧
      r.session.world.2 = session.world.2 ++ ((List.range' k more).map (stripe cells)).map (List.map address) := by
  induction more generalizing k conn session count with
  | zero =>
    have none' : stripe cells k = [] := stripe_nil_iff.mpr (Nat.le_of_eq left)
    rw [stripeLoop_swept (round_swept follow k),if_pos (by rw [none']; rfl)]
    exact ⟨rfl,(List.append_nil _).symm⟩
  | succ more ih =>
    have some' : (stripe cells k).map address ≠ [] := by
      rw [ne_eq,List.map_eq_nil_iff,stripe_nil_iff]
      omega
    have built : (vblkAlloc (recording lib) conn.dev ((stripe cells k).map address) session).1 ≠ none := by
      rw [opened]
      exact builds _ _
    have tested := test_recorded lib geo
      (vblkAlloc (recording lib) conn.dev ((stripe cells k).map address) session).1
      (vblkAlloc (recording lib) conn.dev ((stripe cells k).map address) session).2
    have rest : ∀ (conn' : OcssdConn Dev Vblk) (later : Session (World × List (List NvmAddr)) Vblk) (count : Nat),
        conn'.dev = some dev → later.world.2 = session.world.2 ++ [(stripe cells k).map address] →
        let r := stripeLoop (recording lib) geo vunit conn' later (cells.map (progress (k+1))) count
        r.ending = .returned 0 ∧ r.session.world.2 = session.world.2 ++
          ((List.range' k (more+1)).map (stripe cells)).map (List.map address) := by
      intro conn' later count opened' logged
      obtain ⟨ending,recorded⟩ := ih (k := k+1) (by omega) opened' later count
      refine ⟨ending,recorded.trans ?_⟩
      rw [logged,List.append_assoc]
      rfl
    rw [stripeLoop_swept (round_swept follow k),if_neg some']
    dsimp only
    split
    · exact rest _ _ _ opened tested
    · split
      · rename_i null
        exact absurd (Option.isNone_iff_eq_none.mp null) built
      · exact rest _ _ _ opened tested

theorem luns_follow (geo : NvmGeo) {vchannel : VirtualOcssdChannel} (flag : vchannel.shared = 1)
    (channel : vchannel.channelId.toNat < 2^lib.chBits)
    (each : ∀ vlun ∈ vchannel.luns,vlun.lunId.toNat < 2^lib.lunBits ∧
      vlun.blockStart.toNat+vlun.numBlocks.toNat < 2^32 ∧
      vlun.blockStart.toNat+vlun.numBlocks.toNat ≤ 2^lib.blkBits) :
    List.Forall₂ (Follows lib) (channelLanes geo vchannel) (channelRanges geo vchannel) := by
  have shared : vchannel.isShared = true := by
    rw [VirtualOcssdChannel.isShared,flag]
    rfl
  rw [channelLanes,channelRanges,if_pos shared,if_pos flag,List.forall₂_map_left_iff,List.forall₂_map_right_iff,
    List.forall₂_same]
  intro vlun listed
  obtain ⟨lun,word,blocks⟩ := each vlun listed
  refine ⟨rfl,rfl,rfl,?_,channel,lun,blocks⟩
  change (vlun.blockStart+vlun.numBlocks).toNat = _
  rw [UInt32.toNat_add,Nat.mod_eq_of_lt word]

theorem numbers_follow {geo : NvmGeo} {vchannel : VirtualOcssdChannel} (flag : vchannel.shared = 0)
    (channel : vchannel.channelId.toNat < 2^lib.chBits) (luns : vchannel.numLuns.toNat ≤ 2^lib.lunBits)
    (word : geo.nblocks.toNat < 2^32) (blocks : geo.nblocks.toNat ≤ 2^lib.blkBits) :
    List.Forall₂ (Follows lib) (channelLanes geo vchannel) (channelRanges geo vchannel) := by
  have exclusive : ¬ vchannel.isShared = true := by
    rw [VirtualOcssdChannel.isShared,flag]
    decide
  have other : ¬ vchannel.shared = 1 := by
    rw [flag]
    decide
  rw [channelLanes,channelRanges,if_neg exclusive,if_neg other,List.forall₂_map_left_iff,
    List.forall₂_map_right_iff,List.forall₂_same]
  intro lunId few
  have below := List.mem_range.mp few
  have small := vchannel.numLuns.toNat_lt
  refine ⟨rfl,?_,rfl,?_,channel,Nat.lt_of_lt_of_le below luns,?_⟩
  · change (UInt32.ofNat lunId).toNat = lunId
    rw [UInt32.toNat_ofNat',Nat.mod_eq_of_lt (by omega)]
  · change geo.nblocks.toUInt32.toNat = 0+geo.nblocks.toNat
    rw [UInt64.toNat_toUInt32,Nat.mod_eq_of_lt word,Nat.zero_add]
  · change 0+geo.nblocks.toNat ≤ _
    rw [Nat.zero_add]
    exact blocks

end Loop

-- The fields of struct nvm_addr hold the geometry; channel and LUN have at most
-- 32 bits there.
structure AddrHolds {World Dev Vblk : Type} (lib : Lightnvm World Dev Vblk) (geo : NvmGeo) : Prop
    extends FieldsHold lib geo where
  narrow : lib.chBits ≤ 32 ∧ lib.lunBits ≤ 32

section Unit
variable {World Dev Vblk : Type} {lib : Lightnvm World Dev Vblk} {unit : OcssdUnit} (valid : UnitValid unit)
  (fields : AddrHolds lib unit.geo)
include valid fields

omit valid in
theorem words_hold : unit.geo.nchannels.toNat ≤ 2^32 ∧ unit.geo.nluns.toNat ≤ 2^32 :=
  ⟨Nat.le_trans fields.channels (Nat.pow_le_pow_right (by decide) fields.narrow.1),
    Nat.le_trans fields.luns (Nat.pow_le_pow_right (by decide) fields.narrow.2)⟩

theorem id_field {channel : OcssdChannel} (member : channel ∈ unit.sharedChannels ++ unit.exclusiveChannels) :
    channel.channelId.toUInt32.toNat < 2^lib.chBits := by
  rw [narrow_id (words_hold fields).1 valid member]
  exact Nat.lt_of_lt_of_le (id_bound valid member) fields.channels

theorem lun_words (small : unit.geo.nblocks.toNat < 2^32) (request : OcssdAllocRequest) {channel : OcssdChannel}
    (member : channel ∈ unit.sharedChannels) {i : Nat} (below : i < unit.geo.nluns.toNat) :
    let vlun := VirtualOcssdLun.ofAllocUnit (UInt64.ofNat i,level channel,lunShare channel (share request))
    vlun.lunId.toNat = i ∧ vlun.blockStart.toNat+vlun.numBlocks.toNat ≤ unit.geo.nblocks.toNat := by
  have balanced := (valid.shared channel member).1
  have bounded := UInt64.le_iff_toNat_le.mp balanced.bounded
  have given := lunShare_toNat (share request) balanced
  have words := (words_hold fields).2
  simp only [VirtualOcssdLun.ofAllocUnit,UInt64.toNat_toUInt32,UInt64.toNat_ofNat']
  omega

variable {request : OcssdAllocRequest}

theorem vchannel_follow (small : unit.geo.nblocks.toNat < 2^32) {vchannel : VirtualOcssdChannel}
    (member : vchannel ∈ vchannels request unit) :
    List.Forall₂ (Follows lib) (channelLanes unit.geo vchannel) (channelRanges unit.geo vchannel) := by
  rcases vchannels_drawnFrom member with ⟨_,channel,drawn',rfl⟩ | ⟨_,channel,drawn',rfl⟩
  · obtain ⟨inside,_⟩ := mem_taken _ _ drawn'
    refine luns_follow unit.geo (sharedGrant_flag _ _ _) ?_ ?_
    · rw [sharedGrant_id]
      exact id_field valid fields (List.mem_append_left _ inside)
    · intro vlun listed
      rw [sharedGrant_luns] at listed
      obtain ⟨i,few,rfl⟩ := List.mem_map.mp listed
      have below := List.mem_range.mp few
      obtain ⟨lun,blocks⟩ := lun_words valid fields small request inside below
      refine ⟨?_,Nat.lt_of_le_of_lt blocks small,Nat.le_trans blocks fields.blocks⟩
      rw [lun]
      exact Nat.lt_of_lt_of_le below fields.luns
  · obtain ⟨inside,_⟩ := mem_taken _ _ drawn'
    have balanced := (valid.exclusive channel inside).1
    refine numbers_follow rfl (id_field valid fields (List.mem_append_right _ inside)) ?_ small fields.blocks
    exact Nat.le_trans (exclusiveGrant_luns balanced) fields.luns

theorem vchannel_keys (small : unit.geo.nblocks.toNat < 2^32) {vchannel : VirtualOcssdChannel}
    (member : vchannel ∈ vchannels request unit) :
    ((channelRanges unit.geo vchannel).map (·.key)).Nodup := by
  have apart (ch count : Nat) : ((List.range count).map fun lun => (ch,lun)).Nodup :=
    List.nodup_range.map fun _ _ same => (Prod.mk.inj same).2
  rcases vchannels_drawnFrom member with ⟨_,channel,drawn',rfl⟩ | ⟨_,channel,_,rfl⟩
  · obtain ⟨inside,_⟩ := mem_taken _ _ drawn'
    rw [channelRanges,if_pos (sharedGrant_flag _ _ _),sharedGrant_luns,List.map_map,List.map_map]
    refine Eq.mpr (congrArg List.Nodup (List.map_congr_left ?_))
      (apart (sharedGrant unit.geo request channel).channelId.toNat unit.geo.nluns.toNat)
    intro i few
    have lun := (lun_words valid fields small request inside (List.mem_range.mp few)).1
    exact congrArg _ lun
  · have other : ¬ (exclusiveGrant channel).shared = 1 := by
      rw [show (exclusiveGrant channel).shared = 0 from rfl]
      decide
    rw [channelRanges,if_neg other,List.map_map]
    exact apart _ _

end Unit

section Grant
variable {World Dev Vblk : Type} {lib : Lightnvm World Dev Vblk}

theorem range_channel {geo : NvmGeo} {vchannel : VirtualOcssdChannel} {range : Range LunKey}
    (member : range ∈ channelRanges geo vchannel) : range.key.1 = vchannel.channelId.toNat := by
  unfold channelRanges at member
  split at member
  · obtain ⟨vlun,_,rfl⟩ := List.mem_map.mp member
    rfl
  · obtain ⟨lunId,_,rfl⟩ := List.mem_map.mp member
    rfl

theorem granted_unit {manager : OcssdManager} (valid : ManagerValid manager) {request : OcssdAllocRequest}
    {vunit : VirtualOcssdUnit} (granted : vunit ∈ (manager.serve request).2.1.units) :
    ∃ unit request',UnitValid unit ∧ vunit.geo = unit.geo ∧ vunit.channels = vchannels request' unit := by
  rw [serve_plan valid] at granted
  obtain ⟨entry,kept,rfl⟩ := List.mem_map.mp granted
  exact ⟨entry.2,entry.1,valid _ (plan_member (List.mem_filter.mp kept).1),rfl,rfl⟩

variable {vunit : VirtualOcssdUnit} {unit : OcssdUnit} {request : OcssdAllocRequest} (valid : UnitValid unit)
  (geo : vunit.geo = unit.geo) (drawn' : vunit.channels = vchannels request unit) (fields : AddrHolds lib vunit.geo)
  (small : vunit.geo.nblocks.toNat < 2^32)
include valid geo drawn' fields small

theorem grant_follow : List.Forall₂ (Follows lib) (lanes vunit.geo vunit) (ranges vunit) := by
  have each : ∀ vchannel ∈ vunit.channels,
      List.Forall₂ (Follows lib) (channelLanes vunit.geo vchannel) (channelRanges vunit.geo vchannel) := by
    rw [drawn']
    rw [geo] at fields small ⊢
    exact fun vchannel => vchannel_follow valid fields small
  unfold lanes ranges
  generalize vunit.channels = channels at each
  induction channels with
  | nil => exact .nil
  | cons vchannel rest ih =>
    exact List.rel_append (each vchannel (by simp)) (ih fun v member => each v (by simp [member]))

theorem grant_keys : ((ranges vunit).map (·.key)).Nodup := by
  rw [geo] at fields small
  rw [ranges,List.map_flatMap,drawn',geo,List.nodup_flatMap]
  constructor
  · exact fun vchannel => vchannel_keys valid fields small
  · refine (vchannels_apart (words_hold fields).1 valid request).imp ?_
    intro v w different key left right
    obtain ⟨one,inOne,rfl⟩ := List.mem_map.mp left
    obtain ⟨two,inTwo,same⟩ := List.mem_map.mp right
    apply different
    rw [←range_channel inOne,←range_channel inTwo,same]

end Grant

-- The stripes are the grant cut across: the addresses of one call to
-- nvm_vblk_alloc are the blocks at one distance from the starts of the ranges.
theorem stripes_partition_grant {World Dev Vblk : Type} (lib : Lightnvm World Dev Vblk)
    (set : List (DevName × NvmGeo)) (requests : List OcssdAllocRequest) (request : OcssdAllocRequest)
    {vunit : VirtualOcssdUnit} (granted : vunit ∈ ((reached set requests).serve request).2.1.units)
    (fields : AddrHolds lib vunit.geo) (small : vunit.geo.nblocks.toNat < 2^32) {dev : Dev}
    (reports : lib.devGetGeo dev = vunit.geo) (builds : ∀ addrs w,(lib.vblkAlloc (some dev) addrs w).1 ≠ none)
    (conn : OcssdConn Dev Vblk) (session : Session (World × List (List NvmAddr)) Vblk) :
    let geo := lib.devGetGeo dev
    let r := initializeVssdBlocks (recording lib) geo {conn with dev := some dev,geo := some geo} session vunit
    r.ending = .returned 0 ∧
      r.session.world.2 = session.world.2 ++ (stripes (ranges vunit)).map (List.map address) ∧
      (∀ range ∈ ranges vunit,∀ j < range.count,∀ k,
        (∃ cells,(stripes (ranges vunit))[k]? = some cells ∧ (range.key,range.start+j) ∈ cells) ↔ k = j) ∧
      ∀ cells ∈ stripes (ranges vunit),(cells.map Prod.fst).Nodup := by
  obtain ⟨unit,request',valid,geo,drawn'⟩ := granted_unit (reached_valid set requests) granted
  have follow := grant_follow valid geo drawn' fields small
  have apart := grant_keys valid geo drawn' fields small
  have plain : Plain vunit := grant_plain (reached set requests) request vunit granted
  have opened : ({conn with dev := some dev,geo := some vunit.geo} : OcssdConn Dev Vblk).dev = some dev := rfl
  have run := stripeLoop_stripes follow builds (longest (ranges vunit)) (Nat.zero_add _).symm opened session 0
  rw [←row_start follow,←unit_starts vunit.geo plain,←List.range_eq_range'] at run
  rw [reports]
  refine ⟨run.1,run.2,fun range member j inside k => stripes_once apart member inside k,?_⟩
  intro cells member
  obtain ⟨k,_,rfl⟩ := List.mem_map.mp member
  exact stripe_nodup apart k

-- Two channels of two LUNs, of which the first is filled up to its last block.
def twoLuns : NvmGeo := ⟨5,2,1,4,1,1,1,1,0⟩

def twoLunLib : Lightnvm Unit Unit Unit := {quietLib with devGetGeo := fun _ => twoLuns}

def unevenUnit : VirtualOcssdUnit :=
  ⟨[110],twoLuns,[⟨0,1,2,2,[⟨0,3,1⟩,⟨1,3,1⟩]⟩,⟨1,1,4,2,[⟨0,0,2⟩,⟨1,0,2⟩]⟩]⟩

theorem uneven_grant_striped :
    (initializeVssdBlocks (recording twoLunLib) twoLuns
        {(.accepted (fun _ => 0) : OcssdConn Unit Unit) with dev := some (),geo := some twoLuns}
        ⟨.ofDevices [],((),[]),[]⟩ unevenUnit).session.world.2 =
      [[⟨0,0,3⟩,⟨0,1,3⟩,⟨1,0,0⟩,⟨1,1,0⟩],[⟨1,0,1⟩,⟨1,1,1⟩]] := by
  have granted : unevenUnit ∈ ((reached [([110],twoLuns)] [⟨1,6,1,0,0⟩]).serve ⟨2,8,1,0,0⟩).2.1.units := by
    decide +kernel
  have fields : AddrHolds twoLunLib unevenUnit.geo := ⟨⟨by decide,by decide,by decide⟩,by decide,by decide⟩
  have striped := stripes_partition_grant twoLunLib [([110],twoLuns)] [⟨1,6,1,0,0⟩] ⟨2,8,1,0,0⟩ granted fields
    (by decide) (rfl : twoLunLib.devGetGeo () = unevenUnit.geo) (fun _ _ => nofun) (.accepted (fun _ => 0))
    ⟨.ofDevices [],((),[]),[]⟩
  refine striped.2.1.trans ?_
  decide +kernel

end OcssdServer.StripePartition
