import OcssdServer.BlockOwnership
import Mathlib.Algebra.Order.BigOperators.Group.List

namespace OcssdServer.PublishedStats
open ChannelBalance FirstFit UnitGrants ManagerGrants BlockOwnership

theorem tallyFree_sums (channels : List OcssdChannel) (count blocks : UInt64) :
    OcssdUnit.tallyFree channels count blocks =
      (count+UInt64.ofNat (channels.countP (fun channel => 0 < channel.getFreeBlocks)),
        blocks+(channels.map (·.getFreeBlocks)).sum) := by
  unfold OcssdUnit.tallyFree
  induction channels generalizing count blocks with
  | nil => simp
  | cons channel rest ih =>
    rw [List.foldl_cons]
    dsimp only
    by_cases free : 0 < channel.getFreeBlocks
    · rw [if_pos free,ih,List.countP_cons_of_pos (by simpa using free),List.map_cons,List.sum_cons,
        UInt64.ofNat_add]
      refine Prod.ext ?_ ?_
      · change count+1+_ = count+(_+UInt64.ofNat 1)
        grind
      · change blocks+_+_ = _
        grind
    · have zero : channel.getFreeBlocks = 0 := by
        rw [UInt64.lt_iff_toNat_lt] at free
        apply UInt64.toNat_inj.mp
        simpa using free
      rw [if_neg free,ih,List.countP_cons_of_neg (by simpa using free),List.map_cons,List.sum_cons,zero,
        UInt64.zero_add]

def isFree (channel : OcssdChannel) : Bool := 0 < channel.getFreeBlocks

theorem stats_sums (unit : OcssdUnit) :
    unit.getOcssdStats.numSharedChannels = UInt64.ofNat (unit.sharedChannels.countP isFree) ∧
      unit.getOcssdStats.numExclusiveChannels = UInt64.ofNat (unit.exclusiveChannels.countP isFree) ∧
      unit.getOcssdStats.freeBlocks =
        ((unit.sharedChannels ++ unit.exclusiveChannels).map (·.getFreeBlocks)).sum := by
  have same : isFree = fun channel : OcssdChannel => decide (0 < channel.getFreeBlocks) := rfl
  simp only [OcssdUnit.getOcssdStats,tallyFree_sums,same]
  simp

section Counts
variable {unit : OcssdUnit}

theorem pool_lengths (valid : UnitValid unit) :
    unit.sharedChannels.length+unit.exclusiveChannels.length = unit.geo.nchannels.toNat := by
  have length := congrArg List.length valid.ids
  simpa using length

theorem numShared_toNat (valid : UnitValid unit) :
    unit.getOcssdStats.numSharedChannels.toNat = unit.sharedChannels.countP isFree := by
  have length := pool_lengths valid
  have word := unit.geo.nchannels.toNat_lt
  have few := List.countP_le_length (p := isFree) (l := unit.sharedChannels)
  rw [(stats_sums unit).1,UInt64.toNat_ofNat',Nat.mod_eq_of_lt (by omega)]

theorem numExclusive_toNat (valid : UnitValid unit) :
    unit.getOcssdStats.numExclusiveChannels.toNat = unit.exclusiveChannels.countP isFree := by
  have length := pool_lengths valid
  have word := unit.geo.nchannels.toNat_lt
  have few := List.countP_le_length (p := isFree) (l := unit.exclusiveChannels)
  rw [(stats_sums unit).2.1,UInt64.toNat_ofNat',Nat.mod_eq_of_lt (by omega)]

-- An exclusive channel is advertised exactly while it is unused, provided the
-- size_t product of its geometry is not zero.
theorem exclusive_isFree (valid : UnitValid unit) (positive : 0 < unit.geo.nluns*unit.geo.nblocks)
    {channel : OcssdChannel} (member : channel ∈ unit.exclusiveChannels) :
    isFree channel = unused channel := by
  obtain ⟨balanced,untouched⟩ := valid.exclusive channel member
  cases used : channel.used with
  | true => simp [isFree,OcssdChannel.getFreeBlocks,unused,used]
  | false =>
    have total : channel.numTotalBlocks-channel.numUsedBlocks = unit.geo.nluns*unit.geo.nblocks := by
      rw [balanced.total,untouched,UInt64.mul_comm]
      simp
    simp [isFree,OcssdChannel.getFreeBlocks,unused,used,total,positive]

theorem advertised_unused (valid : UnitValid unit) (positive : 0 < unit.geo.nluns*unit.geo.nblocks) :
    unit.getOcssdStats.numExclusiveChannels.toNat = unit.exclusiveChannels.countP unused := by
  rw [numExclusive_toNat valid]
  exact List.countP_congr fun channel member => by rw [exclusive_isFree valid positive member]

end Counts

section Sums

theorem sum_const (a : UInt32) (n : Nat) : ((List.range n).map (fun _ => a)).sum = UInt32.ofNat n*a := by
  induction n with
  | zero => simp
  | succ n ih =>
    rw [List.range_succ,List.map_append,List.sum_append,ih,UInt32.ofNat_add]
    simp only [List.map_cons,List.map_nil,List.sum_cons,List.sum_nil]
    grind

theorem sum_toNat {α : Type*} (f : α → UInt64) (items : List α)
    (small : (items.map (fun item => (f item).toNat)).sum < 2^64) :
    (items.map f).sum.toNat = (items.map (fun item => (f item).toNat)).sum := by
  induction items with
  | nil => rfl
  | cons item rest ih =>
    simp only [List.map_cons,List.sum_cons] at small ⊢
    rw [UInt64.toNat_add,ih (by omega),Nat.mod_eq_of_lt small]

theorem sum_single {α : Type*} {key : α → Nat} (f : α → Nat) {items : List α} {item : α}
    (nodup : (items.map key).Nodup) (member : item ∈ items) :
    (items.map (fun other => (if key other = key item then 1 else 0)*f other)).sum = f item := by
  induction items with
  | nil => cases member
  | cons first rest ih =>
    obtain ⟨new,nodup⟩ := List.nodup_cons.mp nodup
    rw [List.map_cons,List.sum_cons]
    rcases List.mem_cons.mp member with rfl | later
    · have others : (rest.map (fun other => (if key other = key item then 1 else 0)*f other)).sum = 0 := by
        apply List.sum_eq_zero
        intro weight listed
        obtain ⟨other,inside,rfl⟩ := List.mem_map.mp listed
        have apart : key other ≠ key item := by
          intro same
          exact new (by rw [←same]; exact List.mem_map_of_mem inside)
        rw [if_neg apart,Nat.zero_mul]
      rw [if_pos rfl,Nat.one_mul,others,Nat.add_zero]
    · have apart : key first ≠ key item := by
        intro same
        exact new (by rw [same]; exact List.mem_map_of_mem later)
      rw [if_neg apart,ih nodup later,Nat.zero_mul,Nat.zero_add]

theorem sum_filtered {α : Type*} (key f : α → Nat) (k : Nat) (items : List α) :
    (items.map (fun item => (if key item = k then 1 else 0)*f item)).sum =
      ((items.filter (fun item => key item = k)).map f).sum := by
  induction items with
  | nil => rfl
  | cons item rest ih =>
    rw [List.map_cons,List.sum_cons,ih]
    by_cases same : key item = k
    · rw [List.filter_cons_of_pos (by simpa using same),List.map_cons,List.sum_cons,if_pos same,Nat.one_mul]
    · rw [List.filter_cons_of_neg (by simpa using same),if_neg same,Nat.zero_mul,Nat.zero_add]

end Sums

theorem share_toNat (request : OcssdAllocRequest) :
    (share request).toNat = request.numBlocks.toNat/request.numChannels.toNat := by
  simp [share]

-- The total a shared virtual channel announces is what its LUNs were given: the
-- 32-bit sum does not wrap, since it is at most the 32-bit share.
theorem sharedGrant_total {geo : NvmGeo} {channel : OcssdChannel} (balanced : Balanced geo channel)
    (request : OcssdAllocRequest) :
    (sharedGrant geo request channel).totalBlocks.toNat =
      geo.nluns.toNat*(lunShare channel (share request)).toNat := by
  have bound := lunShare_request (share request) balanced
  have word := request.numBlocks.toNat_lt
  have less : (share request).toNat ≤ request.numBlocks.toNat := by
    rw [share_toNat]
    exact Nat.div_le_self _ _
  have total : (sharedGrant geo request channel).totalBlocks =
      UInt32.ofNat geo.nluns.toNat*(lunShare channel (share request)).toUInt32 := by
    rw [sharedGrant,ofAllocUnits_parts]
    simp only [shareUnits,List.map_map,Function.comp_def]
    exact sum_const _ _
  rw [total,UInt32.toNat_mul,UInt32.toNat_ofNat',UInt64.toNat_toUInt32,←Nat.mul_mod,
    Nat.mod_eq_of_lt (by omega)]

section Conservation
variable {unit : OcssdUnit}

def consumed (channel : OcssdChannel) : Nat :=
  if channel.used then channel.numTotalBlocks.toNat else channel.numUsedBlocks.toNat

def pool (unit : OcssdUnit) : List OcssdChannel := unit.sharedChannels ++ unit.exclusiveChannels

theorem pool_balanced (valid : UnitValid unit) {channel : OcssdChannel} (member : channel ∈ pool unit) :
    Balanced unit.geo channel := by
  rcases List.mem_append.mp member with shared | exclusive
  · exact (valid.shared channel shared).1
  · exact (valid.exclusive channel exclusive).1

theorem counters_toNat {geo : NvmGeo} (fits : GeoFits geo) {channel : OcssdChannel}
    (balanced : Balanced geo channel) :
    channel.numTotalBlocks.toNat = geo.nluns.toNat*geo.nblocks.toNat ∧
      channel.numUsedBlocks.toNat = geo.nluns.toNat*(level channel).toNat ∧
      geo.nluns.toNat*(level channel).toNat ≤ geo.nluns.toNat*geo.nblocks.toNat := by
  have small := fits.blocks
  have less := Nat.mul_le_mul_left geo.nluns.toNat (UInt64.le_iff_toNat_le.mp balanced.bounded)
  refine ⟨?_,?_,less⟩
  · rw [balanced.total,UInt64.mul_comm,UInt64.toNat_mul,Nat.mod_eq_of_lt (by omega)]
  · rw [balanced.counted,UInt64.toNat_mul,Nat.mod_eq_of_lt (by omega)]

theorem free_consumed {geo : NvmGeo} (fits : GeoFits geo) {channel : OcssdChannel}
    (balanced : Balanced geo channel) :
    channel.getFreeBlocks.toNat+consumed channel = geo.nluns.toNat*geo.nblocks.toNat := by
  obtain ⟨total,used,less⟩ := counters_toNat fits balanced
  unfold OcssdChannel.getFreeBlocks consumed
  split
  · simpa using total
  · rw [UInt64.toNat_sub_of_le _ _ (UInt64.le_iff_toNat_le.mpr (by omega)),total,used]
    omega

-- Consumed and announced blocks, weighed by their channel id.
def weighed (weight : Nat → Nat) (channel : OcssdChannel) : Nat :=
  weight channel.channelId.toNat*consumed channel

def announced (weight : Nat → Nat) (vchannel : VirtualOcssdChannel) : Nat :=
  weight vchannel.channelId.toNat*vchannel.totalBlocks.toNat

theorem raise_weighed (fits : GeoFits unit.geo) (valid : UnitValid unit) (weight : Nat → Nat)
    (request : OcssdAllocRequest) {channel : OcssdChannel} (member : channel ∈ unit.sharedChannels)
    (served : serves (share request) channel = true) :
    weighed weight (raise unit.geo (share request) channel) =
      weighed weight channel+announced weight (sharedGrant unit.geo request channel) := by
  obtain ⟨balanced,exposed⟩ := valid.shared channel member
  have before := (counters_toNat fits balanced).2.1
  have later := (counters_toNat fits (raise_balanced balanced served)).2.1
  rw [raised_level balanced served,raised_toNat _ balanced,Nat.mul_add] at later
  have open' : (raise unit.geo (share request) channel).used = false := exposed
  unfold weighed announced consumed
  rw [exposed,open',sharedGrant_total balanced,sharedGrant_id,
    narrow_id (Nat.le_of_lt fits.channels) valid (List.mem_append_left _ member)]
  simp only [Bool.false_eq_true,if_false]
  rw [before,later,Nat.mul_add]
  rfl

theorem setUsed_weighed (fits : GeoFits unit.geo) (valid : UnitValid unit) (weight : Nat → Nat)
    {channel : OcssdChannel} (member : channel ∈ unit.exclusiveChannels)
    (ready : unused channel = true) :
    weighed weight channel.setUsed = weighed weight channel+announced weight (exclusiveGrant channel) := by
  obtain ⟨balanced,untouched⟩ := valid.exclusive channel member
  have total := (counters_toNat fits balanced).1
  have small := fits.blocks
  have open' : channel.used = false := by simpa [unused] using ready
  have narrow : channel.numTotalBlocks.toUInt32.toNat = channel.numTotalBlocks.toNat := by
    rw [UInt64.toNat_toUInt32,Nat.mod_eq_of_lt (by omega)]
  simp [weighed,announced,consumed,open',OcssdChannel.setUsed,exclusiveGrant,untouched,narrow,
    narrow_id (Nat.le_of_lt fits.channels) valid (List.mem_append_right _ member)]

-- One request moves exactly what it announces from free to consumed, whatever
-- weight the channels are given.
theorem after_weighed (fits : GeoFits unit.geo) (valid : UnitValid unit) (weight : Nat → Nat)
    (request : OcssdAllocRequest) :
    ((pool (after request unit)).map (weighed weight)).sum =
      ((pool unit).map (weighed weight)).sum+((vchannels request unit).map (announced weight)).sum := by
  unfold after vchannels
  split
  · have sum := left_sum (serves (share request)) (raise unit.geo (share request))
      (fun _ member served => raise_weighed fits valid weight request member served)
      request.numChannels.toNat
    simp only [pool,List.map_append,List.sum_append,List.map_map,sharedDraw,Function.comp_def] at sum ⊢
    omega
  · have sum := left_sum unused OcssdChannel.setUsed
      (fun _ member ready => setUsed_weighed fits valid weight member ready)
      request.numChannels.toNat
    simp only [pool,List.map_append,List.sum_append,List.map_map,exclusiveDraw,Function.comp_def] at sum ⊢
    omega

theorem granted_pos (fits : GeoFits unit.geo) (valid : UnitValid unit)
    (positive : 0 < unit.geo.nluns.toNat*unit.geo.nblocks.toNat) (request : OcssdAllocRequest) :
    ∀ vchannel ∈ vchannels request unit,0 < vchannel.totalBlocks.toNat := by
  intro vchannel member
  rcases vchannels_drawnFrom member with ⟨_,channel,drawn',rfl⟩ | ⟨_,channel,drawn',rfl⟩
  · obtain ⟨inside,served⟩ := mem_taken _ _ drawn'
    have balanced := (valid.shared channel inside).1
    rw [sharedGrant_total balanced]
    exact Nat.mul_pos (Nat.pos_of_mul_pos_right positive) (lunShare_pos balanced served)
  · obtain ⟨inside,_⟩ := mem_taken _ _ drawn'
    have total := (counters_toNat fits (valid.exclusive channel inside).1).1
    have small := fits.blocks
    change 0 < channel.numTotalBlocks.toUInt32.toNat
    rw [UInt64.toNat_toUInt32,Nat.mod_eq_of_lt (by omega)]
    omega

end Conservation

section Runs

theorem serve_after {unit : OcssdUnit} (valid : UnitValid unit) (request : OcssdAllocRequest) :
    (unit.serve request).1 = after request unit ∧
      (unit.serve request).2.units.flatMap (·.channels) = vchannels request unit := by
  have draws := allocChannels_draws valid .new request
  refine ⟨by rw [OcssdUnit.serve,draws],?_⟩
  rw [OcssdUnit.serve,draws]
  by_cases none' : drawn request unit = 0
  · have empty := vchannels_drawn request unit
    rw [none',List.length_eq_zero_iff] at empty
    simp [none',empty,VirtualOcssd.new]
  · simp [none',VirtualOcssd.new,VirtualOcssd.add]

-- What stays of a unit: its invariant, its geometry and who is in which pool.
structure Kept (start unit : OcssdUnit) : Prop where
  valid : UnitValid unit
  geo : unit.geo = start.geo
  sharedIds : unit.sharedChannels.map (·.channelId) = start.sharedChannels.map (·.channelId)
  exclusiveIds : unit.exclusiveChannels.map (·.channelId) = start.exclusiveChannels.map (·.channelId)

theorem after_ids (request : OcssdAllocRequest) (unit : OcssdUnit) :
    (after request unit).sharedChannels.map (·.channelId) = unit.sharedChannels.map (·.channelId) ∧
      (after request unit).exclusiveChannels.map (·.channelId) =
        unit.exclusiveChannels.map (·.channelId) := by
  unfold after
  split
  · refine ⟨left_map (f := OcssdChannel.channelId) _ _ ?_ _ _,rfl⟩
    exact fun _ => rfl
  · refine ⟨rfl,left_map (f := OcssdChannel.channelId) _ _ ?_ _ _⟩
    exact fun _ => rfl

theorem serve_kept {start : OcssdUnit} (unit : OcssdUnit) (request : OcssdAllocRequest)
    (kept : Kept start unit) : Kept start (unit.serve request).1 := by
  obtain ⟨shared,exclusive⟩ := after_ids request unit
  rw [(serve_after kept.valid request).1]
  exact ⟨after_valid kept.valid request,(after_geo request unit).trans kept.geo,
    shared.trans kept.sharedIds,exclusive.trans kept.exclusiveIds⟩

def grantsFrom (unit : OcssdUnit) (requests : List OcssdAllocRequest) : List VirtualOcssdChannel :=
  (MachineRuns.trace OcssdUnit.serve unit requests).flatMap (fun e => e.2.units.flatMap (·.channels))

theorem run_weighed {unit : OcssdUnit} (fits : GeoFits unit.geo) (valid : UnitValid unit)
    (weight : Nat → Nat) (requests : List OcssdAllocRequest) :
    ((pool (MachineRuns.final OcssdUnit.serve unit requests)).map (weighed weight)).sum =
      ((pool unit).map (weighed weight)).sum+((grantsFrom unit requests).map (announced weight)).sum := by
  induction requests generalizing unit with
  | nil => simp [grantsFrom]
  | cons request rest ih =>
    obtain ⟨state,granted⟩ := serve_after valid request
    have here := after_weighed fits valid weight request
    have fits' : GeoFits (after request unit).geo := by rw [after_geo]; exact fits
    have later := ih fits' (after_valid valid request)
    simp only [grantsFrom,MachineRuns.trace_cons,MachineRuns.final_cons,List.flatMap_cons,
      List.map_append,List.sum_append,state,granted] at later ⊢
    rw [later,here]
    omega

theorem initialize_weighed (name : DevName) (geo : NvmGeo) (weight : Nat → Nat) :
    ((pool (.initializeDev name geo)).map (weighed weight)).sum = 0 := by
  apply List.sum_eq_zero
  intro term listed
  obtain ⟨channel,member,rfl⟩ := List.mem_map.mp listed
  rw [initializeDev_pools] at member
  rcases List.mem_append.mp member with inside | inside
  · obtain ⟨id,_,rfl⟩ := List.mem_map.mp inside
    rfl
  · obtain ⟨id,_,rfl⟩ := List.mem_map.mp inside
    rfl

def unitAfter (name : DevName) (geo : NvmGeo) (requests : List OcssdAllocRequest) : OcssdUnit :=
  MachineRuns.final OcssdUnit.serve (.initializeDev name geo) requests

def unitGrants (name : DevName) (geo : NvmGeo) (requests : List OcssdAllocRequest) :
    List VirtualOcssdChannel := grantsFrom (.initializeDev name geo) requests

def totalGranted (granted : List VirtualOcssdChannel) : Nat := (granted.map (·.totalBlocks.toNat)).sum

def grantedOn (channelId : UInt64) (granted : List VirtualOcssdChannel) : List VirtualOcssdChannel :=
  granted.filter (fun vchannel => vchannel.channelId.toNat = channelId.toNat)

variable (name : DevName) {geo : NvmGeo} (fits : GeoFits geo) (requests : List OcssdAllocRequest)

theorem unitAfter_kept (name : DevName) (geo : NvmGeo) (requests : List OcssdAllocRequest) :
    Kept (.initializeDev name geo) (unitAfter name geo requests) :=
  MachineRuns.final_invariant serve_kept ⟨initialize_valid name geo,rfl,rfl,rfl⟩ requests

theorem initialize_geo (name : DevName) (geo : NvmGeo) : (OcssdUnit.initializeDev name geo).geo = geo := by
  rw [initializeDev_pools]

theorem unitAfter_geo (name : DevName) (geo : NvmGeo) (requests : List OcssdAllocRequest) :
    (unitAfter name geo requests).geo = geo :=
  (unitAfter_kept name geo requests).geo.trans (initialize_geo name geo)

include fits

theorem run_consumed (weight : Nat → Nat) :
    ((pool (unitAfter name geo requests)).map (weighed weight)).sum =
      ((unitGrants name geo requests).map (announced weight)).sum := by
  have run := run_weighed (by rw [initialize_geo]; exact fits) (initialize_valid name geo) weight requests
  rw [initialize_weighed,Nat.zero_add] at run
  exact run

theorem channel_consumed {channel : OcssdChannel} (member : channel ∈ pool (unitAfter name geo requests)) :
    consumed channel = totalGranted (grantedOn channel.channelId (unitGrants name geo requests)) := by
  have nodup := ids_nodup (unitAfter_kept name geo requests).valid
  have nats : ((pool (unitAfter name geo requests)).map (fun c => c.channelId.toNat)).Nodup := by
    have mapped := nodup.map (f := UInt64.toNat) (fun _ _ same => UInt64.toNat_inj.mp same)
    rw [List.map_map] at mapped
    exact mapped
  have single := sum_single consumed nats member
  have run := run_consumed name fits requests (fun k => if k = channel.channelId.toNat then 1 else 0)
  calc consumed channel = _ := single.symm
    _ = _ := run
    _ = _ := sum_filtered (fun vchannel : VirtualOcssdChannel => vchannel.channelId.toNat)
        (·.totalBlocks.toNat) _ _

theorem free_conserved :
    (unitAfter name geo requests).getOcssdStats.freeBlocks.toNat+
        totalGranted (unitGrants name geo requests) =
      geo.nchannels.toNat*(geo.nluns.toNat*geo.nblocks.toNat) := by
  have kept := unitAfter_kept name geo requests
  have same := unitAfter_geo name geo requests
  have run := run_consumed name fits requests (fun _ => 1)
  have granted : ((unitGrants name geo requests).map (announced (fun _ => 1))).sum =
      totalGranted (unitGrants name geo requests) := by
    unfold totalGranted
    congr 2
    funext vchannel
    simp [announced]
  have spent : ((pool (unitAfter name geo requests)).map (weighed (fun _ => 1))).sum =
      ((pool (unitAfter name geo requests)).map consumed).sum := by
    congr 2
    funext channel
    simp [weighed]
  rw [granted,spent] at run
  have length := pool_lengths kept.valid
  rw [same] at length
  have whole : ((pool (unitAfter name geo requests)).map (fun c => c.getFreeBlocks.toNat)).sum+
      ((pool (unitAfter name geo requests)).map consumed).sum =
      geo.nchannels.toNat*(geo.nluns.toNat*geo.nblocks.toNat) := by
    rw [←List.sum_map_add,List.map_congr_left (g := fun _ => geo.nluns.toNat*geo.nblocks.toNat)]
    · rw [List.map_const',List.sum_replicate,Nat.nsmul_eq_mul,pool,List.length_append,length]
    · intro channel member
      exact free_consumed fits (same ▸ pool_balanced kept.valid member)
  have size : geo.nchannels.toNat*(geo.nluns.toNat*geo.nblocks.toNat) < 2^64 :=
    calc geo.nchannels.toNat*(geo.nluns.toNat*geo.nblocks.toNat) < 2^32*2^32 :=
          Nat.mul_lt_mul'' fits.channels fits.blocks
      _ = 2^64 := by norm_num
  rw [(stats_sums _).2.2,sum_toNat _ _ (by unfold pool at whole; omega),←run]
  exact whole

theorem channel_isFree {channel : OcssdChannel} (member : channel ∈ pool (unitAfter name geo requests)) :
    isFree channel = true ↔ totalGranted (grantedOn channel.channelId (unitGrants name geo requests)) <
      geo.nluns.toNat*geo.nblocks.toNat := by
  have same := unitAfter_geo name geo requests
  have balanced := pool_balanced (unitAfter_kept name geo requests).valid member
  rw [same] at balanced
  have whole := free_consumed fits balanced
  rw [←channel_consumed name fits requests member]
  have free : isFree channel = true ↔ 0 < channel.getFreeBlocks.toNat := by
    simp [isFree,UInt64.lt_iff_toNat_lt]
  rw [free]
  omega

theorem run_granted_pos (positive : 0 < geo.nluns.toNat*geo.nblocks.toNat) :
    ∀ vchannel ∈ unitGrants name geo requests,0 < vchannel.totalBlocks.toNat := by
  intro vchannel member
  obtain ⟨e,traced,listed⟩ := List.mem_flatMap.mp member
  have start : Kept (.initializeDev name geo) (.initializeDev name geo) :=
    ⟨initialize_valid name geo,rfl,rfl,rfl⟩
  refine MachineRuns.trace_forall
    (P := fun e => ∀ vchannel ∈ e.2.units.flatMap (·.channels),0 < vchannel.totalBlocks.toNat)
    serve_kept ?_ start requests e traced vchannel listed
  intro unit request kept
  have same := kept.geo.trans (initialize_geo name geo)
  dsimp only
  rw [(serve_after kept.valid request).2]
  exact granted_pos (same ▸ fits) kept.valid (same ▸ positive) request

theorem exclusive_ungranted (positive : 0 < geo.nluns.toNat*geo.nblocks.toNat) {channel : OcssdChannel}
    (member : channel ∈ (unitAfter name geo requests).exclusiveChannels) :
    isFree channel = true ↔
      ∀ vchannel ∈ unitGrants name geo requests,vchannel.channelId.toNat ≠ channel.channelId.toNat := by
  have inside := List.mem_append_right (unitAfter name geo requests).sharedChannels member
  have kept := unitAfter_kept name geo requests
  have same := unitAfter_geo name geo requests
  obtain ⟨balanced,untouched⟩ := kept.valid.exclusive channel member
  rw [same] at balanced
  have all : consumed channel = 0 ∨ consumed channel = geo.nluns.toNat*geo.nblocks.toNat := by
    unfold consumed
    split
    · exact .inr (counters_toNat fits balanced).1
    · exact .inl (by rw [untouched]; rfl)
  have given := channel_consumed name fits requests inside
  rw [channel_isFree name fits requests inside,←given]
  constructor
  · intro short vchannel listed on
    have term : vchannel.totalBlocks.toNat ≤
        totalGranted (grantedOn channel.channelId (unitGrants name geo requests)) :=
      List.single_le_sum (fun _ _ => Nat.zero_le _) _
        (List.mem_map_of_mem (List.mem_filter.mpr ⟨listed,by simpa using on⟩))
    have some' := run_granted_pos name fits requests positive vchannel listed
    omega
  · intro never
    have none' : grantedOn channel.channelId (unitGrants name geo requests) = [] :=
      List.filter_eq_nil_iff.mpr fun vchannel listed => by simpa using never vchannel listed
    rw [given,none']
    exact positive

end Runs

theorem count_ids {one two : List OcssdChannel} (same : one.map (·.channelId) = two.map (·.channelId))
    (p : UInt64 → Bool) : one.countP (fun c => p c.channelId) = two.countP (fun c => p c.channelId) := by
  have counted := congrArg (List.countP p) same
  rw [List.countP_map,List.countP_map] at counted
  exact counted

theorem stats_conserve_blocks (name : DevName) (geo : NvmGeo) (fits : GeoFits geo)
    (positive : 0 < geo.nluns.toNat*geo.nblocks.toNat) (requests : List OcssdAllocRequest) :
    totalGranted (unitGrants name geo requests) ≤
        geo.nchannels.toNat*geo.nluns.toNat*geo.nblocks.toNat ∧
      (unitAfter name geo requests).getOcssdStats.freeBlocks.toNat =
        geo.nchannels.toNat*geo.nluns.toNat*geo.nblocks.toNat-
          totalGranted (unitGrants name geo requests) ∧
      (unitAfter name geo requests).getOcssdStats.numSharedChannels.toNat =
        (OcssdUnit.initializeDev name geo).sharedChannels.countP (fun channel =>
          totalGranted (grantedOn channel.channelId (unitGrants name geo requests)) <
            geo.nluns.toNat*geo.nblocks.toNat) ∧
      (unitAfter name geo requests).getOcssdStats.numExclusiveChannels.toNat =
        (OcssdUnit.initializeDev name geo).exclusiveChannels.countP (fun channel =>
          ∀ vchannel ∈ unitGrants name geo requests,
            vchannel.channelId.toNat ≠ channel.channelId.toNat) := by
  have kept := unitAfter_kept name geo requests
  have conserved := free_conserved name fits requests
  rw [←Nat.mul_assoc] at conserved
  refine ⟨by omega,by omega,?_,?_⟩
  · rw [numShared_toNat kept.valid,
      ←count_ids kept.sharedIds (fun channelId =>
        totalGranted (grantedOn channelId (unitGrants name geo requests)) <
          geo.nluns.toNat*geo.nblocks.toNat)]
    refine List.countP_congr fun channel member => ?_
    rw [channel_isFree name fits requests (List.mem_append_left _ member)]
    simp
  · rw [numExclusive_toNat kept.valid,
      ←count_ids kept.exclusiveIds (fun channelId =>
        ∀ vchannel ∈ unitGrants name geo requests,vchannel.channelId.toNat ≠ channelId.toNat)]
    refine List.countP_congr fun channel member => ?_
    rw [exclusive_ungranted name fits requests positive member]
    simp

-- Six channels of two LUNs with four blocks: eight blocks on two shared
-- channels, one exclusive channel, then more than is left.
theorem busy_unit_conserves :
    (unitAfter [110] ⟨6,2,1,4,1,1,1,1,0⟩ [⟨2,8,1,0,0⟩,⟨1,0,0,0,0⟩,⟨9,90,1,0,0⟩]).getOcssdStats.freeBlocks.toNat =
        6*2*4-totalGranted
          (unitGrants [110] ⟨6,2,1,4,1,1,1,1,0⟩ [⟨2,8,1,0,0⟩,⟨1,0,0,0,0⟩,⟨9,90,1,0,0⟩]) ∧
      totalGranted (unitGrants [110] ⟨6,2,1,4,1,1,1,1,0⟩ [⟨2,8,1,0,0⟩,⟨1,0,0,0,0⟩,⟨9,90,1,0,0⟩]) = 40 :=
  ⟨(stats_conserve_blocks [110] ⟨6,2,1,4,1,1,1,1,0⟩ ⟨by decide,by decide⟩ (by decide)
    [⟨2,8,1,0,0⟩,⟨1,0,0,0,0⟩,⟨9,90,1,0,0⟩]).2.1,by decide⟩

end OcssdServer.PublishedStats
