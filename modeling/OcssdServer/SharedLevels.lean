import OcssdServer.PublishedStats

namespace OcssdServer.SharedLevels
open ChannelBalance FirstFit UnitGrants BlockOwnership PublishedStats

def serveBlocks (channel : OcssdChannel) (requestBlocks : UInt64) : OcssdChannel × (AllocUnits × UInt64) :=
  let r := channel.allocBlocks [] requestBlocks
  (r.channel,(r.allocUnits,r.allocated))

def ReachedBy (geo : NvmGeo) (channel : OcssdChannel) : Prop :=
  ∃ channelId shared used requests,channel = MachineRuns.final serveBlocks
    {OcssdChannel.new channelId geo.nluns geo.nblocks with shared := shared,used := used} requests

def notFull (channel : OcssdChannel) : Bool := channel.numUsedBlocks ≠ channel.numTotalBlocks

def levelUnits (luns start count : Nat) : AllocUnits :=
  (List.range luns).map (fun lunId => (UInt64.ofNat lunId,UInt64.ofNat start,UInt64.ofNat count))

def channelGrant (request : OcssdAllocRequest) (channel : OcssdChannel) : VirtualOcssdChannel :=
  .ofAllocUnits channel.channelId.toUInt32 1 (channel.allocBlocks [] (share request)).allocUnits

section Channel
variable {geo : NvmGeo} {channel : OcssdChannel}

theorem serveBlocks_balanced (balanced : Balanced geo channel) (request : UInt64) :
    Balanced geo (serveBlocks channel request).1 := by
  cases served : serves request channel with
  | true =>
    rw [serveBlocks,allocBlocks_serves balanced served]
    exact raise_balanced balanced served
  | false =>
    have same := (allocBlocks_refuses served).1
    rw [serveBlocks]
    dsimp only
    rw [same]
    exact balanced

theorem reachedBy_balanced (reached : ReachedBy geo channel) : Balanced geo channel := by
  obtain ⟨channelId,shared,used,requests,rfl⟩ := reached
  refine @MachineRuns.final_invariant _ _ _ _ (Balanced geo) ?_ _ ?_ requests
  · intro c request balanced
    exact serveBlocks_balanced balanced request
  · exact flag_balanced (new_balanced geo channelId) shared used

theorem counters_toNat (fits : geo.nluns.toNat*geo.nblocks.toNat < 2^64) (balanced : Balanced geo channel) :
    channel.numUsedBlocks.toNat = geo.nluns.toNat*(level channel).toNat ∧
      channel.numTotalBlocks.toNat = geo.nluns.toNat*geo.nblocks.toNat := by
  have bounded := UInt64.le_iff_toNat_le.mp balanced.bounded
  have less := Nat.mul_le_mul_left geo.nluns.toNat bounded
  constructor
  · rw [balanced.counted,UInt64.toNat_mul,Nat.mod_eq_of_lt (by omega)]
  · rw [balanced.total,UInt64.toNat_mul,Nat.mul_comm,Nat.mod_eq_of_lt fits]

theorem luns_level (balanced : Balanced geo channel) :
    channel.luns.length = geo.nluns.toNat ∧
      ∀ lun ∈ channel.luns,lun.numUsed.toNat = (level channel).toNat := by
  constructor
  · rw [balanced.luns,lunsAt,List.length_map,List.length_range]
  · intro lun member
    rw [balanced.luns] at member
    obtain ⟨i,_,rfl⟩ := List.mem_map.mp member
    rfl

theorem asks_iff (some' : 1 ≤ geo.nluns.toNat) (balanced : Balanced geo channel) (request : UInt64) :
    request/channel.numLuns ≠ 0 ↔ geo.nluns.toNat ≤ request.toNat := by
  have positive : 0 < geo.nluns.toNat := some'
  rw [balanced.numLuns,ne_eq,←UInt64.toNat_inj,UInt64.toNat_div,UInt64.toNat_zero,Nat.div_eq_zero_iff]
  omega

-- Without overflow the code's own test for a full channel is that its level has
-- reached the size of a LUN.
theorem notFull_iff (some' : 1 ≤ geo.nluns.toNat) (fits : geo.nluns.toNat*geo.nblocks.toNat < 2^64)
    (balanced : Balanced geo channel) :
    notFull channel = true ↔ (level channel).toNat < geo.nblocks.toNat := by
  obtain ⟨used,total⟩ := counters_toNat fits balanced
  have bounded := UInt64.le_iff_toNat_le.mp balanced.bounded
  rw [notFull,decide_eq_true_iff,ne_eq,←UInt64.toNat_inj,used,total,Nat.mul_left_cancel_iff some']
  omega

theorem allocBlocks_level (some' : 1 ≤ geo.nluns.toNat) (fits : geo.nluns.toNat*geo.nblocks.toNat < 2^64)
    (balanced : Balanced geo channel) (request : UInt64) :
    (channel.allocBlocks [] request).allocated.toNat =
        geo.nluns.toNat*min (request.toNat/geo.nluns.toNat) (geo.nblocks.toNat-(level channel).toNat) ∧
      (0 < (channel.allocBlocks [] request).allocated →
        0 < min (request.toNat/geo.nluns.toNat) (geo.nblocks.toNat-(level channel).toNat) ∧
        (channel.allocBlocks [] request).allocUnits = levelUnits geo.nluns.toNat (level channel).toNat
          (min (request.toNat/geo.nluns.toNat) (geo.nblocks.toNat-(level channel).toNat))) := by
  have shared := lunShare_toNat request balanced
  cases served : serves request channel with
  | true =>
    rw [allocBlocks_serves balanced served,←shared]
    refine ⟨given_toNat request balanced,fun _ => ⟨lunShare_pos balanced served,?_⟩⟩
    simp only [shareUnits,levelUnits,UInt64.ofNat_toNat]
  | false =>
    obtain ⟨_,nothing⟩ := allocBlocks_refuses served
    have zero : min (request.toNat/geo.nluns.toNat) (geo.nblocks.toNat-(level channel).toNat) = 0 := by
      by_cases asks : geo.nluns.toNat ≤ request.toNat
      · have full : ¬ (level channel).toNat < geo.nblocks.toNat := by
          intro room
          have open' : channel.numUsedBlocks ≠ channel.numTotalBlocks := by
            simpa [notFull] using (notFull_iff some' fits balanced).mpr room
          have given := (asks_iff some' balanced request).mpr asks
          simp [serves,open',given] at served
        omega
      · rw [Nat.div_eq_of_lt (by omega),Nat.zero_min]
    rw [nothing,zero]
    exact ⟨rfl,fun some'' => absurd some'' (by decide)⟩

end Channel

section Pool
variable {geo : NvmGeo} {request : OcssdAllocRequest}

theorem serves_notFull (some' : 1 ≤ geo.nluns.toNat) {channel : OcssdChannel} (balanced : Balanced geo channel) :
    serves (share request) channel =
      (notFull channel && decide (geo.nluns.toNat ≤ request.numBlocks.toNat/request.numChannels.toNat)) := by
  have asks := asks_iff some' balanced (share request)
  rw [share_toNat] at asks
  simp only [serves,notFull,Bool.decide_and]
  congr 1
  exact decide_eq_decide.mpr asks

theorem empty_full {channel : OcssdChannel} (balanced : Balanced geo channel) (none' : geo.nblocks.toNat = 0) :
    notFull channel = false := by
  have bounded := UInt64.le_iff_toNat_le.mp balanced.bounded
  have bottom : level channel = 0 := UInt64.toNat_inj.mp (by rw [UInt64.toNat_zero]; omega)
  have nothing : geo.nblocks = 0 := UInt64.toNat_inj.mp none'
  simp [notFull,balanced.counted,balanced.total,bottom,nothing]

theorem served_channels (some' : 1 ≤ geo.nluns.toNat) {pool : List OcssdChannel}
    (balanced : ∀ channel ∈ pool,Balanced geo channel) :
    pool.filter (serves (share request)) =
      if geo.nluns.toNat ≤ request.numBlocks.toNat/request.numChannels.toNat ∧ 1 ≤ geo.nblocks.toNat then
        pool.filter notFull
      else [] := by
  split
  · rename_i enough
    refine List.filter_congr fun channel member => ?_
    rw [serves_notFull some' (balanced channel member),decide_eq_true enough.1,Bool.and_true]
  · rename_i scarce
    rw [List.filter_eq_nil_iff]
    intro channel member served
    have here := balanced channel member
    rw [serves_notFull some' here,Bool.and_eq_true,decide_eq_true_iff] at served
    by_cases none' : geo.nblocks.toNat = 0
    · rw [empty_full here none'] at served
      cases served.1
    · exact scarce ⟨served.2,Nat.pos_of_ne_zero none'⟩

theorem served_grant {channel : OcssdChannel} (balanced : Balanced geo channel)
    (served : serves (share request) channel = true) : channelGrant request channel = sharedGrant geo request channel := by
  rw [channelGrant,allocBlocks_serves balanced served,sharedGrant]

-- A share is at most the 32-bit number of blocks asked for, so that it is still
-- positive in the 32-bit field of a virtual LUN.
theorem grant_positive {channel : OcssdChannel} (balanced : Balanced geo channel)
    (served : serves (share request) channel = true) :
    ∀ vlun ∈ (sharedGrant geo request channel).luns,vlun.numBlocks ≠ 0 := by
  intro vlun member zero
  rw [sharedGrant_luns] at member
  obtain ⟨i,_,rfl⟩ := List.mem_map.mp member
  have positive := lunShare_pos balanced served
  have less : (lunShare channel (share request)).toNat ≤ (share request).toNat := by
    rw [lunShare_toNat _ balanced]
    exact Nat.le_trans (Nat.min_le_left _ _) (Nat.div_le_self _ _)
  have word : (share request).toNat < 2^32 := by
    rw [share_toNat]
    exact Nat.lt_of_le_of_lt (Nat.div_le_self _ _) request.numBlocks.toNat_lt
  have narrow := congrArg UInt32.toNat zero
  simp only [VirtualOcssdLun.ofAllocUnit,UInt64.toNat_toUInt32,UInt32.toNat_zero] at narrow
  omega

theorem drawn_channels (some' : 1 ≤ geo.nluns.toNat) {pool : List OcssdChannel}
    (balanced : ∀ channel ∈ pool,Balanced geo channel) :
    (draw (serves (share request)) (raise geo (share request)) request.numChannels.toNat pool).1 =
      if geo.nluns.toNat ≤ request.numBlocks.toNat/request.numChannels.toNat ∧ 1 ≤ geo.nblocks.toNat then
        (pool.filter notFull).take request.numChannels.toNat
      else [] := by
  rw [draw_taken,served_channels some' balanced]
  split
  · rfl
  · exact List.take_nil

theorem drawn_few (pool : List OcssdChannel) :
    (draw (serves (share request)) (raise geo (share request)) request.numChannels.toNat pool).1.length < 2^64 := by
  rw [taken_length]
  have most := Nat.min_le_left request.numChannels.toNat (pool.countP (serves (share request)))
  have word := request.numChannels.toNat_lt
  omega

theorem drawn_grants {pool : List OcssdChannel} (balanced : ∀ channel ∈ pool,Balanced geo channel) :
    ∀ channel ∈ (draw (serves (share request)) (raise geo (share request)) request.numChannels.toNat pool).1,
      sharedGrant geo request channel = channelGrant request channel ∧
        ∀ vlun ∈ (channelGrant request channel).luns,vlun.numBlocks ≠ 0 := by
  intro channel member
  obtain ⟨inside,served⟩ := mem_taken _ _ member
  have grant := served_grant (balanced channel inside) served
  refine ⟨grant.symm,?_⟩
  rw [grant]
  exact grant_positive (balanced channel inside) served

end Pool

-- The LUNs of a channel stay level under any calls, which gives a call its closed
-- form, and with it what a request gets of a pool of such channels.
theorem shared_channels_level {geo : NvmGeo} (some' : 1 ≤ geo.nluns.toNat)
    (fits : geo.nluns.toNat*geo.nblocks.toNat < 2^64) :
    (∀ channel,ReachedBy geo channel → ∃ used : Nat,
      channel.luns.length = geo.nluns.toNat ∧ (∀ lun ∈ channel.luns,lun.numUsed.toNat = used) ∧
      channel.numUsedBlocks.toNat = geo.nluns.toNat*used ∧
      geo.nluns.toNat*used ≤ geo.nluns.toNat*geo.nblocks.toNat ∧
      ∀ request : UInt64,
        let count := min (request.toNat/geo.nluns.toNat) (geo.nblocks.toNat-used)
        let r := channel.allocBlocks [] request
        r.allocated.toNat = geo.nluns.toNat*count ∧
          (0 < r.allocated → 0 < count ∧ r.allocUnits = levelUnits geo.nluns.toNat used count)) ∧
    (∀ (unit : OcssdUnit) (vunit : VirtualOcssdUnit) (request : OcssdAllocRequest),
      (∀ channel ∈ unit.sharedChannels,ReachedBy geo channel) → request.numChannels ≠ 0 →
      let granted :=
        if geo.nluns.toNat ≤ request.numBlocks.toNat/request.numChannels.toNat ∧ 1 ≤ geo.nblocks.toNat then
          (unit.sharedChannels.filter notFull).take request.numChannels.toNat
        else []
      let r := unit.allocSharedChannels vunit request
      r.granted.toNat = granted.length ∧
        r.vunit = {vunit with channels := vunit.channels ++ granted.map (channelGrant request)} ∧
        ∀ channel ∈ granted,∀ vlun ∈ (channelGrant request channel).luns,vlun.numBlocks ≠ 0) := by
  constructor
  · intro channel reached
    have balanced := reachedBy_balanced reached
    have bounded := UInt64.le_iff_toNat_le.mp balanced.bounded
    obtain ⟨many,each⟩ := luns_level balanced
    exact ⟨(level channel).toNat,many,each,(counters_toNat fits balanced).1,Nat.mul_le_mul_left _ bounded,
      allocBlocks_level some' fits balanced⟩
  · intro unit vunit request reached asks
    have balanced : ∀ channel ∈ unit.sharedChannels,Balanced geo channel :=
      fun channel member => reachedBy_balanced (reached channel member)
    have short : (0 : UInt64).toNat < request.numChannels.toNat :=
      Nat.pos_of_ne_zero fun zero => asks (UInt32.toNat_inj.mp zero)
    -- The loop draws first fit: the channels drawn are those the statement lists.
    have run : unit.allocSharedChannels vunit request = _ :=
      sharedLoop_draws request unit.sharedChannels balanced vunit 0 short
    rw [drawInto,UInt64.toNat_zero,Nat.sub_zero,UInt64.zero_add] at run
    have few := @drawn_few geo request unit.sharedChannels
    have grants := @drawn_grants geo request _ balanced
    dsimp only
    rw [run,←drawn_channels some' balanced]
    refine ⟨Nat.mod_eq_of_lt few,?_,fun channel member => (grants channel member).2⟩
    rw [List.map_congr_left fun channel member => (grants channel member).1]

-- Three LUNs of five blocks after a call for seven and one for two: the first
-- gave two blocks of every LUN, the second nothing.
def threeLuns : NvmGeo := ⟨1,3,1,5,1,1,1,1,0⟩

def partFilled : OcssdChannel := MachineRuns.final serveBlocks (OcssdChannel.new 0 3 5) [7,2]

theorem part_filled_level :
    (∃ used : Nat,∀ request : UInt64,(partFilled.allocBlocks [] request).allocated.toNat =
      3*min (request.toNat/3) (5-used)) ∧
    (OcssdUnit.allocSharedChannels ⟨[110],threeLuns,[partFilled],[]⟩ ⟨[110],threeLuns,[]⟩
      ⟨4,20,1,0,0⟩).granted = 1 := by
  obtain ⟨channels,pools⟩ := @shared_channels_level threeLuns (by decide) (by decide)
  have reached : ReachedBy threeLuns partFilled := ⟨0,false,false,[7,2],rfl⟩
  constructor
  · obtain ⟨used,_,_,_,_,calls⟩ := channels partFilled reached
    exact ⟨used,fun request => (calls request).1⟩
  · have granted := (pools ⟨[110],threeLuns,[partFilled],[]⟩ ⟨[110],threeLuns,[]⟩ ⟨4,20,1,0,0⟩
      (fun channel member => by rw [List.mem_singleton.mp member]; exact reached) (by decide)).1
    exact UInt64.toNat_inj.mp (granted.trans (by decide))

end OcssdServer.SharedLevels
