import OcssdServer.ChannelBalance
import OcssdServer.FirstFit

namespace OcssdServer.UnitGrants
open ChannelBalance FirstFit

-- What the allocator keeps true of a device from its initialization on. The
-- channels are those of the geometry, each in exactly one pool.
structure UnitValid (unit : OcssdUnit) : Prop where
  shared : ∀ channel ∈ unit.sharedChannels,Balanced unit.geo channel ∧ channel.used = false
  exclusive : ∀ channel ∈ unit.exclusiveChannels,
    Balanced unit.geo channel ∧ channel.numUsedBlocks = 0
  ids : (unit.sharedChannels ++ unit.exclusiveChannels).map (·.channelId) =
    (List.range unit.geo.nchannels.toNat).map UInt64.ofNat

-- A request as one unit sees it: the share of a channel, and which channels of
-- which pool are ready for it.
def share (request : OcssdAllocRequest) : UInt64 := (request.numBlocks/request.numChannels).toUInt64

def unused (channel : OcssdChannel) : Bool := !channel.used

def sharedGrant (geo : NvmGeo) (request : OcssdAllocRequest) (channel : OcssdChannel) :
    VirtualOcssdChannel :=
  .ofAllocUnits channel.channelId.toUInt32 1 (shareUnits geo (share request) channel)

def exclusiveGrant (channel : OcssdChannel) : VirtualOcssdChannel :=
  ⟨channel.channelId.toUInt32,0,channel.numTotalBlocks.toUInt32,channel.numLuns.toUInt32,[]⟩

def sharedDraw (request : OcssdAllocRequest) (unit : OcssdUnit) : List OcssdChannel × List OcssdChannel :=
  draw (serves (share request)) (raise unit.geo (share request)) request.numChannels.toNat
    unit.sharedChannels

def exclusiveDraw (request : OcssdAllocRequest) (unit : OcssdUnit) :
    List OcssdChannel × List OcssdChannel :=
  draw unused OcssdChannel.setUsed request.numChannels.toNat unit.exclusiveChannels

def taken (request : OcssdAllocRequest) (unit : OcssdUnit) : List OcssdChannel :=
  if request.shared = 1 then (sharedDraw request unit).1 else (exclusiveDraw request unit).1

def after (request : OcssdAllocRequest) (unit : OcssdUnit) : OcssdUnit :=
  if request.shared = 1 then {unit with sharedChannels := (sharedDraw request unit).2}
  else {unit with exclusiveChannels := (exclusiveDraw request unit).2}

def vchannels (request : OcssdAllocRequest) (unit : OcssdUnit) : List VirtualOcssdChannel :=
  if request.shared = 1 then (sharedDraw request unit).1.map (sharedGrant unit.geo request)
  else (exclusiveDraw request unit).1.map exclusiveGrant

def drawn (request : OcssdAllocRequest) (unit : OcssdUnit) : Nat :=
  min request.numChannels.toNat
    (if request.shared = 1 then unit.sharedChannels.countP (serves (share request))
      else unit.exclusiveChannels.countP unused)

theorem taken_drawn (request : OcssdAllocRequest) (unit : OcssdUnit) :
    (taken request unit).length = drawn request unit := by
  unfold taken drawn
  split
  · exact taken_length _ _ _ _
  · exact taken_length _ _ _ _

theorem vchannels_drawn (request : OcssdAllocRequest) (unit : OcssdUnit) :
    (vchannels request unit).length = drawn request unit := by
  rw [←taken_drawn]
  unfold vchannels taken
  split
  · exact List.length_map _
  · exact List.length_map _

section Loops
variable (ready : OcssdChannel → Bool) (use : OcssdChannel → OcssdChannel)
  (grant : OcssdChannel → VirtualOcssdChannel)

-- Both loops of a unit come to this: draw, add a virtual channel for each
-- channel drawn, count them.
def drawInto (want : Nat) (channels : List OcssdChannel) (vunit : VirtualOcssdUnit) (count : UInt64) :
    OcssdUnit.PoolGrant :=
  ⟨(draw ready use want channels).2,
    {vunit with channels := vunit.channels ++ (draw ready use want channels).1.map grant},
    count+UInt64.ofNat (draw ready use want channels).1.length⟩

theorem drawInto_nil (want : Nat) (vunit : VirtualOcssdUnit) (count : UInt64) :
    drawInto ready use grant want [] vunit count = ⟨[],vunit,count⟩ := by
  simp [drawInto]

theorem drawInto_zero (channels : List OcssdChannel) (vunit : VirtualOcssdUnit) (count : UInt64) :
    drawInto ready use grant 0 channels vunit count = ⟨channels,vunit,count⟩ := by
  simp [drawInto]

theorem drawInto_skip {channel : OcssdChannel} (misfit : ready channel = false) (want : Nat)
    (rest : List OcssdChannel) (vunit : VirtualOcssdUnit) (count : UInt64) :
    drawInto ready use grant want (channel :: rest) vunit count =
      {drawInto ready use grant want rest vunit count with
        channels := channel :: (drawInto ready use grant want rest vunit count).channels} := by
  simp [drawInto,draw_skip _ _ misfit]

theorem drawInto_ready {channel : OcssdChannel} (fits : ready channel = true) (want : Nat)
    (rest : List OcssdChannel) (vunit : VirtualOcssdUnit) (count : UInt64) :
    drawInto ready use grant (want+1) (channel :: rest) vunit count =
      {drawInto ready use grant want rest (vunit.add (grant channel)) (count+1) with
        channels := use channel ::
          (drawInto ready use grant want rest (vunit.add (grant channel)) (count+1)).channels} := by
  simp only [drawInto,draw_ready _ _ fits,VirtualOcssdUnit.add,List.map_cons,List.append_assoc,
    List.singleton_append,List.length_cons,UInt64.ofNat_add]
  congr 1
  grind

end Loops

theorem counter_step {count bound : UInt64} (short : count.toNat < bound.toNat) :
    (count+1).toNat = count.toNat+1 ∧ (count+1 = bound ↔ count.toNat+1 = bound.toNat) := by
  have word := bound.toNat_lt
  have next : (count+1).toNat = count.toNat+1 := by
    rw [UInt64.toNat_add,UInt64.toNat_one,Nat.mod_eq_of_lt (by omega)]
  exact ⟨next,by rw [←UInt64.toNat_inj,next]⟩

theorem allocated_pos {geo : NvmGeo} {channel : OcssdChannel} {request : UInt64}
    (balanced : Balanced geo channel) (served : serves request channel = true) :
    0 < geo.nluns*lunShare channel request := by
  have luns : 0 < geo.nluns.toNat := Nat.pos_of_ne_zero fun zero =>
    serves_luns balanced served (UInt64.toNat_inj.mp zero)
  rw [UInt64.lt_iff_toNat_lt,given_toNat _ balanced]
  exact Nat.mul_pos luns (lunShare_pos balanced served)

theorem sharedLoop_draws {geo : NvmGeo} (request : OcssdAllocRequest) (channels : List OcssdChannel)
    (balanced : ∀ channel ∈ channels,Balanced geo channel) (vunit : VirtualOcssdUnit) (count : UInt64)
    (short : count.toNat < request.numChannels.toNat) :
    OcssdUnit.allocSharedLoop request.numChannels (share request) channels vunit count =
      drawInto (serves (share request)) (raise geo (share request)) (sharedGrant geo request)
        (request.numChannels.toNat-count.toNat) channels vunit count := by
  induction channels generalizing vunit count with
  | nil => rw [drawInto_nil]; rfl
  | cons channel rest ih =>
    have later := fun vunit count => ih (fun c member => balanced c (by simp [member])) vunit count
    have here := balanced channel (by simp)
    have short' : count.toNat < request.numChannels.toUInt64.toNat := by simpa using short
    obtain ⟨next,enough⟩ := counter_step short'
    simp only [UInt32.toNat_toUInt64] at enough
    cases served : serves (share request) channel with
    | false =>
      obtain ⟨same,nothing⟩ := allocBlocks_refuses served
      rw [drawInto_skip _ _ _ served]
      simp only [OcssdUnit.allocSharedLoop,nothing,same,UInt64.lt_irrefl,if_false,later _ _ short]
    | true =>
      have given := allocBlocks_serves here served
      obtain ⟨more,left⟩ : ∃ more, request.numChannels.toNat-count.toNat = more+1 :=
        ⟨request.numChannels.toNat-count.toNat-1,by omega⟩
      rw [left,drawInto_ready _ _ _ served]
      simp only [OcssdUnit.allocSharedLoop,given,allocated_pos here served,if_true]
      by_cases last : count.toNat+1 = request.numChannels.toNat
      · have none' : more = 0 := by omega
        rw [if_pos (enough.mpr last),none',drawInto_zero]
        rfl
      · have rest' : more = request.numChannels.toNat-(count+1).toNat := by omega
        rw [if_neg (fun same => last (enough.mp same)),later _ _ (by omega),rest']
        rfl

theorem exclusiveLoop_draws (request : OcssdAllocRequest) (channels : List OcssdChannel)
    (vunit : VirtualOcssdUnit) (count : UInt64) (short : count.toNat < request.numChannels.toNat) :
    OcssdUnit.allocExclusiveLoop request.numChannels channels vunit count =
      drawInto unused OcssdChannel.setUsed exclusiveGrant
        (request.numChannels.toNat-count.toNat) channels vunit count := by
  induction channels generalizing vunit count with
  | nil => rw [drawInto_nil]; rfl
  | cons channel rest ih =>
    have short' : count.toNat < request.numChannels.toUInt64.toNat := by simpa using short
    obtain ⟨next,enough⟩ := counter_step short'
    simp only [UInt32.toNat_toUInt64] at enough
    cases used : channel.used with
    | true =>
      rw [drawInto_skip _ _ _ (by simp [unused,used])]
      simp only [OcssdUnit.allocExclusiveLoop,used,if_true,ih _ _ short]
    | false =>
      obtain ⟨more,left⟩ : ∃ more, request.numChannels.toNat-count.toNat = more+1 :=
        ⟨request.numChannels.toNat-count.toNat-1,by omega⟩
      rw [left,drawInto_ready _ _ _ (by simp [unused,used])]
      simp only [OcssdUnit.allocExclusiveLoop,used,Bool.false_eq_true,if_false]
      by_cases last : count.toNat+1 = request.numChannels.toNat
      · have none' : more = 0 := by omega
        rw [if_pos (enough.mpr last),none',drawInto_zero]
        rfl
      · have rest' : more = request.numChannels.toNat-(count+1).toNat := by omega
        rw [if_neg (fun same => last (enough.mp same)),ih _ _ (by omega),rest']
        rfl

theorem ofNat_zero_iff {n : Nat} (small : n < 2^64) : UInt64.ofNat n = 0 ↔ n = 0 := by
  rw [←UInt64.toNat_inj,UInt64.toNat_ofNat',Nat.mod_eq_of_lt small,UInt64.toNat_zero]

theorem drawn_word (request : OcssdAllocRequest) (unit : OcssdUnit) : drawn request unit < 2^32 := by
  have word := request.numChannels.toNat_lt
  unfold drawn
  omega

theorem allocShared_draws {unit : OcssdUnit} (valid : UnitValid unit) {request : OcssdAllocRequest}
    (asks : request.numChannels ≠ 0) :
    unit.allocSharedChannels ⟨unit.name,unit.geo,[]⟩ request =
      ⟨(sharedDraw request unit).2,
        ⟨unit.name,unit.geo,(sharedDraw request unit).1.map (sharedGrant unit.geo request)⟩,
        UInt64.ofNat (sharedDraw request unit).1.length⟩ := by
  have short : (0 : UInt64).toNat < request.numChannels.toNat :=
    Nat.pos_of_ne_zero fun zero => asks (UInt32.toNat_inj.mp zero)
  refine (sharedLoop_draws request unit.sharedChannels (fun c m => (valid.shared c m).1) _ 0 short).trans ?_
  simp only [drawInto,UInt64.toNat_zero,Nat.sub_zero,UInt64.zero_add,List.nil_append]
  rfl

theorem allocExclusive_draws (unit : OcssdUnit) {request : OcssdAllocRequest}
    (asks : request.numChannels ≠ 0) :
    unit.allocExclusiveChannels ⟨unit.name,unit.geo,[]⟩ request =
      ⟨(exclusiveDraw request unit).2,
        ⟨unit.name,unit.geo,(exclusiveDraw request unit).1.map exclusiveGrant⟩,
        UInt64.ofNat (exclusiveDraw request unit).1.length⟩ := by
  have short : (0 : UInt64).toNat < request.numChannels.toNat :=
    Nat.pos_of_ne_zero fun zero => asks (UInt32.toNat_inj.mp zero)
  refine (exclusiveLoop_draws request unit.exclusiveChannels _ 0 short).trans ?_
  simp only [drawInto,UInt64.toNat_zero,Nat.sub_zero,UInt64.zero_add,List.nil_append]
  rfl

theorem allocChannels_draws {unit : OcssdUnit} (valid : UnitValid unit) (vssd : VirtualOcssd)
    (request : OcssdAllocRequest) :
    unit.allocChannels vssd request =
      ⟨after request unit,
        if drawn request unit = 0 then vssd else vssd.add ⟨unit.name,unit.geo,vchannels request unit⟩,
        UInt64.ofNat (drawn request unit)⟩ := by
  by_cases nothing : request.numChannels = 0
  · have zero : drawn request unit = 0 := by simp [drawn,nothing]
    have same : after request unit = unit := by simp [after,sharedDraw,exclusiveDraw,nothing]
    rw [OcssdUnit.allocChannels,if_pos nothing,zero,same]
    rfl
  have word := drawn_word request unit
  have none' := ofNat_zero_iff (n := drawn request unit) (by omega)
  have length := taken_drawn request unit
  rw [OcssdUnit.allocChannels,if_neg nothing]
  by_cases shared : request.shared = 1
  · rw [taken,if_pos shared] at length
    simp only [if_pos shared,allocShared_draws valid nothing,length,none',after,vchannels]
  · rw [taken,if_neg shared] at length
    simp only [if_neg shared,allocExclusive_draws unit nothing,length,none',after,vchannels]

end OcssdServer.UnitGrants
