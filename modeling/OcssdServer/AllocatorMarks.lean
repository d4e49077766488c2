import OcssdServer.Descents
import OcssdServer.SharedLevels
import OcssdServer.Watermarks

namespace OcssdServer.AllocatorMarks
open MachineRuns FirstFit Watermarks ChannelBalance UnitGrants ManagerGrants BlockOwnership PublishedStats SharedLevels

-- What the allocator is for, on natural numbers. A device is two rows of channels,
-- of which the shared ones are as deep as a LUN and the exclusive ones are given
-- away whole.
structure UnitMarks where
  name : DevName
  geo : NvmGeo
  shared : Row
  exclusive : Row

namespace UnitMarks

def fresh (device : DevName × NvmGeo) : UnitMarks :=
  let channels := device.2.nchannels.toNat
  ⟨device.1,device.2,.fresh device.2.nblocks.toNat 0 (min 4 channels),.fresh 1 4 (channels-4)⟩

-- Each LUN of a shared channel gives up to its part of the channel's share.
def sharedChannel (geo : NvmGeo) (step : Nat) (cell : Nat × Nat) : VirtualOcssdChannel :=
  .ofAllocUnits (UInt32.ofNat cell.2) 1
    (levelUnits geo.nluns.toNat cell.1 (min step (geo.nblocks.toNat-cell.1)))

def exclusiveChannel (geo : NvmGeo) (cell : Nat × Nat) : VirtualOcssdChannel :=
  ⟨UInt32.ofNat cell.2,0,UInt32.ofNat (geo.nblocks.toNat*geo.nluns.toNat),UInt32.ofNat geo.nluns.toNat,[]⟩

def serve (shared : Bool) (channels blocks : Nat) (unit : UnitMarks) : UnitMarks × List VirtualOcssdChannel :=
  if shared then
    let step := blocks/channels/unit.geo.nluns.toNat
    let r := unit.shared.serve step channels
    ({unit with shared := r.1},r.2.map (sharedChannel unit.geo step))
  else
    let r := unit.exclusive.serve 1 channels
    ({unit with exclusive := r.1},r.2.map (exclusiveChannel unit.geo))

end UnitMarks

structure Marks where
  units : List UnitMarks
  vssdId : UInt32

namespace Marks

def ofDevices (set : List (DevName × NvmGeo)) : Marks := ⟨set.map .fresh,0⟩

-- A device is asked for the channels that the devices before it did not have. Of
-- the blocks every device is asked for all.
def serveUnits (shared : Bool) (blocks : Nat) : Nat → List UnitMarks → List UnitMarks × List VirtualOcssdUnit
  | _,[] => ([],[])
  | channels,unit :: rest =>
    let r := unit.serve shared channels blocks
    let later := serveUnits shared blocks (channels-r.2.length) rest
    (r.1 :: later.1,if r.2.isEmpty then later.2 else ⟨unit.name,unit.geo,r.2⟩ :: later.2)

def serve (marks : Marks) (request : OcssdAllocRequest) : Marks × (VirtualOcssd × UInt64) :=
  let r := serveUnits (request.shared = 1) request.numBlocks.toNat request.numChannels.toNat marks.units
  (⟨r.1,marks.vssdId+1⟩,⟨marks.vssdId,r.2⟩,UInt64.ofNat (r.2.map (·.channels.length)).sum)

end Marks

section Channels
variable {geo : NvmGeo} {channel : OcssdChannel} {request : OcssdAllocRequest}

def sharedMark (channel : OcssdChannel) : Nat := (level channel).toNat

def exclusiveMark (channel : OcssdChannel) : Nat := if channel.used then 1 else 0

def number (channel : OcssdChannel) : Nat := channel.channelId.toNat

def lunStep (geo : NvmGeo) (request : OcssdAllocRequest) : Nat :=
  request.numBlocks.toNat/request.numChannels.toNat/geo.nluns.toNat

theorem serves_mark (fits : geo.nluns.toNat*geo.nblocks.toNat < 2^64) (balanced : Balanced geo channel) :
    serves (share request) channel = (!filled geo.nblocks.toNat (sharedMark channel) && lunStep geo request != 0) := by
  by_cases none' : geo.nluns.toNat = 0
  · have refused : serves (share request) channel = false := by
      cases served : serves (share request) channel with
      | false => rfl
      | true => exact absurd (UInt64.toNat_inj.mp none') (serves_luns balanced served)
    rw [refused,lunStep,none',Nat.div_zero]
    simp
  · have some' : 1 ≤ geo.nluns.toNat := Nat.pos_of_ne_zero none'
    rw [serves_notFull some' balanced]
    congr 1
    · have room := notFull_iff some' fits balanced
      rw [Bool.eq_iff_iff,room,filled,Bool.not_eq_true',decide_eq_false_iff_not,Nat.not_le]
      rfl
    · rw [Bool.eq_iff_iff,decide_eq_true_iff,bne_iff_ne,lunStep,ne_eq,Nat.div_eq_zero_iff]
      omega

theorem raise_mark (balanced : Balanced geo channel) (served : serves (share request) channel = true) :
    sharedMark (raise geo (share request) channel) =
      rise geo.nblocks.toNat (lunStep geo request) (sharedMark channel) := by
  rw [sharedMark,raised_level balanced served,raised_toNat _ balanced,lunShare_toNat _ balanced,share_toNat]
  rfl

theorem sharedGrant_mark (balanced : Balanced geo channel) :
    sharedGrant geo request channel =
      UnitMarks.sharedChannel geo (lunStep geo request) (sharedMark channel,number channel) := by
  have step := lunShare_toNat (share request) balanced
  rw [share_toNat] at step
  have units : shareUnits geo (share request) channel = levelUnits geo.nluns.toNat (sharedMark channel)
      (min (lunStep geo request) (geo.nblocks.toNat-sharedMark channel)) := by
    rw [shareUnits,levelUnits,lunStep,sharedMark,←step,UInt64.ofNat_toNat,UInt64.ofNat_toNat]
  rw [sharedGrant,units]
  rfl

theorem exclusiveGrant_mark (balanced : Balanced geo channel) :
    exclusiveGrant channel = UnitMarks.exclusiveChannel geo (exclusiveMark channel,number channel) := by
  have total : channel.numTotalBlocks.toUInt32 = UInt32.ofNat (geo.nblocks.toNat*geo.nluns.toNat) := by
    rw [balanced.total]
    refine UInt32.toNat_inj.mp ?_
    rw [UInt64.toNat_toUInt32,UInt64.toNat_mul,UInt32.toNat_ofNat']
    omega
  rw [exclusiveGrant,total,balanced.numLuns]
  rfl

theorem unused_mark (channel : OcssdChannel) : unused channel = (!filled 1 (exclusiveMark channel) && 1 != 0) := by
  unfold unused exclusiveMark filled
  cases channel.used <;> rfl

theorem setUsed_mark (free : unused channel = true) :
    exclusiveMark channel.setUsed = rise 1 1 (exclusiveMark channel) := by
  unfold unused at free
  unfold exclusiveMark
  cases used : channel.used with
  | false => rfl
  | true =>
    rw [used] at free
    cases free

theorem new_mark (channelId numLuns numBlocks : UInt64) :
    sharedMark (OcssdChannel.new channelId numLuns numBlocks).setShared = 0 := by
  have empty : level (OcssdChannel.new channelId numLuns numBlocks).setShared = 0 := by
    simp only [level,OcssdChannel.new,OcssdChannel.setShared,List.head?_map,Option.map_map]
    cases (List.range numLuns.toNat).head? <;> rfl
  rw [sharedMark,empty]
  rfl

end Channels

structure Marked (unit : OcssdUnit) (marks : UnitMarks) : Prop where
  valid : UnitValid unit
  name : marks.name = unit.name
  geo : marks.geo = unit.geo
  shared : Reads sharedMark number unit.sharedChannels marks.shared
  exclusive : Reads exclusiveMark number unit.exclusiveChannels marks.exclusive
  sharedDepth : marks.shared.depth = unit.geo.nblocks.toNat
  exclusiveDepth : marks.exclusive.depth = 1

section Units
variable {unit : OcssdUnit} {marks : UnitMarks}

theorem fresh_marked (device : DevName × NvmGeo) : Marked (.initializeDev device.1 device.2) (.fresh device) := by
  have valid := initialize_valid device.1 device.2
  have word := device.2.nchannels.toNat_lt
  have numbered : ∀ id < device.2.nchannels.toNat,(UInt64.ofNat id).toNat = id :=
    fun id below => UInt64.toNat_ofNat_of_lt (Nat.lt_trans below word)
  rw [initializeDev_pools] at valid ⊢
  refine ⟨valid,rfl,rfl,?_,?_,rfl,rfl⟩
  · dsimp only
    rw [List.take_range,List.range_eq_range']
    refine reads_fresh (fun id => new_mark _ _ _) (fun id member => numbered id ?_) _
    have below := (List.mem_range'_1.mp member).2
    omega
  · dsimp only
    rw [List.range_eq_range',List.drop_range']
    refine @reads_fresh _ exclusiveMark number
      (fun id => OcssdChannel.new (UInt64.ofNat id) device.2.nluns device.2.nblocks) _ _ (fun _ => rfl)
      (fun id member => numbered id ?_) _
    obtain ⟨_,_⟩ := List.mem_range'_1.mp member
    omega

theorem serve_marked (fits : unit.geo.nluns.toNat*unit.geo.nblocks.toNat < 2^64) (marked : Marked unit marks)
    (request : OcssdAllocRequest) :
    let r := marks.serve (request.shared = 1) request.numChannels.toNat request.numBlocks.toNat
    Marked (after request unit) r.1 ∧ vchannels request unit = r.2 := by
  have valid := after_valid marked.valid request
  unfold UnitMarks.serve
  by_cases shared : request.shared = 1
  · rw [decide_eq_true shared,if_pos rfl]
    obtain ⟨reads,cells⟩ := @reads_draw _ sharedMark number (serves (share request)) (raise unit.geo (share request))
      marks.shared unit.sharedChannels marked.shared (lunStep unit.geo request)
      (fun channel member => by
        rw [marked.sharedDepth]
        exact serves_mark fits (marked.valid.shared channel member).1)
      (fun channel member served => by
        rw [marked.sharedDepth]
        exact raise_mark (marked.valid.shared channel member).1 served)
      (fun _ => rfl) request.numChannels.toNat
    have step : request.numBlocks.toNat/request.numChannels.toNat/marks.geo.nluns.toNat = lunStep unit.geo request := by
      rw [marked.geo]
      rfl
    rw [after,if_pos shared] at valid ⊢
    rw [vchannels,if_pos shared]
    dsimp only
    rw [step,marked.geo]
    refine ⟨⟨valid,marked.name,rfl,reads,marked.exclusive,?_,marked.exclusiveDepth⟩,?_⟩
    · rw [Row.serve_depth]
      exact marked.sharedDepth
    · rw [←cells,List.map_map]
      refine List.map_congr_left fun channel member => ?_
      exact sharedGrant_mark (marked.valid.shared channel (mem_taken _ _ member).1).1
  · rw [decide_eq_false shared,if_neg Bool.false_ne_true]
    obtain ⟨reads,cells⟩ := @reads_draw _ exclusiveMark number unused OcssdChannel.setUsed marks.exclusive
      unit.exclusiveChannels marked.exclusive 1
      (fun channel _ => by rw [marked.exclusiveDepth]; exact unused_mark channel)
      (fun channel _ free => by rw [marked.exclusiveDepth]; exact setUsed_mark free)
      (fun _ => rfl) request.numChannels.toNat
    rw [after,if_neg shared] at valid ⊢
    rw [vchannels,if_neg shared]
    dsimp only
    rw [marked.geo]
    refine ⟨⟨valid,marked.name,rfl,marked.shared,reads,marked.sharedDepth,?_⟩,?_⟩
    · rw [Row.serve_depth]
      exact marked.exclusiveDepth
    · rw [←cells,List.map_map]
      refine List.map_congr_left fun channel member => ?_
      exact exclusiveGrant_mark (marked.valid.exclusive channel (mem_taken _ _ member).1).1

theorem units_marked {units : List OcssdUnit} {rows : List UnitMarks}
    (fits : ∀ unit ∈ units,unit.geo.nluns.toNat*unit.geo.nblocks.toNat < 2^64) (marked : List.Forall₂ Marked units rows)
    (request : OcssdAllocRequest) :
    let r := Marks.serveUnits (request.shared = 1) request.numBlocks.toNat request.numChannels.toNat rows
    List.Forall₂ Marked (nextUnits request units) r.1 ∧ grantedUnits request units = r.2 ∧
      total (plan request units) = (r.2.map (·.channels.length)).sum := by
  induction marked generalizing request with
  | nil => exact ⟨.nil,rfl,rfl⟩
  | @cons unit marks units rows here _ ih =>
    obtain ⟨next,granted⟩ := serve_marked (fits unit List.mem_cons_self) here request
    dsimp only [Marks.serveUnits]
    generalize marks.serve (request.shared = 1) request.numChannels.toNat request.numBlocks.toNat = r at next granted ⊢
    have length : r.2.length = drawn request unit := by rw [←granted,vchannels_drawn]
    obtain ⟨later,units',sum⟩ := ih (fun u member => fits u (List.mem_cons_of_mem _ member))
      (request.decChannels (UInt64.ofNat (drawn request unit)))
    have shared : (request.decChannels (UInt64.ofNat (drawn request unit))).shared = request.shared := rfl
    have blocks : (request.decChannels (UInt64.ofNat (drawn request unit))).numBlocks = request.numBlocks := rfl
    rw [decChannels_toNat (drawn_le request unit),shared,blocks] at later units' sum
    rw [length]
    generalize Marks.serveUnits (request.shared = 1) request.numBlocks.toNat
      (request.numChannels.toNat-drawn request unit) rows = rest at later units' sum ⊢
    have entry : vunit (request,unit) = ⟨marks.name,marks.geo,r.2⟩ := by rw [vunit,granted,here.name,here.geo]
    refine ⟨.cons next later,?_⟩
    rw [grantedUnits] at units' ⊢
    rw [total] at sum ⊢
    rw [plan,List.map_cons,List.sum_cons,sum]
    by_cases none' : r.2 = []
    · have zero : drawn request unit = 0 := by rw [←length,none']; rfl
      have silent : contributes (request,unit) = false := by simp [contributes,zero]
      rw [List.filter_cons_of_neg (by simp [silent]),units',none',zero]
      exact ⟨rfl,Nat.zero_add _⟩
    · have some' : 0 < drawn request unit := by rw [←length]; exact List.length_pos_of_ne_nil none'
      have loud : contributes (request,unit) = true := by simp [contributes,some']
      have filled' : r.2.isEmpty = false := by simpa using none'
      rw [List.filter_cons_of_pos loud,List.map_cons,units',entry,filled',if_neg Bool.false_ne_true]
      exact ⟨rfl,by rw [List.map_cons,List.sum_cons,length]⟩

end Units

section Runs
variable {set : List (DevName × NvmGeo)}

structure Follows (set : List (DevName × NvmGeo)) (manager : OcssdManager) (marks : Marks) : Prop where
  valid : ManagerValid manager
  units : List.Forall₂ Marked manager.ocssds marks.units
  vssdId : marks.vssdId = manager.vssdId
  devices : devices manager = set

theorem start_follows (set : List (DevName × NvmGeo)) : Follows set (.ofDevices set) (.ofDevices set) := by
  refine ⟨ofDevices_valid set,?_,?_,ofDevices_devices set⟩
  · rw [ofDevices_ocssds,Marks.ofDevices,List.forall₂_map_left_iff,List.forall₂_map_right_iff]
    exact List.forall₂_same.mpr fun device _ => fresh_marked device
  · have kept (manager : OcssdManager) : (set.foldl OcssdManager.addOcssd manager).vssdId = manager.vssdId := by
      induction set generalizing manager with
      | nil => rfl
      | cons device rest ih => exact ih _
    exact (kept .new).symm

theorem serve_follows (fits : ∀ d ∈ set,d.2.nluns.toNat*d.2.nblocks.toNat < 2^64) {manager : OcssdManager}
    {marks : Marks} (follows : Follows set manager marks) (request : OcssdAllocRequest) :
    Follows set (manager.serve request).1 (marks.serve request).1 ∧
      (manager.serve request).2 = (marks.serve request).2 := by
  have fits' : ∀ unit ∈ manager.ocssds,unit.geo.nluns.toNat*unit.geo.nblocks.toNat < 2^64 := by
    intro unit member
    have listed : (unit.name,unit.geo) ∈ devices manager := List.mem_map.mpr ⟨unit,member,rfl⟩
    rw [follows.devices] at listed
    exact fits _ listed
  obtain ⟨next,granted,sum⟩ := units_marked fits' follows.units request
  have valid := serve_valid manager request follows.valid
  have kept := (serve_devices follows.valid request).trans follows.devices
  rw [serve_plan follows.valid] at valid kept ⊢
  refine ⟨⟨valid,next,?_,kept⟩,?_⟩
  · dsimp only [Marks.serve]
    rw [follows.vssdId]
  · dsimp only [Marks.serve]
    rw [follows.vssdId,granted,sum]

theorem serve_consecutive (shared : Bool) (channels blocks : Nat) (unit : UnitMarks) : ∃ first,
    (unit.serve shared channels blocks).2.map (·.channelId) =
      (List.range' first (unit.serve shared channels blocks).2.length).map UInt32.ofNat := by
  unfold UnitMarks.serve
  split
  · obtain ⟨first,numbers⟩ := unit.shared.serve_numbers (blocks/channels/unit.geo.nluns.toNat) channels
    refine ⟨first,?_⟩
    dsimp only
    rw [List.length_map,←numbers,List.map_map,List.map_map]
    refine List.map_congr_left fun cell _ => ?_
    rw [Function.comp_apply,UnitMarks.sharedChannel,ofAllocUnits_parts]
    rfl
  · obtain ⟨first,numbers⟩ := unit.exclusive.serve_numbers 1 channels
    refine ⟨first,?_⟩
    dsimp only
    rw [List.length_map,←numbers,List.map_map,List.map_map]
    rfl

theorem units_consecutive (shared : Bool) (blocks channels : Nat) (rows : List UnitMarks) :
    ∀ vunit ∈ (Marks.serveUnits shared blocks channels rows).2,∃ first,
      vunit.channels.map (·.channelId) = (List.range' first vunit.channels.length).map UInt32.ofNat := by
  induction rows generalizing channels with
  | nil => exact nofun
  | cons unit rest ih =>
    intro vunit member
    rw [Marks.serveUnits] at member
    dsimp only at member
    split at member
    · exact ih _ vunit member
    · rcases List.mem_cons.mp member with rfl | later
      · exact serve_consecutive shared channels blocks unit
      · exact ih _ vunit later

end Runs

-- The allocator is its watermarks. On any devices and for any requests it answers
-- as the machine does that knows of each channel only how far its LUNs are used up,
-- or whether it is given away: fuller channels stand before emptier ones in every
-- state, and what a virtual SSD has of a device is channels next to each other.
theorem allocator_is_watermarks (set : List (DevName × NvmGeo))
    (fits : ∀ d ∈ set,d.2.nluns.toNat*d.2.nblocks.toNat < 2^64) (requests : List OcssdAllocRequest) :
    trace OcssdManager.serve (.ofDevices set) requests = trace Marks.serve (.ofDevices set) requests ∧
      (∀ unit ∈ (reached set requests).ocssds,
        (unit.sharedChannels.map sharedMark).Pairwise (fun front back => back ≤ front) ∧
        (unit.exclusiveChannels.map exclusiveMark).Pairwise (fun front back => back ≤ front)) ∧
      ∀ e ∈ trace OcssdManager.serve (.ofDevices set) requests,∀ vunit ∈ e.2.1.units,∃ first,
        vunit.channels.map (·.channelId) = (List.range' first vunit.channels.length).map UInt32.ofNat := by
  obtain ⟨last,same⟩ := @related_runs _ _ _ _ OcssdManager.serve Marks.serve (Follows set)
    (fun _ _ request follows => serve_follows fits follows request) _ _ (start_follows set) requests
  refine ⟨same,?_,?_⟩
  · have ordered {units : List OcssdUnit} {rows : List UnitMarks} (marked : List.Forall₂ Marked units rows) :
        ∀ unit ∈ units,(unit.sharedChannels.map sharedMark).Pairwise (fun front back => back ≤ front) ∧
          (unit.exclusiveChannels.map exclusiveMark).Pairwise (fun front back => back ≤ front) := by
      induction marked with
      | nil => exact nofun
      | @cons _ row _ _ here _ ih =>
        refine List.forall_mem_cons.mpr ⟨?_,ih⟩
        rw [here.shared.marks,here.exclusive.marks]
        exact ⟨row.shared.ordered,row.exclusive.ordered⟩
    exact ordered last.units
  · rw [same]
    exact @trace_forall _ _ _ Marks.serve (fun _ => True) _ (fun _ _ _ => trivial)
      (fun marks request _ => units_consecutive _ _ _ marks.units) _ trivial requests

-- Seven channels of two LUNs of three blocks. Channel 0 is full after the second
-- request, so that the third one gets channels 1 and 2.
def sevenChannels : List (DevName × NvmGeo) := [([110],⟨7,2,1,3,8,1,1,1,0⟩)]

def mixedRequests : List OcssdAllocRequest := [⟨2,4,1,0,0⟩,⟨1,8,1,0,0⟩,⟨2,4,1,0,0⟩,⟨2,0,0,0,0⟩]

theorem mixed_windows :
    (trace OcssdManager.serve (.ofDevices sevenChannels) mixedRequests).map
        (fun e => e.2.1.units.flatMap fun vunit => vunit.channels.map (·.channelId)) = [[0,1],[0],[1,2],[4,5]] ∧
      ∀ unit ∈ (reached sevenChannels mixedRequests).ocssds,
        (unit.sharedChannels.map sharedMark).Pairwise (fun front back => back ≤ front) := by
  obtain ⟨same,ordered,_⟩ := allocator_is_watermarks sevenChannels (by decide) mixedRequests
  rw [same]
  exact ⟨by decide +kernel,fun unit member => (ordered unit member).1⟩

end OcssdServer.AllocatorMarks
