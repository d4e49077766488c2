import OcssdServer.BlockOwnership

namespace OcssdServer.CheckedAllocation
open ChannelBalance UnitGrants ManagerGrants BlockOwnership

-- Unsigned arithmetic that gives no value where the code's would divide by zero
-- or wrap below zero.
section Arithmetic
variable {α : Type*}

def checkedDiv [Zero α] [DecidableEq α] [Div α] (a b : α) : Option α := if b = 0 then none else some (a/b)

def checkedSub [LE α] [DecidableLE α] [Sub α] (a b : α) : Option α := if b ≤ a then some (a-b) else none

theorem checkedDiv_some [Zero α] [DecidableEq α] [Div α] (a : α) {b : α} (divides : b ≠ 0) :
    checkedDiv a b = some (a/b) := if_neg divides

theorem checkedSub_some [LE α] [DecidableLE α] [Sub α] {a b : α} (below : b ≤ a) :
    checkedSub a b = some (a-b) := if_pos below

end Arithmetic

-- The allocator once more, function by function, with every division and every
-- difference checked.
def lunAllocBlocks (lun : OcssdLun) (blockUnit : UInt64 × UInt64) (requestBlocks : UInt64) :
    Option OcssdLun.Allocation :=
  if lun.numUsed = lun.numBlocks ∨ requestBlocks = 0 then some ⟨lun,blockUnit,0⟩
  else do
    let free ← checkedSub lun.numBlocks lun.numUsed
    let allocated := stdMin requestBlocks free
    return ⟨{lun with numUsed := lun.numUsed+allocated},(lun.numUsed,allocated),allocated⟩

def distribute (numBlocks requestPerLun : UInt64) :
    List OcssdLun → UInt64 → UInt64 → AllocUnits → Option OcssdChannel.Distribution
  | [],_,allocated,allocUnits => some ⟨[],allocUnits,allocated⟩
  | lun :: rest,requestBlocks,allocated,allocUnits =>
    if numBlocks ≤ lun.numUsed then do
      let r ← distribute numBlocks requestPerLun rest requestBlocks allocated allocUnits
      return {r with luns := lun :: r.luns}
    else do
      let given ← lunAllocBlocks lun (0,0) requestPerLun
      let allocUnits := allocUnits ++ [(lun.lunId,given.blockUnit)]
      let requestBlocks ← checkedSub requestBlocks given.allocated
      let allocated := allocated+given.allocated
      if requestBlocks = 0 then return ⟨given.lun :: rest,allocUnits,allocated⟩
      let r ← distribute numBlocks requestPerLun rest requestBlocks allocated allocUnits
      return {r with luns := given.lun :: r.luns}

def channelAllocBlocks (channel : OcssdChannel) (allocUnits : AllocUnits) (requestBlocks : UInt64) :
    Option OcssdChannel.Allocation :=
  if channel.numUsedBlocks = channel.numTotalBlocks ∨ requestBlocks = 0 then some ⟨channel,allocUnits,0⟩
  else do
    let requestPerLun ← checkedDiv requestBlocks channel.numLuns
    let r ← distribute channel.numBlocks requestPerLun channel.luns requestBlocks 0 allocUnits
    return ⟨{channel with luns := r.luns,numUsedBlocks := channel.numUsedBlocks+r.allocated},
      r.allocUnits,r.allocated⟩

def getFreeBlocks (channel : OcssdChannel) : Option UInt64 :=
  if channel.used then some 0 else checkedSub channel.numTotalBlocks channel.numUsedBlocks

def allocSharedLoop (numChannels : UInt32) (blocksPerChannel : UInt64) :
    List OcssdChannel → VirtualOcssdUnit → UInt64 → Option OcssdUnit.PoolGrant
  | [],vunit,channels => some ⟨[],vunit,channels⟩
  | channel :: rest,vunit,channels => do
    let given ← channelAllocBlocks channel [] blocksPerChannel
    if 0 < given.allocated then
      let vunit := vunit.add (.ofAllocUnits channel.channelId.toUInt32 1 given.allocUnits)
      let channels := channels+1
      if channels = numChannels.toUInt64 then return ⟨given.channel :: rest,vunit,channels⟩
      let r ← allocSharedLoop numChannels blocksPerChannel rest vunit channels
      return {r with channels := given.channel :: r.channels}
    else
      let r ← allocSharedLoop numChannels blocksPerChannel rest vunit channels
      return {r with channels := given.channel :: r.channels}

def allocSharedChannels (unit : OcssdUnit) (vunit : VirtualOcssdUnit) (request : OcssdAllocRequest) :
    Option OcssdUnit.PoolGrant := do
  let blocksPerChannel ← checkedDiv request.numBlocks request.numChannels
  allocSharedLoop request.numChannels blocksPerChannel.toUInt64 unit.sharedChannels vunit 0

def allocChannels (unit : OcssdUnit) (vssd : VirtualOcssd) (request : OcssdAllocRequest) :
    Option OcssdUnit.Grant :=
  if request.numChannels = 0 then some ⟨unit,vssd,0⟩
  else if request.shared = 1 then do
    let r ← allocSharedChannels unit ⟨unit.name,unit.geo,[]⟩ request
    return ⟨{unit with sharedChannels := r.channels},if r.granted = 0 then vssd else vssd.add r.vunit,r.granted⟩
  else
    let r := unit.allocExclusiveChannels ⟨unit.name,unit.geo,[]⟩ request
    some ⟨{unit with exclusiveChannels := r.channels},if r.granted = 0 then vssd else vssd.add r.vunit,r.granted⟩

def decChannels (request : OcssdAllocRequest) (channels : UInt64) : Option OcssdAllocRequest := do
  let left ← checkedSub request.numChannels.toUInt64 channels
  return {request with numChannels := left.toUInt32}

def allocLoop : List OcssdUnit → VirtualOcssd → OcssdAllocRequest → UInt64 → Option OcssdManager.LoopEnd
  | [],vssd,request,channels => some ⟨[],vssd,request,channels⟩
  | unit :: rest,vssd,request,channels => do
    let given ← allocChannels unit vssd request
    let channels := channels+given.granted
    let request ← decChannels request given.granted
    if request.numChannels = 0 then return ⟨given.unit :: rest,given.vssd,request,channels⟩
    let r ← allocLoop rest given.vssd request channels
    return {r with ocssds := given.unit :: r.ocssds}

def allocOcssdResource (manager : OcssdManager) (vssd : VirtualOcssd) (request : OcssdAllocRequest) :
    Option OcssdManager.Grant := do
  let r ← allocLoop manager.ocssds vssd request 0
  return ⟨⟨r.ocssds,manager.vssdId+1⟩,r.vssd.setId manager.vssdId,r.request,r.granted⟩

theorem lun_checked {lun : OcssdLun} (bounded : lun.numUsed ≤ lun.numBlocks) (blockUnit : UInt64 × UInt64)
    (requestBlocks : UInt64) :
    lunAllocBlocks lun blockUnit requestBlocks = some (lun.allocBlocks blockUnit requestBlocks) := by
  unfold lunAllocBlocks OcssdLun.allocBlocks
  rw [checkedSub_some bounded]
  split <;> rfl

theorem lun_within (lun : OcssdLun) (blockUnit : UInt64 × UInt64) (requestBlocks : UInt64) :
    (lun.allocBlocks blockUnit requestBlocks).allocated.toNat ≤ requestBlocks.toNat := by
  unfold OcssdLun.allocBlocks
  split
  · exact Nat.zero_le _
  · dsimp only
    rw [stdMin_toNat]
    exact Nat.min_le_left _ _

theorem distribute_checked (numBlocks requestPerLun : UInt64) {luns : List OcssdLun}
    (bounded : ∀ lun ∈ luns,lun.numUsed ≤ lun.numBlocks) {requestBlocks : UInt64}
    (enough : luns.length*requestPerLun.toNat ≤ requestBlocks.toNat) (allocated : UInt64) (allocUnits : AllocUnits) :
    distribute numBlocks requestPerLun luns requestBlocks allocated allocUnits =
      some (OcssdChannel.distribute numBlocks requestPerLun luns requestBlocks allocated allocUnits) := by
  induction luns generalizing requestBlocks allocated allocUnits with
  | nil => rfl
  | cons lun rest ih =>
    have others : ∀ lun ∈ rest,lun.numUsed ≤ lun.numBlocks := fun l member => bounded l (by simp [member])
    rw [List.length_cons,Nat.succ_mul] at enough
    have within := lun_within lun (0,0) requestPerLun
    have fits : (lun.allocBlocks (0,0) requestPerLun).allocated ≤ requestBlocks :=
      UInt64.le_iff_toNat_le.mpr (by omega)
    have left := UInt64.toNat_sub_of_le _ _ fits
    unfold distribute OcssdChannel.distribute
    rw [lun_checked (bounded lun (by simp))]
    by_cases full : numBlocks ≤ lun.numUsed
    · rw [if_pos full,if_pos full,ih others (by omega)]
      rfl
    · rw [if_neg full,if_neg full]
      simp only [Option.bind_eq_bind,Option.bind_some,checkedSub_some fits,ih others (by omega : rest.length*
        requestPerLun.toNat ≤ (requestBlocks-(lun.allocBlocks (0,0) requestPerLun).allocated).toNat)]
      split <;> rfl

section Channels
variable {geo : NvmGeo} {channel : OcssdChannel} (balanced : Balanced geo channel)
include balanced

-- A channel of no LUNs has as many used blocks as it has blocks: none.
theorem channel_checked (allocUnits : AllocUnits) (requestBlocks : UInt64) :
    channelAllocBlocks channel allocUnits requestBlocks = some (channel.allocBlocks allocUnits requestBlocks) := by
  unfold channelAllocBlocks OcssdChannel.allocBlocks
  by_cases idle : channel.numUsedBlocks = channel.numTotalBlocks ∨ requestBlocks = 0
  · rw [if_pos idle,if_pos idle]
  · have some' : channel.numLuns ≠ 0 := by
      intro zero
      rw [balanced.numLuns] at zero
      apply idle
      rw [balanced.counted,balanced.total,zero]
      simp
    have bounded : ∀ lun ∈ channel.luns,lun.numUsed ≤ lun.numBlocks := by
      rw [balanced.luns]
      intro lun member
      obtain ⟨_,_,rfl⟩ := List.mem_map.mp member
      exact balanced.bounded
    have enough : channel.luns.length*(requestBlocks/channel.numLuns).toNat ≤ requestBlocks.toNat := by
      rw [balanced.luns,balanced.numLuns,lunsAt,List.length_map,List.length_range,UInt64.toNat_div]
      exact Nat.mul_div_le _ _
    rw [if_neg idle,if_neg idle]
    simp only [Option.bind_eq_bind,Option.bind_some,checkedDiv_some requestBlocks some',
      distribute_checked _ _ bounded enough]
    rfl

theorem free_checked (fits : geo.nluns.toNat*geo.nblocks.toNat < 2^64) :
    getFreeBlocks channel = some channel.getFreeBlocks := by
  have bounded := UInt64.le_iff_toNat_le.mp balanced.bounded
  have below : geo.nluns.toNat*(level channel).toNat ≤ geo.nluns.toNat*geo.nblocks.toNat :=
    Nat.mul_le_mul_left _ bounded
  have used : channel.numUsedBlocks ≤ channel.numTotalBlocks := by
    rw [UInt64.le_iff_toNat_le,balanced.counted,balanced.total,UInt64.toNat_mul,UInt64.toNat_mul,
      Nat.mul_comm geo.nblocks.toNat,Nat.mod_eq_of_lt fits,Nat.mod_eq_of_lt (Nat.lt_of_le_of_lt below fits)]
    exact below
  rw [getFreeBlocks,OcssdChannel.getFreeBlocks,checkedSub_some used]
  split <;> rfl

end Channels

theorem sharedLoop_checked {geo : NvmGeo} (numChannels : UInt32) (blocksPerChannel : UInt64)
    {channels : List OcssdChannel} (balanced : ∀ channel ∈ channels,Balanced geo channel)
    (vunit : VirtualOcssdUnit) (count : UInt64) :
    allocSharedLoop numChannels blocksPerChannel channels vunit count =
      some (OcssdUnit.allocSharedLoop numChannels blocksPerChannel channels vunit count) := by
  induction channels generalizing vunit count with
  | nil => rfl
  | cons channel rest ih =>
    have others : ∀ channel ∈ rest,Balanced geo channel := fun c member => balanced c (by simp [member])
    unfold allocSharedLoop OcssdUnit.allocSharedLoop
    simp only [channel_checked (balanced channel (by simp)),Option.bind_eq_bind,Option.bind_some,ih others]
    split
    · split <;> rfl
    · rfl

theorem allocChannels_checked {unit : OcssdUnit} (valid : UnitValid unit) (vssd : VirtualOcssd)
    (request : OcssdAllocRequest) : allocChannels unit vssd request = some (unit.allocChannels vssd request) := by
  unfold allocChannels OcssdUnit.allocChannels
  by_cases idle : request.numChannels = 0
  · rw [if_pos idle,if_pos idle]
  · have balanced : ∀ channel ∈ unit.sharedChannels,Balanced unit.geo channel :=
      fun channel member => (valid.shared channel member).1
    rw [if_neg idle,if_neg idle]
    simp only [allocSharedChannels,OcssdUnit.allocSharedChannels,checkedDiv_some request.numBlocks idle,
      Option.bind_eq_bind,Option.bind_some,sharedLoop_checked _ _ balanced]
    split <;> rfl

theorem decChannels_checked {unit : OcssdUnit} (valid : UnitValid unit) (vssd : VirtualOcssd)
    (request : OcssdAllocRequest) :
    decChannels request (unit.allocChannels vssd request).granted =
      some (request.decChannels (unit.allocChannels vssd request).granted) := by
  have fits : (unit.allocChannels vssd request).granted ≤ request.numChannels.toUInt64 := by
    have few := drawn_le request unit
    have word := request.numChannels.toNat_lt
    rw [allocChannels_draws valid,UInt64.le_iff_toNat_le,UInt64.toNat_ofNat',Nat.mod_eq_of_lt (by omega)]
    simpa using few
  rw [decChannels,checkedSub_some fits]
  rfl

theorem allocLoop_checked {units : List OcssdUnit} (valid : ∀ unit ∈ units,UnitValid unit) (vssd : VirtualOcssd)
    (request : OcssdAllocRequest) (channels : UInt64) :
    allocLoop units vssd request channels = some (OcssdManager.allocLoop units vssd request channels) := by
  induction units generalizing vssd request channels with
  | nil => rfl
  | cons unit rest ih =>
    have here := valid unit (by simp)
    have others : ∀ unit ∈ rest,UnitValid unit := fun u member => valid u (by simp [member])
    unfold allocLoop OcssdManager.allocLoop
    simp only [allocChannels_checked here,decChannels_checked here,Option.bind_eq_bind,Option.bind_some,ih others]
    split <;> rfl

-- In every reachable state, whatever the request, no division is by zero and no
-- difference wraps, neither in serving it nor in counting free blocks.
theorem allocation_arithmetic_safe (set : List (DevName × NvmGeo))
    (fits : ∀ d ∈ set,d.2.nluns.toNat*d.2.nblocks.toNat < 2^64) (requests : List OcssdAllocRequest)
    (request : OcssdAllocRequest) :
    allocOcssdResource (reached set requests) .new request =
        some ((reached set requests).allocOcssdResource .new request) ∧
      ∀ unit ∈ (reached set requests).ocssds,∀ channel ∈ unit.sharedChannels ++ unit.exclusiveChannels,
        getFreeBlocks channel = some channel.getFreeBlocks := by
  have holds : Holds set (reached set requests) :=
    MachineRuns.final_invariant holds_kept (holds_start set) requests
  constructor
  · rw [allocOcssdResource,allocLoop_checked holds.valid]
    rfl
  · intro unit member channel listed
    have valid := holds.valid unit member
    have balanced : Balanced unit.geo channel := by
      rcases List.mem_append.mp listed with shared | exclusive
      · exact (valid.shared channel shared).1
      · exact (valid.exclusive channel exclusive).1
    exact free_checked balanced (fits _ (unit_device holds member))

-- A device without LUNs beside one whose first shared channel has been filled.
def unevenDevices : List (DevName × NvmGeo) :=
  [([110],⟨5,0,1,4,1,1,1,1,0⟩),([111],⟨5,2,1,4,1,1,1,1,0⟩)]

theorem uneven_devices_safe :
    allocOcssdResource (reached unevenDevices [⟨1,8,1,0,0⟩]) .new ⟨3,13,1,0,0⟩ =
        some ((reached unevenDevices [⟨1,8,1,0,0⟩]).allocOcssdResource .new ⟨3,13,1,0,0⟩) ∧
      ∀ unit ∈ (reached unevenDevices [⟨1,8,1,0,0⟩]).ocssds,
        ∀ channel ∈ unit.sharedChannels ++ unit.exclusiveChannels,
          getFreeBlocks channel = some channel.getFreeBlocks :=
  allocation_arithmetic_safe unevenDevices (by decide) [⟨1,8,1,0,0⟩] ⟨3,13,1,0,0⟩

end OcssdServer.CheckedAllocation
