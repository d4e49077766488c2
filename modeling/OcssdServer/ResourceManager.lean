import OcssdServer.VirtualSsd

namespace OcssdServer

structure OcssdAllocRequest where
  numChannels : UInt32
  numBlocks : UInt32
  shared : UInt32
  numaId : UInt32
  remote : UInt32
deriving DecidableEq, Repr

-- num_channels_ -= channels narrows the difference to 32 bits.
def OcssdAllocRequest.decChannels (request : OcssdAllocRequest) (channels : UInt64) : OcssdAllocRequest :=
  {request with numChannels := (request.numChannels.toUInt64-channels).toUInt32}

-- A LUN hands its blocks out from the bottom and never takes them back.
structure OcssdLun where
  lunId : UInt64
  numUsed : UInt64
  numBlocks : UInt64
deriving DecidableEq, Repr

-- std::min on size_t.
def stdMin (a b : UInt64) : UInt64 := if b < a then b else a

structure OcssdLun.Allocation where
  lun : OcssdLun
  blockUnit : UInt64 × UInt64
  allocated : UInt64

-- `blockUnit` is the caller's pair, written only when something is allocated.
def OcssdLun.allocBlocks (lun : OcssdLun) (blockUnit : UInt64 × UInt64) (requestBlocks : UInt64) :
    OcssdLun.Allocation :=
  if lun.numUsed = lun.numBlocks ∨ requestBlocks = 0 then ⟨lun,blockUnit,0⟩
  else
    let allocated := stdMin requestBlocks (lun.numBlocks-lun.numUsed)
    ⟨{lun with numUsed := lun.numUsed+allocated},(lun.numUsed,allocated),allocated⟩

structure OcssdChannel where
  channelId : UInt64
  numLuns : UInt64
  numBlocks : UInt64
  numUsedBlocks : UInt64
  numTotalBlocks : UInt64
  shared : Bool
  used : Bool
  luns : List OcssdLun
deriving DecidableEq, Repr

def OcssdChannel.new (channelId numLuns numBlocks : UInt64) : OcssdChannel :=
  ⟨channelId,numLuns,numBlocks,0,numBlocks*numLuns,false,false,
    (List.range numLuns.toNat).map (fun lunId => ⟨UInt64.ofNat lunId,0,numBlocks⟩)⟩

def OcssdChannel.setShared (channel : OcssdChannel) : OcssdChannel := {channel with shared := true}
def OcssdChannel.setUsed (channel : OcssdChannel) : OcssdChannel := {channel with used := true}

def OcssdChannel.getFreeBlocks (channel : OcssdChannel) : UInt64 :=
  if channel.used then 0 else channel.numTotalBlocks-channel.numUsedBlocks

structure OcssdChannel.Distribution where
  luns : List OcssdLun
  allocUnits : AllocUnits
  allocated : UInt64

-- The loop over the LUNs. A full LUN is passed over; a LUN that is asked is
-- listed even when it gives nothing; the loop breaks once nothing is left to ask for.
def OcssdChannel.distribute (numBlocks requestPerLun : UInt64) :
    List OcssdLun → UInt64 → UInt64 → AllocUnits → OcssdChannel.Distribution
  | [],_,allocated,allocUnits => ⟨[],allocUnits,allocated⟩
  | lun :: rest,requestBlocks,allocated,allocUnits =>
    if numBlocks ≤ lun.numUsed then
      let r := distribute numBlocks requestPerLun rest requestBlocks allocated allocUnits
      {r with luns := lun :: r.luns}
    else
      let given := lun.allocBlocks (0,0) requestPerLun
      let allocUnits := allocUnits ++ [(lun.lunId,given.blockUnit)]
      let requestBlocks := requestBlocks-given.allocated
      let allocated := allocated+given.allocated
      if requestBlocks = 0 then ⟨given.lun :: rest,allocUnits,allocated⟩
      else
        let r := distribute numBlocks requestPerLun rest requestBlocks allocated allocUnits
        {r with luns := given.lun :: r.luns}

structure OcssdChannel.Allocation where
  channel : OcssdChannel
  allocUnits : AllocUnits
  allocated : UInt64

def OcssdChannel.allocBlocks (channel : OcssdChannel) (allocUnits : AllocUnits)
    (requestBlocks : UInt64) : OcssdChannel.Allocation :=
  if channel.numUsedBlocks = channel.numTotalBlocks ∨ requestBlocks = 0 then ⟨channel,allocUnits,0⟩
  else
    let requestPerLun := requestBlocks/channel.numLuns
    let r := distribute channel.numBlocks requestPerLun channel.luns requestBlocks 0 allocUnits
    ⟨{channel with luns := r.luns,numUsedBlocks := channel.numUsedBlocks+r.allocated},
      r.allocUnits,r.allocated⟩

structure OcssdUnit where
  name : DevName
  geo : NvmGeo
  sharedChannels : List OcssdChannel
  exclusiveChannels : List OcssdChannel
deriving DecidableEq, Repr

def OcssdUnit.assignToShared (unit : OcssdUnit) : Bool := unit.sharedChannels.length < 4

def OcssdUnit.addChannel (unit : OcssdUnit) (channelId : Nat) : OcssdUnit :=
  let channel := OcssdChannel.new (UInt64.ofNat channelId) unit.geo.nluns unit.geo.nblocks
  if unit.assignToShared then {unit with sharedChannels := unit.sharedChannels ++ [channel.setShared]}
  else {unit with exclusiveChannels := unit.exclusiveChannels ++ [channel]}

-- `geo` is what nvm_dev_get_geo reports for the opened device.
def OcssdUnit.initializeDev (name : DevName) (geo : NvmGeo) : OcssdUnit :=
  (List.range geo.nchannels.toNat).foldl OcssdUnit.addChannel ⟨name,geo,[],[]⟩

structure OcssdUnit.PoolGrant where
  channels : List OcssdChannel
  vunit : VirtualOcssdUnit
  granted : UInt64

def OcssdUnit.allocSharedLoop (numChannels : UInt32) (blocksPerChannel : UInt64) :
    List OcssdChannel → VirtualOcssdUnit → UInt64 → OcssdUnit.PoolGrant
  | [],vunit,channels => ⟨[],vunit,channels⟩
  | channel :: rest,vunit,channels =>
    let given := channel.allocBlocks [] blocksPerChannel
    if 0 < given.allocated then
      let vunit := vunit.add (.ofAllocUnits channel.channelId.toUInt32 1 given.allocUnits)
      let channels := channels+1
      if channels = numChannels.toUInt64 then ⟨given.channel :: rest,vunit,channels⟩
      else
        let r := allocSharedLoop numChannels blocksPerChannel rest vunit channels
        {r with channels := given.channel :: r.channels}
    else
      let r := allocSharedLoop numChannels blocksPerChannel rest vunit channels
      {r with channels := given.channel :: r.channels}

def OcssdUnit.allocSharedChannels (unit : OcssdUnit) (vunit : VirtualOcssdUnit)
    (request : OcssdAllocRequest) : OcssdUnit.PoolGrant :=
  let blocksPerChannel := (request.numBlocks/request.numChannels).toUInt64
  allocSharedLoop request.numChannels blocksPerChannel unit.sharedChannels vunit 0

def OcssdUnit.allocExclusiveLoop (numChannels : UInt32) :
    List OcssdChannel → VirtualOcssdUnit → UInt64 → OcssdUnit.PoolGrant
  | [],vunit,channels => ⟨[],vunit,channels⟩
  | channel :: rest,vunit,channels =>
    if channel.used then
      let r := allocExclusiveLoop numChannels rest vunit channels
      {r with channels := channel :: r.channels}
    else
      let channel := channel.setUsed
      let vunit := vunit.add ⟨channel.channelId.toUInt32,0,channel.numTotalBlocks.toUInt32,
        channel.numLuns.toUInt32,[]⟩
      let channels := channels+1
      if channels = numChannels.toUInt64 then ⟨channel :: rest,vunit,channels⟩
      else
        let r := allocExclusiveLoop numChannels rest vunit channels
        {r with channels := channel :: r.channels}

def OcssdUnit.allocExclusiveChannels (unit : OcssdUnit) (vunit : VirtualOcssdUnit)
    (request : OcssdAllocRequest) : OcssdUnit.PoolGrant :=
  allocExclusiveLoop request.numChannels unit.exclusiveChannels vunit 0

structure OcssdUnit.Grant where
  unit : OcssdUnit
  vssd : VirtualOcssd
  granted : UInt64

def OcssdUnit.allocChannels (unit : OcssdUnit) (vssd : VirtualOcssd) (request : OcssdAllocRequest) :
    OcssdUnit.Grant :=
  if request.numChannels = 0 then ⟨unit,vssd,0⟩
  else if request.shared = 1 then
    let r := unit.allocSharedChannels ⟨unit.name,unit.geo,[]⟩ request
    ⟨{unit with sharedChannels := r.channels},if r.granted = 0 then vssd else vssd.add r.vunit,r.granted⟩
  else
    let r := unit.allocExclusiveChannels ⟨unit.name,unit.geo,[]⟩ request
    ⟨{unit with exclusiveChannels := r.channels},if r.granted = 0 then vssd else vssd.add r.vunit,r.granted⟩

def OcssdUnit.serve (unit : OcssdUnit) (request : OcssdAllocRequest) : OcssdUnit × VirtualOcssd :=
  let r := unit.allocChannels .new request
  (r.unit,r.vssd)

structure OcssdStats where
  numSharedChannels : UInt64
  numExclusiveChannels : UInt64
  freeBlocks : UInt64
deriving DecidableEq, Repr

-- Either loop of get_ocssd_stats: channels with free blocks, and their blocks.
def OcssdUnit.tallyFree (channels : List OcssdChannel) (count blocks : UInt64) : UInt64 × UInt64 :=
  channels.foldl (fun tally channel =>
    let freeBlocks := channel.getFreeBlocks
    if 0 < freeBlocks then (tally.1+1,tally.2+freeBlocks) else tally) (count,blocks)

def OcssdUnit.getOcssdStats (unit : OcssdUnit) : OcssdStats :=
  let shared := tallyFree unit.sharedChannels 0 0
  let exclusive := tallyFree unit.exclusiveChannels 0 shared.2
  ⟨shared.1,exclusive.1,exclusive.2⟩

structure OcssdManager where
  ocssds : List OcssdUnit
  vssdId : UInt32
deriving DecidableEq, Repr

def OcssdManager.new : OcssdManager := ⟨[],0⟩

def OcssdManager.addOcssd (manager : OcssdManager) (device : DevName × NvmGeo) : OcssdManager :=
  {manager with ocssds := manager.ocssds ++ [OcssdUnit.initializeDev device.1 device.2]}

def OcssdManager.ofDevices (devices : List (DevName × NvmGeo)) : OcssdManager :=
  devices.foldl OcssdManager.addOcssd .new

structure OcssdManager.LoopEnd where
  ocssds : List OcssdUnit
  vssd : VirtualOcssd
  request : OcssdAllocRequest
  granted : UInt64

def OcssdManager.allocLoop : List OcssdUnit → VirtualOcssd → OcssdAllocRequest → UInt64 →
    OcssdManager.LoopEnd
  | [],vssd,request,channels => ⟨[],vssd,request,channels⟩
  | unit :: rest,vssd,request,channels =>
    let given := unit.allocChannels vssd request
    let channels := channels+given.granted
    let request := request.decChannels given.granted
    if request.numChannels = 0 then ⟨given.unit :: rest,given.vssd,request,channels⟩
    else
      let r := allocLoop rest given.vssd request channels
      {r with ocssds := given.unit :: r.ocssds}

structure OcssdManager.Grant where
  manager : OcssdManager
  vssd : VirtualOcssd
  request : OcssdAllocRequest
  granted : UInt64

def OcssdManager.allocOcssdResource (manager : OcssdManager) (vssd : VirtualOcssd)
    (request : OcssdAllocRequest) : OcssdManager.Grant :=
  let r := allocLoop manager.ocssds vssd request 0
  ⟨⟨r.ocssds,manager.vssdId+1⟩,r.vssd.setId manager.vssdId,r.request,r.granted⟩

def OcssdManager.serve (manager : OcssdManager) (request : OcssdAllocRequest) :
    OcssdManager × (VirtualOcssd × UInt64) :=
  let r := manager.allocOcssdResource .new request
  (r.manager,(r.vssd,r.granted))

end OcssdServer
