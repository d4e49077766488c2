import OcssdServer.ByteBuffers

namespace OcssdServer
open ByteBuffers

structure NvmGeo where
  nchannels : UInt64
  nluns : UInt64
  nplanes : UInt64
  nblocks : UInt64
  npages : UInt64
  nsectors : UInt64
  pageNbytes : UInt64
  sectorNbytes : UInt64
  metaNbytes : UInt64
deriving DecidableEq, Repr

abbrev DevName := List UInt8

structure VirtualOcssdLun where
  lunId : UInt32
  blockStart : UInt32
  numBlocks : UInt32
deriving DecidableEq, Repr

structure VirtualOcssdChannel where
  channelId : UInt32
  shared : UInt32
  totalBlocks : UInt32
  numLuns : UInt32
  luns : List VirtualOcssdLun
deriving DecidableEq, Repr

structure VirtualOcssdUnit where
  devName : DevName
  geo : NvmGeo
  channels : List VirtualOcssdChannel
deriving DecidableEq, Repr

structure VirtualOcssd where
  id : UInt32
  units : List VirtualOcssdUnit
deriving DecidableEq, Repr

-- (lun id, (first block, number of blocks)) as the allocator collects them.
abbrev AllocUnits := List (UInt64 × UInt64 × UInt64)

def VirtualOcssdLun.ofAllocUnit (it : UInt64 × UInt64 × UInt64) : VirtualOcssdLun :=
  ⟨it.1.toUInt32,it.2.1.toUInt32,it.2.2.toUInt32⟩

-- Every size_t narrows to 32 bits; the totals are sums of the narrowed counts.
def VirtualOcssdChannel.ofAllocUnits (channelId shared : UInt32) (allocUnits : AllocUnits) :
    VirtualOcssdChannel :=
  allocUnits.foldl (fun vchannel it =>
    let vlun := VirtualOcssdLun.ofAllocUnit it
    {vchannel with
      luns := vchannel.luns ++ [vlun]
      totalBlocks := vchannel.totalBlocks+vlun.numBlocks
      numLuns := vchannel.numLuns+1}) ⟨channelId,shared,0,0,[]⟩

def VirtualOcssdChannel.isShared (vchannel : VirtualOcssdChannel) : Bool := 0 < vchannel.shared

def VirtualOcssdChannel.generateUnits (vchannel : VirtualOcssdChannel) (units : List UInt32) :
    List UInt32 :=
  if vchannel.shared = 1 then units ++ vchannel.luns.map (·.blockStart)
  else units ++ List.replicate vchannel.numLuns.toNat 0

def VirtualOcssdUnit.add (vunit : VirtualOcssdUnit) (vchannel : VirtualOcssdChannel) : VirtualOcssdUnit :=
  {vunit with channels := vunit.channels ++ [vchannel]}

def VirtualOcssdUnit.generateUnits (vunit : VirtualOcssdUnit) (units : List UInt32) : List UInt32 :=
  vunit.channels.foldl (fun units vchannel => vchannel.generateUnits units) units

def VirtualOcssd.new : VirtualOcssd := ⟨0,[]⟩
def VirtualOcssd.add (vssd : VirtualOcssd) (vunit : VirtualOcssdUnit) : VirtualOcssd :=
  {vssd with units := vssd.units ++ [vunit]}
def VirtualOcssd.setId (vssd : VirtualOcssd) (id : UInt32) : VirtualOcssd := {vssd with id := id}

-- In the host's order, which is taken to be little-endian.
def serializeData4 (p : Cursor) (data : UInt32) : Cursor := p.put (leBytes 4 data.toNat)
def serializeData8 (p : Cursor) (data : UInt64) : Cursor := p.put (leBytes 8 data.toNat)

-- A read that leaves the received bytes has no value.
def deserializeData4 (buffer : List UInt8) (p : Nat) : Option (UInt32 × Nat) :=
  (readLe 4 buffer p).map (fun data => (UInt32.ofNat data,p+4))
def deserializeData8 (buffer : List UInt8) (p : Nat) : Option (UInt64 × Nat) :=
  (readLe 8 buffer p).map (fun data => (UInt64.ofNat data,p+8))

def VirtualOcssdLun.serialize (vlun : VirtualOcssdLun) (p : Cursor) : Cursor :=
  let p := serializeData4 p vlun.lunId
  let p := serializeData4 p vlun.blockStart
  serializeData4 p vlun.numBlocks

def VirtualOcssdLun.deserialize (buffer : List UInt8) (p : Nat) : Option (VirtualOcssdLun × Nat) := do
  let (lunId,p) ← deserializeData4 buffer p
  let (blockStart,p) ← deserializeData4 buffer p
  let (numBlocks,p) ← deserializeData4 buffer p
  return (⟨lunId,blockStart,numBlocks⟩,p)

def VirtualOcssdChannel.serialize (vchannel : VirtualOcssdChannel) (p : Cursor) : Cursor :=
  let p := serializeData4 p vchannel.channelId
  let p := serializeData4 p vchannel.shared
  let p := serializeData4 p vchannel.totalBlocks
  let p := serializeData4 p vchannel.numLuns
  if vchannel.shared = 1 then vchannel.luns.foldl (fun p vlun => vlun.serialize p) p else p

def VirtualOcssdChannel.deserialize (buffer : List UInt8) (p : Nat) :
    Option (VirtualOcssdChannel × Nat) := do
  let (channelId,p) ← deserializeData4 buffer p
  let (shared,p) ← deserializeData4 buffer p
  let (totalBlocks,p) ← deserializeData4 buffer p
  let (numLuns,p) ← deserializeData4 buffer p
  if shared = 1 then
    let (luns,p) ← readMany (VirtualOcssdLun.deserialize buffer) numLuns.toNat p
    return (⟨channelId,shared,totalBlocks,numLuns,luns⟩,p)
  else return (⟨channelId,shared,totalBlocks,numLuns,[]⟩,p)

def VirtualOcssdUnit.serializeGeo (vunit : VirtualOcssdUnit) (p : Cursor) : Cursor :=
  let p := serializeData8 p vunit.geo.nchannels
  let p := serializeData8 p vunit.geo.nluns
  let p := serializeData8 p vunit.geo.nplanes
  let p := serializeData8 p vunit.geo.nblocks
  let p := serializeData8 p vunit.geo.npages
  let p := serializeData8 p vunit.geo.nsectors
  let p := serializeData8 p vunit.geo.pageNbytes
  let p := serializeData8 p vunit.geo.sectorNbytes
  serializeData8 p vunit.geo.metaNbytes

def VirtualOcssdUnit.deserializeGeo (buffer : List UInt8) (p : Nat) : Option (NvmGeo × Nat) := do
  let (nchannels,p) ← deserializeData8 buffer p
  let (nluns,p) ← deserializeData8 buffer p
  let (nplanes,p) ← deserializeData8 buffer p
  let (nblocks,p) ← deserializeData8 buffer p
  let (npages,p) ← deserializeData8 buffer p
  let (nsectors,p) ← deserializeData8 buffer p
  let (pageNbytes,p) ← deserializeData8 buffer p
  let (sectorNbytes,p) ← deserializeData8 buffer p
  let (metaNbytes,p) ← deserializeData8 buffer p
  return (⟨nchannels,nluns,nplanes,nblocks,npages,nsectors,pageNbytes,sectorNbytes,metaNbytes⟩,p)

-- The name's length counts its zero byte; the pointer moves on to the next
-- multiple of four without writing the bytes in between.
def VirtualOcssdUnit.serialize (vunit : VirtualOcssdUnit) (p : Cursor) : Cursor :=
  let len := vunit.devName.length+1
  let p := serializeData4 p (UInt32.ofNat len)
  let p := {p with memory := store p.memory p.position (vunit.devName ++ [0])}
  let p := p.skip ((len+3)/4*4)
  let p := vunit.serializeGeo p
  let p := serializeData4 p (UInt32.ofNat vunit.channels.length)
  vunit.channels.foldl (fun p vchannel => vchannel.serialize p) p

-- Into a default-constructed unit. The name is read up to its zero byte,
-- whatever its declared length; that length is rounded up in 32 bits.
def VirtualOcssdUnit.deserialize (buffer : List UInt8) (p : Nat) : Option (VirtualOcssdUnit × Nat) := do
  let (nameLen,p) ← deserializeData4 buffer p
  let devName ← readString buffer p
  let p := p+((nameLen+3)/4*4).toNat
  let (geo,p) ← deserializeGeo buffer p
  let (numChannel,p) ← deserializeData4 buffer p
  let (channels,p) ← readMany (VirtualOcssdChannel.deserialize buffer) numChannel.toNat p
  return (⟨devName,geo,channels⟩,p)

def serializeMagic : UInt32 := 0x6502

def VirtualOcssd.serialize (vssd : VirtualOcssd) (buffer : Memory) : Memory × Nat :=
  let p := serializeData4 ⟨buffer,0⟩ serializeMagic
  let p := serializeData4 p vssd.id
  let p := serializeData4 p (UInt32.ofNat vssd.units.length)
  let p := vssd.units.foldl (fun p vunit => vunit.serialize p) p
  (p.memory,p.position)

-- No value when a read leaves the buffer. A wrong magic returns 0 and changes nothing.
def VirtualOcssd.deserialize (vssd : VirtualOcssd) (buffer : List UInt8) : Option (VirtualOcssd × Nat) := do
  let (magic,p) ← deserializeData4 buffer 0
  if magic ≠ serializeMagic then return (vssd,0)
  let (id,p) ← deserializeData4 buffer p
  let (numUnit,p) ← deserializeData4 buffer p
  let (units,p) ← readMany (VirtualOcssdUnit.deserialize buffer) numUnit.toNat p
  return (⟨id,vssd.units ++ units⟩,p)

end OcssdServer
