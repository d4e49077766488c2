import OcssdServer.SharedSupply
import OcssdServer.VirtualSsdCodec
import OcssdServer.Connection

namespace OcssdServer.ReplyLength
open ByteBuffers ChannelBalance FirstFit UnitGrants ManagerGrants VirtualSsdCodec BlockOwnership SharedSupply

def channelBytes (vchannel : VirtualOcssdChannel) : Nat :=
  16+if vchannel.shared = 1 then 12*vchannel.luns.length else 0

def unitBytes (vunit : VirtualOcssdUnit) : Nat :=
  80+paddedLength vunit.devName+(vunit.channels.map channelBytes).sum

theorem lun_length {vlun : VirtualOcssdLun} {bytes : List UInt8} (format : LunWire vlun bytes) :
    bytes.length = 12 := by
  subst format
  simp

theorem channel_length {vchannel : VirtualOcssdChannel} {bytes : List UInt8}
    (format : ChannelWire vchannel bytes) : bytes.length = channelBytes vchannel := by
  obtain ⟨body,formats,rfl⟩ := format
  have luns : body.length = ((if vchannel.shared = 1 then vchannel.luns else []).map (fun _ => 12)).sum :=
    formats.length (fun _ _ _ => lun_length)
  simp only [List.length_append,leBytes_length,luns,List.map_const',List.sum_replicate,Nat.nsmul_eq_mul,
    channelBytes]
  by_cases shared : vchannel.shared = 1
  · rw [if_pos shared,if_pos shared]
    omega
  · rw [if_neg shared,if_neg shared,List.length_nil]

theorem unit_length {vunit : VirtualOcssdUnit} {bytes : List UInt8} (format : UnitWire vunit bytes) :
    bytes.length = unitBytes vunit := by
  obtain ⟨pad,body,rounded,formats,rfl⟩ := format
  have channels : body.length = (vunit.channels.map channelBytes).sum :=
    formats.length (fun _ _ _ => channel_length)
  simp only [nameLength] at rounded
  simp only [List.length_append,leBytes_length,channels,geoWire,unitBytes,List.length_singleton]
  omega

theorem serialize_length (vssd : VirtualOcssd) (buffer : Memory) :
    (vssd.serialize buffer).2 = 12+(vssd.units.map unitBytes).sum := by
  obtain ⟨bytes,⟨body,formats,same⟩,length,_⟩ := vssd_wrote vssd buffer
  have units : body.length = (vssd.units.map unitBytes).sum := formats.length (fun _ _ _ => unit_length)
  rw [length,same]
  simp only [List.length_append,leBytes_length,units]
  omega

-- How many channels a unit has for a request that still wants this many.
def openChannels (shared : UInt32) (blocks channels : Nat) (unit : OcssdUnit) : Nat :=
  if shared = 1 then (offers channels blocks unit).length
  else min channels (unit.exclusiveChannels.countP unused)

def unitLength (shared : UInt32) (unit : OcssdUnit) (channels : Nat) : Nat :=
  if channels = 0 then 0
  else 80+paddedLength unit.name+channels*(16+if shared = 1 then 12*unit.geo.nluns.toNat else 0)

def unitsLength (shared : UInt32) (blocks : Nat) : Nat → List OcssdUnit → Nat
  | _,[] => 0
  | channels,unit :: rest =>
    unitLength shared unit (openChannels shared blocks channels unit)+
      unitsLength shared blocks (channels-openChannels shared blocks channels unit) rest

def replyLength (request : OcssdAllocRequest) (units : List OcssdUnit) : Nat :=
  12+unitsLength request.shared request.numBlocks.toNat request.numChannels.toNat units

theorem drawn_open {unit : OcssdUnit} (valid : UnitValid unit) (request : OcssdAllocRequest) :
    drawn request unit =
      openChannels request.shared request.numBlocks.toNat request.numChannels.toNat unit := by
  unfold openChannels
  by_cases shared : request.shared = 1
  · rw [if_pos shared,drawn_offers valid shared]
  · rw [if_neg shared,drawn,if_neg shared]

theorem vchannels_bytes (request : OcssdAllocRequest) (unit : OcssdUnit) :
    ((vchannels request unit).map channelBytes).sum =
      drawn request unit*(16+if request.shared = 1 then 12*unit.geo.nluns.toNat else 0) := by
  have each : ∀ vchannel ∈ vchannels request unit,
      channelBytes vchannel = 16+if request.shared = 1 then 12*unit.geo.nluns.toNat else 0 := by
    intro vchannel member
    rcases vchannels_drawnFrom member with ⟨shared,channel,_,rfl⟩ | ⟨exclusive,channel,_,rfl⟩
    · rw [if_pos shared,channelBytes,sharedGrant,ofAllocUnits_parts]
      simp [shareUnits]
    · rw [if_neg exclusive]
      rfl
  rw [List.map_congr_left each,List.map_const',List.sum_replicate,Nat.nsmul_eq_mul,vchannels_drawn]

theorem plan_bytes {units : List OcssdUnit} (valid : ∀ unit ∈ units,UnitValid unit)
    (request : OcssdAllocRequest) :
    ((grantedUnits request units).map unitBytes).sum =
      unitsLength request.shared request.numBlocks.toNat request.numChannels.toNat units := by
  unfold grantedUnits
  induction units generalizing request with
  | nil => rfl
  | cons unit rest ih =>
    have here := valid unit (by simp)
    have later := ih (fun u member => valid u (by simp [member]))
      (request.decChannels (UInt64.ofNat (drawn request unit)))
    have fields : (request.decChannels (UInt64.ofNat (drawn request unit))).shared = request.shared ∧
        (request.decChannels (UInt64.ofNat (drawn request unit))).numBlocks = request.numBlocks := ⟨rfl,rfl⟩
    rw [decChannels_toNat (drawn_le request unit),fields.1,fields.2] at later
    rw [plan,unitsLength,←drawn_open here,←later]
    by_cases none' : drawn request unit = 0
    · rw [List.filter_cons_of_neg (by simp [contributes,none']),unitLength,if_pos none',Nat.zero_add]
    · have kept : contributes (request,unit) = true := by simpa [contributes] using Nat.pos_of_ne_zero none'
      rw [List.filter_cons_of_pos kept,List.map_cons,List.map_cons,List.sum_cons,unitLength,if_neg none',
        ←vchannels_bytes]
      rfl

theorem serve_length {manager : OcssdManager} (valid : ManagerValid manager) (request : OcssdAllocRequest)
    (buffer : Memory) :
    ((manager.serve request).2.1.serialize buffer).2 = replyLength request manager.ocssds := by
  rw [serialize_length,serve_plan valid,replyLength]
  dsimp only
  rw [plan_bytes valid]

-- The encoding fits the reply buffer exactly when the names, the channels that
-- are open and the LUNs listed for the shared ones leave it room.
theorem reply_fits_iff (set : List (DevName × NvmGeo)) (requests : List OcssdAllocRequest)
    (request : OcssdAllocRequest) (buffer : Memory) :
    (((reached set requests).serve request).2.1.serialize buffer).2 ≤ vssdBufferSize ↔
      replyLength request (reached set requests).ocssds ≤ 1024 := by
  rw [serve_length (reached_valid set requests)]
  rfl

-- One device whose four shared channels have twenty LUNs each: twelve bytes for
-- every LUN of every channel are more than the buffer holds.
theorem many_luns_overflow :
    1 ≤ ((reached [([110],⟨4,20,1,8,1,1,1,1,0⟩)] []).serve ⟨4,80,1,0,0⟩).2.2.toNat ∧
      (((reached [([110],⟨4,20,1,8,1,1,1,1,0⟩)] []).serve ⟨4,80,1,0,0⟩).2.1.serialize
        (fun _ => 0)).2 = 1120 ∧
      ¬ (((reached [([110],⟨4,20,1,8,1,1,1,1,0⟩)] []).serve ⟨4,80,1,0,0⟩).2.1.serialize
        (fun _ => 0)).2 ≤ vssdBufferSize := by
  decide +kernel

end OcssdServer.ReplyLength
