import OcssdServer.BytePatterns
import OcssdServer.VirtualSsdCodec

namespace OcssdServer.ReplyPadding
open ByteBuffers BytePatterns VirtualSsdCodec

-- What each level of serialize leaves in the output buffer, whatever was there.
def data4 (data : UInt32) : Pattern := (leBytes 4 data.toNat).map some
def data8 (data : UInt64) : Pattern := (leBytes 8 data.toNat).map some

def lunPattern (vlun : VirtualOcssdLun) : Pattern :=
  data4 vlun.lunId ++ data4 vlun.blockStart ++ data4 vlun.numBlocks

def channelPattern (vchannel : VirtualOcssdChannel) : Pattern :=
  data4 vchannel.channelId ++ data4 vchannel.shared ++ data4 vchannel.totalBlocks ++
    data4 vchannel.numLuns ++ (if vchannel.shared = 1 then vchannel.luns else []).flatMap lunPattern

def geoPattern (geo : NvmGeo) : Pattern :=
  data8 geo.nchannels ++ data8 geo.nluns ++ data8 geo.nplanes ++ data8 geo.nblocks ++
    data8 geo.npages ++ data8 geo.nsectors ++ data8 geo.pageNbytes ++ data8 geo.sectorNbytes ++
    data8 geo.metaNbytes

-- The pointer passes more bytes than memcpy filled.
def namePattern (devName : DevName) : Pattern :=
  (devName ++ [0]).map some ++ List.replicate (paddedLength devName-nameLength devName) none

def unitPattern (vunit : VirtualOcssdUnit) : Pattern :=
  data4 (UInt32.ofNat (nameLength vunit.devName)) ++ namePattern vunit.devName ++
    geoPattern vunit.geo ++ data4 (UInt32.ofNat vunit.channels.length) ++
    vunit.channels.flatMap channelPattern

def vssdPattern (vssd : VirtualOcssd) : Pattern :=
  data4 serializeMagic ++ data4 vssd.id ++ data4 (UInt32.ofNat vssd.units.length) ++
    vssd.units.flatMap unitPattern

theorem data4_paints (data : UInt32) : Paints (serializeData4 · data) (data4 data) := .put _
theorem data8_paints (data : UInt64) : Paints (serializeData8 · data) (data8 data) := .put _

theorem lun_paints (vlun : VirtualOcssdLun) : Paints vlun.serialize (lunPattern vlun) :=
  ((data4_paints _).after (data4_paints _)).after (data4_paints _)

theorem channel_paints (vchannel : VirtualOcssdChannel) :
    Paints vchannel.serialize (channelPattern vchannel) := by
  have words := (((data4_paints vchannel.channelId).after (data4_paints vchannel.shared)).after
    (data4_paints vchannel.totalBlocks)).after (data4_paints vchannel.numLuns)
  have whole := words.after (Paints.foldl lun_paints (if vchannel.shared = 1 then vchannel.luns else []))
  intro p
  rw [channelPattern,←whole p,VirtualOcssdChannel.serialize]
  dsimp only
  split <;> rfl

theorem geo_paints (vunit : VirtualOcssdUnit) : Paints vunit.serializeGeo (geoPattern vunit.geo) :=
  ((((((((data8_paints _).after (data8_paints _)).after (data8_paints _)).after (data8_paints _)).after
    (data8_paints _)).after (data8_paints _)).after (data8_paints _)).after (data8_paints _)).after
      (data8_paints _)

theorem name_paints (devName : DevName) :
    Paints (fun p => (⟨store p.memory p.position (devName ++ [0]),p.position⟩ : Cursor).skip
      (paddedLength devName)) (namePattern devName) := by
  have enough := nameLength_le_padded devName
  have whole := (Paints.put (devName ++ [0])).after (.skip (paddedLength devName-nameLength devName))
  intro p
  rw [namePattern,←whole p]
  simp only [Cursor.put,Cursor.skip,List.length_append,List.length_singleton,Cursor.mk.injEq,true_and]
  rw [nameLength] at enough ⊢
  omega

theorem unit_paints (vunit : VirtualOcssdUnit) : Paints vunit.serialize (unitPattern vunit) :=
  ((((data4_paints _).after (name_paints _)).after (geo_paints vunit)).after (data4_paints _)).after
    (.foldl channel_paints vunit.channels)

theorem vssd_paints (vssd : VirtualOcssd) (buffer : Memory) :
    vssd.serialize buffer = (paint buffer 0 (vssdPattern vssd),(vssdPattern vssd).length) := by
  have whole := (((data4_paints serializeMagic).after (data4_paints vssd.id)).after
    (data4_paints (UInt32.ofNat vssd.units.length))).after (.foldl unit_paints vssd.units) ⟨buffer,0⟩
  rw [Nat.zero_add] at whole
  exact congrArg (fun p : Cursor => (p.memory,p.position)) whole

@[simp] theorem data4_filled (data : UInt32) : none ∉ data4 data := by simp [data4]
@[simp] theorem data8_filled (data : UInt64) : none ∉ data8 data := by simp [data8]

theorem channel_filled (vchannel : VirtualOcssdChannel) : none ∉ channelPattern vchannel := by
  simp [channelPattern,lunPattern]

theorem name_filled_iff (devName : DevName) : none ∉ namePattern devName ↔ 4 ∣ nameLength devName := by
  have open' : none ∈ namePattern devName ↔ paddedLength devName-nameLength devName ≠ 0 := by
    simp [namePattern]
  rw [open',paddedLength]
  omega

theorem unit_filled_iff (vunit : VirtualOcssdUnit) :
    none ∉ unitPattern vunit ↔ 4 ∣ nameLength vunit.devName := by
  rw [←name_filled_iff]
  simp [unitPattern,geoPattern,channel_filled]

theorem vssd_filled_iff (vssd : VirtualOcssd) :
    none ∉ vssdPattern vssd ↔ ∀ vunit ∈ vssd.units, 4 ∣ nameLength vunit.devName := by
  simp only [vssdPattern,List.mem_append,data4_filled,false_or,List.mem_flatMap,not_exists,not_and,
    unit_filled_iff]

-- The reply is a function of the virtual SSD alone just when every name, its
-- zero counted, ends on a multiple of four.
theorem reply_determined_iff (vssd : VirtualOcssd) :
    (∀ one two : Memory, load (vssd.serialize one).1 0 (vssd.serialize one).2 =
        load (vssd.serialize two).1 0 (vssd.serialize two).2) ↔
      ∀ vunit ∈ vssd.units, 4 ∣ nameLength vunit.devName := by
  simp only [vssd_paints,load_paint_iff,vssd_filled_iff]

-- mixedSsd's only name takes six bytes; two more go out as they were found.
theorem mixed_reply_leaks :
    ¬∀ one two : Memory, load (mixedSsd.serialize one).1 0 (mixedSsd.serialize one).2 =
        load (mixedSsd.serialize two).1 0 (mixedSsd.serialize two).2 := by
  intro same
  have found := congrArg (fun bytes => bytes[22]?) (same (fun _ => 0) (fun _ => 1))
  revert found
  decide

end OcssdServer.ReplyPadding
