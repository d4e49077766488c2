import OcssdServer.VirtualSsd

namespace OcssdServer.VirtualSsdCodec
open ByteBuffers

-- The serialization format as the header comment lays it out, level by level.
-- The bytes between a name and the next word are whatever they are.
def LunWire (vlun : VirtualOcssdLun) (bytes : List UInt8) : Prop :=
  bytes = leBytes 4 vlun.lunId.toNat ++ (leBytes 4 vlun.blockStart.toNat ++
    leBytes 4 vlun.numBlocks.toNat)

def ChannelWire (vchannel : VirtualOcssdChannel) (bytes : List UInt8) : Prop :=
  ∃ body, Listed LunWire (if vchannel.shared = 1 then vchannel.luns else []) body ∧
    bytes = leBytes 4 vchannel.channelId.toNat ++ (leBytes 4 vchannel.shared.toNat ++
      (leBytes 4 vchannel.totalBlocks.toNat ++ (leBytes 4 vchannel.numLuns.toNat ++ body)))

def geoWire (geo : NvmGeo) : List UInt8 :=
  leBytes 8 geo.nchannels.toNat ++ (leBytes 8 geo.nluns.toNat ++ (leBytes 8 geo.nplanes.toNat ++
    (leBytes 8 geo.nblocks.toNat ++ (leBytes 8 geo.npages.toNat ++ (leBytes 8 geo.nsectors.toNat ++
      (leBytes 8 geo.pageNbytes.toNat ++ (leBytes 8 geo.sectorNbytes.toNat ++
        leBytes 8 geo.metaNbytes.toNat)))))))

def nameLength (devName : DevName) : Nat := devName.length+1
def paddedLength (devName : DevName) : Nat := (nameLength devName+3)/4*4

def UnitWire (vunit : VirtualOcssdUnit) (bytes : List UInt8) : Prop :=
  ∃ pad body, nameLength vunit.devName+pad.length = paddedLength vunit.devName ∧
    Listed ChannelWire vunit.channels body ∧
    bytes = leBytes 4 (UInt32.ofNat (nameLength vunit.devName)).toNat ++
      ((vunit.devName ++ [0]) ++ (pad ++ (geoWire vunit.geo ++
        (leBytes 4 (UInt32.ofNat vunit.channels.length).toNat ++ body))))

def VssdWire (vssd : VirtualOcssd) (bytes : List UInt8) : Prop :=
  ∃ body, Listed UnitWire vssd.units body ∧
    bytes = leBytes 4 serializeMagic.toNat ++ (leBytes 4 vssd.id.toNat ++
      (leBytes 4 (UInt32.ofNat vssd.units.length).toNat ++ body))

theorem nameLength_le_padded (devName : DevName) : nameLength devName ≤ paddedLength devName := by
  unfold paddedLength
  omega

theorem data4_wrote (p : Cursor) (data : UInt32) :
    p.Wrote (serializeData4 p data) (leBytes 4 data.toNat) := p.put_wrote _
theorem data8_wrote (p : Cursor) (data : UInt64) :
    p.Wrote (serializeData8 p data) (leBytes 8 data.toNat) := p.put_wrote _

theorem lun_wrote (p : Cursor) (vlun : VirtualOcssdLun) :
    ∃ bytes, LunWire vlun bytes ∧ p.Wrote (vlun.serialize p) bytes :=
  ⟨_,rfl,(data4_wrote _ _).trans ((data4_wrote _ _).trans (data4_wrote _ _))⟩

theorem channel_wrote (p : Cursor) (vchannel : VirtualOcssdChannel) :
    ∃ bytes, ChannelWire vchannel bytes ∧ p.Wrote (vchannel.serialize p) bytes := by
  have head (q : Cursor) {body : List UInt8} (rest : (serializeData4 (serializeData4 (serializeData4
      (serializeData4 p vchannel.channelId) vchannel.shared) vchannel.totalBlocks)
      vchannel.numLuns).Wrote q body) := (data4_wrote p vchannel.channelId).trans
    ((data4_wrote _ vchannel.shared).trans ((data4_wrote _ vchannel.totalBlocks).trans
      ((data4_wrote _ vchannel.numLuns).trans rest)))
  unfold VirtualOcssdChannel.serialize ChannelWire
  dsimp only
  split
  · obtain ⟨body,formats,wrote⟩ := Cursor.foldl_wrote lun_wrote vchannel.luns _
    exact ⟨_,⟨body,formats,rfl⟩,head _ wrote⟩
  · exact ⟨_,⟨[],.nil,rfl⟩,head _ (.refl _)⟩

theorem geo_wrote (p : Cursor) (vunit : VirtualOcssdUnit) :
    p.Wrote (vunit.serializeGeo p) (geoWire vunit.geo) :=
  (data8_wrote _ _).trans ((data8_wrote _ _).trans ((data8_wrote _ _).trans ((data8_wrote _ _).trans
    ((data8_wrote _ _).trans ((data8_wrote _ _).trans ((data8_wrote _ _).trans
      ((data8_wrote _ _).trans (data8_wrote _ _))))))))

-- memcpy of the name and its zero, then the jump to the next multiple of four:
-- the bytes jumped over keep what the buffer held.
theorem name_wrote (p : Cursor) (devName : DevName) :
    ∃ pad, nameLength devName+pad.length = paddedLength devName ∧
      p.Wrote ((⟨store p.memory p.position (devName ++ [0]),p.position⟩ : Cursor).skip
        (paddedLength devName)) ((devName ++ [0]) ++ pad) := by
  have enough := nameLength_le_padded devName
  have size : (devName ++ [0]).length = nameLength devName := by simp [nameLength]
  have whole := (p.put_wrote (devName ++ [0])).trans
    (Cursor.skip_wrote _ (paddedLength devName-nameLength devName))
  have same : (p.put (devName ++ [0])).skip (paddedLength devName-nameLength devName) =
      (⟨store p.memory p.position (devName ++ [0]),p.position⟩ : Cursor).skip (paddedLength devName) := by
    simp only [Cursor.put,Cursor.skip,size,Cursor.mk.injEq,true_and]
    omega
  rw [same] at whole
  exact ⟨_,by rw [load_length]; omega,whole⟩

theorem unit_wrote (p : Cursor) (vunit : VirtualOcssdUnit) :
    ∃ bytes, UnitWire vunit bytes ∧ p.Wrote (vunit.serialize p) bytes := by
  obtain ⟨pad,rounded,named⟩ := name_wrote
    (serializeData4 p (UInt32.ofNat (nameLength vunit.devName))) vunit.devName
  obtain ⟨body,formats,wrote⟩ := Cursor.foldl_wrote channel_wrote vunit.channels
    (serializeData4 (vunit.serializeGeo _) (UInt32.ofNat vunit.channels.length))
  have whole := (data4_wrote p _).trans (named.trans
    ((geo_wrote _ vunit).trans ((data4_wrote _ (UInt32.ofNat vunit.channels.length)).trans wrote)))
  rw [List.append_assoc (vunit.devName ++ [0])] at whole
  exact ⟨_,⟨pad,body,rounded,formats,rfl⟩,whole⟩

theorem vssd_wrote (vssd : VirtualOcssd) (buffer : Memory) :
    ∃ bytes, VssdWire vssd bytes ∧ (vssd.serialize buffer).2 = bytes.length ∧
      load (vssd.serialize buffer).1 0 (vssd.serialize buffer).2 = bytes := by
  obtain ⟨body,formats,wrote⟩ := Cursor.foldl_wrote unit_wrote vssd.units
    (serializeData4 (serializeData4 (serializeData4 ⟨buffer,0⟩ serializeMagic) vssd.id)
      (UInt32.ofNat vssd.units.length))
  have whole := (data4_wrote ⟨buffer,0⟩ serializeMagic).trans ((data4_wrote _ vssd.id).trans
    ((data4_wrote _ (UInt32.ofNat vssd.units.length)).trans wrote))
  have length := whole.moved
  rw [Nat.zero_add] at length
  refine ⟨_,⟨body,formats,rfl⟩,length,?_⟩
  have left := whole.left
  rw [←length] at left
  exact left

-- What the decoder needs of the object for its counts and names to survive.
structure ChannelFits (vchannel : VirtualOcssdChannel) : Prop where
  counted : vchannel.shared = 1 → vchannel.numLuns.toNat = vchannel.luns.length
  bare : vchannel.shared ≠ 1 → vchannel.luns = []

structure UnitFits (vunit : VirtualOcssdUnit) : Prop where
  clean : 0 ∉ vunit.devName
  named : paddedLength vunit.devName < 2^32
  counted : vunit.channels.length < 2^32
  channels : ∀ vchannel ∈ vunit.channels, ChannelFits vchannel

structure VssdFits (vssd : VirtualOcssd) : Prop where
  counted : vssd.units.length < 2^32
  units : ∀ vunit ∈ vssd.units, UnitFits vunit

theorem data4_read {buffer : List UInt8} {p : Nat} {data : UInt32}
    (carried : Carries buffer p (leBytes 4 data.toNat)) :
    deserializeData4 buffer p = some (data,p+4) := by
  have fits : data.toNat < 256 ^ 4 := data.toNat_lt
  simp [deserializeData4,readLe_carried (by decide) fits carried]

theorem data8_read {buffer : List UInt8} {p : Nat} {data : UInt64}
    (carried : Carries buffer p (leBytes 8 data.toNat)) :
    deserializeData8 buffer p = some (data,p+8) := by
  have fits : data.toNat < 256 ^ 8 := data.toNat_lt
  simp [deserializeData8,readLe_carried (by decide) fits carried]

theorem data4_canonical {buffer : List UInt8} {p : Nat} {data : UInt32 × Nat}
    (read : deserializeData4 buffer p = some data) :
    data.2 = p+4 ∧ Carries buffer p (leBytes 4 data.1.toNat) := by
  obtain ⟨value,word,rfl⟩ := Option.map_eq_some_iff.mp read
  obtain ⟨small,carried⟩ := readLe_canonical word
  have same : (UInt32.ofNat value).toNat = value := Nat.mod_eq_of_lt small
  dsimp only
  rw [same]
  exact ⟨rfl,carried⟩

theorem data8_canonical {buffer : List UInt8} {p : Nat} {data : UInt64 × Nat}
    (read : deserializeData8 buffer p = some data) :
    data.2 = p+8 ∧ Carries buffer p (leBytes 8 data.1.toNat) := by
  obtain ⟨value,word,rfl⟩ := Option.map_eq_some_iff.mp read
  obtain ⟨small,carried⟩ := readLe_canonical word
  have same : (UInt64.ofNat value).toNat = value := Nat.mod_eq_of_lt small
  dsimp only
  rw [same]
  exact ⟨rfl,carried⟩

theorem data4_iff {buffer : List UInt8} {p next : Nat} {data : UInt32} :
    deserializeData4 buffer p = some (data,next) ↔ Carries buffer p (leBytes 4 data.toNat) ∧ next = p+4 := by
  constructor
  · intro read
    obtain ⟨moved,carried⟩ := data4_canonical read
    exact ⟨carried,moved⟩
  · rintro ⟨carried,rfl⟩
    exact data4_read carried

theorem data8_iff {buffer : List UInt8} {p next : Nat} {data : UInt64} :
    deserializeData8 buffer p = some (data,next) ↔ Carries buffer p (leBytes 8 data.toNat) ∧ next = p+8 := by
  constructor
  · intro read
    obtain ⟨moved,carried⟩ := data8_canonical read
    exact ⟨carried,moved⟩
  · rintro ⟨carried,rfl⟩
    exact data8_read carried

theorem lun_read {buffer bytes : List UInt8} {p : Nat} {vlun : VirtualOcssdLun}
    (format : LunWire vlun bytes) (carried : Carries buffer p bytes) :
    VirtualOcssdLun.deserialize buffer p = some (vlun,p+bytes.length) := by
  subst format
  simp only [carries_append,leBytes_length] at carried
  obtain ⟨one,two,three⟩ := carried
  simp [VirtualOcssdLun.deserialize,data4_read one,data4_read two,data4_read three,Nat.add_assoc]

theorem channel_read {buffer bytes : List UInt8} {p : Nat} {vchannel : VirtualOcssdChannel}
    (fits : ChannelFits vchannel) (format : ChannelWire vchannel bytes)
    (carried : Carries buffer p bytes) :
    VirtualOcssdChannel.deserialize buffer p = some (vchannel,p+bytes.length) := by
  obtain ⟨body,formats,rfl⟩ := format
  simp only [carries_append,leBytes_length] at carried
  obtain ⟨one,two,three,four,five⟩ := carried
  by_cases shared : vchannel.shared = 1
  · rw [if_pos shared] at formats
    have luns := readMany_listed (fun _ _ _ _ => lun_read) formats five
    rw [←fits.counted shared] at luns
    simp only [VirtualOcssdChannel.deserialize,data4_read one,data4_read two,data4_read three,
      data4_read four,luns,Option.bind_eq_bind,Option.bind_some,if_pos shared,List.length_append,
      leBytes_length,Option.pure_def,Option.some.injEq,Prod.mk.injEq,true_and]
    omega
  · rw [if_neg shared] at formats
    cases formats
    have rebuilt : (⟨vchannel.channelId,vchannel.shared,vchannel.totalBlocks,vchannel.numLuns,[]⟩ :
        VirtualOcssdChannel) = vchannel := by rw [←fits.bare shared]
    simp only [VirtualOcssdChannel.deserialize,data4_read one,data4_read two,data4_read three,
      data4_read four,Option.bind_eq_bind,Option.bind_some,if_neg shared,rebuilt,List.length_append,
      leBytes_length,List.length_nil,Option.pure_def]

theorem geo_read {buffer : List UInt8} {p : Nat} {geo : NvmGeo}
    (carried : Carries buffer p (geoWire geo)) :
    VirtualOcssdUnit.deserializeGeo buffer p = some (geo,p+(geoWire geo).length) := by
  simp only [geoWire,carries_append,leBytes_length] at carried
  obtain ⟨c1,c2,c3,c4,c5,c6,c7,c8,c9⟩ := carried
  simp [VirtualOcssdUnit.deserializeGeo,geoWire,data8_read c1,data8_read c2,data8_read c3,data8_read c4,
    data8_read c5,data8_read c6,data8_read c7,data8_read c8,data8_read c9,Nat.add_assoc]

-- Rounding the declared length up in 32 bits is exact while it does not wrap.
theorem padded_word {devName : DevName} (named : paddedLength devName < 2^32) :
    ((UInt32.ofNat (nameLength devName)+3)/4*4).toNat = paddedLength devName := by
  have below := nameLength_le_padded devName
  unfold paddedLength at named below ⊢
  simp only [UInt32.toNat_mul,UInt32.toNat_div,UInt32.toNat_add,UInt32.toNat_ofNat',
    UInt32.reduceToNat]
  omega

theorem unit_read {buffer bytes : List UInt8} {p : Nat} {vunit : VirtualOcssdUnit}
    (fits : UnitFits vunit) (format : UnitWire vunit bytes) (carried : Carries buffer p bytes) :
    VirtualOcssdUnit.deserialize buffer p = some (vunit,p+bytes.length) := by
  obtain ⟨pad,body,rounded,formats,rfl⟩ := format
  have size : (vunit.devName ++ [0]).length = nameLength vunit.devName := by simp [nameLength]
  obtain ⟨length,carried⟩ := carries_append.mp carried
  obtain ⟨name,carried⟩ := carries_append.mp carried
  obtain ⟨_,carried⟩ := carries_append.mp carried
  obtain ⟨geo,carried⟩ := carries_append.mp carried
  obtain ⟨count,channels⟩ := carries_append.mp carried
  simp only [leBytes_length,size] at name geo count channels
  have moved : p+4+nameLength vunit.devName+pad.length =
      p+4+((UInt32.ofNat (nameLength vunit.devName)+3)/4*4).toNat := by
    rw [padded_word fits.named]
    omega
  rw [moved] at geo count channels
  have small := fits.counted
  have counted : (UInt32.ofNat vunit.channels.length).toNat = vunit.channels.length := by
    rw [UInt32.toNat_ofNat']
    omega
  have channels := readMany_listed (fun vchannel member bytes p =>
    channel_read (fits.channels vchannel member)) formats channels
  simp only [VirtualOcssdUnit.deserialize,data4_read length,readString_carried fits.clean name,
    geo_read geo,data4_read count,counted,channels,Option.bind_eq_bind,Option.bind_some,
    List.length_append,leBytes_length,size]
  simp only [Option.pure_def,Option.some.injEq,Prod.mk.injEq,true_and]
  omega

theorem vssd_read {vssd : VirtualOcssd} {bytes : List UInt8} (fits : VssdFits vssd)
    (format : VssdWire vssd bytes) (following : List UInt8) :
    VirtualOcssd.new.deserialize (bytes ++ following) = some (vssd,bytes.length) := by
  have carried := carries_start bytes following
  generalize buffered : bytes ++ following = buffer at carried ⊢
  obtain ⟨body,formats,rfl⟩ := format
  simp only [carries_append,leBytes_length] at carried
  obtain ⟨magic,id,count,units⟩ := carried
  have small := fits.counted
  have counted : (UInt32.ofNat vssd.units.length).toNat = vssd.units.length := by
    rw [UInt32.toNat_ofNat']
    omega
  have units := readMany_listed (fun vunit member bytes p =>
    unit_read (fits.units vunit member)) formats units
  simp only [VirtualOcssd.deserialize,VirtualOcssd.new,data4_read magic,data4_read id,
    data4_read count,counted,units,Option.bind_eq_bind,Option.bind_some,ne_eq,not_true_eq_false,
    if_false,List.length_append,leBytes_length,List.nil_append,Option.pure_def,Option.some.injEq,
    Prod.mk.injEq,true_and]
  omega

theorem virtual_ocssd_round_trip (vssd : VirtualOcssd) (fits : VssdFits vssd) (buffer : Memory)
    (following : List UInt8) :
    ∃ decoded, VirtualOcssd.new.deserialize
        (load (vssd.serialize buffer).1 0 (vssd.serialize buffer).2 ++ following) =
          some (decoded,(vssd.serialize buffer).2) ∧
      decoded = vssd ∧
      decoded.units.map (fun vunit => vunit.generateUnits []) =
        vssd.units.map (fun vunit => vunit.generateUnits []) := by
  obtain ⟨bytes,format,length,left⟩ := vssd_wrote vssd buffer
  rw [left,length]
  exact ⟨vssd,vssd_read fits format following,rfl,rfl⟩

-- A shared channel of two LUNs beside an exclusive one, under a name that needs
-- two bytes of padding.
def mixedSsd : VirtualOcssd :=
  ⟨7,[⟨[110,118,109,101,49],⟨16,2,2,1000,512,4,16384,4096,64⟩,
    [⟨0,1,50,2,[⟨0,10,25⟩,⟨1,10,25⟩]⟩,⟨4,0,2000,2,[]⟩]⟩]⟩

theorem mixed_round_trip :
    ∃ decoded, VirtualOcssd.new.deserialize
        (load (mixedSsd.serialize (fun _ => 255)).1 0 (mixedSsd.serialize (fun _ => 255)).2 ++ [1,2,3]) =
          some (decoded,(mixedSsd.serialize (fun _ => 255)).2) ∧
      decoded = mixedSsd ∧
      decoded.units.map (fun vunit => vunit.generateUnits []) =
        mixedSsd.units.map (fun vunit => vunit.generateUnits []) := by
  refine virtual_ocssd_round_trip mixedSsd ⟨by decide,?_⟩ _ _
  intro vunit member
  cases List.mem_singleton.mp member
  refine ⟨by decide,by decide,by decide,?_⟩
  intro vchannel member
  rcases List.mem_pair.mp member with rfl | rfl
  · exact ⟨fun _ => by decide,fun other => absurd rfl other⟩
  · exact ⟨fun other => absurd other (by decide),fun _ => rfl⟩

end OcssdServer.VirtualSsdCodec
