import OcssdServer.VirtualSsdCodec

namespace OcssdServer.DecodingBounds
open ByteBuffers VirtualSsdCodec

section Layout
variable (buffer : List UInt8)

-- The words of the format where the decoder looks for them: between two offsets
-- of the received bytes lie exactly the fields of one object.
def LunAt (p : Nat) (vlun : VirtualOcssdLun) (next : Nat) : Prop :=
  Carries buffer p (leBytes 4 vlun.lunId.toNat ++ (leBytes 4 vlun.blockStart.toNat ++
    leBytes 4 vlun.numBlocks.toNat)) ∧ next = p+12

structure ChannelAt (p : Nat) (vchannel : VirtualOcssdChannel) (next : Nat) : Prop where
  words : Carries buffer p (leBytes 4 vchannel.channelId.toNat ++ (leBytes 4 vchannel.shared.toNat ++
    (leBytes 4 vchannel.totalBlocks.toNat ++ leBytes 4 vchannel.numLuns.toNat)))
  listed : vchannel.shared = 1 → vchannel.luns.length = vchannel.numLuns.toNat ∧
    Placed (LunAt buffer) (p+16) vchannel.luns next
  bare : vchannel.shared ≠ 1 → vchannel.luns = [] ∧ next = p+16

def paddedName (nameLen : UInt32) : Nat := ((nameLen+3)/4*4).toNat

structure UnitAt (p : Nat) (named : UInt32 × VirtualOcssdUnit) (next : Nat) : Prop where
  declared : Carries buffer p (leBytes 4 named.1.toNat)
  name : 0 ∉ named.2.devName ∧ Carries buffer (p+4) (named.2.devName ++ [0])
  geo : Carries buffer (p+4+paddedName named.1) (geoWire named.2.geo)
  channels : ∃ numChannel : UInt32,Carries buffer (p+4+paddedName named.1+72) (leBytes 4 numChannel.toNat) ∧
    named.2.channels.length = numChannel.toNat ∧
    Placed (ChannelAt buffer) (p+4+paddedName named.1+76) named.2.channels next

variable {buffer}

theorem lun_iff {p next : Nat} {vlun : VirtualOcssdLun} :
    VirtualOcssdLun.deserialize buffer p = some (vlun,next) ↔ LunAt buffer p vlun next := by
  constructor
  · intro read
    obtain ⟨⟨lunId,p1⟩,first,read⟩ := Option.bind_eq_some_iff.mp read
    obtain ⟨⟨blockStart,p2⟩,second,read⟩ := Option.bind_eq_some_iff.mp read
    obtain ⟨⟨numBlocks,p3⟩,third,read⟩ := Option.bind_eq_some_iff.mp read
    cases read
    obtain ⟨one,rfl⟩ := data4_iff.mp first
    obtain ⟨two,rfl⟩ := data4_iff.mp second
    obtain ⟨three,rfl⟩ := data4_iff.mp third
    simp only [LunAt,carries_append,leBytes_length]
    exact ⟨⟨one,two,three⟩,trivial⟩
  · rintro ⟨words,rfl⟩
    exact lun_read rfl words

theorem channel_iff {p next : Nat} {vchannel : VirtualOcssdChannel} :
    VirtualOcssdChannel.deserialize buffer p = some (vchannel,next) ↔ ChannelAt buffer p vchannel next := by
  constructor
  · intro read
    obtain ⟨⟨channelId,p1⟩,first,read⟩ := Option.bind_eq_some_iff.mp read
    obtain ⟨⟨shared,p2⟩,second,read⟩ := Option.bind_eq_some_iff.mp read
    obtain ⟨⟨totalBlocks,p3⟩,third,read⟩ := Option.bind_eq_some_iff.mp read
    obtain ⟨⟨numLuns,p4⟩,fourth,read⟩ := Option.bind_eq_some_iff.mp read
    obtain ⟨one,rfl⟩ := data4_iff.mp first
    obtain ⟨two,rfl⟩ := data4_iff.mp second
    obtain ⟨three,rfl⟩ := data4_iff.mp third
    obtain ⟨four,rfl⟩ := data4_iff.mp fourth
    have words : Carries buffer p (leBytes 4 channelId.toNat ++ (leBytes 4 shared.toNat ++
        (leBytes 4 totalBlocks.toNat ++ leBytes 4 numLuns.toNat))) := by
      simp only [carries_append,leBytes_length]
      exact ⟨one,two,three,four⟩
    dsimp only at read
    split at read
    · rename_i shares
      obtain ⟨⟨luns,p5⟩,fifth,read⟩ := Option.bind_eq_some_iff.mp read
      cases read
      exact ⟨words,fun _ => (readMany_iff fun _ _ _ => lun_iff).mp fifth,fun other => absurd shares other⟩
    · rename_i exclusive
      cases read
      exact ⟨words,fun shares => absurd shares exclusive,fun _ => ⟨rfl,rfl⟩⟩
  · rintro ⟨words,listed,bare⟩
    simp only [carries_append,leBytes_length] at words
    obtain ⟨one,two,three,four⟩ := words
    unfold VirtualOcssdChannel.deserialize
    simp only [data4_read one,data4_read two,data4_read three,data4_read four,Option.bind_eq_bind,Option.bind_some]
    by_cases shares : vchannel.shared = 1
    · have luns := (readMany_iff fun _ _ _ => lun_iff).mpr (listed shares)
      rw [if_pos shares,luns]
      rfl
    · obtain ⟨empty,rfl⟩ := bare shares
      rw [if_neg shares,←empty]
      rfl

theorem geo_iff {p next : Nat} {geo : NvmGeo} :
    VirtualOcssdUnit.deserializeGeo buffer p = some (geo,next) ↔
      Carries buffer p (geoWire geo) ∧ next = p+72 := by
  constructor
  · intro read
    obtain ⟨⟨nchannels,p1⟩,first,read⟩ := Option.bind_eq_some_iff.mp read
    obtain ⟨⟨nluns,p2⟩,second,read⟩ := Option.bind_eq_some_iff.mp read
    obtain ⟨⟨nplanes,p3⟩,third,read⟩ := Option.bind_eq_some_iff.mp read
    obtain ⟨⟨nblocks,p4⟩,fourth,read⟩ := Option.bind_eq_some_iff.mp read
    obtain ⟨⟨npages,p5⟩,fifth,read⟩ := Option.bind_eq_some_iff.mp read
    obtain ⟨⟨nsectors,p6⟩,sixth,read⟩ := Option.bind_eq_some_iff.mp read
    obtain ⟨⟨pageNbytes,p7⟩,seventh,read⟩ := Option.bind_eq_some_iff.mp read
    obtain ⟨⟨sectorNbytes,p8⟩,eighth,read⟩ := Option.bind_eq_some_iff.mp read
    obtain ⟨⟨metaNbytes,p9⟩,ninth,read⟩ := Option.bind_eq_some_iff.mp read
    cases read
    obtain ⟨one,rfl⟩ := data8_iff.mp first
    obtain ⟨two,rfl⟩ := data8_iff.mp second
    obtain ⟨three,rfl⟩ := data8_iff.mp third
    obtain ⟨four,rfl⟩ := data8_iff.mp fourth
    obtain ⟨five,rfl⟩ := data8_iff.mp fifth
    obtain ⟨six,rfl⟩ := data8_iff.mp sixth
    obtain ⟨seven,rfl⟩ := data8_iff.mp seventh
    obtain ⟨eight,rfl⟩ := data8_iff.mp eighth
    obtain ⟨nine,rfl⟩ := data8_iff.mp ninth
    simp only [geoWire,carries_append,leBytes_length]
    exact ⟨⟨one,two,three,four,five,six,seven,eight,nine⟩,trivial⟩
  · rintro ⟨carried,rfl⟩
    rw [geo_read carried]
    simp [geoWire]

variable (buffer) in
-- A unit as the decoder reads it, kept together with the length declared for its
-- name, which the decoder drops.
def namedUnit (p : Nat) : Option ((UInt32 × VirtualOcssdUnit) × Nat) := do
  let (nameLen,_) ← deserializeData4 buffer p
  let (vunit,next) ← VirtualOcssdUnit.deserialize buffer p
  return ((nameLen,vunit),next)

theorem unit_named (p : Nat) : VirtualOcssdUnit.deserialize buffer p =
    (namedUnit buffer p).map fun found => (found.1.2,found.2) := by
  unfold namedUnit
  cases word : deserializeData4 buffer p with
  | none =>
    rw [VirtualOcssdUnit.deserialize,word]
    rfl
  | some found =>
    simp only [Option.bind_eq_bind,Option.bind_some]
    cases VirtualOcssdUnit.deserialize buffer p with
    | none => rfl
    | some found => rfl

theorem unit_fields {p : Nat} {nameLen : UInt32} (declared : Carries buffer p (leBytes 4 nameLen.toNat)) :
    VirtualOcssdUnit.deserialize buffer p = (readString buffer (p+4)).bind fun devName =>
      (VirtualOcssdUnit.deserializeGeo buffer (p+4+paddedName nameLen)).bind fun geo =>
        (deserializeData4 buffer geo.2).bind fun numChannel =>
          (readMany (VirtualOcssdChannel.deserialize buffer) numChannel.1.toNat numChannel.2).bind fun channels =>
            some (⟨devName,geo.1,channels.1⟩,channels.2) := by
  rw [VirtualOcssdUnit.deserialize,data4_read declared]
  rfl

theorem namedUnit_iff {p next : Nat} {named : UInt32 × VirtualOcssdUnit} :
    namedUnit buffer p = some (named,next) ↔ UnitAt buffer p named next := by
  constructor
  · intro read
    obtain ⟨⟨nameLen,p0⟩,word,read⟩ := Option.bind_eq_some_iff.mp read
    obtain ⟨⟨vunit,last⟩,whole,read⟩ := Option.bind_eq_some_iff.mp read
    cases read
    obtain ⟨declared,rfl⟩ := data4_iff.mp word
    rw [unit_fields declared] at whole
    obtain ⟨devName,name,whole⟩ := Option.bind_eq_some_iff.mp whole
    obtain ⟨⟨geo,p1⟩,second,whole⟩ := Option.bind_eq_some_iff.mp whole
    obtain ⟨⟨numChannel,p2⟩,third,whole⟩ := Option.bind_eq_some_iff.mp whole
    obtain ⟨⟨channels,p3⟩,fourth,whole⟩ := Option.bind_eq_some_iff.mp whole
    cases whole
    obtain ⟨two,rfl⟩ := geo_iff.mp second
    obtain ⟨three,rfl⟩ := data4_iff.mp third
    obtain ⟨size,placed⟩ := (readMany_iff fun _ _ _ => channel_iff).mp fourth
    exact ⟨declared,readString_iff.mp name,two,numChannel,three,size,placed⟩
  · rintro ⟨declared,name,geo,numChannel,count,size,placed⟩
    have channels := (readMany_iff fun _ _ _ => channel_iff).mpr ⟨size,placed⟩
    have words := geo_iff.mpr ⟨geo,rfl⟩
    rw [namedUnit,data4_read declared,unit_fields declared,readString_iff.mpr name]
    dsimp only [Option.bind_eq_bind,Option.bind_some]
    rw [words,Option.bind_some,data4_read count,Option.bind_some,channels]
    rfl

theorem word_bound {p : Nat} {data : UInt32} (carried : Carries buffer p (leBytes 4 data.toNat)) :
    p+4 ≤ buffer.length := by
  have bound := carried.bound (List.cons_ne_nil _ _)
  rwa [leBytes_length] at bound

theorem lun_bound {p next : Nat} {vlun : VirtualOcssdLun} (found : LunAt buffer p vlun next) :
    p ≤ next ∧ next ≤ buffer.length := by
  obtain ⟨words,rfl⟩ := found
  have bound := words.bound (List.cons_ne_nil _ _)
  exact ⟨Nat.le_add_right _ _,by simpa using bound⟩

theorem channel_bound {p next : Nat} {vchannel : VirtualOcssdChannel} (found : ChannelAt buffer p vchannel next) :
    p ≤ next ∧ next ≤ buffer.length := by
  have bound := found.words.bound (List.cons_ne_nil _ _)
  have inside : p+16 ≤ buffer.length := by simpa using bound
  by_cases shares : vchannel.shared = 1
  · obtain ⟨grows,bounded⟩ := (found.listed shares).2.between (fun _ _ _ => lun_bound) inside
    exact ⟨by omega,bounded⟩
  · rw [(found.bare shares).2]
    exact ⟨Nat.le_add_right _ _,inside⟩

theorem unit_bound {p next : Nat} {named : UInt32 × VirtualOcssdUnit} (found : UnitAt buffer p named next) :
    p ≤ next ∧ next ≤ buffer.length := by
  obtain ⟨numChannel,count,_,placed⟩ := found.channels
  obtain ⟨grows,bounded⟩ := placed.between (fun _ _ _ => channel_bound) (word_bound count)
  exact ⟨by omega,bounded⟩

variable (buffer) in
def namedUnits : Option (List (UInt32 × VirtualOcssdUnit) × Nat) := do
  let (numUnit,p) ← deserializeData4 buffer 8
  readMany (namedUnit buffer) numUnit.toNat p

-- The call returns 0, or every read and the length it returns stay inside the
-- bytes and no decoded name is longer than what is declared for it.
def StaysInside (vssd : VirtualOcssd) (buffer : List UInt8) : Prop :=
  ∃ after ret,vssd.deserialize buffer = some (after,ret) ∧ (ret = 0 ∨ ret ≤ buffer.length ∧
    ∃ named last,namedUnits buffer = some (named,last) ∧
      after.units = vssd.units ++ named.map (·.2) ∧ ∀ entry ∈ named,entry.2.devName.length ≤ entry.1.toNat)

def OtherMagic (buffer : List UInt8) : Prop :=
  4 ≤ buffer.length ∧ ¬ Carries buffer 0 (leBytes 4 serializeMagic.toNat)

-- A whole message comes first: the magic, an id, and as many units as are announced.
def Complete (buffer : List UInt8) : Prop :=
  ∃ (id numUnit : UInt32) (named : List (UInt32 × VirtualOcssdUnit)) (last : Nat),
    Carries buffer 0 (leBytes 4 serializeMagic.toNat ++ (leBytes 4 id.toNat ++ leBytes 4 numUnit.toNat)) ∧
    named.length = numUnit.toNat ∧ Placed (UnitAt buffer) 12 named last ∧
    ∀ entry ∈ named,entry.2.devName.length ≤ entry.1.toNat

theorem vssd_fields (magic : Carries buffer 0 (leBytes 4 serializeMagic.toNat)) (vssd : VirtualOcssd) :
    vssd.deserialize buffer = (deserializeData4 buffer 4).bind fun id => (namedUnits buffer).bind fun found =>
      some (⟨id.1,vssd.units ++ found.1.map (·.2)⟩,found.2) := by
  rw [VirtualOcssd.deserialize,data4_read magic,namedUnits]
  dsimp only [Option.bind_eq_bind,Option.bind_some]
  rw [if_neg (not_not.mpr rfl)]
  cases word : deserializeData4 buffer (0+4) with
  | none => rfl
  | some id =>
    have moved := (data4_canonical word).1
    simp only [Option.bind_some,moved]
    cases deserializeData4 buffer 8 with
    | none => rfl
    | some numUnit =>
      simp only [Option.bind_some]
      rw [readMany_map unit_named]
      cases readMany (namedUnit buffer) numUnit.1.toNat numUnit.2 with
      | none => rfl
      | some found => rfl

theorem named_placed {named : List (UInt32 × VirtualOcssdUnit)} {last : Nat} :
    namedUnits buffer = some (named,last) ↔ ∃ numUnit : UInt32,Carries buffer 8 (leBytes 4 numUnit.toNat) ∧
      named.length = numUnit.toNat ∧ Placed (UnitAt buffer) 12 named last := by
  constructor
  · intro read
    obtain ⟨⟨numUnit,p⟩,word,units⟩ := Option.bind_eq_some_iff.mp read
    obtain ⟨count,rfl⟩ := data4_iff.mp word
    exact ⟨numUnit,count,(readMany_iff fun _ _ _ => namedUnit_iff).mp units⟩
  · rintro ⟨numUnit,count,placed⟩
    rw [namedUnits,data4_read count]
    exact (readMany_iff fun _ _ _ => namedUnit_iff).mpr placed

theorem magic_inside_iff (magic : Carries buffer 0 (leBytes 4 serializeMagic.toNat)) (vssd : VirtualOcssd) :
    StaysInside vssd buffer ↔ Complete buffer := by
  constructor
  · rintro ⟨after,ret,read,inside⟩
    rw [vssd_fields magic] at read
    obtain ⟨⟨id,p⟩,word,read⟩ := Option.bind_eq_some_iff.mp read
    obtain ⟨⟨named,last⟩,units,read⟩ := Option.bind_eq_some_iff.mp read
    cases read
    obtain ⟨numUnit,count,size,placed⟩ := named_placed.mp units
    have started := (placed.between (fun _ _ _ => unit_bound) (word_bound count)).1
    rcases inside with zero | ⟨_,other,_,again,_,short⟩
    · dsimp only at zero
      omega
    · rw [units] at again
      cases again
      refine ⟨id,numUnit,named,last,?_,size,placed,short⟩
      simp only [carries_append,leBytes_length]
      exact ⟨magic,(data4_iff.mp word).1,count⟩
  · rintro ⟨id,numUnit,named,last,words,size,placed,short⟩
    simp only [carries_append,leBytes_length] at words
    obtain ⟨_,second,third⟩ := words
    have units := named_placed.mpr ⟨numUnit,third,size,placed⟩
    refine ⟨⟨id,vssd.units ++ named.map (·.2)⟩,last,?_,.inr ⟨?_,named,last,units,rfl,short⟩⟩
    · rw [vssd_fields magic,data4_read second,units]
      rfl
    · exact (placed.between (fun _ _ _ => unit_bound) (word_bound third)).2

end Layout

-- The decoder stays inside the bytes it is given exactly where they begin with
-- another magic or with a whole message.
theorem decoding_inside_iff (vssd : VirtualOcssd) (buffer : List UInt8) :
    StaysInside vssd buffer ↔ OtherMagic buffer ∨ Complete buffer := by
  by_cases magic : Carries buffer 0 (leBytes 4 serializeMagic.toNat)
  · rw [magic_inside_iff magic]
    exact ⟨.inr,fun either => either.resolve_left fun other => other.2 magic⟩
  · have whole : ¬ Complete buffer := by
      rintro ⟨id,numUnit,named,last,words,_⟩
      exact magic (carries_append.mp words).1
    constructor
    · rintro ⟨after,ret,read,_⟩
      obtain ⟨word,first,_⟩ := Option.bind_eq_some_iff.mp read
      exact .inl ⟨word_bound (data4_canonical first).2,magic⟩
    · intro either
      obtain ⟨long,_⟩ := either.resolve_right whole
      obtain ⟨word,first⟩ : ∃ word,deserializeData4 buffer 0 = some word := by
        rw [deserializeData4,readLe,if_pos long]
        exact ⟨_,rfl⟩
      have other : word.1 ≠ serializeMagic := fun same => magic (same ▸ (data4_canonical first).2)
      refine ⟨vssd,0,?_,.inl rfl⟩
      rw [VirtualOcssd.deserialize,first]
      exact if_pos other

-- A reply cut after its magic, and a whole reply with one unit whose name is
-- declared empty and reads on to the first zero behind it.
def overlong : List UInt8 :=
  [2,0x65,0,0,0,0,0,0,1,0,0,0,0,0,0,0,97] ++ List.replicate 75 0

theorem cut_reply_read_past :
    VirtualOcssd.new.deserialize [2,0x65,0,0] = none ∧ ¬ StaysInside .new [2,0x65,0,0] ∧
      (namedUnits overlong).map (fun found => found.1.map fun entry => (entry.1,entry.2.devName)) = some [(0,[97])] ∧
      ¬ StaysInside .new overlong := by
  have cut : VirtualOcssd.new.deserialize [2,0x65,0,0] = none := by decide +kernel
  have names : (namedUnits overlong).map (fun found => found.1.map fun entry => (entry.1,entry.2.devName)) =
      some [(0,[97])] := by decide +kernel
  have returns : (VirtualOcssd.new.deserialize overlong).map (·.2) = some 92 := by decide +kernel
  refine ⟨cut,?_,names,?_⟩
  · rintro ⟨after,ret,read,_⟩
    rw [cut] at read
    cases read
  · rintro ⟨after,ret,read,inside⟩
    rw [read] at returns
    rcases inside with zero | ⟨_,named,last,units,_,short⟩
    · cases returns
      cases zero
    · rw [units] at names
      obtain ⟨entry,rest,rfl⟩ : ∃ entry rest,named = entry :: rest := by
        cases named with
        | nil => cases names
        | cons entry rest => exact ⟨entry,rest,rfl⟩
      obtain ⟨same,_⟩ := List.cons.inj (Option.some.inj names)
      obtain ⟨declared,name⟩ := Prod.mk.inj same
      have bound := short entry List.mem_cons_self
      rw [declared,name] at bound
      revert bound
      decide

end OcssdServer.DecodingBounds
