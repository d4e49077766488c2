import OcssdServer.VblkSweep
import OcssdServer.RequestRows

namespace OcssdServer.SweepCoverage
open RequestRows

-- The sizes a sweep of `total` bytes is about: `size` doubled `k` times neither
-- exceeds nor fails to divide them.
def Due (size total k : Nat) : Prop := size*2^k ≤ total ∧ size*2^k ∣ total

-- One round for each of those sizes, each of requests that together cover
-- exactly the block, and a regular end.
structure Covers (size total : Nat) (swept : Swept) : Prop where
  ended : swept.ending = .done
  sizes : ∃ rounds,(∀ k < rounds,Due size total k) ∧ ¬ Due size total rounds ∧
    swept.rounds.map (·.size) = (List.range rounds).map fun k => ((size*2^k : Nat) : Int)
  counts : ∀ round ∈ swept.rounds,(round.requests.length : Int) = total/round.size
  covered : ∀ round ∈ swept.rounds,∀ byte,Covered round.requests byte ↔ byte < total

-- What liblightnvm promises of a block of `total` bytes: a request of whole units,
-- at a whole unit and inside the block, is served in full.
def Serves (unit total : Nat) (transfer : UInt64 → UInt64 → Int) : Prop :=
  ∀ pos size : UInt64,unit ∣ pos.toNat → unit ∣ size.toNat → pos.toNat+size.toNat ≤ total →
    transfer pos size = size.toNat

section Loops
variable {asserts : Bool} {transfer : UInt64 → UInt64 → Int} {unit size total : Nat}

theorem sizeT_natCast (word : size < 2^64) : (UInt64.ofInt size).toNat = size := by
  rw [UInt64.ofInt,UInt64.toNat_ofNat']
  omega

theorem issued_row (serves : Serves unit total transfer) (word : total < 2^64) {size pos : UInt64}
    (whole : unit ∣ size.toNat) (aligned : unit ∣ pos.toNat) (count : Nat)
    (inside : pos.toNat+count*size.toNat ≤ total) :
    (issueRequests transfer size count pos).1 = row pos.toNat size.toNat count ∧
      (issueRequests transfer size count pos).2.toNat = pos.toNat+count*size.toNat := by
  induction count generalizing pos with
  | zero => exact ⟨rfl,by simp [issueRequests]⟩
  | succ count ih =>
    rw [Nat.succ_mul] at inside
    have served : transfer pos size = size.toNat := serves pos size aligned whole (by omega)
    have moved : (if transfer pos size < 0 then pos else pos+UInt64.ofInt (transfer pos size)) = pos+size := by
      rw [served,if_neg (by omega),UInt64.toNat_inj.mp (sizeT_natCast size.toNat_lt)]
    have next : (pos+size).toNat = pos.toNat+size.toNat := by
      rw [UInt64.toNat_add,Nat.mod_eq_of_lt (by omega)]
    obtain ⟨requests,position⟩ := ih (next ▸ Nat.dvd_add aligned whole)
      (by rw [next]; omega : (pos+size).toNat+count*size.toNat ≤ total)
    rw [next] at requests position
    refine ⟨?_,?_⟩
    · rw [issueRequests,moved,row,requests]
    · rw [issueRequests,moved,position,Nat.succ_mul]
      omega

theorem due_zero : Due size total 0 ↔ size ≤ total ∧ size ∣ total := by
  rw [Due,Nat.pow_zero,Nat.mul_one]

theorem due_double (k : Nat) : Due (size*2) total k ↔ Due size total (k+1) := by
  have same : size*2*2^k = size*2^(k+1) := by rw [Nat.pow_succ,Nat.mul_assoc,Nat.mul_comm 2]
  rw [Due,Due,same]

theorem Covers.cons (divides : size ∣ total) (below : size ≤ total) {later : Swept}
    (covers : Covers (size*2) total later) :
    Covers size total ⟨⟨size,row 0 size (total/size)⟩ :: later.rounds,later.ending⟩ := by
  have whole := Nat.div_mul_cancel divides
  refine ⟨covers.ended,?_,?_,?_⟩
  · obtain ⟨rounds,due,beyond,sizes⟩ := covers.sizes
    refine ⟨rounds+1,?_,fun last => beyond ((due_double rounds).mpr last),?_⟩
    · intro k few
      cases k with
      | zero => exact ⟨by simpa using below,by simpa using divides⟩
      | succ k => exact (due_double k).mp (due k (Nat.lt_of_succ_lt_succ few))
    · rw [List.map_cons,sizes,List.range_succ_eq_map,List.map_cons,List.map_map]
      refine congrArg₂ List.cons (by simp) (List.map_congr_left fun k _ => ?_)
      rw [Function.comp_apply,Nat.succ_eq_add_one,Nat.pow_succ,Nat.mul_assoc,Nat.mul_comm 2]
  · intro round member
    rcases List.mem_cons.mp member with rfl | later'
    · rw [row_length]
      exact Int.natCast_ediv total size
    · exact covers.counts round later'
  · intro round member
    rcases List.mem_cons.mp member with rfl | later'
    · intro byte
      rw [row_covered_iff,whole,Nat.zero_add]
      exact and_iff_right (Nat.zero_le byte)
    · exact covers.covered round later'

theorem covers_none (beyond : ¬ Due size total 0) : Covers size total ⟨[],.done⟩ :=
  ⟨rfl,⟨0,nofun,beyond,rfl⟩,nofun,nofun⟩

theorem issued_length {size pos : UInt64} (count : Nat) :
    (issueRequests transfer size count pos).1.length = count := by
  induction count generalizing pos with
  | zero => rfl
  | succ count ih => rw [issueRequests,List.length_cons,ih]

-- What a sweep begins with, whatever the sizes: also those that the conversion to
-- int made negative or zero.
theorem sweep_cases (asserts : Bool) (transfer : UInt64 → UInt64 → Int) (ended started : Int) :
    (sweepLoop asserts transfer ended started = ⟨[],.done⟩ ∧
        (ended < started ∨ (started ≠ 0 ∧ ¬ started ∣ ended))) ∨
      (sweepLoop asserts transfer ended started = ⟨[],.undefined⟩ ∧ started ≤ ended ∧ started = 0) ∨
      (started ≤ ended ∧ started ≠ 0 ∧ started ∣ ended ∧ ∃ requests later ending,
        sweepLoop asserts transfer ended started = ⟨⟨started,requests⟩ :: later,ending⟩ ∧
          requests.length = (ended.tdiv started).toNat) := by
  rw [sweepLoop]
  by_cases below : started ≤ ended
  · rw [if_pos below]
    by_cases zero : started = 0
    · rw [if_pos zero]
      exact .inr (.inl ⟨rfl,below,zero⟩)
    · rw [if_neg zero]
      by_cases even : ended.tmod started = 0
      · rw [if_pos even]
        let requests := (issueRequests transfer (UInt64.ofInt started) (ended.tdiv started).toNat 0).1
        refine .inr (.inr ⟨below,zero,Int.dvd_of_tmod_eq_zero even,requests,?_⟩)
        dsimp only
        split
        · split
          · exact ⟨_,_,rfl,issued_length _⟩
          · exact ⟨_,_,rfl,issued_length _⟩
        · exact ⟨_,_,rfl,issued_length _⟩
      · rw [if_neg even]
        exact .inl ⟨rfl,.inr ⟨zero,fun divides => even (Int.tmod_eq_zero_of_dvd divides)⟩⟩
  · rw [if_neg below]
    exact .inl ⟨rfl,.inl (by omega)⟩

theorem sweep_none_iff {ended started : Int} : sweepLoop asserts transfer ended started = ⟨[],.done⟩ ↔
    ended < started ∨ (started ≠ 0 ∧ ¬ started ∣ ended) := by
  rcases sweep_cases asserts transfer ended started with
    ⟨none,stops⟩ | ⟨undefined,below,zero⟩ | ⟨below,_,divides,_,_,_,first,_⟩
  · exact iff_of_true none stops
  · rw [undefined]
    refine iff_of_false nofun ?_
    omega
  · rw [first]
    refine iff_of_false nofun ?_
    rintro (above | ⟨_,uneven⟩)
    · omega
    · exact uneven divides

-- The requests of a round of a size that divides the block; the position comes to
-- rest where the assertion of the write test wants it.
theorem round_issued (serves : Serves unit total transfer) (whole : unit ∣ size) (below : size ≤ total)
    (divides : size ∣ total) (narrow : total < 2^31) :
    issueRequests transfer (UInt64.ofInt size) ((total : Int).tdiv size).toNat 0 =
      (row 0 size (total/size),UInt64.ofInt total) := by
  have length : (UInt64.ofInt (size : Int)).toNat = size := sizeT_natCast (by omega)
  have origin : (0 : UInt64).toNat = 0 := rfl
  have count : ((total : Int).tdiv size).toNat = total/size := by
    rw [← Int.ofNat_tdiv,Int.toNat_natCast]
  have filled := Nat.div_mul_cancel divides
  have issued := issued_row serves (by omega) (length.symm ▸ whole) (origin.symm ▸ Nat.dvd_zero unit) (total/size)
    (by rw [origin,length,filled]; omega)
  rw [length,origin,Nat.zero_add,filled] at issued
  rw [count]
  exact Prod.ext issued.1 (UInt64.toNat_inj.mp (issued.2.trans (sizeT_natCast (by omega)).symm))

theorem sweep_round (serves : Serves unit total transfer) (whole : unit ∣ size) (positive : 0 < size)
    (below : size ≤ total) (divides : size ∣ total) (narrow : total < 2^31) :
    sweepLoop asserts transfer total size =
      let round : SweepRound := ⟨size,row 0 size (total/size)⟩
      if size*2 < 2^31 then
        let later := sweepLoop asserts transfer total (size*2 : Nat)
        ⟨round :: later.rounds,later.ending⟩
      else ⟨[round],.undefined⟩ := by
  have even : (total : Int).tmod size = 0 := by
    rw [← Int.ofNat_tmod,Nat.mod_eq_zero_of_dvd divides,Int.natCast_zero]
  rw [sweepLoop,if_pos (by omega),if_neg (by omega),if_pos even,round_issued serves whole below divides narrow]
  by_cases fits : size*2 < 2^31
  · have inside : fitsInt ((size : Int)*2) := ⟨by omega,by omega⟩
    simp only [dif_pos inside,if_pos fits,ne_eq,not_true_eq_false,and_false,if_false,Int.natCast_mul,Int.cast_ofNat_Int]
  · have outside : ¬ fitsInt ((size : Int)*2) := fun inside => fits (by have := inside.2; omega)
    simp only [dif_neg outside,if_neg fits]

theorem whole_of_half (half : total < size*2) (below : size ≤ total) (divides : size ∣ total) : total = size := by
  have rest : size ∣ total-size := Nat.dvd_sub divides (Nat.dvd_refl size)
  have none' := Nat.eq_zero_of_dvd_of_lt rest (by omega)
  omega

-- Strong induction on what is left above the size. The doubling leaves int only
-- where the size is the whole block.
theorem sweep_covers {size : Nat} (serves : Serves unit total transfer) (whole : unit ∣ size)
    (positive : 0 < size) (narrow : total < 2^31) (short : ¬ (2^30 ≤ total ∧ ∃ k,total = size*2^k)) :
    Covers size total (sweepLoop asserts transfer total size) := by
  by_cases due : Due size total 0
  · obtain ⟨below,divides⟩ := due_zero.mp due
    have fits : size*2 < 2^31 := by
      by_contra wide
      have same : total = size := whole_of_half (by omega) below divides
      exact short ⟨by omega,0,by rw [same,Nat.pow_zero,Nat.mul_one]⟩
    have later : Covers (size*2) total (sweepLoop asserts transfer total (size*2 : Nat)) := by
      refine sweep_covers serves (Dvd.dvd.mul_right whole 2) (by omega) narrow ?_
      rintro ⟨long,k,power⟩
      exact short ⟨long,k+1,by rw [power,Nat.pow_succ,Nat.mul_assoc,Nat.mul_comm 2]⟩
    rw [sweep_round serves whole positive below divides narrow]
    simpa only [if_pos fits] using later.cons divides below
  · have idle : (total : Int) < size ∨ ((size : Int) ≠ 0 ∧ ¬ (size : Int) ∣ total) := by
      rw [due_zero] at due
      rw [Int.natCast_dvd_natCast]
      by_cases below : size ≤ total
      · exact .inr ⟨by omega,fun divides => due ⟨below,divides⟩⟩
      · exact .inl (by omega)
    rw [sweep_none_iff.mpr idle]
    exact covers_none due
termination_by total+1-size

theorem sweep_overflows (serves : Serves unit total transfer) (whole : unit ∣ size) (positive : 0 < size)
    (narrow : total < 2^31) (long : 2^30 ≤ total) {k : Nat} (power : total = size*2^k) :
    (sweepLoop asserts transfer total size).ending = .undefined := by
  induction k generalizing size with
  | zero =>
    have same : total = size := by simpa using power
    rw [sweep_round serves whole positive same.ge (by rw [same]) narrow]
    simp only [if_neg (by omega : ¬ size*2 < 2^31)]
  | succ k ih =>
    have doubled : total = size*2*2^k := by rw [power,Nat.pow_succ,Nat.mul_assoc,Nat.mul_comm 2]
    have divides : size*2 ∣ total := ⟨2^k,doubled⟩
    have below := Nat.le_of_dvd (by omega) divides
    rw [sweep_round serves whole positive (by omega) (dvd_of_mul_right_dvd divides) narrow]
    simp only [if_pos (by omega : size*2 < 2^31)]
    exact ih (Dvd.dvd.mul_right whole 2) (by omega) doubled

theorem Covers.first (due : Due size total 0) {swept : Swept} (covers : Covers size total swept) :
    ∃ round later,swept.rounds = round :: later ∧ round.size = size := by
  obtain ⟨count,_,beyond,sizes⟩ := covers.sizes
  cases count with
  | zero => exact absurd due beyond
  | succ count =>
    rw [List.range_succ_eq_map,List.map_cons] at sizes
    obtain ⟨round,later,rounds,first,_⟩ := List.map_eq_cons_iff.mp sizes
    exact ⟨round,later,rounds,by rw [first,Nat.pow_zero,Nat.mul_one]⟩

theorem covers_none_iff (beyond : ¬ Due size total 0) {swept : Swept} :
    Covers size total swept ↔ swept = ⟨[],.done⟩ := by
  constructor
  · intro covers
    obtain ⟨count,due,_,sizes⟩ := covers.sizes
    cases count with
    | zero => exact Swept.mk.injEq .. ▸ ⟨List.map_eq_nil_iff.mp sizes,covers.ended⟩
    | succ count => exact absurd (due 0 (Nat.succ_pos count)) beyond
  · rintro rfl
    exact covers_none beyond

def narrowed (bytes : Nat) : Int := (BitVec.ofNat 32 bytes).toInt

theorem narrowed_lt (bytes : Nat) : narrowed bytes < 2^31 := by
  have half : 2*narrowed bytes < 2^32 := BitVec.two_mul_toInt_lt
  omega

theorem narrowed_of_lt {bytes : Nat} (narrow : bytes < 2^31) : narrowed bytes = bytes := by
  rw [narrowed,BitVec.toInt_ofNat']
  exact Int.bmod_eq_of_le (by omega) (by omega)

theorem narrow_of_covers {ended started : Int} (positive : 0 < size) (due : Due size total 0) (narrow : ended < 2^31)
    (covers : Covers size total (sweepLoop asserts transfer ended started)) : total < 2^31 := by
  obtain ⟨round,later,rounds,same⟩ := covers.first due
  have counts := covers.counts round (by rw [rounds]; exact List.mem_cons_self)
  rcases sweep_cases asserts transfer ended started with
    ⟨none,_⟩ | ⟨undefined,_⟩ | ⟨below,_,divides,requests,_,_,first,length⟩
  · rw [none] at rounds
    cases rounds
  · rw [undefined] at rounds
    cases rounds
  · rw [first] at rounds
    cases rounds
    change started = size at same
    subst same
    change (requests.length : Int) = total/size at counts
    obtain ⟨ended,rfl⟩ := Int.eq_ofNat_of_zero_le (by omega : 0 ≤ ended)
    rw [length,← Int.ofNat_tdiv,Int.toNat_natCast] at counts
    have equal : ended/size = total/size := by exact_mod_cast counts
    have whole : total/size*size = total := Nat.div_mul_cancel (due_zero.mp due).2
    have part : ended/size*size ≤ ended := Nat.div_mul_le_self ended size
    rw [equal,whole] at part
    omega

-- When a test sweeps the block: where a round is due, there is a buffer, the block
-- stays below 2^31 bytes and no doubling reaches 2^31; where none is due, the
-- narrowed sizes start none either.
def InRange (buffered : Bool) (unit total : Nat) : Prop :=
  (Due unit total 0 → buffered = true ∧ total < 2^31 ∧ ¬ (2^30 ≤ total ∧ ∃ k,total = unit*2^k)) ∧
    (¬ Due unit total 0 → buffered = true →
      narrowed total < narrowed unit ∨ (narrowed unit ≠ 0 ∧ ¬ narrowed unit ∣ narrowed total))

theorem sweep_covers_iff (asserts buffered : Bool) (positive : 0 < unit) (serves : Serves unit total transfer) :
    Covers unit total
        (if buffered then sweepLoop asserts transfer (narrowed total) (narrowed unit) else ⟨[],.done⟩) ↔
      InRange buffered unit total := by
  by_cases due : Due unit total 0
  · have below := (due_zero.mp due).1
    constructor
    · intro covers
      refine ⟨fun _ => ?_,fun beyond => absurd due beyond⟩
      cases buffered with
      | false =>
        obtain ⟨_,_,rounds,_⟩ := covers.first due
        cases rounds
      | true =>
        rw [if_pos rfl] at covers
        have narrow := narrow_of_covers positive due (narrowed_lt total) covers
        refine ⟨rfl,narrow,?_⟩
        rintro ⟨long,k,power⟩
        have ended := covers.ended
        rw [narrowed_of_lt narrow,narrowed_of_lt (by omega),
          sweep_overflows serves (Nat.dvd_refl unit) positive narrow long power] at ended
        cases ended
    · rintro ⟨fitting,_⟩
      obtain ⟨present,narrow,short⟩ := fitting due
      rw [if_pos present,narrowed_of_lt narrow,narrowed_of_lt (by omega)]
      exact sweep_covers serves (Nat.dvd_refl unit) positive narrow short
  · rw [covers_none_iff due]
    cases buffered with
    | false => exact iff_of_true rfl ⟨fun also => absurd also due,nofun⟩
    | true =>
      rw [if_pos rfl,sweep_none_iff,InRange]
      exact ⟨fun idle => ⟨fun also => absurd also due,fun _ _ => idle⟩,fun fitting => fitting.2 due rfl⟩

end Loops

section Tests
variable {bench : VblkBench} {geo : NvmGeo} {channels : List Nat}

def unitBytes (geo : NvmGeo) : Nat := geo.nplanes.toNat*geo.nsectors.toNat*geo.sectorNbytes.toNat

def blockBytes (bench : VblkBench) (geo : NvmGeo) (channels : List Nat) : Nat :=
  (bench.nbytes (sweepUnits geo channels)).toNat

theorem endSize_narrowed (size : UInt64) : intOfSize size = narrowed size.toNat := by
  have low : size.toUInt32.toBitVec = BitVec.ofNat 32 size.toNat := rfl
  exact congrArg BitVec.toInt low

-- The product of the three sizes is taken in size_t.
theorem startSize_narrowed (geo : NvmGeo) : startSize geo = narrowed (unitBytes geo) := by
  have product : (geo.nplanes*geo.nsectors*geo.sectorNbytes).toNat = unitBytes geo % 2^64 := by
    rw [UInt64.toNat_mul,UInt64.toNat_mul,Nat.mod_mul_mod,unitBytes]
  have low : BitVec.ofNat 32 (unitBytes geo % 2^64) = BitVec.ofNat 32 (unitBytes geo) := by
    refine BitVec.eq_of_toNat_eq ?_
    rw [BitVec.toNat_ofNat,BitVec.toNat_ofNat]
    exact Nat.mod_mod_of_dvd _ (Nat.pow_dvd_pow 2 (by omega))
  rw [startSize,endSize_narrowed,product]
  exact congrArg BitVec.toInt low

def buffered (bench : VblkBench) (geo : NvmGeo) (channels : List Nat) : Bool :=
  bench.buffer (UInt64.ofInt (narrowed (blockBytes bench geo channels)))

theorem test_covers_iff (asserts : Bool) (positive : 0 < unitBytes geo)
    (serves : Serves (unitBytes geo) (blockBytes bench geo channels) (bench.transfer (sweepUnits geo channels))) :
    Covers (unitBytes geo) (blockBytes bench geo channels) (testVblk asserts bench geo channels) ↔
      InRange (buffered bench geo channels) (unitBytes geo) (blockBytes bench geo channels) := by
  rw [← sweep_covers_iff asserts (buffered bench geo channels) positive serves,testVblk,endSize_narrowed,
    startSize_narrowed]
  rfl

theorem tests_cover_iff (positive : 0 < unitBytes geo)
    (serves : Serves (unitBytes geo) (blockBytes bench geo channels) (bench.transfer (sweepUnits geo channels))) :
    (Covers (unitBytes geo) (blockBytes bench geo channels) (testVblkWrite bench geo channels) ∧
      Covers (unitBytes geo) (blockBytes bench geo channels) (testVblkRead bench geo channels)) ↔
      InRange (buffered bench geo channels) (unitBytes geo) (blockBytes bench geo channels) := by
  have written := test_covers_iff true positive serves
  have readBack := test_covers_iff false positive serves
  exact ⟨fun both => written.mp both.1,fun fits => ⟨written.mpr fits,readBack.mpr fits⟩⟩

end Tests

-- A device of one plane of four sectors of four bytes, and one with the sizes of a
-- real one; both with units of some size that are always there.
def smallGeo : NvmGeo := ⟨1,2,1,1,2,4,16,4,0⟩
def largeGeo : NvmGeo := ⟨16,4,2,1024,512,4,16384,4096,64⟩

def unitBench (unitNbytes : UInt64) : VblkBench where
  nbytes := fun units => UInt64.ofNat units.length*unitNbytes
  buffer := fun _ => true
  transfer := fun units pos size =>
    if pos.toNat+size.toNat ≤ (UInt64.ofNat units.length*unitNbytes).toNat then size.toNat else -1

theorem unitBench_serves (unitNbytes : UInt64) (geo : NvmGeo) (channels : List Nat) :
    Serves (unitBytes geo) (blockBytes (unitBench unitNbytes) geo channels)
      ((unitBench unitNbytes).transfer (sweepUnits geo channels)) :=
  fun _ _ _ _ inside => if_pos inside

theorem small_block_swept : Covers 16 64 (testVblkWrite (unitBench 32) smallGeo [0]) ∧
    Covers 16 64 (testVblkRead (unitBench 32) smallGeo [0]) :=
  (tests_cover_iff (by decide : 0 < unitBytes smallGeo) (unitBench_serves 32 smallGeo [0])).mpr
    ⟨fun _ => ⟨rfl,by decide,fun large => absurd large.1 (by decide)⟩,
      fun beyond => absurd (due_zero.mpr (by decide)) beyond⟩

-- The sixteen channels have 64 units of 2^24 bytes. The round of 2^30 bytes is the
-- last, and start_size is doubled to 2^31 after it.
theorem large_block_overflows : 0 < unitBytes largeGeo ∧
    Serves (unitBytes largeGeo) (blockBytes (unitBench (2^24)) largeGeo (List.range 16))
      ((unitBench (2^24)).transfer (sweepUnits largeGeo (List.range 16))) ∧
    ¬ Covers (unitBytes largeGeo) (blockBytes (unitBench (2^24)) largeGeo (List.range 16))
      (testVblkWrite (unitBench (2^24)) largeGeo (List.range 16)) := by
  have positive : 0 < unitBytes largeGeo := by decide
  have serves := unitBench_serves (2^24) largeGeo (List.range 16)
  have unit : unitBytes largeGeo = 2^15 := by decide
  have total : blockBytes (unitBench (2^24)) largeGeo (List.range 16) = 2^30 := by decide
  refine ⟨positive,serves,fun covers => ?_⟩
  have fits := (test_covers_iff true positive serves).mp covers
  rw [unit,total] at fits
  exact (fits.1 (due_zero.mpr (by omega))).2.2 ⟨Nat.le_refl _,15,by omega⟩

end OcssdServer.SweepCoverage
