import OcssdServer.DeviceEffects
import OcssdServer.RequestRows

namespace OcssdServer.BlockAudit
open ByteBuffers Attempts RequestRows DeviceEffects

-- One block of `size` bytes and what has been done to it: how many calls there
-- were, whether an erase succeeded, how far the writes and the reads have come
-- and the requests of those that succeeded.
structure Audit where
  calls : Nat
  erased : Bool
  writePos : Nat
  readPos : Nat
  writes : List (Nat × Nat)
  reads : List (Nat × Nat)
deriving DecidableEq, Repr

def Audit.fresh : Audit := ⟨0,false,0,0,[],[]⟩

-- A negative result is a failure; any other write or read of s bytes advances
-- its position by s.
def audited (size : UInt64) (results : Nat → Int) : Lightnvm Audit Unit Unit where
  chBits := 8
  lunBits := 8
  blkBits := 16
  devOpen := fun _ audit => (some (),audit)
  devGetGeo := fun _ => ⟨0,0,0,0,0,0,0,0,0⟩
  vblkAlloc := fun _ _ audit => (some (),audit)
  vblkFree := fun _ audit => audit
  vblkGetNbytes := fun _ _ => size
  vblkErase := fun _ audit =>
    let ret := results audit.calls
    (ret,{audit with calls := audit.calls+1,erased := audit.erased || decide (0 ≤ ret)})
  vblkWrite := fun _ data audit =>
    let ret := results audit.calls
    let audit := {audit with calls := audit.calls+1}
    (ret,if ret < 0 then audit else
      {audit with
        writePos := audit.writePos+data.length
        writes := audit.writes ++ [(audit.writePos,data.length)]})
  vblkRead := fun _ buf count audit =>
    let ret := results audit.calls
    let audit := {audit with calls := audit.calls+1}
    ((ret,buf),if ret < 0 then audit else
      {audit with
        readPos := audit.readPos+count.toNat
        reads := audit.reads ++ [(audit.readPos,count.toNat)]})
  vblkPread := fun _ buf _ _ audit => ((-1,buf),audit)
  bufAlloc := fun _ _ _ => fun _ => 0
  malloc := fun _ _ => fun _ => 0

-- Erased, and every byte of the block written and read back, by calls that all
-- succeeded.
structure Tested (size : UInt64) (results : Nat → Int) (audit : Audit) : Prop where
  erased : audit.erased = true
  written : ∀ byte < size.toNat,Covered audit.writes byte
  readBack : ∀ byte < size.toNat,Covered audit.reads byte
  succeeded : ∀ k < audit.calls,0 ≤ results k

section Loops
variable (size : UInt64) (results : Nat → Int) (blk : Option Unit) (reqSize : UInt64) (count : Nat)

theorem writes_audited (buf : Memory) (session : Session Audit Unit) :
    let from' := session.world.calls
    let r := testWrites (audited size results) blk buf reqSize count session
    ((∃ i < count,results (from'+i) < 0) ∧ r.1 < 0) ∨
      ((∀ i < count,0 ≤ results (from'+i)) ∧ r.1 = 0 ∧ r.2.world = {session.world with
        calls := from'+count
        writePos := session.world.writePos+count*reqSize.toNat
        writes := session.world.writes ++ row session.world.writePos reqSize.toNat count}) := by
  dsimp only
  rw [testWrites_attempts]
  let after (k : Nat) : Audit := {session.world with
    calls := session.world.calls+k
    writePos := session.world.writePos+k*reqSize.toNat
    writes := session.world.writes ++ row session.world.writePos reqSize.toNat k}
  have cases' := @attempts_cases _ (vblkWrite (audited size results) blk (load buf 0 reqSize.toNat))
    (fun k => results (session.world.calls+k)) (fun k s => s.world = after k) ?_ count 0 session ?_
  · simpa only [Nat.zero_add] using cases'
  · intro k s here
    have result : (vblkWrite (audited size results) blk (load buf 0 reqSize.toNat) s).1 =
        results (session.world.calls+k) := by
      rw [vblkWrite,Session.call,audited,here]
    refine ⟨result,fun passed => ?_⟩
    have good : ¬ results (session.world.calls+k) < 0 := Int.not_lt.mpr passed
    simp only [vblkWrite,Session.call,audited,here,after,good,if_false,load_length,row_succ,List.append_assoc,
      Nat.succ_mul,Nat.add_assoc]
  · simp [after,row]

theorem reads_audited (buf : Memory) (session : Session Audit Unit) :
    let from' := session.world.calls
    let r := testReads (audited size results) blk reqSize count buf session
    ((∃ i < count,results (from'+i) < 0) ∧ r.1 < 0) ∨
      ((∀ i < count,0 ≤ results (from'+i)) ∧ r.1 = 0 ∧ r.2.world = {session.world with
        calls := from'+count
        readPos := session.world.readPos+count*reqSize.toNat
        reads := session.world.reads ++ row session.world.readPos reqSize.toNat count}) := by
  dsimp only
  rw [testReads_attempts]
  let after (k : Nat) : Audit := {session.world with
    calls := session.world.calls+k
    readPos := session.world.readPos+k*reqSize.toNat
    reads := session.world.reads ++ row session.world.readPos reqSize.toNat k}
  have cases' := @attempts_cases _ (readOnce (audited size results) blk reqSize)
    (fun k => results (session.world.calls+k)) (fun k s => s.2.world = after k) ?_ count 0 (buf,session) ?_
  · simpa only [Nat.zero_add] using cases'
  · intro k s here
    have result : (readOnce (audited size results) blk reqSize s).1 = results (session.world.calls+k) := by
      rw [readOnce,vblkRead,Session.call,audited,here]
    refine ⟨result,fun passed => ?_⟩
    have good : ¬ results (session.world.calls+k) < 0 := Int.not_lt.mpr passed
    simp only [readOnce,vblkRead,Session.call,audited,here,after,good,if_false,row_succ,List.append_assoc,
      Nat.succ_mul,Nat.add_assoc]
  · simp [after,row]

end Loops

-- The number of requests is computed in an int.
def requests (size : UInt64) : Nat := (intOfSize (size/262144)).toNat

theorem requests_cover_iff (size : UInt64) :
    size.toNat ≤ requests size*262144 ↔ 262144 ∣ size.toNat ∧ size.toNat/262144 < 2^31 := by
  have word := size.toNat_lt
  have quotient : (size/262144).toNat = size.toNat/262144 := UInt64.toNat_div size 262144
  rw [requests,intOfSize_eq,quotient]
  split
  · rw [Int.toNat_natCast]
    omega
  · omega

section Blocks
variable (size : UInt64) (results : Nat → Int) (geo : NvmGeo) (manager : OcssdManager) (events : List (Event Unit))

inductive Outcome : Int × Audit → Prop where
  | unerased (erase : results 0 ≠ 0) : Outcome (results 0,{Audit.fresh with calls := 1,erased := decide (0 ≤ results 0)})
  | refused (erase : results 0 = 0) (ret : Int) (audit : Audit) (negative : ret < 0)
      (bad : ∃ k,1 ≤ k ∧ k ≤ 2*requests size ∧ results k < 0) : Outcome (ret,audit)
  | passed (erase : results 0 = 0) (good : ∀ k,1 ≤ k → k ≤ 2*requests size → 0 ≤ results k) :
      Outcome (0,⟨1+2*requests size,true,requests size*262144,requests size*262144,
        row 0 262144 (requests size),row 0 262144 (requests size)⟩)

theorem loops_good {count : Nat} (written : ∀ i < count,0 ≤ results (1+i))
    (readBack : ∀ i < count,0 ≤ results (1+count+i)) : ∀ k,1 ≤ k → k ≤ 2*count → 0 ≤ results k := by
  intro k from' until'
  by_cases early : k ≤ count
  · have here := written (k-1) (by omega)
    rwa [show 1+(k-1) = k by omega] at here
  · have here := readBack (k-1-count) (by omega)
    rwa [show 1+count+(k-1-count) = k by omega] at here

theorem test_outcome :
    let r := nvmVblkTest (audited size results) geo (some ()) ⟨manager,.fresh,events⟩
    Outcome size results (r.1,r.2.world) := by
  have count : (intOfSize ((audited size results).vblkGetNbytes (some ()) Audit.fresh/262144)).toNat =
      requests size := rfl
  have ret : (vblkErase (audited size results) (some ()) ⟨manager,.fresh,events⟩).1 = results 0 := rfl
  have erased : (vblkErase (audited size results) (some ()) ⟨manager,.fresh,events⟩).2.world =
      {Audit.fresh with calls := 1,erased := decide (0 ≤ results 0)} := by
    simp [vblkErase,Session.call,audited,Audit.fresh]
  unfold nvmVblkTest
  dsimp only
  rw [count]
  generalize vblkErase (audited size results) (some ()) ⟨manager,.fresh,events⟩ = erasure at ret erased ⊢
  generalize (audited size results).bufAlloc geo 262144 erasure.2.world = buf
  by_cases erase : results 0 = 0
  · rw [if_neg (not_not.mpr (ret.trans erase))]
    have first := writes_audited size results (some ()) 262144 (requests size) buf erasure.2
    dsimp only at first
    rw [erased] at first
    generalize testWrites (audited size results) (some ()) buf 262144 (requests size) erasure.2 = written at first ⊢
    rcases first with ⟨⟨i,below,bad⟩,negative⟩ | ⟨good,zero,after⟩
    · rw [if_pos negative]
      exact .refused erase _ _ negative ⟨1+i,by omega,by omega,bad⟩
    · rw [if_neg (by omega)]
      have second := reads_audited size results (some ()) 262144 (requests size) buf written.2
      dsimp only at second
      rw [after] at second
      generalize testReads (audited size results) (some ()) 262144 (requests size) buf written.2 = back at second ⊢
      rcases second with ⟨⟨i,below,bad⟩,negative⟩ | ⟨good',zero',after'⟩
      · exact .refused erase _ _ negative ⟨1+requests size+i,by omega,by omega,bad⟩
      · have whole := Outcome.passed erase (loops_good results good good')
        rw [zero',after']
        simpa [Audit.fresh,erase,two_mul,Nat.add_assoc] using whole
  · rw [if_pos (fun zero => erase (ret.symm.trans zero)),ret,erased]
    exact .unerased erase

theorem unerased_tested_iff (accepted : 0 ≤ results 0) :
    Tested size results {Audit.fresh with calls := 1,erased := decide (0 ≤ results 0)} ↔ size = 0 := by
  constructor
  · intro tested
    by_contra some'
    have positive : 0 < size.toNat := Nat.pos_of_ne_zero fun zero => some' (UInt64.toNat_inj.mp zero)
    obtain ⟨_,member,_⟩ := tested.written 0 positive
    cases member
  · rintro rfl
    refine ⟨decide_eq_true accepted,nofun,nofun,?_⟩
    intro k below
    cases Nat.lt_one_iff.mp below
    exact accepted

theorem passed_tested_iff {count : Nat} (erase : results 0 = 0) (good : ∀ k,1 ≤ k → k ≤ 2*count → 0 ≤ results k) :
    Tested size results ⟨1+2*count,true,count*262144,count*262144,row 0 262144 count,row 0 262144 count⟩ ↔
      size.toNat ≤ count*262144 := by
  have rows := @row_covers_iff 262144 0 count size.toNat
  simp only [Nat.zero_le,true_imp_iff,Nat.zero_add] at rows
  constructor
  · intro tested
    exact rows.mp tested.written
  · intro enough
    refine ⟨rfl,rows.mpr enough,rows.mpr enough,?_⟩
    intro k below
    dsimp only at below
    rcases Nat.eq_zero_or_pos k with rfl | from'
    · exact Int.le_of_eq erase.symm
    · exact good k from' (by omega)

end Blocks

-- The test accepts only blocks that were erased, written and read back whole just
-- where the erase fails or the block is empty, or the erase returns exactly 0 and
-- either another call fails or the block is cut up evenly by few enough requests.
theorem accepted_tested_iff (size : UInt64) (results : Nat → Int) (geo : NvmGeo) (manager : OcssdManager)
    (events : List (Event Unit)) :
    let r := nvmVblkTest (audited size results) geo (some ()) ⟨manager,.fresh,events⟩
    (0 ≤ r.1 → Tested size results r.2.world) ↔
      results 0 < 0 ∨ size = 0 ∨ (results 0 = 0 ∧
        ((∃ k,1 ≤ k ∧ k ≤ 2*requests size ∧ results k < 0) ∨
          (262144 ∣ size.toNat ∧ size.toNat/262144 < 2^31))) := by
  have outcome := test_outcome size results geo manager events
  dsimp only at outcome ⊢
  generalize nvmVblkTest (audited size results) geo (some ()) ⟨manager,.fresh,events⟩ = r at outcome ⊢
  obtain ⟨ret,session⟩ := r
  obtain ⟨_,world,_⟩ := session
  dsimp only at outcome ⊢
  cases outcome with
  | unerased erase =>
    simp only [erase,false_and,or_false]
    rcases Int.lt_or_le (results 0) 0 with failed | accepted
    · exact iff_of_true (fun accepted => absurd accepted (Int.not_le.mpr failed)) (.inl failed)
    · rw [unerased_tested_iff size results accepted,imp_iff_right accepted,
        or_iff_right (Int.not_lt.mpr accepted)]
  | refused erase _ _ negative bad =>
    exact iff_of_true (fun accepted => absurd accepted (Int.not_le.mpr negative)) (.inr (.inr ⟨erase,.inl bad⟩))
  | passed erase good =>
    have none' : ¬ ∃ k,1 ≤ k ∧ k ≤ 2*requests size ∧ results k < 0 :=
      fun ⟨k,from',until',bad⟩ => Int.not_lt.mpr (good k from' until') bad
    have zero : size = 0 → size.toNat ≤ requests size*262144 := by
      rintro rfl
      exact Nat.zero_le _
    rw [passed_tested_iff size results erase good,imp_iff_right (Int.le_refl 0)]
    simp only [erase,Int.lt_irrefl,false_or,true_and,none',←requests_cover_iff size]
    rw [or_iff_right_of_imp zero]

-- A block of one request whose erase says how many bytes it erased.
theorem erased_block_untested :
    let r := nvmVblkTest (audited 262144 fun _ => 262144) ⟨5,1,1,4,1,1,1,1,0⟩ (some ())
      ⟨.ofDevices [],.fresh,[]⟩
    0 ≤ r.1 ∧ r.2.world.writes = [] ∧ r.2.world.reads = [] ∧
      ¬ (0 ≤ r.1 → Tested 262144 (fun _ => 262144) r.2.world) := by
  refine ⟨by decide,rfl,rfl,fun tested => ?_⟩
  obtain ⟨_,member,_⟩ := (tested (by decide)).written 0 (by decide)
  cases member

end OcssdServer.BlockAudit
