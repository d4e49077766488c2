import Mathlib.Data.List.Range
import Mathlib.Algebra.Order.Group.Nat

namespace RequestRows

def row (start size : Nat) : Nat → List (Nat × Nat)
  | 0 => []
  | count+1 => (start,size) :: row (start+size) size count

@[simp] theorem row_length (start size count : Nat) : (row start size count).length = count := by
  induction count generalizing start with
  | zero => rfl
  | succ count ih => rw [row,List.length_cons,ih]

theorem row_succ (start size count : Nat) :
    row start size (count+1) = row start size count ++ [(start+count*size,size)] := by
  induction count generalizing start with
  | zero => simp [row]
  | succ count ih =>
    rw [row,ih,Nat.succ_mul,Nat.add_assoc,Nat.add_comm size]
    rfl

def Covered (requests : List (Nat × Nat)) (byte : Nat) : Prop :=
  ∃ request ∈ requests,request.1 ≤ byte ∧ byte < request.1+request.2

theorem row_covered_iff (start size count byte : Nat) :
    Covered (row start size count) byte ↔ start ≤ byte ∧ byte < start+count*size := by
  induction count generalizing start with
  | zero =>
    constructor
    · rintro ⟨_,member,_⟩
      cases member
    · intro between
      omega
  | succ count ih =>
    have here : Covered (row start size (count+1)) byte ↔
        (start ≤ byte ∧ byte < start+size) ∨ Covered (row (start+size) size count) byte := by
      rw [row]
      simp [Covered]
    rw [here,ih,Nat.succ_mul]
    omega

-- They cover a stretch of bytes just when they are as long as it.
theorem row_covers_iff {size : Nat} (start count total : Nat) :
    (∀ byte,start ≤ byte → byte < start+total → Covered (row start size count) byte) ↔ total ≤ count*size := by
  simp only [row_covered_iff]
  constructor
  · intro covers
    by_contra short
    have last := covers (start+count*size) (Nat.le_add_right _ _) (by omega)
    omega
  · intro long byte from' below
    omega

end RequestRows
