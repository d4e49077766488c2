import Mathlib.Algebra.Order.Group.Nat

namespace Attempts
variable {σ : Type*} (call : σ → Int × σ)

-- At most `count` calls, left at the first that returns a negative number.
def attempts : Nat → σ → Int × σ
  | 0,s => (0,s)
  | count+1,s => if (call s).1 < 0 then call s else attempts count (call s).2

theorem attempts_keeps {I : σ → Prop} (kept : ∀ s,I s → I (call s).2) (count : Nat) {s : σ} (start : I s) :
    I (attempts call count s).2 := by
  induction count generalizing s with
  | zero => exact start
  | succ count ih =>
    unfold attempts
    split
    · exact kept s start
    · exact ih (kept s start)

-- Where the results are known as far as the calls succeed: one of them is a
-- failure and the loop fails, or none is and the state is the one after them all.
theorem attempts_cases {result : Nat → Int} {P : Nat → σ → Prop}
    (each : ∀ k s,P k s → (call s).1 = result k ∧ (0 ≤ result k → P (k+1) (call s).2)) (count : Nat)
    {k : Nat} {s : σ} (start : P k s) :
    ((∃ i < count,result (k+i) < 0) ∧ (attempts call count s).1 < 0) ∨
      ((∀ i < count,0 ≤ result (k+i)) ∧ (attempts call count s).1 = 0 ∧
        P (k+count) (attempts call count s).2) := by
  induction count generalizing k s with
  | zero => exact .inr ⟨nofun,rfl,start⟩
  | succ count ih =>
    obtain ⟨here,next⟩ := each k s start
    unfold attempts
    split
    · rename_i failed
      rw [here] at failed
      exact .inl ⟨⟨0,Nat.succ_pos _,failed⟩,here ▸ failed⟩
    · rename_i passed
      rw [here,not_lt] at passed
      have shift (i : Nat) : k+1+i = k+(i+1) := by omega
      rcases ih (next passed) with ⟨⟨i,below,bad⟩,failed⟩ | ⟨good,done,after⟩
      · exact .inl ⟨⟨i+1,Nat.succ_lt_succ below,shift i ▸ bad⟩,failed⟩
      · refine .inr ⟨?_,done,shift count ▸ after⟩
        intro i below
        cases i with
        | zero => exact passed
        | succ i => exact shift i ▸ good i (Nat.lt_of_succ_lt_succ below)

end Attempts
