import Mathlib.Data.List.Nodup
import Mathlib.Data.List.Basic

namespace RangeStripes

-- Ranges of numbers side by side, cut across: one stripe takes the number at one
-- distance from the start of every range that reaches that far.
structure Range (κ : Type*) where
  key : κ
  start : Nat
  count : Nat

variable {κ : Type*}

def Range.cell (range : Range κ) (k : Nat) : Option (κ × Nat) :=
  if k < range.count then some (range.key,range.start+k) else none

def stripe (ranges : List (Range κ)) (k : Nat) : List (κ × Nat) := ranges.filterMap (·.cell k)

def longest (ranges : List (Range κ)) : Nat := (ranges.map (·.count)).foldr max 0

def stripes (ranges : List (Range κ)) : List (List (κ × Nat)) :=
  (List.range (longest ranges)).map (stripe ranges)

theorem count_le_longest {ranges : List (Range κ)} {range : Range κ} (member : range ∈ ranges) :
    range.count ≤ longest ranges := by
  induction ranges with
  | nil => cases member
  | cons first rest ih =>
    change range.count ≤ max first.count (longest rest)
    rcases List.mem_cons.mp member with rfl | later
    · exact Nat.le_max_left _ _
    · exact Nat.le_trans (ih later) (Nat.le_max_right _ _)

theorem stripe_nil_iff {ranges : List (Range κ)} {k : Nat} : stripe ranges k = [] ↔ longest ranges ≤ k := by
  induction ranges with
  | nil => exact iff_of_true rfl (Nat.zero_le k)
  | cons first rest ih =>
    have split' : longest (first :: rest) ≤ k ↔ first.count ≤ k ∧ longest rest ≤ k := Nat.max_le
    rw [split',←ih,stripe,List.filterMap_cons,Range.cell]
    by_cases reaches : k < first.count
    · rw [if_pos reaches]
      exact iff_of_false (List.cons_ne_nil _ _) fun both => by omega
    · rw [if_neg reaches]
      exact (and_iff_right (Nat.le_of_not_lt reaches)).symm

theorem mem_stripe {ranges : List (Range κ)} {k : Nat} {cell : κ × Nat} :
    cell ∈ stripe ranges k ↔ ∃ range ∈ ranges,k < range.count ∧ cell = (range.key,range.start+k) := by
  rw [stripe,List.mem_filterMap]
  refine exists_congr fun range => and_congr_right fun _ => ?_
  rw [Range.cell]
  split
  · rename_i reaches
    rw [Option.some.injEq]
    exact ⟨fun same => ⟨reaches,same.symm⟩,fun found => found.2.symm⟩
  · rename_i short
    exact iff_of_false nofun fun found => short found.1

theorem stripe_keys (ranges : List (Range κ)) (k : Nat) :
    ((stripe ranges k).map Prod.fst).Sublist (ranges.map (·.key)) := by
  induction ranges with
  | nil => exact .slnil
  | cons first rest ih =>
    rw [stripe,List.filterMap_cons,Range.cell]
    split
    · exact ih.cons _
    · rename_i cell found
      split at found
      · cases found
        exact ih.cons_cons _
      · cases found

theorem stripe_nodup {ranges : List (Range κ)} (apart : (ranges.map (·.key)).Nodup) (k : Nat) :
    ((stripe ranges k).map Prod.fst).Nodup := apart.sublist (stripe_keys ranges k)

-- Every number of a range is in exactly one stripe.
theorem stripes_once {ranges : List (Range κ)} (apart : (ranges.map (·.key)).Nodup) {range : Range κ}
    (member : range ∈ ranges) {j : Nat} (inside : j < range.count) (k : Nat) :
    (∃ cells,(stripes ranges)[k]? = some cells ∧ (range.key,range.start+j) ∈ cells) ↔ k = j := by
  constructor
  · rintro ⟨cells,found,listed⟩
    obtain ⟨below,rfl⟩ := List.getElem?_eq_some_iff.mp found
    simp only [stripes,List.getElem_map,List.getElem_range] at listed
    obtain ⟨other,member',_,same⟩ := mem_stripe.mp listed
    obtain ⟨key,number⟩ := Prod.mk.inj same
    have one := List.inj_on_of_nodup_map apart member member' key
    subst one
    omega
  · rintro rfl
    have below : k < longest ranges := Nat.lt_of_lt_of_le inside (count_le_longest member)
    refine ⟨stripe ranges k,?_,mem_stripe.mpr ⟨range,member,inside,rfl⟩⟩
    rw [stripes,List.getElem?_map,List.getElem?_range below]
    rfl

end RangeStripes
