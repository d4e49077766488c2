import Mathlib.Logic.Function.Basic
import Mathlib.Data.List.Basic

namespace Upserts

-- Rows that are written one by one to a table under their keys, a later row in
-- place of an earlier one. Others may remove rows meanwhile.
variable {ρ κ ν : Type*} [DecidableEq κ] (key : ρ → κ) (value : ρ → ν)

def shown (rows : List ρ) (k : κ) : Option ν := (rows.reverse.find? (fun row => key row = k)).map value

theorem shown_append (rows : List ρ) (row : ρ) :
    shown key value (rows ++ [row]) = Function.update (shown key value rows) (key row) (some (value row)) := by
  funext k
  unfold shown
  rw [List.reverse_append,List.reverse_singleton,List.singleton_append,List.find?_cons]
  by_cases mine : key row = k
  · subst mine
    rw [Function.update_self,decide_eq_true rfl]
    rfl
  · rw [Function.update_of_ne (Ne.symm mine),decide_eq_false mine]

theorem shown_isSome {rows : List ρ} {k : κ} : (shown key value rows k).isSome ↔ k ∈ rows.map key := by
  unfold shown
  rw [Option.isSome_map,List.find?_isSome]
  simp

theorem shown_later {before rows : List ρ} {k : κ} (mine : k ∈ rows.map key) :
    shown key value (before ++ rows) k = shown key value rows k := by
  have listed := (shown_isSome key value).mpr mine
  unfold shown at listed ⊢
  rw [Option.isSome_map] at listed
  obtain ⟨row,found⟩ := Option.isSome_iff_exists.mp listed
  rw [List.reverse_append,List.find?_append,found]
  rfl

theorem shown_row {rows : List ρ} {k : κ} {v : ν} (seen : shown key value rows k = some v) :
    ∃ row ∈ rows,key row = k ∧ value row = v := by
  obtain ⟨row,found,same⟩ := Option.map_eq_some_iff.mp seen
  have member := List.mem_of_find?_eq_some found
  have mine := List.find?_some found
  exact ⟨row,List.mem_reverse.mp member,of_decide_eq_true mine,same⟩

def Complete (rows : List ρ) (table : κ → Option ν) : Prop := ∀ k ∈ rows.map key,table k = shown key value rows k

variable {key value} {rows : List ρ} {table : κ → Option ν}

theorem nil_complete : Complete key value [] table := nofun

theorem write_complete (complete : Complete key value rows table) (row : ρ) :
    Complete key value (rows ++ [row]) (Function.update table (key row) (some (value row))) := by
  intro k member
  rw [shown_append]
  by_cases mine : k = key row
  · subst mine
    rw [Function.update_self,Function.update_self]
  · rw [Function.update_of_ne mine,Function.update_of_ne mine]
    rw [List.map_append,List.mem_append] at member
    rcases member with old | new
    · exact complete k old
    · exact absurd (List.mem_singleton.mp new) mine

theorem foreign_complete (complete : Complete key value rows table) {k : κ} (foreign : k ∉ rows.map key)
    (row : Option ν) : Complete key value rows (Function.update table k row) := by
  intro j member
  have other : j ≠ k := fun same => foreign (same ▸ member)
  rw [Function.update_of_ne other]
  exact complete j member

end Upserts
