import Mathlib.Algebra.BigOperators.Group.List.Basic
import Mathlib.Algebra.GroupWithZero.Nat
import Mathlib.Data.List.Perm.Basic

namespace ThreadRows

-- A row of threads, one of which moves on at a time.
variable {σ τ : Type*} {threads : List σ} {i : Nat} {before after : σ}

-- One thread moves on, and what is summed or listed over all changes by its part.
theorem sum_moved (f : σ → Nat) (here : threads[i]? = some before) :
    ((threads.set i after).map f).sum+f before = (threads.map f).sum+f after := by
  induction threads generalizing i with
  | nil => cases here
  | cons first rest ih =>
    cases i with
    | zero =>
      cases here
      simp only [List.set_cons_zero,List.map_cons,List.sum_cons]
      omega
    | succ i =>
      have later := ih here
      simp only [List.set_cons_succ,List.map_cons,List.sum_cons]
      omega

theorem listed_moved (f : σ → Option τ) (here : threads[i]? = some before) :
    ((f before).toList ++ (threads.set i after).filterMap f).Perm ((f after).toList ++ threads.filterMap f) := by
  have cons (thread : σ) (rest : List σ) :
      (thread :: rest).filterMap f = (f thread).toList ++ rest.filterMap f := by
    rw [List.filterMap_cons]
    cases f thread <;> rfl
  induction threads generalizing i with
  | nil => cases here
  | cons first rest ih =>
    cases i with
    | zero =>
      cases here
      rw [List.set_cons_zero,cons,cons]
      exact List.perm_append_comm_assoc _ _ _
    | succ i =>
      rw [List.set_cons_succ,cons,cons]
      calc
        (f before).toList ++ ((f first).toList ++ (rest.set i after).filterMap f)
        _ |>.Perm ((f first).toList ++ ((f before).toList ++ (rest.set i after).filterMap f)) :=
          List.perm_append_comm_assoc _ _ _
        _ |>.Perm ((f first).toList ++ ((f after).toList ++ rest.filterMap f)) := (ih here).append_left _
        _ |>.Perm ((f after).toList ++ ((f first).toList ++ rest.filterMap f)) := List.perm_append_comm_assoc _ _ _

-- A mutex with its holder, against the threads that stand where it is held.
def Held (holder : Option Nat) (threads : List σ) (inside : σ → Bool) : Prop :=
  ∀ t,holder = some t ↔ ∃ thread,threads[t]? = some thread ∧ inside thread = true

section Mutex
variable {holder : Option Nat} {inside : σ → Bool}

theorem free_held {threads : List σ} (outside : ∀ thread ∈ threads,inside thread = false) :
    Held none threads inside := by
  refine fun t => iff_of_false nofun ?_
  rintro ⟨thread,here,held⟩
  rw [outside thread (List.mem_of_getElem? here)] at held
  cases held

theorem keep_held (held : Held holder threads inside) (here : threads[i]? = some before)
    (same : inside after = inside before) : Held holder (threads.set i after) inside := by
  intro t
  rw [held t,List.getElem?_set]
  by_cases mine : i = t
  · subst mine
    obtain ⟨known,value⟩ := List.getElem?_eq_some_iff.mp here
    simp [known,value,same]
  · rw [if_neg mine]

theorem take_held (held : Held none threads inside) (here : threads[i]? = some before)
    (enters : inside after = true) : Held (some i) (threads.set i after) inside := by
  intro t
  rw [List.getElem?_set]
  by_cases mine : i = t
  · subst mine
    have known := (List.getElem?_eq_some_iff.mp here).1
    simp [known,enters]
  · rw [if_neg mine,←held t]
    exact iff_of_false (fun same => mine (Option.some.inj same)) nofun

theorem drop_held (held : Held holder threads inside) (here : threads[i]? = some before)
    (was : inside before = true) (leaves : inside after = false) : Held none (threads.set i after) inside := by
  have own := (held i).mpr ⟨before,here,was⟩
  intro t
  rw [List.getElem?_set]
  by_cases mine : i = t
  · subst mine
    have known := (List.getElem?_eq_some_iff.mp here).1
    simp [known,leaves]
  · rw [if_neg mine,←held t,own]
    exact iff_of_false nofun (fun same => mine (Option.some.inj same))

theorem held_alone (held : Held holder threads inside) {j : Nat} {one two : σ} (first : threads[i]? = some one)
    (second : threads[j]? = some two) (inOne : inside one = true) (inTwo : inside two = true) : i = j := by
  have mine := (held i).mpr ⟨one,first,inOne⟩
  have theirs := (held j).mpr ⟨two,second,inTwo⟩
  exact Option.some.inj (mine.symm.trans theirs)

theorem held_busy (held : Held holder threads inside) (taken : holder ≠ none) :
    ∃ (i : Nat) (thread : σ),threads[i]? = some thread ∧ inside thread = true := by
  obtain ⟨i,some'⟩ := Option.ne_none_iff_exists'.mp taken
  obtain ⟨thread,here⟩ := (held i).mp some'
  exact ⟨i,thread,here⟩

end Mutex
end ThreadRows
