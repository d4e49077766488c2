import Mathlib.Data.Set.Lattice
import Mathlib.Order.CompletePartialOrder
import Mathlib.Data.List.Pairwise

namespace MachineRuns

-- A deterministic machine answers every input with an output.
variable {σ ι ο : Type*} (step : σ → ι → σ × ο)

def final : σ → List ι → σ
  | s,[] => s
  | s,i :: rest => final (step s i).1 rest

def trace : σ → List ι → List (ι × ο)
  | _,[] => []
  | s,i :: rest => (i,(step s i).2) :: trace (step s i).1 rest

@[simp] theorem final_nil (s : σ) : final step s [] = s := rfl
@[simp] theorem trace_nil (s : σ) : trace step s [] = [] := rfl
@[simp] theorem final_cons (s : σ) (i : ι) (rest : List ι) :
    final step s (i :: rest) = final step (step s i).1 rest := rfl
@[simp] theorem trace_cons (s : σ) (i : ι) (rest : List ι) :
    trace step s (i :: rest) = (i,(step s i).2) :: trace step (step s i).1 rest := rfl

section Invariants
variable {step} {inv : σ → Prop}

theorem final_invariant (kept : ∀ s i, inv s → inv (step s i).1) {s : σ} (start : inv s)
    (inputs : List ι) : inv (final step s inputs) := by
  induction inputs generalizing s with
  | nil => exact start
  | cons i rest ih => exact ih (kept s i start)

theorem trace_forall {P : ι × ο → Prop} (kept : ∀ s i, inv s → inv (step s i).1)
    (each : ∀ s i, inv s → P (i,(step s i).2)) {s : σ} (start : inv s) (inputs : List ι) :
    ∀ e ∈ trace step s inputs, P e := by
  induction inputs generalizing s with
  | nil => simp
  | cons i rest ih =>
    intro e member
    rcases List.mem_cons.mp member with rfl | later
    · exact each s i start
    · exact ih (kept s i start) e later

theorem final_perm {ok : ι → Prop}
    (commutes : ∀ s i j, inv s → ok i → ok j → (step (step s i).1 j).1 = (step (step s j).1 i).1)
    (kept : ∀ s i, inv s → inv (step s i).1) {one two : List ι} (perm : one.Perm two)
    (all : ∀ i ∈ one,ok i) {s : σ} (start : inv s) : final step s one = final step s two := by
  induction perm generalizing s with
  | nil => rfl
  | cons i _ ih => exact ih (fun j member => all j (by simp [member])) (kept s i start)
  | swap i j rest =>
    simp only [final_cons]
    rw [commutes s j i start (all j (by simp)) (all i (by simp))]
  | trans first _ ih₁ ih₂ =>
    exact (ih₁ all start).trans (ih₂ (fun i member => all i (first.mem_iff.mpr member)) start)

end Invariants

section Steps
variable {step}

def Each (step : σ → ι → σ × ο) (C : σ → ι → Prop) : σ → List ι → Prop
  | _,[] => True
  | s,i :: rest => C s i ∧ Each step C (step s i).1 rest

theorem each_append (C : σ → ι → Prop) (s : σ) (one two : List ι) :
    Each step C s (one ++ two) ↔ Each step C s one ∧ Each step C (final step s one) two := by
  induction one generalizing s with
  | nil => exact ⟨fun later => ⟨trivial,later⟩,And.right⟩
  | cons i rest ih => exact (and_congr_right fun _ => ih (step s i).1).trans and_assoc.symm

-- Two conditions that agree on the states of an invariant agree on whole runs,
-- also where the invariant is kept only as long as the first of them holds.
theorem each_iff (inv : σ → List ι → Prop) {C D : σ → ι → Prop}
    (kept : ∀ s i rest, inv s (i :: rest) → C s i → inv (step s i).1 rest)
    (same : ∀ s i rest, inv s (i :: rest) → (C s i ↔ D s i)) {s : σ} {inputs : List ι}
    (start : inv s inputs) : Each step C s inputs ↔ Each step D s inputs := by
  induction inputs generalizing s with
  | nil => exact Iff.rfl
  | cons i rest ih =>
    have here := same s i rest start
    constructor
    · rintro ⟨now,later⟩
      exact ⟨here.mp now,(ih (kept s i rest start now)).mp later⟩
    · rintro ⟨now,later⟩
      have holds := here.mpr now
      exact ⟨holds,(ih (kept s i rest start holds)).mpr later⟩

end Steps

section Simulation
variable {σ' ι' ο' : Type*} {step} {step' : σ' → ι' → σ' × ο'}

-- A machine whose every step is a move of another one, seen through a view of
-- its states and of its answers.
structure Simulates (step : σ → ι → σ × ο) (step' : σ' → ι' → σ' × ο') (view : σ → σ') (move : σ → ι → ι')
    (answer : ο → ο') : Prop where
  next : ∀ s i, view (step s i).1 = (step' (view s) (move s i)).1
  same : ∀ s i, answer (step s i).2 = (step' (view s) (move s i)).2

theorem Simulates.runs {view : σ → σ'} {move : σ → ι → ι'} {answer : ο → ο'}
    (simulates : Simulates step step' view move answer) (s : σ) (inputs : List ι) :
    ∃ moves, view (final step s inputs) = final step' (view s) moves ∧
      (trace step s inputs).map (fun e => answer e.2) = (trace step' (view s) moves).map Prod.snd := by
  induction inputs generalizing s with
  | nil => exact ⟨[],rfl,rfl⟩
  | cons i rest ih =>
    obtain ⟨moves,last,answers⟩ := ih (step s i).1
    rw [simulates.next] at last answers
    refine ⟨move s i :: moves,last,?_⟩
    rw [trace_cons,trace_cons,List.map_cons,List.map_cons,answers,simulates.same]

end Simulation

section Purge
variable {step} {ν : Type*}

-- Unwinding conditions of one class of inputs: the others leave its view of the
-- state alone, and its own answers and next views are functions of that view.
structure Unwinds (step : σ → ι → σ × ο) (view : σ → ν) (own : ι → Bool) : Prop where
  hidden : ∀ s i, own i = false → view (step s i).1 = view s
  answer : ∀ s t i, own i = true → view s = view t → (step s i).2 = (step t i).2
  next : ∀ s t i, own i = true → view s = view t → view (step s i).1 = view (step t i).1

theorem Unwinds.purged {view : σ → ν} {own : ι → Bool} (rules : Unwinds step view own)
    {s t : σ} (same : view s = view t) (inputs : List ι) :
    trace step t (inputs.filter own) = (trace step s inputs).filter (fun e => own e.1) := by
  induction inputs generalizing s t with
  | nil => rfl
  | cons i rest ih =>
    cases owned : own i with
    | false =>
      simp only [trace_cons,List.filter_cons,owned]
      exact ih ((rules.hidden s i owned).trans same)
    | true =>
      simp only [trace_cons,List.filter_cons,owned,if_true]
      rw [rules.answer s t i owned same,ih (rules.next s t i owned same)]

end Purge

section Custody
variable {step} {τ β : Type*}

-- A machine hands out tagged sets of things. `owned` is what its state counts
-- as handed out already; the rules are what one step has to respect.
structure Hands (step : σ → ι → σ × ο) (inv : σ → Prop) (owned : σ → Set β)
    (given : ι → ο → List (τ × Set β)) : Prop where
  kept : ∀ s i, inv s → inv (step s i).1
  fresh : ∀ s i, inv s → ∀ g ∈ given i (step s i).2, Disjoint (owned s) g.2
  within : ∀ s i, inv s → ∀ g ∈ given i (step s i).2, g.2 ⊆ owned (step s i).1
  grows : ∀ s i, inv s → owned s ⊆ owned (step s i).1
  apart : ∀ s i, inv s → (given i (step s i).2).Pairwise (fun g h => Disjoint g.2 h.2)

def handed (given : ι → ο → List (τ × Set β)) (events : List (ι × ο)) : List (τ × Set β) :=
  events.flatMap (fun e => given e.1 e.2)

variable {inv : σ → Prop} {owned : σ → Set β} {given : ι → ο → List (τ × Set β)}

theorem Hands.handed_fresh (rules : Hands step inv owned given) {s : σ} (start : inv s)
    (inputs : List ι) : ∀ g ∈ handed given (trace step s inputs), Disjoint (owned s) g.2 := by
  induction inputs generalizing s with
  | nil => simp [handed]
  | cons i rest ih =>
    intro g member
    simp only [trace_cons,handed,List.flatMap_cons,List.mem_append] at member
    rcases member with now | later
    · exact rules.fresh s i start g now
    · exact (ih (rules.kept s i start) g later).mono_left (rules.grows s i start)

theorem Hands.handed_disjoint (rules : Hands step inv owned given) {s : σ} (start : inv s)
    (inputs : List ι) :
    (handed given (trace step s inputs)).Pairwise (fun g h => Disjoint g.2 h.2) := by
  induction inputs generalizing s with
  | nil => simp [handed]
  | cons i rest ih =>
    simp only [trace_cons,handed,List.flatMap_cons,List.pairwise_append]
    refine ⟨rules.apart s i start,ih (rules.kept s i start),?_⟩
    intro g now h later
    exact (rules.handed_fresh (rules.kept s i start) rest h later).mono_left
      (rules.within s i start g now)

theorem Hands.tags_apart (rules : Hands step inv owned given) {s : σ} (start : inv s)
    (inputs : List ι) {g h : τ × Set β} (one : g ∈ handed given (trace step s inputs))
    (two : h ∈ handed given (trace step s inputs)) (different : g.1 ≠ h.1) :
    Disjoint g.2 h.2 := by
  have symmetric : Std.Symm (fun g h : τ × Set β => Disjoint g.2 h.2) := ⟨fun _ _ d => d.symm⟩
  exact (rules.handed_disjoint start inputs).forall one two (fun e => different (by rw [e]))

def under (tag : τ) (gifts : List (τ × Set β)) : Set β := fun b => ∃ g ∈ gifts,g.1 = tag ∧ b ∈ g.2

-- Every step has an actor, which touches only what it could reach before or was
-- handed in the step, and nobody comes to reach anything else.
structure Keeps (step : σ → ι → σ × ο) (inv : σ → Prop) (given : ι → ο → List (τ × Set β))
    (reach : σ → τ → Set β) (actor : ι → τ) (touched : ι → ο → Set β) : Prop where
  reached : ∀ s i t, inv s → reach (step s i).1 t ⊆ reach s t ∪ under t (given i (step s i).2)
  touches : ∀ s i, inv s → touched i (step s i).2 ⊆ reach s (actor i) ∪ under (actor i) (given i (step s i).2)

variable {reach : σ → τ → Set β} {actor : ι → τ} {touched : ι → ο → Set β}

theorem Hands.touched_handed (rules : Hands step inv owned given)
    (keeps : Keeps step inv given reach actor touched) {s : σ} (start : inv s) (inputs : List ι) :
    ∀ e ∈ trace step s inputs, touched e.1 e.2 ⊆
      reach s (actor e.1) ∪ under (actor e.1) (handed given (trace step s inputs)) := by
  induction inputs generalizing s with
  | nil => simp
  | cons i rest ih =>
    have now : ∀ t, under t (given i (step s i).2) ⊆ under t (handed given (trace step s (i :: rest))) := by
      rintro t b ⟨g,member,tag,inside⟩
      exact ⟨g,by simp [handed,member],tag,inside⟩
    have later : ∀ t, under t (handed given (trace step (step s i).1 rest)) ⊆
        under t (handed given (trace step s (i :: rest))) := by
      rintro t b ⟨g,member,tag,inside⟩
      refine ⟨g,?_,tag,inside⟩
      simp only [handed,trace_cons,List.flatMap_cons,List.mem_append] at member ⊢
      exact .inr member
    intro e member b touch
    rcases List.mem_cons.mp member with rfl | after
    · rcases keeps.touches s i start touch with old | new
      · exact .inl old
      · exact .inr (now _ new)
    · rcases ih (rules.kept s i start) e after touch with reached | new
      · rcases keeps.reached s i (actor e.1) start reached with old | new
        · exact .inl old
        · exact .inr (now _ new)
      · exact .inr (later _ new)

-- Where nobody reaches anything at the start, what is handed out under a tag is
-- touched by no other actor, in no step of the run.
theorem Hands.foreign_untouched (rules : Hands step inv owned given)
    (keeps : Keeps step inv given reach actor touched) {s : σ} (start : inv s)
    (empty : ∀ t, reach s t = ∅) (inputs : List ι) {g : τ × Set β}
    (gift : g ∈ handed given (trace step s inputs)) {e : ι × ο} (member : e ∈ trace step s inputs)
    (foreign : g.1 ≠ actor e.1) : Disjoint g.2 (touched e.1 e.2) := by
  rw [Set.disjoint_left]
  intro b inside touch
  rcases rules.touched_handed keeps start inputs e member touch with reached | ⟨h,given',tag,inside'⟩
  · rw [empty] at reached
    exact reached
  · have apart := rules.tags_apart start inputs gift given' (by rw [tag]; exact foreign)
    exact Set.disjoint_left.mp apart inside inside'

end Custody
end MachineRuns
