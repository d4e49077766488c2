import OcssdServer.MachineRuns
import Mathlib.Order.WellFounded

namespace MachineRuns

section Parts
variable {σ ι ο : Type*} (step : σ → ι → σ × ο)

theorem final_append (s : σ) (one two : List ι) :
    final step s (one ++ two) = final step (final step s one) two := by
  induction one generalizing s with
  | nil => rfl
  | cons i rest ih => exact ih (step s i).1

theorem trace_append (s : σ) (one two : List ι) :
    trace step s (one ++ two) = trace step s one ++ trace step (final step s one) two := by
  induction one generalizing s with
  | nil => rfl
  | cons i rest ih => exact congrArg _ (ih (step s i).1)

theorem final_foldl (s : σ) (inputs : List ι) :
    final step s inputs = inputs.foldl (fun s i => (step s i).1) s := by
  induction inputs generalizing s with
  | nil => rfl
  | cons i rest ih => exact ih (step s i).1

end Parts

theorem related_runs {σ τ ι ο : Type*} {step : σ → ι → σ × ο} {step' : τ → ι → τ × ο} {R : σ → τ → Prop}
    (same : ∀ s t i,R s t → R (step s i).1 (step' t i).1 ∧ (step s i).2 = (step' t i).2) {s : σ} {t : τ} (start : R s t)
    (inputs : List ι) : R (final step s inputs) (final step' t inputs) ∧ trace step s inputs = trace step' t inputs := by
  induction inputs generalizing s t with
  | nil => exact ⟨start,rfl⟩
  | cons i rest ih =>
    obtain ⟨next,answer⟩ := same s t i start
    obtain ⟨last,answers⟩ := ih next
    exact ⟨last,by rw [trace_cons,trace_cons,answer,answers]⟩

-- Where every state of an invariant is done or has a move of its own that leaves
-- less, own moves lead from it to one that is done. The invariant may speak of the
-- moves made so far.
theorem descends_after {σ ι μ : Type*} [LT μ] [WellFoundedLT μ] {next : σ → ι → σ} {inv : List ι → σ → Prop}
    {done : σ → Prop} {own : ι → Prop} (left : σ → μ)
    (goes : ∀ past s,inv past s → done s ∨ ∃ i,own i ∧ inv (past ++ [i]) (next s i) ∧ left (next s i) < left s)
    {past : List ι} {s : σ} (start : inv past s) :
    ∃ inputs : List ι,(∀ i ∈ inputs,own i) ∧ inv (past ++ inputs) (inputs.foldl next s) ∧
      done (inputs.foldl next s) := by
  induction before : left s using WellFoundedLT.induction generalizing past s with
  | ind rest ih =>
    rcases goes past s start with ended | ⟨i,mine,kept,less⟩
    · exact ⟨[],nofun,by rw [List.append_nil]; exact start,ended⟩
    · obtain ⟨later,own',last,ended⟩ := ih _ (before ▸ less) kept rfl
      rw [List.append_assoc] at last
      exact ⟨i :: later,List.forall_mem_cons.mpr ⟨mine,own'⟩,last,ended⟩

theorem descends {σ ι μ : Type*} [LT μ] [WellFoundedLT μ] {next : σ → ι → σ} {inv done : σ → Prop}
    {own : ι → Prop} (left : σ → μ)
    (goes : ∀ s,inv s → done s ∨ ∃ i,own i ∧ inv (next s i) ∧ left (next s i) < left s) {s : σ} (start : inv s) :
    ∃ inputs : List ι,(∀ i ∈ inputs,own i) ∧ inv (inputs.foldl next s) ∧ done (inputs.foldl next s) :=
  @descends_after σ ι μ _ _ next (fun _ => inv) done own left (fun _ => goes) [] s start

end MachineRuns
