import OcssdServer.MachineRuns

namespace ChunkQueue
open MachineRuns

-- A writer drains a queue of chunks. It takes items off the front of the first
-- chunk and drops the chunk once nothing of it is left; an empty chunk costs a
-- move of its own.
inductive Move (α : Type*) where
  | push (chunk : List α)
  | take (count : Nat)
  | retry

variable {α : Type*}

def step : List (List α) → Move α → List (List α) × List α
  | chunks,.push chunk => (chunks ++ [chunk],[])
  | chunks,.retry => (chunks,[])
  | [],.take _ => ([],[])
  | chunk :: rest,.take count =>
    if count < chunk.length then (chunk.drop count :: rest,chunk.take count) else (rest,chunk)

def Move.pushed : Move α → List α
  | .push chunk => chunk
  | .take _ => []
  | .retry => []

def taken (events : List (Move α × List α)) : List α := events.flatMap Prod.snd

theorem step_balance (chunks : List (List α)) (move : Move α) :
    (step chunks move).2 ++ (step chunks move).1.flatten = chunks.flatten ++ move.pushed := by
  cases move with
  | push chunk => simp [step,Move.pushed]
  | retry => simp [step,Move.pushed]
  | take count =>
    cases chunks with
    | nil => rfl
    | cons chunk rest =>
      by_cases part : count < chunk.length
      · simp [step,part,Move.pushed,←List.append_assoc]
      · simp [step,part,Move.pushed]

theorem take_filled {chunks : List (List α)} (filled : [] ∉ chunks) (count : Nat) :
    [] ∉ (step chunks (.take count)).1 := by
  cases chunks with
  | nil => exact filled
  | cons chunk rest =>
    rw [List.mem_cons,not_or] at filled
    by_cases part : count < chunk.length
    · simp only [step,if_pos part]
      rw [List.mem_cons,not_or]
      refine ⟨fun empty => ?_,filled.2⟩
      have gone := List.drop_eq_nil_iff.mp empty.symm
      omega
    · simp only [step,if_neg part]
      exact filled.2

-- What was taken and what is left is what was there and what came, in order.
theorem run_balance (chunks : List (List α)) (moves : List (Move α)) :
    taken (trace step chunks moves) ++ (final step chunks moves).flatten =
      chunks.flatten ++ moves.flatMap Move.pushed := by
  induction moves generalizing chunks with
  | nil => simp [taken]
  | cons move rest ih =>
    have later := ih (step chunks move).1
    have here := step_balance chunks move
    simp only [taken,trace_cons,final_cons,List.flatMap_cons,List.append_assoc] at later ⊢
    rw [later,←List.append_assoc,here,List.append_assoc]

end ChunkQueue
