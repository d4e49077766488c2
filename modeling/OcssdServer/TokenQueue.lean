import OcssdServer.MachineRuns

namespace TokenQueue
open MachineRuns

-- A queue behind a counting semaphore. Whoever puts an item in posts a token
-- afterwards, and whoever takes one out has waited for a token before, or has
-- woken up without one.
structure Desk (α : Type*) where
  items : List α
  tokens : Nat
  woken : Nat
  posting : Nat

inductive Move (α : Type*) where
  | put (item : α)
  | post
  | wake (token : Bool)
  | take
  | idle

inductive Effect (α : Type*) where
  | nothing
  | put (item : α)
  | taken (item : α)

variable {α : Type*}

def Effect.putItem : Effect α → Option α
  | .put item => some item
  | .nothing | .taken _ => none

def Effect.takenItem : Effect α → Option α
  | .taken item => some item
  | .nothing | .put _ => none

-- A move that is not possible changes nothing.
def step (desk : Desk α) : Move α → Desk α × Effect α
  | .put item => ({desk with items := desk.items ++ [item],posting := desk.posting+1},.put item)
  | .post =>
    if 0 < desk.posting then ({desk with tokens := desk.tokens+1,posting := desk.posting-1},.nothing)
    else (desk,.nothing)
  | .wake true =>
    if 0 < desk.tokens then ({desk with tokens := desk.tokens-1,woken := desk.woken+1},.nothing)
    else (desk,.nothing)
  | .wake false => ({desk with woken := desk.woken+1},.nothing)
  | .take =>
    if 0 < desk.woken then
      match desk.items with
      | [] => ({desk with woken := desk.woken-1},.nothing)
      | item :: rest => ({desk with items := rest,woken := desk.woken-1},.taken item)
    else (desk,.nothing)
  | .idle => (desk,.nothing)

def effects (events : List (Move α × Effect α)) : List (Effect α) := events.map Prod.snd

-- For every item that waits there is a token, or somebody who is about to look
-- for one or to post one.
def Covered (desk : Desk α) : Prop := desk.items.length ≤ desk.tokens+desk.woken+desk.posting

theorem step_covered (desk : Desk α) (move : Move α) (covered : Covered desk) : Covered (step desk move).1 := by
  cases move with
  | put item =>
    simp only [Covered,step,List.length_append,List.length_singleton] at covered ⊢
    omega
  | post =>
    simp only [step]
    split
    · simp only [Covered] at covered ⊢
      omega
    · exact covered
  | wake token =>
    cases token with
    | true =>
      simp only [step]
      split
      · simp only [Covered] at covered ⊢
        omega
      · exact covered
    | false =>
      simp only [Covered,step] at covered ⊢
      omega
  | take =>
    simp only [step]
    split
    · split
      · rename_i items
        simp only [Covered,items,List.length_nil]
        omega
      · rename_i item rest items
        simp only [Covered,items,List.length_cons] at covered ⊢
        omega
    · exact covered
  | idle => exact covered

theorem step_order (desk : Desk α) (move : Move α) :
    (step desk move).2.takenItem.toList ++ (step desk move).1.items =
      desk.items ++ (step desk move).2.putItem.toList := by
  have quiet : desk.items = desk.items ++ [] := (List.append_nil _).symm
  cases move with
  | put item => rfl
  | post =>
    simp only [step]
    split
    · exact quiet
    · exact quiet
  | wake token =>
    cases token with
    | true =>
      simp only [step]
      split
      · exact quiet
      · exact quiet
    | false => exact quiet
  | take =>
    simp only [step]
    split
    · split
      · rename_i items
        rw [items]
        rfl
      · rename_i items
        rw [items]
        exact (List.append_nil _).symm
    · exact quiet
  | idle => exact quiet

theorem run_covered {desk : Desk α} (covered : Covered desk) (moves : List (Move α)) :
    Covered (final step desk moves) := final_invariant step_covered covered moves

theorem run_order (desk : Desk α) (moves : List (Move α)) :
    (effects (trace step desk moves)).filterMap Effect.takenItem ++ (final step desk moves).items =
      desk.items ++ (effects (trace step desk moves)).filterMap Effect.putItem := by
  induction moves generalizing desk with
  | nil => exact (List.append_nil _).symm
  | cons move rest ih =>
    have here := step_order desk move
    have later := ih (step desk move).1
    have cons (pick : Effect α → Option α) : (effects (trace step desk (move :: rest))).filterMap pick =
        (pick (step desk move).2).toList ++ (effects (trace step (step desk move).1 rest)).filterMap pick := by
      rw [effects,trace_cons,List.map_cons,List.filterMap_cons]
      cases pick (step desk move).2 with
      | none => rfl
      | some item => rfl
    rw [cons,cons,final_cons,List.append_assoc,later,←List.append_assoc,here,List.append_assoc]

end TokenQueue
