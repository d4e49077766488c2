import Mathlib.Data.List.Flatten
import Mathlib.Data.List.Infix
import Mathlib.Data.List.SplitLengths
import Mathlib.Algebra.BigOperators.Group.List.Basic
import Mathlib.Algebra.GroupWithZero.Nat

namespace CallPipe

-- A caller sends calls into one pipe and collects replies from another. `asks`
-- says how much a call collects before the next one is sent, or that it collects
-- nothing. Calls are answered in order, and replies run into one another.
structure Pipe (κ α : Type*) where
  todo : List κ
  sent : List κ
  owed : List α
  taking : Option (Nat × List α)
  results : List (List α)

variable {κ α : Type*} (asks : κ → Option Nat)

def Pipe.got (pipe : Pipe κ α) : List α := (pipe.taking.map Prod.snd).getD []

def Pipe.wanted (pipe : Pipe κ α) : List Nat := (pipe.taking.map Prod.fst).toList

def Pipe.await (pipe : Pipe κ α) (want : Nat) (got : List α) : Pipe κ α :=
  if want ≤ got.length then {pipe with taking := none,results := pipe.results ++ [got]}
  else {pipe with taking := some (want,got)}

def Pipe.issue (pipe : Pipe κ α) : Pipe κ α :=
  match pipe.taking,pipe.todo with
  | none,call :: rest =>
    let pipe := {pipe with todo := rest,sent := pipe.sent ++ [call]}
    match asks call with
    | none => pipe
    | some want => pipe.await want []
  | _,_ => pipe

def Pipe.answer (pipe : Pipe κ α) (reply : List α) : Pipe κ α :=
  {pipe with sent := pipe.sent.tail,owed := pipe.owed ++ reply}

def Pipe.collect (pipe : Pipe κ α) (count : Nat) : Pipe κ α :=
  match pipe.taking with
  | none => pipe
  | some (want,got) =>
    let count := min count (want-got.length)
    {pipe with owed := pipe.owed.drop count}.await want (got ++ pipe.owed.take count)

def replies (events : List (κ × List α)) : List (List α) :=
  events.filterMap (fun e => (asks e.1).map (fun _ => e.2))

def Sized (events : List (κ × List α)) : Prop := ∀ e ∈ events,e.2.length = (asks e.1).getD 0

-- What the calls collect when the pipe holds something else in front of the replies.
def reads (lead : List α) (events : List (κ × List α)) : List (List α) :=
  ((events.map Prod.fst).filterMap asks).splitLengths (lead ++ (replies asks events).flatten)

-- What was answered so far, against what the caller has and is still owed.
structure Balanced (lead : List α) (answered : List (κ × List α)) (pipe : Pipe κ α) : Prop where
  sizes : Sized asks answered
  items : pipe.results.flatten ++ (pipe.got ++ pipe.owed) = lead ++ (answered.map Prod.snd).flatten
  counts : pipe.results.map List.length ++ pipe.wanted = (answered.map Prod.fst ++ pipe.sent).filterMap asks
  short : ∀ want got,pipe.taking = some (want,got) → got.length < want

section Await
variable {pipe : Pipe κ α} {want : Nat} {got : List α}

@[simp] theorem await_sent : (pipe.await want got).sent = pipe.sent := by unfold Pipe.await; split <;> rfl
@[simp] theorem await_owed : (pipe.await want got).owed = pipe.owed := by unfold Pipe.await; split <;> rfl

theorem await_items : (pipe.await want got).results.flatten ++ (pipe.await want got).got =
    pipe.results.flatten ++ got := by
  unfold Pipe.await
  split
  · simp [Pipe.got]
  · rfl

theorem await_counts (room : got.length ≤ want) :
    (pipe.await want got).results.map List.length ++ (pipe.await want got).wanted =
      pipe.results.map List.length ++ [want] := by
  unfold Pipe.await
  split
  · rename_i enough
    simp [Pipe.wanted,Nat.le_antisymm room enough]
  · rfl

theorem await_short : ∀ n part,(pipe.await want got).taking = some (n,part) → part.length < n := by
  intro n part taking
  unfold Pipe.await at taking
  split at taking
  · cases taking
  · rename_i few
    cases taking
    exact Nat.lt_of_not_le few

end Await

section Rules
variable {asks} {lead : List α} {answered : List (κ × List α)} {pipe : Pipe κ α}

theorem issue_balanced (balanced : Balanced asks lead answered pipe) :
    Balanced asks lead answered (pipe.issue asks) := by
  unfold Pipe.issue
  split
  · rename_i call rest idle _
    have nothing : pipe.got = [] := by rw [Pipe.got,idle]; rfl
    have nobody : pipe.wanted = [] := by rw [Pipe.wanted,idle]; rfl
    have items := balanced.items
    have counts := balanced.counts
    rw [nothing,List.nil_append] at items
    rw [nobody,List.append_nil] at counts
    dsimp only
    split
    · rename_i silent
      refine ⟨balanced.sizes,balanced.items,?_,balanced.short⟩
      change pipe.results.map List.length ++ pipe.wanted = _
      rw [nobody,List.append_nil,counts,←List.append_assoc,List.filterMap_append]
      simp [silent]
    · rename_i want asked
      refine ⟨balanced.sizes,?_,?_,await_short⟩
      · rw [←List.append_assoc,await_items,await_owed,List.append_nil]
        exact items
      · rw [await_counts (Nat.zero_le want),await_sent,←List.append_assoc,List.filterMap_append,←counts]
        simp [asked]
  · exact balanced

theorem answer_balanced (balanced : Balanced asks lead answered pipe) {call : κ} {rest : List κ}
    (first : pipe.sent = call :: rest) {reply : List α} (size : reply.length = (asks call).getD 0) :
    Balanced asks lead (answered ++ [(call,reply)]) (pipe.answer reply) := by
  refine ⟨?_,?_,?_,balanced.short⟩
  · intro e member
    rcases List.mem_append.mp member with old | new
    · exact balanced.sizes e old
    · rw [List.mem_singleton.mp new]
      exact size
  · have items := balanced.items
    change pipe.results.flatten ++ (pipe.got ++ (pipe.owed ++ reply)) = _
    rw [←List.append_assoc pipe.got,←List.append_assoc,items]
    simp
  · have counts := balanced.counts
    change pipe.results.map List.length ++ pipe.wanted = _
    rw [counts,first]
    simp [Pipe.answer,first]

theorem collect_balanced (balanced : Balanced asks lead answered pipe) (count : Nat) :
    Balanced asks lead answered (pipe.collect count) := by
  unfold Pipe.collect
  split
  · exact balanced
  · rename_i want got taking
    have short := balanced.short want got taking
    have room : (got ++ pipe.owed.take (min count (want-got.length))).length ≤ want := by
      rw [List.length_append,List.length_take]
      omega
    have got' : pipe.got = got := by rw [Pipe.got,taking]; rfl
    have wanted : pipe.wanted = [want] := by rw [Pipe.wanted,taking]; rfl
    refine ⟨balanced.sizes,?_,?_,await_short⟩
    · have items := balanced.items
      rw [got'] at items
      rw [←List.append_assoc,await_items,await_owed,←items,List.append_assoc,List.append_assoc,
        List.take_append_drop]
    · have counts := balanced.counts
      rw [wanted] at counts
      rw [await_counts room,await_sent]
      exact counts

end Rules

section Results
variable {asks}

theorem replies_lengths {events : List (κ × List α)} (sized : Sized asks events) :
    (replies asks events).map List.length = (events.map Prod.fst).filterMap asks := by
  induction events with
  | nil => rfl
  | cons e rest ih =>
    have here := sized e List.mem_cons_self
    have later := ih (fun e member => sized e (List.mem_cons_of_mem _ member))
    unfold replies at later ⊢
    cases asked : asks e.1 with
    | none => simp [asked,later]
    | some n =>
      rw [asked] at here
      simp [asked,later,here]

theorem replies_flatten {events : List (κ × List α)} (sized : Sized asks events) :
    (replies asks events).flatten = (events.map Prod.snd).flatten := by
  induction events with
  | nil => rfl
  | cons e rest ih =>
    have here := sized e List.mem_cons_self
    have later := ih (fun e member => sized e (List.mem_cons_of_mem _ member))
    unfold replies at later ⊢
    cases asked : asks e.1 with
    | none =>
      rw [asked] at here
      simp [asked,later,List.length_eq_zero_iff.mp here]
    | some n => simp [asked,later]

variable {lead : List α} {answered later : List (κ × List α)} {pipe : Pipe κ α}

theorem owed_wanted (balanced : Balanced asks lead answered pipe) (all : pipe.sent = []) :
    pipe.got.length+pipe.owed.length = pipe.wanted.sum+lead.length := by
  have items := congrArg List.length balanced.items
  have counts := congrArg List.sum balanced.counts
  rw [all,List.append_nil,←replies_lengths balanced.sizes] at counts
  rw [←replies_flatten balanced.sizes] at items
  simp only [List.length_append,List.length_flatten,List.sum_append] at items counts
  omega

end Results
end CallPipe
