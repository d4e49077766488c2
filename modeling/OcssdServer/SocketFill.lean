import OcssdServer.ByteBuffers

namespace SocketFill
open ByteBuffers

-- What the next read(2) on a connected socket does: deliver at least one byte
-- and at most `more+1` of those asked for, or fail. With nothing left to
-- deliver it returns 0, the peer having closed its end.
inductive ReadEvent (ε : Type*) where
  | bytes (more : Nat)
  | fails (error : ε)

structure Socket (ε : Type*) where
  stream : List UInt8
  plan : List (ReadEvent ε)

-- `waiting`: the events ran out inside the loop, which is still in its read.
inductive FillEnd where
  | full | eof | failed | waiting
deriving DecidableEq

structure Filled (ε : Type*) where
  ending : FillEnd
  memory : Memory
  received : Nat
  socket : Socket ε

variable {ε : Type*} (largest want : Nat)

-- while (received < want) { len = read(fd, memory + received, want - received);
-- leave on 0 and on a negative len; received += len; }
def fill (plan : List (ReadEvent ε)) (stream : List UInt8) (memory : Memory) (received : Nat) :
    Filled ε :=
  if received < want then
    match plan with
    | [] => ⟨.waiting,memory,received,⟨stream,[]⟩⟩
    | .fails _ :: plan => ⟨.failed,memory,received,⟨stream,plan⟩⟩
    | .bytes more :: plan =>
      let len := min (more+1) (min (want-received) largest)
      let data := stream.take len
      if data = [] then ⟨.eof,memory,received,⟨stream,plan⟩⟩
      else fill plan (stream.drop len) (store memory received data) (received+data.length)
  else ⟨.full,memory,received,⟨stream,plan⟩⟩

variable {largest want}

theorem fill_done {received : Nat} (done : want ≤ received) (plan : List (ReadEvent ε))
    (stream : List UInt8) (memory : Memory) :
    fill largest want plan stream memory received = ⟨.full,memory,received,⟨stream,plan⟩⟩ := by
  rw [fill.eq_def,if_neg (by omega)]

theorem fill_waits {received : Nat} (short : received < want) (stream : List UInt8) (memory : Memory) :
    fill largest want ([] : List (ReadEvent ε)) stream memory received =
      ⟨.waiting,memory,received,⟨stream,[]⟩⟩ := by
  rw [fill.eq_def,if_pos short]

theorem fill_fails {received : Nat} (short : received < want) (error : ε)
    (plan : List (ReadEvent ε)) (stream : List UInt8) (memory : Memory) :
    fill largest want (.fails error :: plan) stream memory received =
      ⟨.failed,memory,received,⟨stream,plan⟩⟩ := by
  rw [fill.eq_def,if_pos short]

theorem fill_bytes {received : Nat} (short : received < want) (more : Nat)
    (plan : List (ReadEvent ε)) (stream : List UInt8) (memory : Memory) :
    fill largest want (.bytes more :: plan) stream memory received =
      if stream.take (min (more+1) (min (want-received) largest)) = [] then
        ⟨.eof,memory,received,⟨stream,plan⟩⟩
      else fill largest want plan (stream.drop (min (more+1) (min (want-received) largest)))
        (store memory received (stream.take (min (more+1) (min (want-received) largest))))
        (received+(stream.take (min (more+1) (min (want-received) largest))).length) := by
  rw [fill.eq_def,if_pos short]

structure Fills (largest want received : Nat) (plan : List (ReadEvent ε)) (stream : List UInt8)
    (memory : Memory) (r : Filled ε) : Prop where
  grows : received ≤ r.received
  bounded : r.received ≤ want
  taken : r.received ≤ received+stream.length
  memory : r.memory = store memory received (stream.take (r.received-received))
  stream : r.socket.stream = stream.drop (r.received-received)
  full : r.ending = .full ↔ r.received = want
  eof : r.ending = .eof → r.socket.stream = []
  waiting : r.ending = .waiting → r.socket.plan = []
  failed : r.ending = .failed → ∃ error, .fails error ∈ plan
  shorter : received < want → plan ≠ [] → r.socket.plan.length < plan.length
  paid : r.ending = .full ∨ r.ending = .waiting →
    plan.length ≤ r.socket.plan.length+(r.received-received)
  suffix : r.socket.plan <:+ plan

theorem fills_none {received : Nat} {plan rest : List (ReadEvent ε)} {stream : List UInt8}
    (ending : FillEnd) (start : received ≤ want) (part : rest <:+ plan) (full : ending = .full ↔ received = want)
    (eof : ending = .eof → stream = []) (waiting : ending = .waiting → rest = [])
    (failed : ending = .failed → ∃ error, .fails error ∈ plan)
    (shorter : received < want → plan ≠ [] → rest.length < plan.length)
    (paid : ending = .full ∨ ending = .waiting → plan.length ≤ rest.length) (memory : Memory) :
    Fills largest want received plan stream memory ⟨ending,memory,received,⟨stream,rest⟩⟩ :=
  ⟨Nat.le_refl _,start,Nat.le_add_right _ _,by simp,by simp,full,eof,waiting,failed,shorter,
    fun ended => Nat.le_trans (paid ended) (Nat.le_add_right _ _),part⟩

-- A loop that goes on after a read: the read took a whole bite, or it emptied
-- the stream.
theorem fills_bite {received len : Nat} {plan : List (ReadEvent ε)} {stream : List UInt8} {memory : Memory}
    {r : Filled ε} (positive : 0 < len) (some' : stream.take len ≠ [])
    (tail : Fills largest want (received+(stream.take len).length) plan (stream.drop len)
      (store memory received (stream.take len)) r) (more : Nat) :
    Fills largest want received (.bytes more :: plan) stream memory r := by
  have size : (stream.take len).length = min len stream.length := List.length_take
  have nonempty : 0 < (stream.take len).length := List.length_pos_of_ne_nil some'
  have grows := tail.grows
  have taken := tail.taken
  rw [List.length_drop] at taken
  have cut : r.received-received = len+(r.received-(received+(stream.take len).length)) ∨
      (stream.drop len = [] ∧ r.received = received+stream.length ∧ stream.length ≤ len) := by
    by_cases whole : len ≤ stream.length
    · left; omega
    · right; refine ⟨List.drop_eq_nil_iff.mpr (by omega),by omega,by omega⟩
  refine ⟨by omega,tail.bounded,by omega,?_,?_,tail.full,tail.eof,tail.waiting,?_,?_,?_,
    tail.suffix.trans (List.suffix_cons _ _)⟩
  · rw [tail.memory,store_append]
    rcases cut with more' | ⟨gone,all,few⟩
    · rw [more',List.take_add]
    · rw [gone,List.take_nil,List.append_nil,List.take_of_length_le few,
        List.take_of_length_le (by omega)]
  · rw [tail.stream]
    rcases cut with more' | ⟨gone,all,few⟩
    · rw [more',List.drop_drop]
    · rw [gone,List.drop_nil,List.drop_of_length_le (by omega)]
  · intro ended
    obtain ⟨error,member⟩ := tail.failed ended
    exact ⟨error,List.mem_cons_of_mem _ member⟩
  · intro _ _
    have left := tail.suffix.length_le
    rw [List.length_cons]
    omega
  · intro ended
    have paid := tail.paid ended
    rw [List.length_cons]
    omega

theorem fill_fills (positive : 0 < largest) {received : Nat} (start : received ≤ want)
    (plan : List (ReadEvent ε)) (stream : List UInt8) (memory : Memory) :
    Fills largest want received plan stream memory (fill largest want plan stream memory received) := by
  induction plan generalizing received stream memory with
  | nil =>
    by_cases short : received < want
    · rw [fill_waits short]
      exact fills_none .waiting start List.suffix_rfl (by simp; omega) nofun (fun _ => rfl) nofun
        (fun _ other => absurd rfl other) (fun _ => Nat.le_refl _) memory
    · rw [fill_done (by omega)]
      exact fills_none .full start List.suffix_rfl (by simp; omega) nofun nofun nofun
        (fun less _ => absurd less short) (fun _ => Nat.le_refl _) memory
  | cons event plan ih =>
    by_cases short : received < want
    swap
    · rw [fill_done (by omega)]
      exact fills_none .full start List.suffix_rfl (by simp; omega) nofun nofun nofun
        (fun less _ => absurd less short) (fun _ => Nat.le_refl _) memory
    cases event with
    | fails error =>
      rw [fill_fails short]
      exact fills_none .failed start (List.suffix_cons _ _) (by simp; omega) nofun nofun
        (fun _ => ⟨error,List.mem_cons_self⟩) (fun _ _ => Nat.lt_succ_self _) (by simp) memory
    | bytes more =>
      rw [fill_bytes short]
      generalize bite : min (more+1) (min (want-received) largest) = len
      have some' : 0 < len ∧ len ≤ want-received := by omega
      split
      · rename_i nothing
        have empty : stream = [] := by
          rcases List.take_eq_nil_iff.mp nothing with zero | empty
          · omega
          · exact empty
        exact fills_none .eof start (List.suffix_cons _ _) (by simp; omega) (fun _ => empty) nofun nofun
          (fun _ _ => Nat.lt_succ_self _) (by simp) memory
      · rename_i something
        have room : received+(stream.take len).length ≤ want := by
          have size : (stream.take len).length ≤ len := List.length_take_le _ _
          omega
        exact fills_bite some'.1 something (ih room _ _) more

-- Cutting the events in two: a loop that ended on the first part does not see
-- the second, and one that is waiting goes on with it where it stands.
theorem fill_append (one two : List (ReadEvent ε)) (stream : List UInt8) (memory : Memory)
    (received : Nat) :
    fill largest want (one ++ two) stream memory received =
      let r := fill largest want one stream memory received
      if r.ending = .waiting then fill largest want two r.socket.stream r.memory r.received
      else {r with socket := {r.socket with plan := r.socket.plan ++ two}} := by
  induction one generalizing stream memory received with
  | nil =>
    by_cases short : received < want
    · rw [fill_waits short]; rfl
    · rw [fill_done (by omega),fill_done (by omega)]; rfl
  | cons event one ih =>
    by_cases short : received < want
    swap
    · rw [fill_done (by omega),fill_done (by omega)]; rfl
    cases event with
    | fails error => rw [List.cons_append,fill_fails short,fill_fails short]; rfl
    | bytes more =>
      rw [List.cons_append,fill_bytes short,fill_bytes short]
      split
      · rfl
      · exact ih _ _ _

def OnlyBytes (plan : List (ReadEvent ε)) : Prop := ∀ event ∈ plan,∃ more,event = .bytes more

theorem OnlyBytes.suffix {plan rest : List (ReadEvent ε)} (cuts : OnlyBytes plan) (part : rest <:+ plan) :
    OnlyBytes rest := fun event member => cuts event (part.subset member)

section Cuts
variable {received : Nat} {plan : List (ReadEvent ε)} {stream : List UInt8}

theorem cuts_never_fail (positive : 0 < largest) (start : received ≤ want) (cuts : OnlyBytes plan)
    (stream : List UInt8) (memory : Memory) : (fill largest want plan stream memory received).ending ≠ .failed := by
  intro ended
  obtain ⟨error,member⟩ := (fill_fills positive start plan stream memory).failed ended
  obtain ⟨more,same⟩ := cuts _ member
  cases same

-- With enough bytes in the stream the loop takes exactly what it wants, however
-- they are cut, or it is still waiting for reads that would bring them.
theorem fill_delivers (positive : 0 < largest) (start : received ≤ want) (cuts : OnlyBytes plan)
    (enough : want-received ≤ stream.length) (memory : Memory) :
    (∃ rest,rest <:+ plan ∧ plan.length ≤ rest.length+(want-received) ∧
        fill largest want plan stream memory received =
          ⟨.full,store memory received (stream.take (want-received)),want,
            ⟨stream.drop (want-received),rest⟩⟩) ∨
      ((fill largest want plan stream memory received).ending = .waiting ∧
        (fill largest want plan stream memory received).socket.stream ≠ [] ∧ plan.length < want-received) := by
  have fills := fill_fills positive start plan stream memory
  have unfailed := cuts_never_fail positive start cuts stream memory
  generalize fill largest want plan stream memory received = r at fills unfailed ⊢
  obtain ⟨ending,left,taken,⟨stream',rest⟩⟩ := r
  have bounded := fills.bounded
  have grows := fills.grows
  dsimp only at bounded grows unfailed
  have leftover : taken ≠ want → stream' ≠ [] := by
    intro short empty
    have dropped := fills.stream
    dsimp only at dropped
    rw [empty] at dropped
    have size := List.drop_eq_nil_iff.mp dropped.symm
    omega
  cases ending with
  | full =>
    have same : taken = want := fills.full.mp rfl
    subst same
    refine .inl ⟨rest,fills.suffix,fills.paid (.inl rfl),?_⟩
    have memory' := fills.memory
    have stream'' := fills.stream
    dsimp only at memory' stream''
    rw [memory',stream'']
  | eof =>
    refine absurd (fills.eof rfl) (leftover fun same => ?_)
    cases fills.full.mpr same
  | failed => exact absurd rfl unfailed
  | waiting =>
    have short : taken ≠ want := fun same => by cases fills.full.mpr same
    have paid := fills.paid (.inr rfl)
    have empty : rest = [] := fills.waiting rfl
    dsimp only at paid
    rw [empty,List.length_nil] at paid
    exact .inr ⟨rfl,leftover short,by omega⟩

theorem fill_starves (positive : 0 < largest) (start : received ≤ want) (cuts : OnlyBytes plan)
    (scarce : stream.length < want-received) (memory : Memory) :
    ((fill largest want plan stream memory received).ending = .eof ∨
        (fill largest want plan stream memory received).ending = .waiting) ∧
      (stream.length ≤ plan.length → (fill largest want plan stream memory received).socket.stream = []) := by
  have fills := fill_fills positive start plan stream memory
  have unfailed := cuts_never_fail positive start cuts stream memory
  generalize fill largest want plan stream memory received = r at fills unfailed ⊢
  have taken := fills.taken
  have grows := fills.grows
  cases ended : r.ending with
  | full =>
    have same := fills.full.mp ended
    omega
  | eof => exact ⟨.inl rfl,fun _ => fills.eof ended⟩
  | failed => exact absurd ended unfailed
  | waiting =>
    refine ⟨.inr rfl,fun many => ?_⟩
    have paid := fills.paid (.inr ended)
    rw [fills.waiting ended,List.length_nil] at paid
    rw [fills.stream,List.drop_eq_nil_iff]
    omega

end Cuts

def offered : List (ReadEvent ε) → Nat
  | [] => 0
  | .bytes more :: rest => more+1+offered rest
  | .fails _ :: rest => offered rest

-- What has left the stream is no more than what the reads used up could bring.
def Spent (before after : Socket ε) : Prop :=
  offered after.plan+before.stream.length ≤ offered before.plan+after.stream.length

theorem Spent.refl (socket : Socket ε) : Spent socket socket := Nat.le_refl _

theorem Spent.trans {one two three : Socket ε} (first : Spent one two) (second : Spent two three) :
    Spent one three := by
  unfold Spent at first second ⊢
  omega

theorem fill_spent (plan : List (ReadEvent ε)) (stream : List UInt8) (memory : Memory) (received : Nat) :
    Spent ⟨stream,plan⟩ (fill largest want plan stream memory received).socket := by
  induction plan generalizing stream memory received with
  | nil =>
    by_cases short : received < want
    · rw [fill_waits short]
      exact .refl _
    · rw [fill_done (by omega)]
      exact .refl _
  | cons event plan ih =>
    by_cases short : received < want
    swap
    · rw [fill_done (by omega)]
      exact .refl _
    cases event with
    | fails error =>
      rw [fill_fails short]
      exact Nat.le_refl _
    | bytes more =>
      rw [fill_bytes short]
      split
      · simp only [Spent,offered]
        omega
      · have later := ih (stream.drop (min (more+1) (min (want-received) largest)))
          (store memory received (stream.take (min (more+1) (min (want-received) largest))))
          (received+(stream.take (min (more+1) (min (want-received) largest))).length)
        simp only [Spent,offered,List.length_drop] at later ⊢
        omega

-- Reads that the stream has enough for never meet its end.
theorem fill_live (positive : 0 < largest) {plan : List (ReadEvent ε)} (cuts : OnlyBytes plan)
    {stream : List UInt8} (live : offered plan ≤ stream.length) (memory : Memory) (received : Nat) :
    (fill largest want plan stream memory received).ending = .full ∨
      (fill largest want plan stream memory received).ending = .waiting := by
  induction plan generalizing stream memory received with
  | nil =>
    by_cases short : received < want
    · rw [fill_waits short]
      exact .inr rfl
    · rw [fill_done (by omega)]
      exact .inl rfl
  | cons event plan ih =>
    by_cases short : received < want
    swap
    · rw [fill_done (by omega)]
      exact .inl rfl
    obtain ⟨more,rfl⟩ := cuts event List.mem_cons_self
    rw [offered] at live
    rw [fill_bytes short,if_neg]
    · refine ih (cuts.suffix (List.suffix_cons _ _)) ?_ _ _
      rw [List.length_drop]
      omega
    · intro nothing
      cases List.take_eq_nil_iff.mp nothing with
      | inl none' => omega
      | inr empty =>
        rw [empty,List.length_nil] at live
        omega

end SocketFill
