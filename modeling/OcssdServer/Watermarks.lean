import OcssdServer.FirstFit

namespace FirstFit

section Runs
variable {α : Type*} {ready : α → Bool} {use : α → α}

-- Where the cells that are not ready come first, a draw takes the next ones.
theorem draw_from {cells : List α} {k : Nat} (blocked : ∀ cell ∈ cells.take k,ready cell = false)
    (open' : ∀ cell ∈ cells.drop k,ready cell = true) (n : Nat) :
    draw ready use n cells = ((cells.drop k).take n,
      cells.take k ++ (((cells.drop k).take n).map use ++ (cells.drop k).drop n)) := by
  induction cells generalizing k n with
  | nil => simp
  | cons cell rest ih =>
    cases k with
    | succ k =>
      have later := @ih k (fun c member => blocked c (List.mem_cons_of_mem _ member)) open' n
      rw [draw_skip _ _ (blocked cell List.mem_cons_self),later]
      rfl
    | zero =>
      cases n with
      | zero => rw [draw_zero]; rfl
      | succ n =>
        have later := @ih 0 nofun (fun c member => open' c (List.mem_cons_of_mem _ member)) n
        rw [draw_ready _ _ (open' cell List.mem_cons_self),later]
        rfl

theorem draw_none {cells : List α} (blocked : ∀ cell ∈ cells,ready cell = false) (n : Nat) :
    draw ready use n cells = ([],cells) := by
  have all := @draw_from α ready use cells cells.length (by rwa [List.take_length])
    (by rw [List.drop_length]; exact nofun) n
  rw [all,List.drop_length,List.take_length]
  simp

end Runs
end FirstFit

-- Rows of cells of one depth that are filled from the bottom up, asked first fit
-- and never emptied. All that is left to know of a cell is how far it is filled.
namespace Watermarks
open FirstFit

def filled (depth mark : Nat) : Bool := depth ≤ mark

def rise (depth step mark : Nat) : Nat := mark+min step (depth-mark)

theorem rise_bound {depth mark : Nat} (bounded : mark ≤ depth) (step : Nat) : rise depth step mark ≤ depth := by
  unfold rise
  omega

theorem rise_mono {depth low high : Nat} (bounded : high ≤ depth) (order : low ≤ high) (step : Nat) :
    rise depth step low ≤ rise depth step high := by
  unfold rise
  omega

-- The numbers of the cells start at `first`. First fit keeps the fuller cells in
-- front.
structure Row where
  depth : Nat
  first : Nat
  marks : List Nat
  bounded : ∀ mark ∈ marks,mark ≤ depth
  ordered : marks.Pairwise (fun front back => back ≤ front)

namespace Row

def fresh (depth first count : Nat) : Row where
  depth := depth
  first := first
  marks := List.replicate count 0
  bounded := fun mark member => by rw [List.eq_of_mem_replicate member]; exact Nat.zero_le _
  ordered := List.pairwise_replicate.mpr (.inr (Nat.le_refl 0))

def full (row : Row) : Nat := row.marks.countP (filled row.depth)

theorem split (depth : Nat) {marks : List Nat} (ordered : marks.Pairwise (fun front back => back ≤ front)) :
    (∀ mark ∈ marks.take (marks.countP (filled depth)),depth ≤ mark) ∧
      ∀ mark ∈ marks.drop (marks.countP (filled depth)),mark < depth := by
  induction ordered with
  | nil => exact ⟨nofun,nofun⟩
  | @cons mark rest behind _ ih =>
    by_cases fills : depth ≤ mark
    · have closed : filled depth mark = true := decide_eq_true fills
      rw [List.countP_cons_of_pos closed]
      exact ⟨List.forall_mem_cons.mpr ⟨fills,ih.1⟩,ih.2⟩
    · have none' : rest.countP (filled depth) = 0 := by
        refine List.countP_eq_zero.mpr fun later member => ?_
        have less := behind later member
        rw [filled,decide_eq_true_eq]
        omega
      have open' : ¬ filled depth mark = true := by rwa [filled,decide_eq_true_eq]
      rw [List.countP_cons_of_neg open',none']
      refine ⟨nofun,List.forall_mem_cons.mpr ⟨Nat.lt_of_not_le fills,fun later member => ?_⟩⟩
      exact Nat.lt_of_le_of_lt (behind later member) (Nat.lt_of_not_le fills)

-- Of `n` cells asked for, the first that are not full give up to `step` each.
def window (n : Nat) (row : Row) : List (Nat × Nat) := ((row.marks.zipIdx row.first).drop row.full).take n

def risen (step n : Nat) (row : Row) : List Nat :=
  row.marks.take row.full ++
    (((row.marks.drop row.full).take n).map (rise row.depth step) ++ (row.marks.drop row.full).drop n)

theorem risen_bounded (step n : Nat) (row : Row) : ∀ mark ∈ row.risen step n,mark ≤ row.depth := by
  intro mark member
  rcases List.mem_append.mp member with front | member
  · exact row.bounded mark (List.mem_of_mem_take front)
  · rcases List.mem_append.mp member with raised | back
    · obtain ⟨old,inside,rfl⟩ := List.mem_map.mp raised
      exact rise_bound (row.bounded old (List.mem_of_mem_drop (List.mem_of_mem_take inside))) step
    · exact row.bounded mark (List.mem_of_mem_drop (List.mem_of_mem_drop back))

-- What stands before the window is full, and in the window all rise alike.
theorem risen_ordered (step n : Nat) (row : Row) : (row.risen step n).Pairwise (fun front back => back ≤ front) := by
  obtain ⟨front,_⟩ := split row.depth row.ordered
  have behind := row.ordered.sublist (List.drop_sublist row.full row.marks)
  have bound : ∀ mark ∈ row.marks.drop row.full,mark ≤ row.depth :=
    fun mark member => row.bounded mark (List.mem_of_mem_drop member)
  refine List.pairwise_append.mpr ⟨row.ordered.sublist (List.take_sublist _ _),?_,?_⟩
  · rw [←List.take_append_drop n (row.marks.drop row.full)] at behind
    obtain ⟨taken,left,apart⟩ := List.pairwise_append.mp behind
    refine List.pairwise_append.mpr ⟨List.pairwise_map.mpr ?_,left,?_⟩
    · refine taken.imp_of_mem fun {high low} here _ order => ?_
      exact rise_mono (bound high (List.mem_of_mem_take here)) order step
    · intro mark member back later
      obtain ⟨old,inside,rfl⟩ := List.mem_map.mp member
      exact Nat.le_trans (apart old inside back later) (Nat.le_add_right _ _)
  · intro mark member back later
    refine Nat.le_trans ?_ (front mark member)
    rcases List.mem_append.mp later with raised | left
    · obtain ⟨old,inside,rfl⟩ := List.mem_map.mp raised
      exact rise_bound (bound old (List.mem_of_mem_take inside)) step
    · exact bound back (List.mem_of_mem_drop left)

def serve (step n : Nat) (row : Row) : Row × List (Nat × Nat) :=
  if step = 0 then (row,[])
  else ({row with
    marks := row.risen step n
    bounded := row.risen_bounded step n
    ordered := row.risen_ordered step n},row.window n)

theorem serve_depth (step n : Nat) (row : Row) : (row.serve step n).1.depth = row.depth := by
  unfold serve
  split <;> rfl

theorem serve_numbers (step n : Nat) (row : Row) : ∃ first,
    (row.serve step n).2.map Prod.snd = List.range' first (row.serve step n).2.length := by
  unfold serve
  split
  · exact ⟨0,rfl⟩
  refine ⟨row.first+row.full,?_⟩
  simp only [window,List.map_take,List.map_drop,List.zipIdx_map_snd,List.length_take,List.length_drop,
    List.length_zipIdx,List.drop_range',Nat.mul_one]
  rcases Nat.le_total n (row.marks.length-row.full) with few | many
  · rw [Nat.min_eq_left few,List.take_range'_of_length_ge few]
  · rw [Nat.min_eq_right many,List.take_range'_of_length_le many]

end Row

def Reads {α : Type*} (mark number : α → Nat) (cells : List α) (row : Row) : Prop :=
  cells.map (fun cell => (mark cell,number cell)) = row.marks.zipIdx row.first

section Cells
variable {α : Type*} {mark number : α → Nat} {ready : α → Bool} {use : α → α} {row : Row} {cells : List α}

theorem Reads.marks (reads : Reads mark number cells row) : cells.map mark = row.marks := by
  have firsts := congrArg (List.map Prod.fst) reads
  rw [List.map_map,List.zipIdx_map_fst] at firsts
  exact firsts

theorem Reads.numbers (reads : Reads mark number cells row) :
    cells.map number = List.range' row.first row.marks.length := by
  have seconds := congrArg (List.map Prod.snd) reads
  rw [List.map_map,List.zipIdx_map_snd] at seconds
  exact seconds

theorem reads_of (marks : cells.map mark = row.marks) (numbers : cells.map number = List.range' row.first cells.length) :
    Reads mark number cells row := by
  rw [Reads,List.zipIdx_eq_zip_range',←marks,List.length_map,←numbers,List.zip_map']

theorem reads_fresh {make : Nat → α} {first count : Nat} (empty : ∀ id,mark (make id) = 0)
    (numbered : ∀ id ∈ List.range' first count,number (make id) = id) (depth : Nat) :
    Reads mark number ((List.range' first count).map make) (.fresh depth first count) := by
  refine reads_of ?_ ?_
  · rw [List.map_map]
    refine List.eq_replicate_iff.mpr ⟨by simp,fun mark' member => ?_⟩
    obtain ⟨id,_,rfl⟩ := List.mem_map.mp member
    exact empty id
  · rw [List.map_map,List.length_map,List.length_range']
    exact (List.map_congr_left numbered).trans (List.map_id _)

-- A first fit that is ready for cells with room, and fills them as the row does,
-- is served as the row is.
theorem reads_draw (reads : Reads mark number cells row) {step : Nat}
    (fits : ∀ cell ∈ cells,ready cell = (!filled row.depth (mark cell) && step != 0))
    (raises : ∀ cell ∈ cells,ready cell = true → mark (use cell) = rise row.depth step (mark cell))
    (keeps : ∀ cell,number (use cell) = number cell) (n : Nat) :
    Reads mark number (draw ready use n cells).2 (row.serve step n).1 ∧
      (draw ready use n cells).1.map (fun cell => (mark cell,number cell)) = (row.serve step n).2 := by
  unfold Row.serve
  by_cases idle : step = 0
  · rw [if_pos idle,draw_none (fun cell member => by rw [fits cell member,idle]; simp)]
    exact ⟨reads,rfl⟩
  rw [if_neg idle]
  obtain ⟨front,back⟩ := Row.split row.depth row.ordered
  have full : (cells.take row.full).map mark = row.marks.take row.full := by rw [List.map_take,reads.marks]
  have rest : (cells.drop row.full).map mark = row.marks.drop row.full := by rw [List.map_drop,reads.marks]
  have blocked : ∀ cell ∈ cells.take row.full,ready cell = false := by
    intro cell member
    have below := front (mark cell) (full ▸ List.mem_map_of_mem member)
    rw [fits cell (List.mem_of_mem_take member),filled,decide_eq_true below]
    rfl
  have open' : ∀ cell ∈ cells.drop row.full,ready cell = true := by
    intro cell member
    have above := back (mark cell) (rest ▸ List.mem_map_of_mem member)
    rw [fits cell (List.mem_of_mem_drop member),filled,decide_eq_false (Nat.not_le_of_lt above)]
    simpa using idle
  have raised : ∀ cell ∈ (cells.drop row.full).take n,mark (use cell) = rise row.depth step (mark cell) :=
    fun cell member => raises cell (List.mem_of_mem_drop (List.mem_of_mem_take member))
      (open' cell (List.mem_of_mem_take member))
  have left := @draw_from α ready use cells row.full blocked open' n
  constructor
  · refine reads_of ?_ ?_
    · change _ = row.risen step n
      rw [left,List.map_append,List.map_append,full,List.map_map,List.map_drop,rest,Row.risen]
      congr 2
      rw [←rest,←List.map_take,List.map_map]
      exact List.map_congr_left raised
    · have same := left_map ready use keeps n cells
      have length := congrArg List.length same
      rw [List.length_map,List.length_map] at length
      rw [same,reads.numbers,length,←reads.marks,List.length_map]
  · rw [left,Row.window,←reads,List.map_take,List.map_drop]

end Cells
end Watermarks
