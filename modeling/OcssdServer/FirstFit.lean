import Mathlib.Data.List.Basic
import Mathlib.Algebra.BigOperators.Group.List.Basic
import Mathlib.Algebra.GroupWithZero.Nat

namespace FirstFit

-- First fit over a row of cells: walk from the front, take the cells that are
-- ready, replace each by its used form, and stop when enough were taken.
variable {α : Type*} (ready : α → Bool) (use : α → α)

def draw : Nat → List α → List α × List α
  | 0,cells => ([],cells)
  | _+1,[] => ([],[])
  | n+1,cell :: rest =>
    if ready cell then (cell :: (draw n rest).1,use cell :: (draw n rest).2)
    else ((draw (n+1) rest).1,cell :: (draw (n+1) rest).2)

@[simp] theorem draw_zero (cells : List α) : draw ready use 0 cells = ([],cells) := by
  cases cells <;> rfl

@[simp] theorem draw_nil (n : Nat) : draw ready use n [] = ([],[]) := by
  cases n <;> rfl

theorem draw_ready {n : Nat} {cell : α} (fits : ready cell = true) (rest : List α) :
    draw ready use (n+1) (cell :: rest) =
      (cell :: (draw ready use n rest).1,use cell :: (draw ready use n rest).2) := by
  simp [draw,fits]

theorem draw_skip {n : Nat} {cell : α} (misfit : ready cell = false) (rest : List α) :
    draw ready use n (cell :: rest) = ((draw ready use n rest).1,cell :: (draw ready use n rest).2) := by
  cases n with
  | zero => simp
  | succ n => simp [draw,misfit]

theorem draw_taken (n : Nat) (cells : List α) :
    (draw ready use n cells).1 = (cells.filter ready).take n := by
  induction cells generalizing n with
  | nil => simp
  | cons cell rest ih =>
    cases fits : ready cell with
    | false => rw [draw_skip _ _ fits,List.filter_cons_of_neg (by simp [fits]),ih]
    | true =>
      cases n with
      | zero => simp
      | succ n => rw [draw_ready _ _ fits,List.filter_cons_of_pos fits,List.take_succ_cons,ih]

theorem taken_length (n : Nat) (cells : List α) :
    (draw ready use n cells).1.length = min n (cells.countP ready) := by
  rw [draw_taken,List.length_take,List.countP_eq_length_filter]

theorem mem_taken {n : Nat} {cells : List α} {cell : α}
    (member : cell ∈ (draw ready use n cells).1) : cell ∈ cells ∧ ready cell = true := by
  rw [draw_taken] at member
  exact List.mem_filter.mp (List.mem_of_mem_take member)

theorem mem_left {n : Nat} {cells : List α} {cell : α}
    (member : cell ∈ (draw ready use n cells).2) :
    cell ∈ cells ∨ ∃ old ∈ cells, ready old = true ∧ cell = use old := by
  induction cells generalizing n with
  | nil => simp at member
  | cons first rest ih =>
    -- The cases of `draw`: nothing wanted, the first cell taken, the first cell passed over.
    cases n with
    | zero => exact .inl (by simpa using member)
    | succ n =>
      cases fits : ready first with
      | false =>
        rw [draw_skip _ _ fits] at member
        rcases List.mem_cons.mp member with rfl | later
        · exact .inl (by simp)
        · rcases ih later with old | ⟨old,inside,wasReady,rfl⟩
          · exact .inl (by simp [old])
          · exact .inr ⟨old,by simp [inside],wasReady,rfl⟩
      | true =>
        rw [draw_ready _ _ fits] at member
        rcases List.mem_cons.mp member with rfl | later
        · exact .inr ⟨first,by simp,fits,rfl⟩
        · rcases ih later with old | ⟨old,inside,wasReady,rfl⟩
          · exact .inl (by simp [old])
          · exact .inr ⟨old,by simp [inside],wasReady,rfl⟩

theorem mem_old {n : Nat} {cells : List α} {cell : α} (member : cell ∈ cells) :
    cell ∈ (draw ready use n cells).2 ∨ (ready cell = true ∧ use cell ∈ (draw ready use n cells).2) := by
  induction cells generalizing n with
  | nil => simp at member
  | cons first rest ih =>
    cases n with
    | zero => exact .inl (by simpa using member)
    | succ n =>
      cases fits : ready first with
      | false =>
        rw [draw_skip _ _ fits]
        rcases List.mem_cons.mp member with rfl | later
        · exact .inl (by simp)
        · rcases ih (n := n+1) later with left | ⟨wasReady,left⟩
          · exact .inl (by simp [left])
          · exact .inr ⟨wasReady,by simp [left]⟩
      | true =>
        rw [draw_ready _ _ fits]
        rcases List.mem_cons.mp member with rfl | later
        · exact .inr ⟨fits,by simp⟩
        · rcases ih (n := n) later with left | ⟨wasReady,left⟩
          · exact .inl (by simp [left])
          · exact .inr ⟨wasReady,by simp [left]⟩

theorem mem_used {n : Nat} {cells : List α} {cell : α}
    (member : cell ∈ (draw ready use n cells).1) : use cell ∈ (draw ready use n cells).2 := by
  induction cells generalizing n with
  | nil => simp at member
  | cons first rest ih =>
    cases n with
    | zero => simp at member
    | succ n =>
      cases fits : ready first with
      | false =>
        rw [draw_skip _ _ fits] at member ⊢
        exact List.mem_cons_of_mem _ (ih member)
      | true =>
        rw [draw_ready _ _ fits] at member ⊢
        rcases List.mem_cons.mp member with rfl | later
        · simp
        · exact List.mem_cons_of_mem _ (ih later)

theorem left_map {γ : Type*} {f : α → γ} (frame : ∀ cell, f (use cell) = f cell)
    (n : Nat) (cells : List α) : (draw ready use n cells).2.map f = cells.map f := by
  induction cells generalizing n with
  | nil => simp
  | cons cell rest ih =>
    cases n with
    | zero => simp
    | succ n =>
      cases fits : ready cell with
      | false => rw [draw_skip _ _ fits,List.map_cons,List.map_cons,ih]
      | true => rw [draw_ready _ _ fits,List.map_cons,List.map_cons,frame,ih]

theorem left_idle {n : Nat} {cells : List α} (nothing : (draw ready use n cells).1 = []) :
    (draw ready use n cells).2 = cells := by
  induction cells generalizing n with
  | nil => simp
  | cons cell rest ih =>
    cases n with
    | zero => simp
    | succ n =>
      cases fits : ready cell with
      | false =>
        rw [draw_skip _ _ fits] at nothing ⊢
        rw [ih nothing]
      | true =>
        rw [draw_ready _ _ fits] at nothing
        cases nothing

theorem left_differs {γ : Type*} {f : α → γ} {n : Nat} {cells : List α}
    (differs : ∀ cell ∈ cells, ready cell = true → f (use cell) ≠ f cell)
    (something : (draw ready use n cells).1 ≠ []) : (draw ready use n cells).2.map f ≠ cells.map f := by
  induction cells generalizing n with
  | nil => simp at something
  | cons cell rest ih =>
    cases n with
    | zero => simp at something
    | succ n =>
      intro same
      cases fits : ready cell with
      | false =>
        rw [draw_skip _ _ fits] at something same
        simp only [List.map_cons,List.cons.injEq,true_and] at same
        exact ih (fun c member => differs c (by simp [member])) something same
      | true =>
        rw [draw_ready _ _ fits] at same
        simp only [List.map_cons,List.cons.injEq] at same
        exact differs cell (by simp) fits same.1

theorem left_sum {f g : α → Nat} {cells : List α}
    (gains : ∀ cell ∈ cells,ready cell = true → f (use cell) = f cell+g cell) (n : Nat) :
    ((draw ready use n cells).2.map f).sum =
      (cells.map f).sum+((draw ready use n cells).1.map g).sum := by
  induction cells generalizing n with
  | nil => simp
  | cons cell rest ih =>
    have later := fun n => ih (fun c member => gains c (by simp [member])) n
    cases n with
    | zero => simp
    | succ n =>
      cases fits : ready cell with
      | false =>
        rw [draw_skip _ _ fits,List.map_cons,List.sum_cons,later,List.map_cons,List.sum_cons,
          Nat.add_assoc]
      | true =>
        rw [draw_ready _ _ fits,List.map_cons,List.sum_cons,later,gains cell (by simp) fits]
        simp only [List.map_cons,List.sum_cons]
        omega

section Spent
-- From here on a used cell is no longer ready.
variable {ready use} (spent : ∀ cell, ready (use cell) = false)
include spent

theorem left_count (n : Nat) (cells : List α) :
    (draw ready use n cells).2.countP ready + min n (cells.countP ready) = cells.countP ready := by
  induction cells generalizing n with
  | nil => simp
  | cons cell rest ih =>
    cases n with
    | zero => simp
    | succ n =>
      cases fits : ready cell with
      | false =>
        have later := ih (n+1)
        rw [draw_skip _ _ fits,List.countP_cons_of_neg (by simp [fits]),
          List.countP_cons_of_neg (by simp [fits])]
        exact later
      | true =>
        have later := ih n
        rw [draw_ready _ _ fits,List.countP_cons_of_neg (by simp [spent]),
          List.countP_cons_of_pos fits]
        omega

-- The cells that changed from ready to not ready are those that were taken.
theorem draw_changed (n : Nat) (cells : List α) :
    ((cells.zip (draw ready use n cells).2).filter (fun p => ready p.1 && !ready p.2)).map Prod.fst =
      (draw ready use n cells).1 := by
  induction cells generalizing n with
  | nil => simp
  | cons cell rest ih =>
    cases n with
    | zero =>
      rw [draw_zero,List.filter_eq_nil_iff.mpr]
      · rfl
      · intro p member
        rw [List.zip_eq_zipWith,List.zipWith_self] at member
        obtain ⟨c,_,rfl⟩ := List.mem_map.mp member
        simp
    | succ n =>
      cases fits : ready cell with
      | false =>
        rw [draw_skip _ _ fits,List.zip_cons_cons,List.filter_cons_of_neg (by simp [fits])]
        exact ih (n+1)
      | true =>
        rw [draw_ready _ _ fits,List.zip_cons_cons,List.filter_cons_of_pos (by simp [fits,spent]),
          List.map_cons,ih]

theorem draw_draw (n m : Nat) (cells : List α) :
    (draw ready use m (draw ready use n cells).2).2 = (draw ready use (n+m) cells).2 := by
  induction cells generalizing n with
  | nil => simp
  | cons cell rest ih =>
    cases n with
    | zero => simp
    | succ n =>
      cases fits : ready cell with
      | false => rw [draw_skip _ _ fits,draw_skip _ _ fits,draw_skip _ _ fits,ih]
      | true =>
        rw [draw_ready _ _ fits,draw_skip _ _ (spent cell),Nat.add_right_comm,draw_ready _ _ fits,ih]

end Spent

-- A wish is spread over several rows, each serving what the rows before it
-- left open.
def spread : Nat → List (List α) → List (List α) × List (List α)
  | _,[] => ([],[])
  | n,row :: rows =>
    let r := draw ready use n row
    let t := spread (n - r.1.length) rows
    (r.1 :: t.1,r.2 :: t.2)

def stock (rows : List (List α)) : Nat := (rows.map (List.countP ready)).sum

@[simp] theorem stock_cons (row : List α) (rows : List (List α)) :
    stock ready (row :: rows) = row.countP ready + stock ready rows := by
  simp [stock]

theorem spread_total (n : Nat) (rows : List (List α)) :
    ((spread ready use n rows).1.map List.length).sum = min n (stock ready rows) := by
  induction rows generalizing n with
  | nil => simp [spread,stock]
  | cons row rows ih =>
    simp only [spread,List.map_cons,List.sum_cons,ih,taken_length,stock_cons]
    omega

section Spent
variable {ready use} (spent : ∀ cell, ready (use cell) = false)
include spent

theorem spread_stock (n : Nat) (rows : List (List α)) :
    stock ready (spread ready use n rows).2 + min n (stock ready rows) = stock ready rows := by
  induction rows generalizing n with
  | nil => simp [spread,stock]
  | cons row rows ih =>
    have here := left_count spent n row
    have later := ih (n - (draw ready use n row).1.length)
    simp only [spread,stock_cons,taken_length] at later ⊢
    omega

-- Two wishes in a row use up what their sum would: only the total matters.
theorem spread_spread (n m : Nat) (rows : List (List α)) :
    (spread ready use m (spread ready use n rows).2).2 = (spread ready use (n+m) rows).2 := by
  induction rows generalizing n m with
  | nil => simp [spread]
  | cons row rows ih =>
    have left := left_count spent n row
    have rest : n - min n (row.countP ready) + (m - min m ((draw ready use n row).2.countP ready)) =
        n+m - min (n+m) (row.countP ready) := by omega
    simp only [spread,draw_draw spent,taken_length,ih,rest]

end Spent
end FirstFit
