import OcssdServer.ByteBuffers

namespace BytePatterns
open ByteBuffers

-- What a writer leaves in a stretch of memory: at every place a byte of its own,
-- or whatever was there.
abbrev Pattern := List (Option UInt8)

def paint (m : Memory) (start : Nat) (pattern : Pattern) : Memory :=
  fun a => if start ≤ a then (pattern[a-start]?.join).getD (m a) else m a

theorem paint_at (m : Memory) (start : Nat) (pattern : Pattern) (i : Nat) :
    paint m start pattern (start+i) = (pattern[i]?.join).getD (m (start+i)) := by
  rw [paint,if_pos (Nat.le_add_right _ _),Nat.add_sub_cancel_left]

theorem paint_before {a start : Nat} (before : a < start) (m : Memory) (pattern : Pattern) :
    paint m start pattern a = m a := if_neg (Nat.not_le_of_lt before)

theorem paint_append (m : Memory) (start : Nat) (one two : Pattern) :
    paint (paint m start one) (start+one.length) two = paint m start (one ++ two) := by
  funext a
  rcases Nat.lt_or_ge a start with before | inside
  · rw [paint_before before,paint_before (by omega),paint_before before]
  · obtain ⟨i,rfl⟩ := Nat.exists_eq_add_of_le inside
    rw [paint_at]
    rcases Nat.lt_or_ge i one.length with first | second
    · rw [paint_before (by omega),paint_at,List.getElem?_append_left first]
    · obtain ⟨j,rfl⟩ := Nat.exists_eq_add_of_le second
      rw [←Nat.add_assoc,paint_at,Nat.add_assoc,paint_at,List.getElem?_append_right (Nat.le_add_right _ _),
        List.getElem?_eq_none (Nat.le_add_right _ _),Nat.add_sub_cancel_left]
      rfl

theorem paint_store (m : Memory) (start : Nat) (bytes : List UInt8) :
    paint m start (bytes.map some) = store m start bytes := by
  funext a
  rw [paint,store,List.getElem?_map]
  cases bytes[a-start]? <;> rfl

theorem paint_blank (m : Memory) (start count : Nat) : paint m start (List.replicate count none) = m := by
  funext a
  have nothing : ((List.replicate count (none : Option UInt8))[a-start]?).join = none := by
    rw [List.getElem?_replicate]
    split <;> rfl
  rw [paint,nothing]
  split <;> rfl

theorem load_paint_iff (start : Nat) (pattern : Pattern) :
    (∀ m n : Memory,load (paint m start pattern) start pattern.length =
      load (paint n start pattern) start pattern.length) ↔ none ∉ pattern := by
  constructor
  · intro same missing
    obtain ⟨i,inside,blank⟩ := List.getElem_of_mem missing
    have here := congrArg (fun bytes => bytes[i]?) (same (fun _ => 0) (fun _ => 1))
    have found : pattern[i]?.join = none := by rw [List.getElem?_eq_getElem inside,blank]; rfl
    simp only [load,List.getElem?_map,List.getElem?_range inside,Option.map_some,paint_at,found] at here
    cases here
  · intro full m n
    refine load_congr fun a from' below => ?_
    obtain ⟨i,rfl⟩ := Nat.exists_eq_add_of_le from'
    have inside : i < pattern.length := Nat.lt_of_add_lt_add_left below
    rw [paint_at,paint_at,List.getElem?_eq_getElem inside,Option.join_some]
    cases byte : pattern[i] with
    | none => exact absurd (byte ▸ List.getElem_mem inside) full
    | some b => rfl

-- A move of the cursor that paints the same pattern wherever it starts.
def Paints (move : Cursor → Cursor) (pattern : Pattern) : Prop :=
  ∀ p,move p = ⟨paint p.memory p.position pattern,p.position+pattern.length⟩

theorem Paints.idle : Paints (fun p => p) [] := by
  intro p
  rw [show paint p.memory p.position [] = p.memory from paint_blank _ _ 0]
  rfl

theorem Paints.after {first second : Cursor → Cursor} {one two : Pattern} (painted : Paints first one)
    (painted' : Paints second two) : Paints (fun p => second (first p)) (one ++ two) := by
  intro p
  dsimp only
  rw [painted,painted']
  dsimp only
  rw [paint_append,List.length_append,Nat.add_assoc]

theorem Paints.put (bytes : List UInt8) : Paints (fun p => p.put bytes) (bytes.map some) := by
  intro p
  rw [paint_store,List.length_map]
  rfl

theorem Paints.skip (count : Nat) : Paints (fun p => p.skip count) (List.replicate count none) := by
  intro p
  rw [paint_blank,List.length_replicate]
  rfl

theorem Paints.foldl {α : Type*} {put : Cursor → α → Cursor} {pattern : α → Pattern}
    (each : ∀ item,Paints (fun p => put p item) (pattern item)) (items : List α) :
    Paints (fun p => items.foldl put p) (items.flatMap pattern) := by
  induction items with
  | nil => exact .idle
  | cons item rest ih => exact (each item).after ih

end BytePatterns
