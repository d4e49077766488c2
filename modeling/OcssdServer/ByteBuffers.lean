import Mathlib.Data.List.Basic
import Mathlib.Algebra.Order.Group.Nat
import Mathlib.Data.UInt

namespace ByteBuffers

def leBytes : Nat → Nat → List UInt8
  | 0,_ => []
  | width+1,value => UInt8.ofNat value :: leBytes width (value / 256)

def leValue : List UInt8 → Nat
  | [] => 0
  | b :: rest => b.toNat + 256 * leValue rest

@[simp] theorem leBytes_length (width value : Nat) : (leBytes width value).length = width := by
  induction width generalizing value with
  | zero => rfl
  | succ width ih => simp [leBytes,ih]

theorem leValue_leBytes {width value : Nat} (fits : value < 256 ^ width) :
    leValue (leBytes width value) = value := by
  induction width generalizing value with
  | zero => simp at fits; simp [leBytes,leValue,fits]
  | succ width ih =>
    have small : value / 256 < 256 ^ width := by
      rw [Nat.div_lt_iff_lt_mul (by decide)]
      rwa [Nat.pow_succ] at fits
    rw [leBytes,leValue,ih small,UInt8.toNat_ofNat']
    omega

theorem leBytes_leValue (bytes : List UInt8) : leBytes bytes.length (leValue bytes) = bytes := by
  induction bytes with
  | nil => rfl
  | cons b rest ih =>
    have small := b.toNat_lt
    have high : (b.toNat + 256 * leValue rest) / 256 = leValue rest := by omega
    have low : UInt8.ofNat (b.toNat + 256 * leValue rest) = b := by
      apply UInt8.toNat_inj.mp
      rw [UInt8.toNat_ofNat']
      omega
    rw [leValue,List.length_cons,leBytes,high,low,ih]

theorem leValue_lt (bytes : List UInt8) : leValue bytes < 256 ^ bytes.length := by
  induction bytes with
  | nil => decide
  | cons b rest ih =>
    have small := b.toNat_lt
    rw [leValue,List.length_cons,Nat.pow_succ]
    omega

-- Memory seen from the start of one allocation. Nothing stops a write past the
-- size that was asked for, as nothing does in C.
abbrev Memory := Nat → UInt8

def store (m : Memory) (start : Nat) (bytes : List UInt8) : Memory :=
  fun a => if start ≤ a then (bytes[a-start]?).getD (m a) else m a

def load (m : Memory) (start count : Nat) : List UInt8 := (List.range count).map (fun i => m (start+i))

@[simp] theorem load_length (m : Memory) (start count : Nat) : (load m start count).length = count := by
  simp [load]

theorem load_append (m : Memory) (start one two : Nat) :
    load m start (one+two) = load m start one ++ load m (start+one) two := by
  simp [load,List.range_add,List.map_map,Function.comp_def,Nat.add_assoc]

theorem load_congr {m n : Memory} {start count : Nat}
    (same : ∀ a, start ≤ a → a < start+count → m a = n a) : load m start count = load n start count := by
  apply List.map_congr_left
  intro i member
  have bound := List.mem_range.mp member
  exact same _ (by omega) (by omega)

theorem store_before {a start : Nat} (before : a < start) (m : Memory) (bytes : List UInt8) :
    store m start bytes a = m a := by
  simp [store,Nat.not_le_of_lt before]

theorem store_after {a start : Nat} {bytes : List UInt8} (after : start+bytes.length ≤ a) (m : Memory) :
    store m start bytes a = m a := by
  have past : bytes[a-start]? = none := List.getElem?_eq_none (by omega)
  simp [store,past]

theorem load_store (m : Memory) (start : Nat) (bytes : List UInt8) :
    load (store m start bytes) start bytes.length = bytes := by
  apply List.ext_getElem (by simp)
  intro i bound _
  have inside : i < bytes.length := by simpa using bound
  simp [load,store,inside]

theorem store_append (m : Memory) (start : Nat) (one two : List UInt8) :
    store (store m start one) (start+one.length) two = store m start (one ++ two) := by
  funext a
  by_cases below : a < start
  · rw [store_before below,store_before (by omega),store_before below]
  by_cases first : a < start+one.length
  · rw [store_before first]
    simp [store,Nat.le_of_not_lt below,List.getElem?_append_left (show a-start < one.length by omega)]
  · have shifted : a - (start+one.length) = a - start - one.length := by omega
    rw [store,if_pos (by omega),shifted,store_after (by omega),store,if_pos (by omega),
      List.getElem?_append_right (by omega)]

@[simp] theorem store_nil (m : Memory) (start : Nat) : store m start [] = m := by
  funext a
  simp [store]

structure Cursor where
  memory : Memory
  position : Nat

def Cursor.put (p : Cursor) (bytes : List UInt8) : Cursor :=
  ⟨store p.memory p.position bytes,p.position+bytes.length⟩

theorem Cursor.put_put (p : Cursor) (one two : List UInt8) : (p.put one).put two = p.put (one ++ two) := by
  simp only [Cursor.put,store_append,List.length_append,Nat.add_assoc]

def Cursor.skip (p : Cursor) (count : Nat) : Cursor := {p with position := p.position+count}

-- The move left exactly these bytes behind it and nothing before it changed.
structure Cursor.Wrote (p q : Cursor) (bytes : List UInt8) : Prop where
  moved : q.position = p.position+bytes.length
  left : load q.memory p.position bytes.length = bytes
  frame : ∀ a < p.position, q.memory a = p.memory a

theorem Cursor.put_wrote (p : Cursor) (bytes : List UInt8) : p.Wrote (p.put bytes) bytes :=
  ⟨rfl,load_store _ _ _,fun _ before => store_before before _ _⟩

theorem Cursor.Wrote.refl (p : Cursor) : p.Wrote p [] := ⟨rfl,rfl,fun _ _ => rfl⟩

theorem Cursor.Wrote.trans {p q r : Cursor} {one two : List UInt8} (first : p.Wrote q one)
    (second : q.Wrote r two) : p.Wrote r (one ++ two) := by
  refine ⟨?_,?_,?_⟩
  · rw [second.moved,first.moved,List.length_append,Nat.add_assoc]
  · -- The second move starts where the first ended, so it keeps what the first left.
    have kept : load r.memory p.position one.length = one := by
      refine Eq.trans (load_congr ?_) first.left
      intro a _ below
      exact second.frame a (by rw [first.moved]; exact below)
    have added := second.left
    rw [first.moved] at added
    rw [List.length_append,load_append,kept,added]
  · intro a below
    rw [second.frame a (by rw [first.moved]; omega),first.frame a below]

theorem Cursor.skip_wrote (p : Cursor) (count : Nat) :
    p.Wrote (p.skip count) (load p.memory p.position count) :=
  ⟨by simp [Cursor.skip],by simp [Cursor.skip],fun _ _ => rfl⟩

def Carries (buffer : List UInt8) (start : Nat) (bytes : List UInt8) : Prop :=
  bytes <+: buffer.drop start

theorem carries_append {buffer one two : List UInt8} {start : Nat} :
    Carries buffer start (one ++ two) ↔ Carries buffer start one ∧ Carries buffer (start+one.length) two := by
  constructor
  · rintro ⟨rest,whole⟩
    refine ⟨⟨two ++ rest,by rw [←whole,List.append_assoc]⟩,⟨rest,?_⟩⟩
    rw [←List.drop_drop,←whole,List.append_assoc,List.drop_left]
  · rintro ⟨⟨rest,whole⟩,⟨rest',tail⟩⟩
    rw [←List.drop_drop,←whole,List.drop_left] at tail
    exact ⟨rest',by rw [List.append_assoc,tail,whole]⟩

theorem carries_start (bytes following : List UInt8) : Carries (bytes ++ following) 0 bytes :=
  ⟨following,rfl⟩

theorem Carries.bound {buffer bytes : List UInt8} {start : Nat} (carried : Carries buffer start bytes)
    (nonempty : bytes ≠ []) : start+bytes.length ≤ buffer.length := by
  have short := carried.length_le
  have positive := List.length_pos_of_ne_nil nonempty
  rw [List.length_drop] at short
  omega

theorem Carries.whole {buffer bytes : List UInt8} (carried : Carries buffer 0 bytes)
    (size : bytes.length = buffer.length) : bytes = buffer := carried.eq_of_length size

-- A read of the whole width, or of nothing when it would leave the buffer.
def readLe (width : Nat) (buffer : List UInt8) (start : Nat) : Option Nat :=
  if start+width ≤ buffer.length then some (leValue ((buffer.drop start).take width)) else none

theorem readLe_carried {buffer : List UInt8} {start width value : Nat} (positive : 0 < width)
    (fits : value < 256 ^ width) (carried : Carries buffer start (leBytes width value)) :
    readLe width buffer start = some value := by
  have nonempty : leBytes width value ≠ [] := by
    intro empty
    have size := leBytes_length width value
    rw [empty,List.length_nil] at size
    omega
  have bound := carried.bound nonempty
  obtain ⟨rest,whole⟩ := carried
  rw [leBytes_length] at bound
  have front : (leBytes width value ++ rest).take width = leBytes width value := by simp
  rw [readLe,if_pos bound,←whole,front,leValue_leBytes fits]

theorem readLe_canonical {buffer : List UInt8} {start width value : Nat}
    (read : readLe width buffer start = some value) :
    value < 256 ^ width ∧ Carries buffer start (leBytes width value) := by
  unfold readLe at read
  split at read
  · rename_i bound
    have size : ((buffer.drop start).take width).length = width := by
      rw [List.length_take,List.length_drop]
      omega
    have small := leValue_lt ((buffer.drop start).take width)
    have bytes := leBytes_leValue ((buffer.drop start).take width)
    rw [size,Option.some.inj read] at small bytes
    refine ⟨small,?_⟩
    rw [bytes]
    exact List.take_prefix _ _
  · cases read

-- The bytes up to a zero byte, which has to lie inside the buffer.
def readString (buffer : List UInt8) (start : Nat) : Option (List UInt8) :=
  let text := (buffer.drop start).takeWhile (· ≠ 0)
  if start+text.length < buffer.length then some text else none

theorem readString_carried {buffer text : List UInt8} {start : Nat} (clean : 0 ∉ text)
    (carried : Carries buffer start (text ++ [0])) : readString buffer start = some text := by
  have bound := carried.bound (by simp)
  obtain ⟨rest,whole⟩ := carried
  have found : (buffer.drop start).takeWhile (· ≠ 0) = text := by
    rw [←whole,List.append_assoc,List.takeWhile_append_of_pos]
    · simp
    · intro b member
      simpa using fun zero : b = 0 => clean (zero ▸ member)
  rw [List.length_append,List.length_singleton] at bound
  rw [readString,found]
  exact if_pos (by omega)

theorem readString_iff {buffer text : List UInt8} {start : Nat} :
    readString buffer start = some text ↔ 0 ∉ text ∧ Carries buffer start (text ++ [0]) := by
  constructor
  · intro read
    unfold readString at read
    dsimp only at read
    split at read
    swap
    · cases read
    rename_i bound
    have found := Option.some.inj read
    rw [found] at bound
    have whole := List.takeWhile_append_dropWhile (p := (· ≠ 0)) (l := buffer.drop start)
    rw [found] at whole
    have clean : 0 ∉ text := by
      intro member
      have each := List.all_eq_true.mp (List.all_takeWhile (p := (· ≠ 0)) (l := buffer.drop start))
      rw [found] at each
      simpa using each 0 member
    refine ⟨clean,?_⟩
    cases tail : (buffer.drop start).dropWhile (· ≠ 0) with
    | nil =>
      have size := congrArg List.length whole
      rw [tail,List.append_nil,List.length_drop] at size
      omega
    | cons b rest =>
      have ends := List.head?_dropWhile_not (· ≠ 0) (buffer.drop start)
      rw [tail] at ends
      have ends : b = 0 := by simpa using ends
      rw [tail,ends] at whole
      exact ⟨rest,by rw [←whole,List.append_assoc]; rfl⟩
  · rintro ⟨clean,carried⟩
    exact readString_carried clean carried

def readMany {α : Type*} (read : Nat → Option (α × Nat)) : Nat → Nat → Option (List α × Nat)
  | 0,start => some ([],start)
  | count+1,start => do
    let (item,start) ← read start
    let (items,start) ← readMany read count start
    return (item :: items,start)

theorem readMany_cons {α : Type*} {read : Nat → Option (α × Nat)} {count start next last : Nat}
    {item : α} {items : List α} (head : read start = some (item,next))
    (tail : readMany read count next = some (items,last)) :
    readMany read (count+1) start = some (item :: items,last) := by
  simp [readMany,head,tail]

-- Items that lie one after another, where `lies` says what of an item is found
-- between two positions.
inductive Placed {α : Type*} (lies : Nat → α → Nat → Prop) : Nat → List α → Nat → Prop where
  | nil (start : Nat) : Placed lies start [] start
  | cons {start next last : Nat} {item : α} {items : List α} : lies start item next → Placed lies next items last →
      Placed lies start (item :: items) last

theorem readMany_iff {α : Type*} {read : Nat → Option (α × Nat)} {lies : Nat → α → Nat → Prop}
    (each : ∀ start item next, read start = some (item,next) ↔ lies start item next) {count start last : Nat}
    {items : List α} :
    readMany read count start = some (items,last) ↔ items.length = count ∧ Placed lies start items last := by
  induction count generalizing start items with
  | zero =>
    constructor
    · intro read
      cases read
      exact ⟨rfl,.nil _⟩
    · rintro ⟨none',placed⟩
      cases List.length_eq_zero_iff.mp none'
      cases placed
      rfl
  | succ count ih =>
    constructor
    · intro read
      obtain ⟨⟨item,next⟩,head,read⟩ := Option.bind_eq_some_iff.mp read
      obtain ⟨⟨items,last⟩,tail,read⟩ := Option.bind_eq_some_iff.mp read
      cases read
      obtain ⟨size,placed⟩ := ih.mp tail
      exact ⟨congrArg Nat.succ size,.cons ((each _ _ _).mp head) placed⟩
    · rintro ⟨size,placed⟩
      cases placed with
      | nil => cases size
      | cons head tail => exact readMany_cons ((each _ _ _).mpr head) (ih.mpr ⟨Nat.succ.inj size,tail⟩)

theorem Placed.between {α : Type*} {lies : Nat → α → Nat → Prop} {limit : Nat}
    (each : ∀ start item next, lies start item next → start ≤ next ∧ next ≤ limit) {start last : Nat}
    {items : List α} (placed : Placed lies start items last) (inside : start ≤ limit) :
    start ≤ last ∧ last ≤ limit := by
  induction placed with
  | nil => exact ⟨Nat.le_refl _,inside⟩
  | cons head _ ih =>
    obtain ⟨grows,bounded⟩ := each _ _ _ head
    obtain ⟨more,ends⟩ := ih bounded
    exact ⟨grows.trans more,ends⟩

theorem readMany_map {α β : Type*} {read : Nat → Option (α × Nat)} {other : Nat → Option (β × Nat)} {f : α → β}
    (each : ∀ start, other start = (read start).map fun found => (f found.1,found.2)) (count start : Nat) :
    readMany other count start = (readMany read count start).map fun found => (found.1.map f,found.2) := by
  induction count generalizing start with
  | zero => rfl
  | succ count ih =>
    rw [readMany,readMany,each]
    cases read start with
    | none => rfl
    | some found =>
      simp only [Option.map_some,Option.bind_eq_bind,Option.bind_some,ih]
      cases readMany read count found.2 with
      | none => rfl
      | some rest => rfl

inductive Listed {α : Type*} (wire : α → List UInt8 → Prop) : List α → List UInt8 → Prop where
  | nil : Listed wire [] []
  | cons : wire item bytes → Listed wire items rest → Listed wire (item :: items) (bytes ++ rest)

theorem Cursor.foldl_wrote {α : Type*} {wire : α → List UInt8 → Prop} {put : Cursor → α → Cursor}
    (each : ∀ (p : Cursor) item, ∃ bytes, wire item bytes ∧ p.Wrote (put p item) bytes) (items : List α)
    (p : Cursor) : ∃ bytes, Listed wire items bytes ∧ p.Wrote (items.foldl put p) bytes := by
  induction items generalizing p with
  | nil => exact ⟨[],.nil,.refl p⟩
  | cons item items ih =>
    obtain ⟨bytes,format,wrote⟩ := each p item
    obtain ⟨rest,formats,wroteRest⟩ := ih (put p item)
    exact ⟨bytes ++ rest,.cons format formats,wrote.trans wroteRest⟩

theorem readMany_listed {α : Type*} {wire : α → List UInt8 → Prop} {buffer : List UInt8}
    {read : Nat → Option (α × Nat)} {items : List α} {bytes : List UInt8} {start : Nat}
    (each : ∀ item ∈ items, ∀ bytes start, wire item bytes → Carries buffer start bytes →
      read start = some (item,start+bytes.length))
    (formats : Listed wire items bytes) (carried : Carries buffer start bytes) :
    readMany read items.length start = some (items,start+bytes.length) := by
  induction formats generalizing start with
  | nil => rfl
  | @cons item one items rest format _ ih =>
    obtain ⟨here,later⟩ := carries_append.mp carried
    have tail := ih (fun item member => each item (List.mem_cons_of_mem _ member)) later
    rw [Nat.add_assoc,←List.length_append] at tail
    exact readMany_cons (each item (by simp) one start format here) tail

theorem Listed.length {α : Type*} {wire : α → List UInt8 → Prop} {size : α → Nat} {items : List α}
    {bytes : List UInt8} (each : ∀ item ∈ items, ∀ bytes, wire item bytes → bytes.length = size item)
    (formats : Listed wire items bytes) : bytes.length = (items.map size).sum := by
  induction formats with
  | nil => rfl
  | cons format _ ih =>
    rw [List.length_append,List.map_cons,List.sum_cons,each _ (by simp) _ format,
      ih (fun item member => each item (List.mem_cons_of_mem _ member))]

end ByteBuffers
