import OcssdServer.BlockDevice

namespace OcssdServer

structure Sweep where
  addrs : List NvmAddr
  currBlocks : List UInt32
  i : Nat

section Round
variable {World Dev Vblk : Type} (lib : Lightnvm World Dev Vblk)

-- Assigning to an address field keeps its low bits. An index past the end of
-- curr_blocks has no defined value.
def generateAddr (addrs : List NvmAddr) (currBlocks : List UInt32) (channelId lunId : UInt32) (i : Nat) :
    Option (List NvmAddr × List UInt32) := do
  let block ← currBlocks[i]?
  let addr : NvmAddr := ⟨channelId.toNat%2^lib.chBits,lunId.toNat%2^lib.lunBits,block.toNat%2^lib.blkBits⟩
  return (addrs ++ [addr],currBlocks.set i (block+1))

def sweepLun (channelId lunId blockEnd : UInt32) (sweep : Sweep) : Option Sweep := do
  let block ← sweep.currBlocks[sweep.i]?
  if block < blockEnd then
    let (addrs,currBlocks) ← generateAddr lib sweep.addrs sweep.currBlocks channelId lunId sweep.i
    return ⟨addrs,currBlocks,sweep.i+1⟩
  else return {sweep with i := sweep.i+1}

def sweepChannel (geo : NvmGeo) (sweep : Sweep) (vchannel : VirtualOcssdChannel) : Option Sweep :=
  if vchannel.isShared then
    vchannel.luns.foldlM (fun sweep vlun =>
      sweepLun lib vchannel.channelId vlun.lunId (vlun.blockStart+vlun.numBlocks) sweep) sweep
  else
    (List.range vchannel.numLuns.toNat).foldlM (fun sweep lunId =>
      sweepLun lib vchannel.channelId (UInt32.ofNat lunId) geo.nblocks.toUInt32 sweep) sweep

def sweepUnit (geo : NvmGeo) (vunit : VirtualOcssdUnit) (currBlocks : List UInt32) : Option Sweep :=
  vunit.channels.foldlM (sweepChannel lib geo) ⟨[],currBlocks,0⟩

-- How far the counters are from the end of their range.
def remaining (currBlocks : List UInt32) : Nat := (currBlocks.map (fun block => 2^32-block.toNat)).sum

end Round

namespace StripeSweep
variable {World Dev Vblk : Type} {lib : Lightnvm World Dev Vblk}

-- A fold that can fail keeps what each step that succeeds keeps.
theorem foldlM_kept {σ α : Type} {f : σ → α → Option σ} {P : σ → Prop} {items : List α}
    (each : ∀ s t, ∀ item ∈ items, P s → f s item = some t → P t) {s t : σ} (start : P s)
    (done : items.foldlM f s = some t) : P t := by
  induction items generalizing s with
  | nil =>
    cases Option.some.inj done
    exact start
  | cons item rest ih =>
    rw [List.foldlM_cons] at done
    cases first : f s item with
    | none =>
      rw [first] at done
      cases done
    | some u =>
      rw [first] at done
      exact ih (fun s t item member => each s t item (by simp [member])) (each s u item (by simp) start first) done

theorem remaining_set {currBlocks : List UInt32} {i : Nat} {block : UInt32}
    (here : currBlocks[i]? = some block) (room : block.toNat+1 < 2^32) :
    remaining (currBlocks.set i (block+1))+1 = remaining currBlocks := by
  induction currBlocks generalizing i with
  | nil => cases here
  | cons first rest ih =>
    cases i with
    | zero =>
      cases Option.some.inj here
      have next : (block+1).toNat = block.toNat+1 := by
        rw [UInt32.toNat_add,UInt32.toNat_one,Nat.mod_eq_of_lt room]
      simp only [remaining,List.set_cons_zero,List.map_cons,List.sum_cons,next]
      omega
    | succ i =>
      have tail := ih (i := i) here
      simp only [remaining,List.set_cons_succ,List.map_cons,List.sum_cons] at tail ⊢
      omega

theorem sweepLun_cases {channelId lunId blockEnd : UInt32} {sweep next : Sweep}
    (moved : sweepLun lib channelId lunId blockEnd sweep = some next) :
    ∃ block,sweep.currBlocks[sweep.i]? = some block ∧
      ((block < blockEnd ∧ next = ⟨sweep.addrs ++ [⟨channelId.toNat%2^lib.chBits,
            lunId.toNat%2^lib.lunBits,block.toNat%2^lib.blkBits⟩],
          sweep.currBlocks.set sweep.i (block+1),sweep.i+1⟩) ∨
        (¬ block < blockEnd ∧ next = {sweep with i := sweep.i+1})) := by
  unfold sweepLun generateAddr at moved
  cases here : sweep.currBlocks[sweep.i]? with
  | none => simp [here] at moved
  | some block =>
    refine ⟨block,rfl,?_⟩
    by_cases short : block < blockEnd
    · simp [here,short] at moved
      exact .inl ⟨short,moved.symm⟩
    · simp [here,short] at moved
      exact .inr ⟨short,moved.symm⟩

theorem sweepUnit_remaining {geo : NvmGeo} {vunit : VirtualOcssdUnit} {currBlocks : List UInt32}
    {sweep : Sweep} (swept : sweepUnit lib geo vunit currBlocks = some sweep) :
    remaining sweep.currBlocks+sweep.addrs.length = remaining currBlocks := by
  have lun : ∀ channelId lunId blockEnd,∀ s t : Sweep,
      remaining s.currBlocks+s.addrs.length = remaining currBlocks →
      sweepLun lib channelId lunId blockEnd s = some t →
      remaining t.currBlocks+t.addrs.length = remaining currBlocks := by
    intro channelId lunId blockEnd s t start moved
    obtain ⟨block,here,⟨short,rfl⟩ | ⟨_,rfl⟩⟩ := sweepLun_cases moved
    · have bound := UInt32.lt_iff_toNat_lt.mp short
      have word := blockEnd.toNat_lt
      have one := remaining_set here (by omega)
      simp only [List.length_append,List.length_singleton]
      omega
    · exact start
  refine foldlM_kept (P := fun s => remaining s.currBlocks+s.addrs.length = remaining currBlocks)
    ?_ rfl swept
  intro s t vchannel _ start moved
  unfold sweepChannel at moved
  split at moved
  · exact foldlM_kept (fun s t _ _ => lun _ _ _ s t) start moved
  · exact foldlM_kept (fun s t _ _ => lun _ _ _ s t) start moved

theorem sweepUnit_shrinks {geo : NvmGeo} {vunit : VirtualOcssdUnit} {currBlocks : List UInt32}
    {sweep : Sweep} (swept : sweepUnit lib geo vunit currBlocks = some sweep) (some' : sweep.addrs ≠ []) :
    remaining sweep.currBlocks < remaining currBlocks := by
  have sum := sweepUnit_remaining swept
  have positive := List.length_pos_of_ne_nil some'
  omega

end StripeSweep
end OcssdServer
