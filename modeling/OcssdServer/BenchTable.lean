import Mathlib.Data.List.Infix
import Mathlib.NumberTheory.Padics.PadicVal.Basic
import OcssdServer.ResourceTable
import OcssdServer.SweepCoverage

namespace OcssdServer.BenchTable
open SweepCoverage

-- What main of the two tests puts into its output file, a row for each round: the
-- number of channels and the request size. The bandwidth is measured.
structure Benched where
  rows : List (Nat × Int)
  ending : SweepEnd
deriving DecidableEq, Repr

-- On /dev/nvme0n1 every second pair of channels is left out.
def skipped (skips : Bool) (channel : Nat) : Bool := skips && channel/2%2 == 1

-- A test that does not come out of its loops is the last.
def benchLoop (skips : Bool) (test : List Nat → Swept) : Nat → Nat → List Nat → Benched
  | 0,_,_ => ⟨[],.done⟩
  | left+1,channel,channels =>
    if skipped skips channel then benchLoop skips test left (channel+1) channels
    else
      let channels := channels ++ [channel]
      let swept := test channels
      let rows := swept.rounds.map fun round => (channels.length,round.size)
      match swept.ending with
      | .done =>
        let r := benchLoop skips test left (channel+1) channels
        {r with rows := rows ++ r.rows}
      | .undefined => ⟨rows,.undefined⟩
      | .aborted => ⟨rows,.aborted⟩

def dev1 : DevName := ascii "/dev/nvme0n1"

def vblkTestMain (asserts : Bool) (bench : VblkBench) (argv1 : DevName) (geo : NvmGeo) : Benched :=
  benchLoop (argv1 == dev1) (testVblk asserts bench geo) geo.nchannels.toNat 0 []

def working (skips : Bool) (channel left : Nat) : List Nat :=
  (List.range' channel left).filter fun c => !skipped skips c

example : working true 0 16 = [0,1,4,5,8,9,12,13] := by decide

def tested (skips : Bool) (channel left : Nat) : List (List Nat) := (working skips channel left).inits.tail

section Loop
variable {skips : Bool} {test : List Nat → Swept}

theorem tested_skipped {channel left : Nat} (out : skipped skips channel = true) :
    tested skips channel (left+1) = tested skips (channel+1) left := by
  rw [tested,working,List.range'_succ,List.filter_cons_of_neg (by simp [out])]
  rfl

theorem tested_cons {channel left : Nat} (works : ¬ skipped skips channel = true) :
    tested skips channel (left+1) = [channel] :: (tested skips (channel+1) left).map (List.cons channel) := by
  rw [tested,working,List.range'_succ,List.filter_cons_of_pos (by simp [works]),List.inits_cons,List.tail_cons,tested,
    working]
  generalize List.filter _ _ = later
  cases later with
  | nil => rfl
  | cons c rest => rw [List.inits_cons,List.map_cons,List.tail_cons]

def rowsOf (test : List Nat → Swept) (channels : List Nat) : List (Nat × Int) :=
  (test channels).rounds.map fun round => (channels.length,round.size)

theorem loop_done_iff (left channel : Nat) (channels : List Nat) :
    (benchLoop skips test left channel channels).ending = .done ↔
      ∀ more ∈ tested skips channel left,(test (channels ++ more)).ending = .done := by
  induction left generalizing channel channels with
  | zero => exact iff_of_true rfl nofun
  | succ left ih =>
    rw [benchLoop]
    split
    · rename_i out
      rw [tested_skipped out]
      exact ih (channel+1) channels
    · rename_i works
      rw [tested_cons works,List.forall_mem_cons]
      have later := ih (channel+1) (channels ++ [channel])
      simp only [List.append_assoc,List.singleton_append] at later
      rw [List.forall_mem_map,←later]
      dsimp only
      cases ended : (test (channels ++ [channel])).ending with
      | done => exact (and_iff_right rfl).symm
      | undefined => exact iff_of_false SweepEnd.noConfusion fun both => SweepEnd.noConfusion both.1
      | aborted => exact iff_of_false SweepEnd.noConfusion fun both => SweepEnd.noConfusion both.1

theorem loop_rows (left channel : Nat) (channels : List Nat)
    (done : ∀ more ∈ tested skips channel left,(test (channels ++ more)).ending = .done) :
    (benchLoop skips test left channel channels).rows =
      (tested skips channel left).flatMap fun more => rowsOf test (channels ++ more) := by
  induction left generalizing channel channels with
  | zero => rfl
  | succ left ih =>
    rw [benchLoop]
    split
    · rename_i out
      rw [tested_skipped out] at done ⊢
      exact ih (channel+1) channels done
    · rename_i works
      rw [tested_cons works,List.forall_mem_cons,List.forall_mem_map] at done
      have later := ih (channel+1) (channels ++ [channel])
      simp only [List.append_assoc,List.singleton_append] at later
      rw [tested_cons works,List.flatMap_cons,List.flatMap_map,←later done.2]
      dsimp only
      rw [done.1]
      rfl

end Loop

section Table
variable {bench : VblkBench} {geo : NvmGeo} {channels : List Nat}

-- Write units that one block on each LUN of a channel holds.
def width (geo : NvmGeo) : Nat := geo.nluns.toNat*geo.npages.toNat

-- A device of equal blocks, as liblightnvm counts the bytes of a virtual one, with
-- memory for every buffer whose size an int holds and no failing request.
structure Uniform (bench : VblkBench) (geo : NvmGeo) (lists : List (List Nat)) : Prop where
  units : 0 < width geo*unitBytes geo
  sizes : ∀ channels ∈ lists,blockBytes bench geo channels = channels.length*width geo*unitBytes geo
  serves : ∀ channels ∈ lists,
    Serves (unitBytes geo) (blockBytes bench geo channels) (bench.transfer (sweepUnits geo channels))
  memory : ∀ channels ∈ lists,blockBytes bench geo channels < 2^31 → buffered bench geo channels = true

theorem tested_some {skips : Bool} {channel left : Nat} (member : channels ∈ tested skips channel left) :
    0 < channels.length := by
  induction left generalizing channel channels with
  | zero => cases member
  | succ left ih =>
    by_cases works : skipped skips channel = true
    · rw [tested_skipped works] at member
      exact ih member
    · rw [tested_cons works] at member
      rcases List.mem_cons.mp member with rfl | later
      · exact Nat.one_pos
      · obtain ⟨_,_,rfl⟩ := List.mem_map.mp later
        exact Nat.succ_pos _

theorem due_units {count unit : Nat} (some' : 0 < count) (positive : 0 < unit) (k : Nat) :
    Due unit (count*unit) k ↔ k ≤ padicValNat 2 count := by
  have divides : unit*2^k ∣ count*unit ↔ 2^k ∣ count := by
    rw [Nat.mul_comm count]
    exact Nat.mul_dvd_mul_iff_left positive
  rw [Due,divides,←padicValNat_dvd_iff_le some'.ne']
  refine ⟨And.right,fun dvd => ⟨?_,dvd⟩⟩
  rw [Nat.mul_comm count]
  exact Nat.mul_le_mul_left unit (Nat.le_of_dvd some' dvd)

theorem covers_rows {count unit : Nat} (some' : 0 < count) (positive : 0 < unit) {swept : Swept}
    (covers : Covers unit (count*unit) swept) :
    swept.rounds.map (·.size) = (List.range (padicValNat 2 count+1)).map fun k => ((unit*2^k : Nat) : Int) := by
  obtain ⟨rounds,due,beyond,sizes⟩ := covers.sizes
  have last : rounds = padicValNat 2 count+1 := by
    rw [due_units some' positive] at beyond
    have inside : ∀ k < rounds,k ≤ padicValNat 2 count := fun k few => (due_units some' positive k).mp (due k few)
    have before := inside (rounds-1)
    omega
  rw [sizes,last]

theorem in_range_iff {count unit : Nat} (some' : 0 < count) (positive : 0 < unit) {buffered : Bool}
    (memory : count*unit < 2^31 → buffered = true) :
    InRange buffered unit (count*unit) ↔ count*unit < 2^31 ∧ ¬ (2^30 ≤ count*unit ∧ ∃ k,count = 2^k) := by
  have due : Due unit (count*unit) 0 := (due_units some' positive 0).mpr (Nat.zero_le _)
  have power : (∃ k,count*unit = unit*2^k) ↔ ∃ k,count = 2^k := by
    refine exists_congr fun k => ?_
    rw [Nat.mul_comm count]
    exact Nat.mul_right_inj positive.ne'
  rw [InRange,power]
  exact ⟨fun range => (range.1 due).2,fun fits => ⟨fun _ => ⟨memory fits.1,fits⟩,fun beyond => absurd due beyond⟩⟩

-- When the benchmark is whole. On equal blocks main of either test gets through
-- all its channels, with every round of every test over exactly the block, if and
-- only if each of the blocks stays below 2^31 bytes and no block from 2^30 bytes on
-- is a power of two of units. Its file then has for each number of channels the
-- sizes that divide the block, each twice the one before.
theorem bench_table_iff (asserts : Bool) (argv1 : DevName)
    (uniform : Uniform bench geo (tested (argv1 == dev1) 0 geo.nchannels.toNat)) :
    let lists := tested (argv1 == dev1) 0 geo.nchannels.toNat
    let main := vblkTestMain asserts bench argv1 geo
    let whole := main.ending = .done ∧ ∀ channels ∈ lists,
      Covers (unitBytes geo) (channels.length*width geo*unitBytes geo) (testVblk asserts bench geo channels)
    (whole ↔ ∀ channels ∈ lists,channels.length*width geo*unitBytes geo < 2^31 ∧
      ¬ (2^30 ≤ channels.length*width geo*unitBytes geo ∧ ∃ k,channels.length*width geo = 2^k)) ∧
    (whole → main.rows = lists.flatMap fun channels =>
      (List.range (padicValNat 2 (channels.length*width geo)+1)).map fun k =>
        (channels.length,((unitBytes geo*2^k : Nat) : Int))) := by
  intro lists main whole
  have positive : 0 < unitBytes geo := Nat.pos_of_mul_pos_left uniform.units
  have wide : 0 < width geo := Nat.pos_of_mul_pos_right uniform.units
  have units : ∀ channels ∈ lists,0 < channels.length*width geo :=
    fun channels member => Nat.mul_pos (tested_some member) wide
  have each : ∀ channels ∈ lists,
      (Covers (unitBytes geo) (channels.length*width geo*unitBytes geo) (testVblk asserts bench geo channels) ↔
        channels.length*width geo*unitBytes geo < 2^31 ∧
          ¬ (2^30 ≤ channels.length*width geo*unitBytes geo ∧ ∃ k,channels.length*width geo = 2^k)) := by
    intro channels member
    have memory := uniform.memory channels member
    have range := test_covers_iff asserts positive (uniform.serves channels member)
    rw [uniform.sizes channels member] at memory range
    exact range.trans (in_range_iff (units channels member) positive memory)
  refine ⟨⟨fun all channels member => (each channels member).mp (all.2 channels member),fun fits => ?_⟩,fun all => ?_⟩
  · have covers := fun channels member => (each channels member).mpr (fits channels member)
    refine ⟨(loop_done_iff _ 0 []).mpr fun channels member => ?_,covers⟩
    exact (covers channels member).ended
  · have rows := loop_rows _ 0 [] ((loop_done_iff _ 0 []).mp all.1)
    refine rows.trans (List.flatMap_congr fun channels member => ?_)
    have sizes := covers_rows (units channels member) positive (all.2 channels member)
    have listed := congrArg (List.map fun size => (channels.length,size)) sizes
    rw [List.map_map,List.map_map] at listed
    exact listed

end Table

-- Blocks of 32 bytes on two LUNs a channel, four of the six channels in use.
def sixChannels : NvmGeo := ⟨6,2,1,1,2,4,16,4,0⟩

theorem six_uniform : Uniform (unitBench 32) sixChannels (tested (dev1 == dev1) 0 sixChannels.nchannels.toNat) := by
  rw [beq_self_eq_true]
  exact ⟨by decide,by decide,fun channels _ => unitBench_serves 32 sixChannels channels,fun _ _ _ => rfl⟩

theorem six_channels_whole : (vblkTestMain true (unitBench 32) dev1 sixChannels).ending = .done ∧
    Covers 16 256 (testVblk true (unitBench 32) sixChannels [0,1,4,5]) := by
  have small : ∀ channels ∈ tested (dev1 == dev1) 0 sixChannels.nchannels.toNat,
      channels.length*width sixChannels*unitBytes sixChannels < 2^30 := by
    rw [beq_self_eq_true]
    decide
  have last : [0,1,4,5] ∈ tested (dev1 == dev1) 0 sixChannels.nchannels.toNat := by
    rw [beq_self_eq_true]
    decide
  obtain ⟨done,covers⟩ := (bench_table_iff true dev1 six_uniform).1.mpr fun channels member =>
    ⟨(small channels member).trans (by decide),fun large => absurd large.1 (Nat.not_le.mpr (small channels member))⟩
  exact ⟨done,covers [0,1,4,5] last⟩

end OcssdServer.BenchTable
