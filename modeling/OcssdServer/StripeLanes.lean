import OcssdServer.Connection
import OcssdServer.BlockOwnership
import Mathlib.Data.List.ReduceOption
import Mathlib.Data.List.Forall2

namespace OcssdServer.StripeLanes
open StripeSweep

-- One LUN of a virtual unit with the range of blocks that stripes run through.
structure Lane where
  channelId : UInt32
  lunId : UInt32
  blockStart : UInt32
  blockEnd : UInt32

def channelLanes (geo : NvmGeo) (vchannel : VirtualOcssdChannel) : List Lane :=
  if vchannel.isShared then
    vchannel.luns.map (fun vlun => ⟨vchannel.channelId,vlun.lunId,vlun.blockStart,vlun.blockStart+vlun.numBlocks⟩)
  else
    (List.range vchannel.numLuns.toNat).map (fun lunId =>
      ⟨vchannel.channelId,UInt32.ofNat lunId,0,geo.nblocks.toUInt32⟩)

def lanes (geo : NvmGeo) (vunit : VirtualOcssdUnit) : List Lane := vunit.channels.flatMap (channelLanes geo)

variable {World Dev Vblk : Type} (lib : Lightnvm World Dev Vblk)

def Lane.addr (lane : Lane) (block : UInt32) : NvmAddr :=
  ⟨lane.channelId.toNat%2^lib.chBits,lane.lunId.toNat%2^lib.lunBits,block.toNat%2^lib.blkBits⟩

def Lane.collect (lane : Lane) (block : UInt32) : Option NvmAddr :=
  if block < lane.blockEnd then some (lane.addr lib block) else none

def Lane.bump (lane : Lane) (block : UInt32) : UInt32 := if block < lane.blockEnd then block+1 else block

def stepLane (sweep : Sweep) (lane : Lane) : Option Sweep :=
  sweepLun lib lane.channelId lane.lunId lane.blockEnd sweep

theorem sweepChannel_lanes (geo : NvmGeo) (vchannel : VirtualOcssdChannel) (sweep : Sweep) :
    sweepChannel lib geo sweep vchannel = (channelLanes geo vchannel).foldlM (stepLane lib) sweep := by
  unfold sweepChannel channelLanes
  split
  · rw [List.foldlM_map]
    rfl
  · rw [List.foldlM_map]
    rfl

theorem sweepUnit_lanes (geo : NvmGeo) (vunit : VirtualOcssdUnit) (currBlocks : List UInt32) :
    sweepUnit lib geo vunit currBlocks = (lanes geo vunit).foldlM (stepLane lib) ⟨[],currBlocks,0⟩ := by
  unfold sweepUnit lanes
  generalize (⟨[],currBlocks,0⟩ : Sweep) = sweep
  induction vunit.channels generalizing sweep with
  | nil => rfl
  | cons vchannel rest ih =>
    rw [List.foldlM_cons,List.flatMap_cons,List.foldlM_append,sweepChannel_lanes]
    exact congrArg _ (funext ih)

theorem stepLane_at (lane : Lane) (addrs : List NvmAddr) (done : List UInt32) (block : UInt32)
    (rest : List UInt32) :
    stepLane lib ⟨addrs,done ++ block :: rest,done.length⟩ lane =
      some ⟨addrs ++ (lane.collect lib block).toList,done ++ lane.bump block :: rest,done.length+1⟩ := by
  have here : (done ++ block :: rest)[done.length]? = some block := by simp
  unfold stepLane sweepLun generateAddr Lane.collect Lane.bump
  by_cases short : block < lane.blockEnd
  · simp [short,Lane.addr]
  · simp [short]

theorem round_lanes (row : List Lane) (addrs : List NvmAddr) (done currBlocks : List UInt32)
    (size : currBlocks.length = row.length) :
    row.foldlM (stepLane lib) ⟨addrs,done ++ currBlocks,done.length⟩ =
      some ⟨addrs ++ (List.zipWith (Lane.collect lib) row currBlocks).reduceOption,
        done ++ List.zipWith Lane.bump row currBlocks,done.length+row.length⟩ := by
  induction row generalizing addrs done currBlocks with
  | nil =>
    rw [List.length_eq_zero_iff.mp size]
    simp
  | cons lane row ih =>
    cases currBlocks with
    | nil => cases size
    | cons block currBlocks =>
      have tail := ih (addrs ++ (lane.collect lib block).toList) (done ++ [lane.bump block]) currBlocks
        (Nat.succ.inj size)
      rw [List.length_append,List.length_singleton,List.append_assoc,List.singleton_append] at tail
      rw [List.foldlM_cons,stepLane_at,Option.bind_eq_bind,Option.bind_some,tail]
      cases given : lane.collect lib block with
      | none => simp [given,List.reduceOption_cons_of_none,Nat.add_assoc,Nat.add_comm 1]
      | some addr => simp [given,List.reduceOption_cons_of_some,Nat.add_assoc,Nat.add_comm 1]

theorem sweepUnit_round (geo : NvmGeo) (vunit : VirtualOcssdUnit) {currBlocks : List UInt32}
    (size : currBlocks.length = (lanes geo vunit).length) :
    sweepUnit lib geo vunit currBlocks =
      some ⟨(List.zipWith (Lane.collect lib) (lanes geo vunit) currBlocks).reduceOption,
        List.zipWith Lane.bump (lanes geo vunit) currBlocks,(lanes geo vunit).length⟩ := by
  have round := round_lanes lib (lanes geo vunit) [] [] currBlocks size
  rw [sweepUnit_lanes]
  simpa using round

-- The allocator marks its virtual channels with 0 or 1 only, so that the two
-- tests of the shared field agree.
def Plain (vunit : VirtualOcssdUnit) : Prop := ∀ vchannel ∈ vunit.channels,vchannel.shared = 0 ∨ vchannel.shared = 1

section Generated

theorem channel_starts (geo : NvmGeo) {vchannel : VirtualOcssdChannel}
    (plain : vchannel.shared = 0 ∨ vchannel.shared = 1) (units : List UInt32) :
    vchannel.generateUnits units = units ++ (channelLanes geo vchannel).map (·.blockStart) := by
  rcases plain with zero | one
  · simp [VirtualOcssdChannel.generateUnits,channelLanes,VirtualOcssdChannel.isShared,zero,Function.comp_def]
  · simp [VirtualOcssdChannel.generateUnits,channelLanes,VirtualOcssdChannel.isShared,one,Function.comp_def]

theorem unit_starts (geo : NvmGeo) {vunit : VirtualOcssdUnit} (plain : Plain vunit) :
    vunit.generateUnits [] = (lanes geo vunit).map (·.blockStart) := by
  have fold (channels : List VirtualOcssdChannel) (units : List UInt32)
      (flags : ∀ vchannel ∈ channels,vchannel.shared = 0 ∨ vchannel.shared = 1) :
      channels.foldl (fun units vchannel => vchannel.generateUnits units) units =
        units ++ (channels.flatMap (channelLanes geo)).map (·.blockStart) := by
    induction channels generalizing units with
    | nil => simp
    | cons vchannel rest ih =>
      rw [List.foldl_cons,ih _ (fun v member => flags v (by simp [member])),
        channel_starts geo (flags vchannel (by simp)),List.flatMap_cons,List.map_append,List.append_assoc]
  rw [VirtualOcssdUnit.generateUnits,fold vunit.channels [] plain,List.nil_append,lanes]

theorem add_plain {vunit : VirtualOcssdUnit} (plain : Plain vunit) {vchannel : VirtualOcssdChannel}
    (flag : vchannel.shared = 0 ∨ vchannel.shared = 1) : Plain (vunit.add vchannel) := by
  intro v member
  rcases List.mem_append.mp member with old | new
  · exact plain v old
  · rw [List.mem_singleton.mp new]
    exact flag

theorem sharedLoop_plain (numChannels : UInt32) (blocks : UInt64) (pool : List OcssdChannel)
    {vunit : VirtualOcssdUnit} (plain : Plain vunit) (channels : UInt64) :
    Plain (OcssdUnit.allocSharedLoop numChannels blocks pool vunit channels).vunit := by
  induction pool generalizing vunit channels with
  | nil => exact plain
  | cons channel rest ih =>
    have flag : (VirtualOcssdChannel.ofAllocUnits channel.channelId.toUInt32 1
        (channel.allocBlocks [] blocks).allocUnits).shared = 1 := by
      rw [BlockOwnership.ofAllocUnits_parts]
    unfold OcssdUnit.allocSharedLoop
    dsimp only
    split
    · split
      · exact add_plain plain (.inr flag)
      · exact ih (add_plain plain (.inr flag)) _
    · exact ih plain _

theorem exclusiveLoop_plain (numChannels : UInt32) (pool : List OcssdChannel)
    {vunit : VirtualOcssdUnit} (plain : Plain vunit) (channels : UInt64) :
    Plain (OcssdUnit.allocExclusiveLoop numChannels pool vunit channels).vunit := by
  induction pool generalizing vunit channels with
  | nil => exact plain
  | cons channel rest ih =>
    unfold OcssdUnit.allocExclusiveLoop
    dsimp only
    split
    · exact ih plain _
    · split
      · exact add_plain plain (.inl rfl)
      · exact ih (add_plain plain (.inl rfl)) _

theorem allocChannels_plain (unit : OcssdUnit) {vssd : VirtualOcssd}
    (plain : ∀ vunit ∈ vssd.units,Plain vunit) (request : OcssdAllocRequest) :
    ∀ vunit ∈ (unit.allocChannels vssd request).vssd.units,Plain vunit := by
  have blank : Plain ⟨unit.name,unit.geo,[]⟩ := fun _ member => by cases member
  have added : ∀ vunit,Plain vunit → ∀ v ∈ (vssd.add vunit).units,Plain v := by
    intro vunit fine v member
    rcases List.mem_append.mp member with old | new
    · exact plain v old
    · rw [List.mem_singleton.mp new]
      exact fine
  unfold OcssdUnit.allocChannels
  dsimp only
  split
  · exact plain
  · split
    · split
      · exact plain
      · exact added _ (sharedLoop_plain _ _ _ blank _)
    · split
      · exact plain
      · exact added _ (exclusiveLoop_plain _ _ blank _)

theorem allocLoop_plain (units : List OcssdUnit) {vssd : VirtualOcssd}
    (plain : ∀ vunit ∈ vssd.units,Plain vunit) (request : OcssdAllocRequest) (channels : UInt64) :
    ∀ vunit ∈ (OcssdManager.allocLoop units vssd request channels).vssd.units,Plain vunit := by
  induction units generalizing vssd request channels with
  | nil => exact plain
  | cons unit rest ih =>
    unfold OcssdManager.allocLoop
    dsimp only
    split
    · exact allocChannels_plain unit plain request
    · exact ih (allocChannels_plain unit plain request) _ _

theorem grant_plain (manager : OcssdManager) (request : OcssdAllocRequest) :
    ∀ vunit ∈ (manager.allocOcssdResource .new request).vssd.units,Plain vunit :=
  allocLoop_plain manager.ocssds (fun _ member => by cases member) request 0

end Generated

section Loop
variable {lib} {geo : NvmGeo} {vunit : VirtualOcssdUnit}

def OnLanes (geo : NvmGeo) (vunit : VirtualOcssdUnit) (currBlocks : List UInt32) : Prop :=
  List.Forall₂ (fun lane block => lane.blockStart ≤ block) (lanes geo vunit) currBlocks

def InLanes (lib : Lightnvm World Dev Vblk) (geo : NvmGeo) (vunit : VirtualOcssdUnit)
    (addrs : List NvmAddr) : Prop :=
  ∀ addr ∈ addrs,∃ lane ∈ lanes geo vunit,∃ block,
    lane.blockStart ≤ block ∧ block < lane.blockEnd ∧ addr = lane.addr lib block

theorem starts_onLanes (geo : NvmGeo) (plain : Plain vunit) : OnLanes geo vunit (vunit.generateUnits []) := by
  rw [unit_starts geo plain]
  unfold OnLanes
  induction lanes geo vunit with
  | nil => exact .nil
  | cons lane rest ih => exact .cons (UInt32.le_refl _) ih

theorem bump_start {lane : Lane} {block : UInt32} (on : lane.blockStart ≤ block) :
    lane.blockStart ≤ lane.bump block := by
  unfold Lane.bump
  split
  · rename_i short
    have bound := UInt32.lt_iff_toNat_lt.mp short
    have word := lane.blockEnd.toNat_lt
    have next : (block+1).toNat = block.toNat+1 := by
      rw [UInt32.toNat_add,UInt32.toNat_one,Nat.mod_eq_of_lt (by omega)]
    rw [UInt32.le_iff_toNat_le] at on ⊢
    omega
  · exact on

theorem round_onLanes {row : List Lane} {currBlocks : List UInt32}
    (on : List.Forall₂ (fun lane block => lane.blockStart ≤ block) row currBlocks) :
    List.Forall₂ (fun lane block => lane.blockStart ≤ block) row (List.zipWith Lane.bump row currBlocks) := by
  induction on with
  | nil => exact .nil
  | cons here _ ih => exact .cons (bump_start here) ih

theorem round_inLanes {row : List Lane} {currBlocks : List UInt32}
    (on : List.Forall₂ (fun lane block => lane.blockStart ≤ block) row currBlocks) :
    ∀ addr ∈ (List.zipWith (Lane.collect lib) row currBlocks).reduceOption,∃ lane ∈ row,∃ block,
      lane.blockStart ≤ block ∧ block < lane.blockEnd ∧ addr = lane.addr lib block := by
  induction on with
  | nil => exact fun _ member => by cases member
  | @cons lane block row currBlocks here _ ih =>
    intro addr member
    rw [List.reduceOption_mem_iff,List.zipWith_cons_cons,List.mem_cons] at member
    rcases member with first | later
    · unfold Lane.collect at first
      split at first
      · rename_i short
        exact ⟨lane,by simp,block,here,short,Option.some.inj first⟩
      · cases first
    · obtain ⟨lane',inside,found⟩ := ih addr (List.reduceOption_mem_iff.mpr later)
      exact ⟨lane',by simp [inside],found⟩

theorem sweepUnit_ne_none (lib : Lightnvm World Dev Vblk) {currBlocks : List UInt32}
    (on : OnLanes geo vunit currBlocks) : sweepUnit lib geo vunit currBlocks ≠ none := by
  rw [sweepUnit_round lib geo vunit on.length_eq.symm]
  exact Option.some_ne_none _

theorem swept_lanes {currBlocks : List UInt32} {sweep : Sweep} (on : OnLanes geo vunit currBlocks)
    (swept : sweepUnit lib geo vunit currBlocks = some sweep) :
    OnLanes geo vunit sweep.currBlocks ∧ InLanes lib geo vunit sweep.addrs := by
  rw [sweepUnit_round lib geo vunit on.length_eq.symm] at swept
  cases swept
  exact ⟨round_onLanes on,round_inLanes on⟩

theorem stripeLoop_swept {conn : OcssdConn Dev Vblk} {session : Session World Vblk}
    {currBlocks : List UInt32} {sweep : Sweep} (swept : sweepUnit lib geo vunit currBlocks = some sweep)
    (count : Nat) :
    stripeLoop lib geo vunit conn session currBlocks count =
      if sweep.addrs = [] then ⟨{conn with numBlks := some (UInt64.ofNat count)},session,.returned 0⟩
      else
        let allocated := vblkAlloc lib conn.dev sweep.addrs session
        let tested := nvmVblkTest lib geo allocated.1 allocated.2
        if tested.1 < 0 then
          stripeLoop lib geo vunit conn (vblkFree lib allocated.1 tested.2) sweep.currBlocks count
        else if allocated.1.isNone then
          ⟨conn,conn.blksArray.foldl (fun session blk => vblkFree lib blk session) tested.2,.returned (-12)⟩
        else
          stripeLoop lib geo vunit (conn.addBlock allocated.1 (lib.vblkGetNbytes allocated.1 tested.2.world))
            tested.2 sweep.currBlocks (count+1) := by
  rw [stripeLoop.eq_def]
  split
  · rename_i missing
    rw [swept] at missing
    cases missing
  · rename_i found
    rw [swept] at found
    cases found
    rfl

-- The rule of the stripe loop: what its three kinds of round and its end keep,
-- the loop keeps, and curr_blocks is never indexed past its end.
theorem stripeLoop_rule {I : OcssdConn Dev Vblk → Session World Vblk → Prop}
    (failed : ∀ conn session addrs,I conn session → InLanes lib geo vunit addrs →
      I conn (vblkFree lib (vblkAlloc lib conn.dev addrs session).1
        (nvmVblkTest lib geo (vblkAlloc lib conn.dev addrs session).1
          (vblkAlloc lib conn.dev addrs session).2).2))
    (kept : ∀ conn session addrs blk,I conn session → InLanes lib geo vunit addrs →
      (vblkAlloc lib conn.dev addrs session).1 = some blk → ∀ blkSize,
      I (conn.addBlock (some blk) blkSize)
        (nvmVblkTest lib geo (some blk) (vblkAlloc lib conn.dev addrs session).2).2)
    (lost : ∀ conn session addrs,I conn session → InLanes lib geo vunit addrs →
      (vblkAlloc lib conn.dev addrs session).1 = none →
      I conn (conn.blksArray.foldl (fun session blk => vblkFree lib blk session)
        (nvmVblkTest lib geo none (vblkAlloc lib conn.dev addrs session).2).2))
    (ended : ∀ conn session numBlks,I conn session → I {conn with numBlks := numBlks} session)
    {conn : OcssdConn Dev Vblk} {session : Session World Vblk} {currBlocks : List UInt32} {count : Nat}
    (on : OnLanes geo vunit currBlocks) (start : I conn session) :
    I (stripeLoop lib geo vunit conn session currBlocks count).conn
        (stripeLoop lib geo vunit conn session currBlocks count).session ∧
      ∃ ret,(stripeLoop lib geo vunit conn session currBlocks count).ending = .returned ret := by
  induction conn, session, currBlocks, count using stripeLoop.induct lib geo vunit with
  | case1 conn session currBlocks count missing =>
    exact absurd missing (sweepUnit_ne_none lib on)
  | case2 conn session currBlocks count sweep swept none' =>
    rw [stripeLoop_swept swept,if_pos none']
    exact ⟨ended _ _ _ start,0,rfl⟩
  | case3 conn session currBlocks count sweep swept some' allocated tested bad ih =>
    obtain ⟨next,inside⟩ := swept_lanes on swept
    rw [stripeLoop_swept swept,if_neg some']
    dsimp only
    rw [if_pos bad]
    exact ih next (failed _ _ _ start inside)
  | case4 conn session currBlocks count sweep swept some' allocated tested good missing =>
    obtain ⟨next,inside⟩ := swept_lanes on swept
    have null : (vblkAlloc lib conn.dev sweep.addrs session).1 = none := Option.isNone_iff_eq_none.mp missing
    have gone := lost _ _ _ start inside null
    rw [←null] at gone
    rw [stripeLoop_swept swept,if_neg some']
    dsimp only
    rw [if_neg good,if_pos missing]
    exact ⟨gone,-12,rfl⟩
  | case5 conn session currBlocks count sweep swept some' allocated tested good held ih =>
    obtain ⟨next,inside⟩ := swept_lanes on swept
    obtain ⟨blk,given⟩ : ∃ blk,(vblkAlloc lib conn.dev sweep.addrs session).1 = some blk :=
      Option.ne_none_iff_exists'.mp fun null => held (Option.isNone_iff_eq_none.mpr null)
    have grown := kept _ _ _ blk start inside given
      (lib.vblkGetNbytes (vblkAlloc lib conn.dev sweep.addrs session).1 tested.2.world)
    rw [←given] at grown
    rw [stripeLoop_swept swept,if_neg some']
    dsimp only
    rw [if_neg good,if_neg held]
    exact ih next grown

end Loop
end OcssdServer.StripeLanes
