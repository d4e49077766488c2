import OcssdServer.PublishedStats

namespace OcssdServer.ExclusiveCapacity
open ChannelBalance FirstFit UnitGrants ManagerGrants PublishedStats

def advertised (manager : OcssdManager) : Nat :=
  (manager.ocssds.map (fun unit => unit.getOcssdStats.numExclusiveChannels.toNat)).sum

def rows (units : List OcssdUnit) : List (List OcssdChannel) := units.map (·.exclusiveChannels)

def putRows (units : List OcssdUnit) (pools : List (List OcssdChannel)) : List OcssdUnit :=
  List.zipWith (fun unit pool => {unit with exclusiveChannels := pool}) units pools

abbrev serveRows (n : Nat) (pools : List (List OcssdChannel)) :
    List (List OcssdChannel) × List (List OcssdChannel) := spread unused OcssdChannel.setUsed n pools

theorem used_spent (channel : OcssdChannel) : unused channel.setUsed = false := rfl

theorem rows_putRows {units : List OcssdUnit} {pools : List (List OcssdChannel)}
    (size : pools.length = units.length) : rows (putRows units pools) = pools := by
  induction units generalizing pools with
  | nil =>
    rw [List.length_eq_zero_iff.mp size]
    rfl
  | cons unit rest ih =>
    cases pools with
    | nil => cases size
    | cons pool pools =>
      have tail := ih (Nat.succ.inj size)
      simp only [putRows,rows,List.zipWith_cons_cons,List.map_cons] at tail ⊢
      rw [tail]

theorem putRows_putRows {units : List OcssdUnit} {one two : List (List OcssdChannel)}
    (size : one.length = units.length) : putRows (putRows units one) two = putRows units two := by
  induction units generalizing one two with
  | nil => simp [putRows]
  | cons unit rest ih =>
    cases one with
    | nil => cases size
    | cons pool pools =>
      cases two with
      | nil => rfl
      | cons pool' pools' =>
        have tail : putRows (putRows rest pools) pools' = putRows rest pools' := ih (Nat.succ.inj size)
        simp only [putRows,List.zipWith_cons_cons] at tail ⊢
        rw [tail]

theorem spread_length {α : Type*} (ready : α → Bool) (use : α → α) (n : Nat) (pools : List (List α)) :
    (spread ready use n pools).2.length = pools.length := by
  induction pools generalizing n with
  | nil => rfl
  | cons pool pools ih => simp [spread,ih]

section Plans
variable {request : OcssdAllocRequest} (exclusive : request.shared ≠ 1)
include exclusive

theorem drawn_taken (unit : OcssdUnit) : drawn request unit = (exclusiveDraw request unit).1.length := by
  rw [←taken_drawn,taken,if_neg exclusive]

theorem plan_spread (units : List OcssdUnit) :
    serveRows request.numChannels.toNat (rows units) =
      ((plan request units).map (fun e => (exclusiveDraw e.1 e.2).1),
        (plan request units).map (fun e => (exclusiveDraw e.1 e.2).2)) := by
  induction units generalizing request with
  | nil => rfl
  | cons unit rest ih =>
    have kind : (request.decChannels (UInt64.ofNat (drawn request unit))).shared ≠ 1 := exclusive
    have tail := ih kind
    rw [decChannels_toNat (drawn_le request unit),drawn_taken exclusive] at tail
    simp only [serveRows,rows,List.map_cons,spread,plan] at tail ⊢
    simp only [drawn_taken exclusive]
    rw [show draw unused OcssdChannel.setUsed request.numChannels.toNat unit.exclusiveChannels =
      exclusiveDraw request unit from rfl,tail]

theorem total_stock (units : List OcssdUnit) :
    total (plan request units) = min request.numChannels.toNat (stock unused (rows units)) := by
  have spreads := plan_spread exclusive units
  unfold serveRows at spreads
  rw [←spread_total unused OcssdChannel.setUsed,spreads,total,List.map_map]
  congr 1
  refine List.map_congr_left fun e member => ?_
  exact drawn_taken ((plan_request member).1 ▸ exclusive) e.2

theorem nextUnits_spread (units : List OcssdUnit) :
    nextUnits request units = putRows units (serveRows request.numChannels.toNat (rows units)).2 := by
  induction units generalizing request with
  | nil => rfl
  | cons unit rest ih =>
    have kind : (request.decChannels (UInt64.ofNat (drawn request unit))).shared ≠ 1 := exclusive
    have tail := ih kind
    rw [decChannels_toNat (drawn_le request unit),drawn_taken exclusive] at tail
    simp only [nextUnits,putRows,serveRows,rows,List.map_cons,spread,plan,List.zipWith_cons_cons] at tail ⊢
    simp only [drawn_taken exclusive]
    rw [tail,after,if_neg exclusive]
    rfl

end Plans

theorem nextUnits_stock {request : OcssdAllocRequest} (exclusive : request.shared ≠ 1)
    (units : List OcssdUnit) :
    stock unused (rows (nextUnits request units))+total (plan request units) = stock unused (rows units) := by
  have size : (serveRows request.numChannels.toNat (rows units)).2.length = units.length := by
    rw [serveRows,spread_length,rows,List.length_map]
  rw [nextUnits_spread exclusive,rows_putRows size,total_stock exclusive]
  exact spread_stock used_spent _ _

theorem nextUnits_commute {one two : OcssdAllocRequest} (left : one.shared ≠ 1) (right : two.shared ≠ 1)
    (units : List OcssdUnit) :
    nextUnits two (nextUnits one units) = nextUnits one (nextUnits two units) := by
  have size (n : Nat) : (serveRows n (rows units)).2.length = units.length := by
    rw [serveRows,spread_length,rows,List.length_map]
  rw [nextUnits_spread right,nextUnits_spread left,nextUnits_spread left,nextUnits_spread right,
    rows_putRows (size _),rows_putRows (size _),putRows_putRows (size _),putRows_putRows (size _)]
  simp only [serveRows,spread_spread used_spent,Nat.add_comm]

-- The devices whose channels have blocks, as size_t counts them.
def DevicesStocked (set : List (DevName × NvmGeo)) : Prop := ∀ d ∈ set,0 < d.2.nluns*d.2.nblocks

structure Stocked (manager : OcssdManager) : Prop where
  valid : ManagerValid manager
  positive : ∀ unit ∈ manager.ocssds,0 < unit.geo.nluns*unit.geo.nblocks

theorem advertised_stock {manager : OcssdManager} (stocked : Stocked manager) :
    advertised manager = stock unused (rows manager.ocssds) := by
  unfold advertised stock rows
  rw [List.map_map]
  congr 1
  exact List.map_congr_left fun unit member =>
    advertised_unused (stocked.valid unit member) (stocked.positive unit member)

theorem serve_stocked (manager : OcssdManager) (request : OcssdAllocRequest) (stocked : Stocked manager) :
    Stocked (manager.serve request).1 := by
  refine ⟨serve_valid manager request stocked.valid,?_⟩
  rw [serve_plan stocked.valid]
  intro unit member
  obtain ⟨entry,planned,rfl⟩ := List.mem_map.mp member
  rw [after_geo]
  exact stocked.positive _ (plan_member planned)

theorem reached_stocked {set : List (DevName × NvmGeo)} (stocked : DevicesStocked set)
    (requests : List OcssdAllocRequest) : Stocked (reached set requests) := by
  refine MachineRuns.final_invariant serve_stocked ⟨ofDevices_valid set,?_⟩ requests
  intro unit member
  rw [ofDevices_ocssds] at member
  obtain ⟨d,listed,rfl⟩ := List.mem_map.mp member
  rw [initialize_geo]
  exact stocked d listed

def newlyUsed (old new : OcssdUnit) : List UInt32 :=
  ((old.exclusiveChannels.zip new.exclusiveChannels).filter (fun p => unused p.1 && !unused p.2)).map
    (fun p => p.1.channelId.toUInt32)

def contributions (old new : OcssdManager) : List (DevName × List UInt32) :=
  ((old.ocssds.zip new.ocssds).map (fun p => (p.1.name,newlyUsed p.1 p.2))).filter (fun c => c.2 ≠ [])

section Serve
variable {manager : OcssdManager} (stocked : Stocked manager) {request : OcssdAllocRequest}
  (exclusive : request.shared ≠ 1)
include stocked exclusive

theorem serve_returns :
    (manager.serve request).2.2.toNat = min request.numChannels.toNat (advertised manager) := by
  have word := request.numChannels.toNat_lt
  rw [serve_plan stocked.valid,advertised_stock stocked,←total_stock exclusive]
  have few := total_le request manager.ocssds
  dsimp only
  rw [UInt64.toNat_ofNat',Nat.mod_eq_of_lt (by omega)]

theorem serve_lowers :
    advertised (manager.serve request).1+(manager.serve request).2.2.toNat = advertised manager := by
  have later := serve_stocked manager request stocked
  rw [serve_returns stocked exclusive,advertised_stock later,advertised_stock stocked,
    ←total_stock exclusive,serve_plan stocked.valid]
  exact nextUnits_stock exclusive manager.ocssds

theorem serve_contributions :
    (manager.serve request).2.1.units.map (fun vunit => (vunit.devName,vunit.channels.map (·.channelId))) =
      contributions manager (manager.serve request).1 := by
  rw [serve_plan stocked.valid]
  have pairs : manager.ocssds.zip (nextUnits request manager.ocssds) =
      (plan request manager.ocssds).map (fun e => (e.2,after e.1 e.2)) :=
    calc manager.ocssds.zip (nextUnits request manager.ocssds)
        = ((plan request manager.ocssds).map Prod.snd).zip (nextUnits request manager.ocssds) := by
          rw [plan_units]
      _ = (plan request manager.ocssds).map (fun e => (e.2,after e.1 e.2)) := List.zip_map'
  have entry : ∀ e ∈ plan request manager.ocssds,
      newlyUsed e.2 (after e.1 e.2) = (vchannels e.1 e.2).map (·.channelId) := by
    intro e member
    have kind : e.1.shared ≠ 1 := (plan_request member).1 ▸ exclusive
    have changed := draw_changed used_spent e.1.numChannels.toNat e.2.exclusiveChannels
    have ids := congrArg (List.map (fun channel => channel.channelId.toUInt32)) changed
    rw [List.map_map] at ids
    rw [newlyUsed,after,if_neg kind,vchannels,if_neg kind,List.map_map]
    exact ids
  simp only [contributions,pairs,List.map_map,grantedUnits,List.filter_map]
  have kept : (plan request manager.ocssds).filter contributes =
      (plan request manager.ocssds).filter (fun e => newlyUsed e.2 (after e.1 e.2) ≠ []) := by
    refine List.filter_congr fun e member => ?_
    have count := vchannels_drawn e.1 e.2
    rw [entry e member,contributes,←count]
    cases vchannels e.1 e.2 <;> simp
  rw [kept]
  refine List.map_congr_left fun e member => ?_
  have named := entry e (List.mem_filter.mp member).1
  simp only [Function.comp_def,named,vunit]

end Serve

theorem serve_commutes (manager : OcssdManager) (one two : OcssdAllocRequest) (stocked : Stocked manager)
    (left : one.shared ≠ 1) (right : two.shared ≠ 1) :
    ((manager.serve one).1.serve two).1 = ((manager.serve two).1.serve one).1 := by
  rw [serve_plan (serve_valid manager one stocked.valid),serve_plan (serve_valid manager two stocked.valid),
    serve_plan stocked.valid,serve_plan stocked.valid]
  simp only [nextUnits_commute left right]

def totalReturned (manager : OcssdManager) (requests : List OcssdAllocRequest) : Nat :=
  ((MachineRuns.trace OcssdManager.serve manager requests).map (fun e => e.2.2.toNat)).sum

theorem run_lowers {manager : OcssdManager} (stocked : Stocked manager)
    {requests : List OcssdAllocRequest} (exclusive : ∀ request ∈ requests,request.shared ≠ 1) :
    advertised (MachineRuns.final OcssdManager.serve manager requests)+totalReturned manager requests =
      advertised manager := by
  induction requests generalizing manager with
  | nil => rfl
  | cons request rest ih =>
    have here := serve_lowers stocked (exclusive request (by simp))
    have later := ih (serve_stocked manager request stocked) (fun r member => exclusive r (by simp [member]))
    simp only [totalReturned,MachineRuns.final_cons,MachineRuns.trace_cons,List.map_cons,List.sum_cons]
      at later ⊢
    omega

theorem exclusive_capacity_honoured (set : List (DevName × NvmGeo)) (stocked : DevicesStocked set)
    (requests : List OcssdAllocRequest) :
    (∀ request : OcssdAllocRequest,request.shared ≠ 1 →
      ((reached set requests).serve request).2.2.toNat =
          min request.numChannels.toNat (advertised (reached set requests)) ∧
        ((reached set requests).serve request).2.1.units.map
            (fun vunit => (vunit.devName,vunit.channels.map (·.channelId))) =
          contributions (reached set requests) ((reached set requests).serve request).1 ∧
        advertised ((reached set requests).serve request).1+
            ((reached set requests).serve request).2.2.toNat = advertised (reached set requests)) ∧
      ∀ one two : List OcssdAllocRequest,one.Perm two → (∀ request ∈ one,request.shared ≠ 1) →
        totalReturned (reached set requests) one = totalReturned (reached set requests) two ∧
          MachineRuns.final OcssdManager.serve (reached set requests) one =
            MachineRuns.final OcssdManager.serve (reached set requests) two := by
  have start := reached_stocked stocked requests
  constructor
  · intro request exclusive
    exact ⟨serve_returns start exclusive,serve_contributions start exclusive,serve_lowers start exclusive⟩
  · intro one two perm exclusive
    have same := MachineRuns.final_perm serve_commutes serve_stocked perm exclusive start
    have first := run_lowers start exclusive
    have second := run_lowers start (fun request member => exclusive request (perm.mem_iff.mpr member))
    rw [←same] at second
    exact ⟨by omega,same⟩

-- Two devices with two and one exclusive channels; the second request finds one left.
theorem two_devices_honoured :
    totalReturned (reached [([110],⟨6,2,1,4,1,1,1,1,0⟩),([111],⟨5,1,1,3,1,1,1,1,0⟩)] [])
        [⟨2,0,0,0,0⟩,⟨4,0,0,0,0⟩] =
      totalReturned (reached [([110],⟨6,2,1,4,1,1,1,1,0⟩),([111],⟨5,1,1,3,1,1,1,1,0⟩)] [])
        [⟨4,0,0,0,0⟩,⟨2,0,0,0,0⟩] ∧
    totalReturned (reached [([110],⟨6,2,1,4,1,1,1,1,0⟩),([111],⟨5,1,1,3,1,1,1,1,0⟩)] [])
        [⟨2,0,0,0,0⟩,⟨4,0,0,0,0⟩] = 3 :=
  ⟨((exclusive_capacity_honoured [([110],⟨6,2,1,4,1,1,1,1,0⟩),([111],⟨5,1,1,3,1,1,1,1,0⟩)]
    (by unfold DevicesStocked; decide) []).2 [⟨2,0,0,0,0⟩,⟨4,0,0,0,0⟩] [⟨4,0,0,0,0⟩,⟨2,0,0,0,0⟩]
    (.swap _ _ _) (by decide)).1,by decide⟩

end OcssdServer.ExclusiveCapacity
