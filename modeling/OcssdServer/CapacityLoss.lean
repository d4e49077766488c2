import Mathlib.Data.List.Forall2
import OcssdServer.LoopRequests
import OcssdServer.PublishedStats
import OcssdServer.TenantIsolation

namespace OcssdServer.CapacityLoss
open MachineRuns FirstFit ChannelBalance UnitGrants ManagerGrants BlockOwnership RequestOutcomes PublishedStats

section Pairs
variable {α : Type*} {ready : α → Bool} {use : α → α} {R : α → α → Prop}

theorem left_pairs (same : ∀ cell,R cell cell) {cells : List α}
    (used : ∀ cell ∈ cells,ready cell = true → R cell (use cell)) (n : Nat) :
    List.Forall₂ R cells (draw ready use n cells).2 := by
  have keeps (cells : List α) : List.Forall₂ R cells cells := by
    induction cells with
    | nil => exact .nil
    | cons cell rest ih => exact .cons (same cell) ih
  induction cells generalizing n with
  | nil => cases n <;> exact .nil
  | cons cell rest ih =>
    have later := ih (fun c member => used c (List.mem_cons_of_mem _ member))
    cases n with
    | zero => exact keeps _
    | succ n =>
      cases fits : ready cell with
      | false =>
        rw [draw_skip _ _ fits]
        exact .cons (same cell) (later (n+1))
      | true =>
        rw [draw_ready _ _ fits]
        exact .cons (used cell List.mem_cons_self fits) (later n)

theorem pairs_trans (chain : ∀ a b c,R a b → R b c → R a c) {one two three : List α}
    (first : List.Forall₂ R one two) (second : List.Forall₂ R two three) : List.Forall₂ R one three := by
  induction first generalizing three with
  | nil => exact second
  | cons here _ ih =>
    cases second with
    | cons next later => exact .cons (chain _ _ _ here next) (ih later)

theorem pairs_member {one two : List α} (pairs : List.Forall₂ R one two) {new : α} (member : new ∈ two) :
    ∃ old ∈ one,R old new := by
  induction pairs with
  | nil => cases member
  | cons here _ ih =>
    rcases List.mem_cons.mp member with rfl | later
    · exact ⟨_,List.mem_cons_self,here⟩
    · obtain ⟨old,inside,worn⟩ := ih later
      exact ⟨old,List.mem_cons_of_mem _ inside,worn⟩

theorem pairs_count {p : α → Bool} {one two : List α}
    (pairs : List.Forall₂ (fun old new => p new = true → p old = true) one two) : two.countP p ≤ one.countP p := by
  induction pairs with
  | nil => exact Nat.le_refl _
  | @cons old new _ _ here _ ih =>
    by_cases counts : p new = true
    · rw [List.countP_cons_of_pos counts,List.countP_cons_of_pos (here counts)]
      exact Nat.succ_le_succ ih
    · rw [List.countP_cons_of_neg counts]
      exact ih.trans (List.sublist_cons_self _ _).countP_le

theorem pairs_sum {f : α → Nat} {one two : List α} (pairs : List.Forall₂ (fun old new => f new ≤ f old) one two) :
    (two.map f).sum ≤ (one.map f).sum := by
  induction pairs with
  | nil => exact Nat.le_refl _
  | cons here _ ih =>
    simp only [List.map_cons,List.sum_cons]
    exact Nat.add_le_add here ih

end Pairs

-- What becomes of a channel: it has no more to give than before, to no request.
structure Less (old new : OcssdChannel) : Prop where
  free : new.getFreeBlocks.toNat ≤ old.getFreeBlocks.toNat
  serves : ∀ share,serves share new = true → serves share old = true
  unused : unused new = true → unused old = true

theorem Less.refl (channel : OcssdChannel) : Less channel channel := ⟨Nat.le_refl _,fun _ h => h,fun h => h⟩

theorem Less.trans (a b c : OcssdChannel) (one : Less a b) (two : Less b c) : Less a c :=
  ⟨two.free.trans one.free,fun share ready => one.serves share (two.serves share ready),
    fun ready => one.unused (two.unused ready)⟩

theorem raise_less {geo : NvmGeo} (fits : GeoFits geo) {channel : OcssdChannel} (balanced : Balanced geo channel)
    (exposed : channel.used = false) {share : UInt64} (served : serves share channel = true) :
    Less channel (raise geo share channel) := by
  have raised := raise_balanced balanced served
  have before := free_consumed fits balanced
  have later := free_consumed fits raised
  have open' : (raise geo share channel).used = false := exposed
  have level' := (counters_toNat fits balanced).2.1
  have level'' := (counters_toNat fits raised).2.1
  rw [raised_level balanced served,raised_toNat _ balanced,Nat.mul_add] at level''
  unfold consumed at before later
  rw [exposed] at before
  rw [open'] at later
  simp only [Bool.false_eq_true,if_false] at before later
  refine ⟨by omega,fun other ready => ?_,fun ready => ?_⟩
  · have asks := (serves_parts ready).2
    exact decide_eq_true ⟨(serves_parts served).1,asks⟩
  · exact ready

theorem setUsed_less (channel : OcssdChannel) : Less channel channel.setUsed := by
  refine ⟨?_,fun _ ready => ready,fun ready => by cases ready⟩
  simp [OcssdChannel.getFreeBlocks,OcssdChannel.setUsed]

structure Worn (old new : OcssdUnit) : Prop where
  name : new.name = old.name
  geo : new.geo = old.geo
  shared : List.Forall₂ Less old.sharedChannels new.sharedChannels
  exclusive : List.Forall₂ Less old.exclusiveChannels new.exclusiveChannels

theorem Worn.refl (unit : OcssdUnit) : Worn unit unit := by
  have keeps (channels : List OcssdChannel) : List.Forall₂ Less channels channels :=
    List.forall₂_same.mpr fun channel _ => Less.refl channel
  exact ⟨rfl,rfl,keeps _,keeps _⟩

theorem Worn.trans (a b c : OcssdUnit) (one : Worn a b) (two : Worn b c) : Worn a c :=
  ⟨two.name.trans one.name,two.geo.trans one.geo,pairs_trans Less.trans one.shared two.shared,
    pairs_trans Less.trans one.exclusive two.exclusive⟩

theorem after_worn {unit : OcssdUnit} (fits : GeoFits unit.geo) (valid : UnitValid unit)
    (request : OcssdAllocRequest) : Worn unit (after request unit) := by
  have keeps := Worn.refl unit
  unfold after
  split
  · refine ⟨rfl,rfl,left_pairs Less.refl (fun channel member served => ?_) _,keeps.exclusive⟩
    obtain ⟨balanced,exposed⟩ := valid.shared channel member
    exact raise_less fits balanced exposed served
  · exact ⟨rfl,rfl,keeps.shared,left_pairs Less.refl (fun channel _ _ => setUsed_less channel) _⟩

theorem next_worn {units : List OcssdUnit} (fits : ∀ unit ∈ units,GeoFits unit.geo)
    (valid : ∀ unit ∈ units,UnitValid unit) (request : OcssdAllocRequest) :
    List.Forall₂ Worn units (nextUnits request units) := by
  unfold nextUnits
  induction units generalizing request with
  | nil => exact .nil
  | cons unit rest ih =>
    rw [plan,List.map_cons]
    exact .cons (after_worn (fits unit List.mem_cons_self) (valid unit List.mem_cons_self) request)
      (ih (fun u member => fits u (List.mem_cons_of_mem _ member))
        (fun u member => valid u (List.mem_cons_of_mem _ member)) _)

structure Later (start manager : OcssdManager) : Prop where
  valid : ManagerValid manager
  fits : ∀ unit ∈ manager.ocssds,GeoFits unit.geo
  worn : List.Forall₂ Worn start.ocssds manager.ocssds

theorem serve_later {start : OcssdManager} (manager : OcssdManager) (request : OcssdAllocRequest)
    (later : Later start manager) : Later start (manager.serve request).1 := by
  have worn : List.Forall₂ Worn manager.ocssds (manager.serve request).1.ocssds := by
    rw [serve_plan later.valid]
    exact next_worn later.fits later.valid request
  refine ⟨serve_valid manager request later.valid,fun unit member => ?_,pairs_trans Worn.trans later.worn worn⟩
  obtain ⟨old,inside,same⟩ := pairs_member worn member
  rw [same.geo]
  exact later.fits old inside

theorem run_later {start : OcssdManager} (valid : ManagerValid start) (fits : ∀ unit ∈ start.ocssds,GeoFits unit.geo)
    (requests : List OcssdAllocRequest) : Later start (final OcssdManager.serve start requests) :=
  final_invariant serve_later ⟨valid,fits,List.forall₂_same.mpr fun unit _ => Worn.refl unit⟩ requests

section Offers

theorem offers_less {old new : OcssdUnit} (worn : Worn old new) {request : OcssdAllocRequest}
    (offers : offersChannel request new = true) : offersChannel request old = true := by
  unfold offersChannel at offers ⊢
  split
  · rename_i shared
    rw [if_pos shared] at offers
    obtain ⟨channel,member,ready⟩ := List.any_eq_true.mp offers
    obtain ⟨before,inside,less⟩ := pairs_member worn.shared member
    exact List.any_eq_true.mpr ⟨before,inside,less.serves _ ready⟩
  · rename_i exclusive
    rw [if_neg exclusive] at offers
    obtain ⟨channel,member,ready⟩ := List.any_eq_true.mp offers
    obtain ⟨before,inside,less⟩ := pairs_member worn.exclusive member
    exact List.any_eq_true.mpr ⟨before,inside,less.unused ready⟩

theorem closed_later {old new : List OcssdUnit} (worn : List.Forall₂ Worn old new) {request : OcssdAllocRequest}
    (closed : firstOpen request old = none) : firstOpen request new = none := by
  unfold firstOpen at closed ⊢
  split
  · rfl
  · rename_i asks
    rw [if_neg asks,List.find?_eq_none] at closed
    refine List.find?_eq_none.mpr fun unit member offers => ?_
    obtain ⟨before,inside,less⟩ := pairs_member worn member
    exact closed before inside (offers_less less offers)

theorem free_small {unit : OcssdUnit} (fits : GeoFits unit.geo) (valid : UnitValid unit) :
    unit.getOcssdStats.freeBlocks.toNat = ((pool unit).map (·.getFreeBlocks.toNat)).sum := by
  have length := pool_lengths valid
  have bound : ((pool unit).map (·.getFreeBlocks.toNat)).sum ≤ unit.geo.nchannels.toNat*(2^32-1) := by
    have each : ∀ n ∈ (pool unit).map (·.getFreeBlocks.toNat),n ≤ 2^32-1 := by
      intro n member
      obtain ⟨channel,inside,rfl⟩ := List.mem_map.mp member
      have whole := free_consumed fits (pool_balanced valid inside)
      have small := fits.blocks
      omega
    have most := List.sum_le_card_nsmul _ _ each
    rw [List.length_map,pool,List.length_append,length] at most
    exact most
  have channels := fits.channels
  rw [(stats_sums unit).2.2]
  exact sum_toNat _ _ (show ((pool unit).map (·.getFreeBlocks.toNat)).sum < 2^64 by omega)

theorem stats_less {old new : OcssdUnit} (worn : Worn old new) (fits : GeoFits old.geo) (validOld : UnitValid old)
    (validNew : UnitValid new) :
    new.getOcssdStats.numSharedChannels.toNat ≤ old.getOcssdStats.numSharedChannels.toNat ∧
      new.getOcssdStats.numExclusiveChannels.toNat ≤ old.getOcssdStats.numExclusiveChannels.toNat ∧
      new.getOcssdStats.freeBlocks.toNat ≤ old.getOcssdStats.freeBlocks.toNat := by
  have fits' : GeoFits new.geo := by rw [worn.geo]; exact fits
  have isFree_less : ∀ old new : OcssdChannel,Less old new → isFree new = true → isFree old = true := by
    intro old new less free
    have some' := UInt64.lt_iff_toNat_lt.mp (of_decide_eq_true free)
    exact decide_eq_true (UInt64.lt_iff_toNat_lt.mpr (Nat.lt_of_lt_of_le some' less.free))
  have pools : List.Forall₂ Less (pool old) (pool new) := List.rel_append worn.shared worn.exclusive
  refine ⟨?_,?_,?_⟩
  · rw [numShared_toNat validOld,numShared_toNat validNew]
    exact pairs_count (worn.shared.imp isFree_less)
  · rw [numExclusive_toNat validOld,numExclusive_toNat validNew]
    exact pairs_count (worn.exclusive.imp isFree_less)
  · rw [free_small fits validOld,free_small fits' validNew]
    exact pairs_sum (pools.imp fun _ _ less => less.free)

end Offers

theorem refuses {World Dev Vblk : Type} (lib : Lightnvm World Dev Vblk) {session : Session World Vblk}
    (valid : ManagerValid session.manager) {request : OcssdAllocRequest}
    (closed : firstOpen request session.manager.ocssds = none) {message : List UInt8}
    (decoded : OcssdAllocRequest.ofMessage message = some request) (conn : OcssdConn Dev Vblk) :
    (processAllocRequest lib conn session message).ending = .returned (-1) ∧
      (processAllocRequest lib conn session message).conn = conn ∧
      (processAllocRequest lib conn session message).session.manager.ocssds = session.manager.ocssds := by
  cases alloc_outcome lib valid decoded conn with
  | refused _ conn' ocssds ending => exact ⟨ending,conn',ocssds⟩
  | answers unit first | fails unit first =>
    rw [closed] at first
    cases first

-- No capacity ever comes back. Between any state of the event loop and any later
-- one, whoever has disconnected or failed in between: no unit advertises more than
-- before, and a request that the first state has no channel for is refused in the
-- later one, on any connection.
theorem capacity_never_returns {World Dev Vblk Client : Type} [DecidableEq Client] (lib : Lightnvm World Dev Vblk)
    {set : List (DevName × NvmGeo)} (fits : ∀ d ∈ set,GeoFits d.2) (world : World)
    (past later : List (LoopEvent Client)) :
    let loop : EventLoop World Dev Vblk Client := final (EventLoop.serve lib) (EventLoop.start set world) past
    let next := final (EventLoop.serve lib) loop later
    List.Forall₂ (fun old new : OcssdUnit => new.name = old.name ∧
        new.getOcssdStats.numSharedChannels.toNat ≤ old.getOcssdStats.numSharedChannels.toNat ∧
        new.getOcssdStats.numExclusiveChannels.toNat ≤ old.getOcssdStats.numExclusiveChannels.toNat ∧
        new.getOcssdStats.freeBlocks.toNat ≤ old.getOcssdStats.freeBlocks.toNat)
      loop.manager.ocssds next.manager.ocssds ∧
    ∀ request,firstOpen request loop.manager.ocssds = none → ∀ message (conn : OcssdConn Dev Vblk) events,
      OcssdAllocRequest.ofMessage message = some request →
        (processAllocRequest lib conn ⟨next.manager,next.world,events⟩ message).ending = .returned (-1) ∧
        (processAllocRequest lib conn ⟨next.manager,next.world,events⟩ message).conn = conn := by
  intro loop next
  have valid : ManagerValid loop.manager := LoopRequests.run_valid set world past
  have start : ∀ unit ∈ (OcssdManager.ofDevices set).ocssds,GeoFits unit.geo := by
    intro unit member
    rw [ofDevices_ocssds] at member
    obtain ⟨d,inside,rfl⟩ := List.mem_map.mp member
    rw [initialize_geo]
    exact fits d inside
  have fits' : ∀ unit ∈ loop.manager.ocssds,GeoFits unit.geo := by
    have served : loop.manager = final OcssdManager.serve (.ofDevices set) _ :=
      (LoopRequests.run_requests (ofDevices_valid set) past).1
    rw [served]
    exact (run_later (ofDevices_valid set) start _).fits
  have after := run_later valid fits' ((LoopRequests.callEvents lib loop later).flatMap LoopRequests.asked)
  rw [←(LoopRequests.run_requests valid later).1] at after
  constructor
  · have pairs := List.forall₂_iff_get.mp after.worn
    refine List.forall₂_iff_get.mpr ⟨pairs.1,fun i old new => ?_⟩
    have worn := pairs.2 i old new
    exact ⟨worn.name,stats_less worn (fits' _ (List.get_mem _ _)) (valid _ (List.get_mem _ _))
      (after.valid _ (List.get_mem _ _))⟩
  · intro request closed message conn events decoded
    have still := closed_later after.worn closed
    have valid' : ManagerValid (⟨next.manager,next.world,events⟩ : Session World Vblk).manager := after.valid
    obtain ⟨ending,same,_⟩ := @refuses World Dev Vblk lib _ valid' request still message decoded conn
    exact ⟨ending,same⟩

-- The only exclusive channel goes to a client that then hangs up.
def askExclusive : List UInt8 := [1,0x65,0,0,1,0,0,0,0,0,0,0,0,0,0,0,0,0,0,0,0,0,0,0]

def exclusiveTaken : List (LoopEvent Bool) :=
  [.acceptable false 7 (fun _ => 0),.readable false ⟨askExclusive,[.bytes 23]⟩]

theorem exclusive_gone :
    let lib := TenantIsolation.markingLib TenantIsolation.smallDevice
    let loop := final (EventLoop.serve lib)
      (final (EventLoop.serve lib) (EventLoop.start TenantIsolation.smallDevice (fun _ => 7)) exclusiveTaken)
      [.readable false ⟨[],[.bytes 0]⟩]
    (loop.clients false).map (·.conn.closed) = some true ∧
      (processAllocRequest lib (.accepted (fun _ => 0)) ⟨loop.manager,loop.world,[]⟩ askExclusive).ending =
        .returned (-1) := by
  intro lib loop
  have fits : ∀ d ∈ TenantIsolation.smallDevice,GeoFits d.2 := by
    intro d member
    rw [List.mem_singleton.mp member]
    exact ⟨by decide,by decide⟩
  have lost := capacity_never_returns lib fits (fun _ => 7) exclusiveTaken [.readable false ⟨[],[.bytes 0]⟩]
  exact ⟨by decide +kernel,(lost.2 ⟨1,0,0,0,0⟩ (by decide +kernel) askExclusive (.accepted (fun _ => 0)) []
    (by decide)).1⟩

end OcssdServer.CapacityLoss
