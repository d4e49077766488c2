import OcssdServer.UnitGrants
import OcssdServer.MachineRuns

namespace OcssdServer.ManagerGrants
open ChannelBalance FirstFit UnitGrants

-- The pools after initialization: the first four channels are shared.
theorem initializeDev_pools (name : DevName) (geo : NvmGeo) :
    OcssdUnit.initializeDev name geo =
      ⟨name,geo,
        ((List.range geo.nchannels.toNat).take 4).map (fun id =>
          (OcssdChannel.new (UInt64.ofNat id) geo.nluns geo.nblocks).setShared),
        ((List.range geo.nchannels.toNat).drop 4).map (fun id =>
          OcssdChannel.new (UInt64.ofNat id) geo.nluns geo.nblocks)⟩ := by
  unfold OcssdUnit.initializeDev
  induction geo.nchannels.toNat with
  | zero => rfl
  | succ n ih =>
    rw [List.range_succ,List.foldl_append,ih]
    have size : ((List.range n).take 4).length = min 4 n := by simp
    by_cases few : n < 4
    · have all : (List.range n).take 4 = List.range n := List.take_of_length_le (by simp; omega)
      have none' : (List.range n).drop 4 = [] := List.drop_of_length_le (by simp; omega)
      have all' : (List.range n ++ [n]).take 4 = List.range n ++ [n] :=
        List.take_of_length_le (by simp; omega)
      have none'' : (List.range n ++ [n]).drop 4 = [] := List.drop_of_length_le (by simp; omega)
      simp [OcssdUnit.addChannel,OcssdUnit.assignToShared,all,none',all',none'',few]
    · have same : (List.range n ++ [n]).take 4 = (List.range n).take 4 :=
        List.take_append_of_le_length (by simp; omega)
      have more : (List.range n ++ [n]).drop 4 = (List.range n).drop 4 ++ [n] :=
        List.drop_append_of_le_length (by simp; omega)
      simp [OcssdUnit.addChannel,OcssdUnit.assignToShared,same,more,few]

theorem initialize_valid (name : DevName) (geo : NvmGeo) : UnitValid (.initializeDev name geo) := by
  rw [initializeDev_pools]
  refine ⟨?_,?_,?_⟩
  · intro channel member
    obtain ⟨id,_,rfl⟩ := List.mem_map.mp member
    exact ⟨flag_balanced (new_balanced geo _) true false,rfl⟩
  · intro channel member
    obtain ⟨id,_,rfl⟩ := List.mem_map.mp member
    exact ⟨new_balanced geo _,rfl⟩
  · have ids := List.take_append_drop 4 (List.range geo.nchannels.toNat)
    simp only [List.map_append,List.map_map]
    conv_rhs => rw [←ids,List.map_append]
    rfl

theorem after_valid {unit : OcssdUnit} (valid : UnitValid unit) (request : OcssdAllocRequest) :
    UnitValid (after request unit) := by
  unfold after
  split
  · refine ⟨?_,valid.exclusive,?_⟩
    · intro channel member
      rcases mem_left _ _ member with old | ⟨old,inside,served,rfl⟩
      · exact valid.shared channel old
      · exact ⟨raise_balanced (valid.shared old inside).1 served,(valid.shared old inside).2⟩
    · rw [←valid.ids,List.map_append,List.map_append]
      congr 1
      refine left_map (f := OcssdChannel.channelId) _ _ ?_ _ _
      exact fun _ => rfl
  · refine ⟨valid.shared,?_,?_⟩
    · intro channel member
      rcases mem_left _ _ member with old | ⟨old,inside,_,rfl⟩
      · exact valid.exclusive channel old
      · exact ⟨flag_balanced (valid.exclusive old inside).1 _ _,(valid.exclusive old inside).2⟩
    · rw [←valid.ids,List.map_append,List.map_append]
      congr 1
      refine left_map (f := OcssdChannel.channelId) _ _ ?_ _ _
      exact fun _ => rfl

@[simp] theorem after_name (request : OcssdAllocRequest) (unit : OcssdUnit) :
    (after request unit).name = unit.name := by unfold after; split <;> rfl

@[simp] theorem after_geo (request : OcssdAllocRequest) (unit : OcssdUnit) :
    (after request unit).geo = unit.geo := by unfold after; split <;> rfl

-- The request as each unit sees it, the channels drawn so far taken off.
def plan : OcssdAllocRequest → List OcssdUnit → List (OcssdAllocRequest × OcssdUnit)
  | _,[] => []
  | request,unit :: rest =>
    (request,unit) :: plan (request.decChannels (UInt64.ofNat (drawn request unit))) rest

def total (entries : List (OcssdAllocRequest × OcssdUnit)) : Nat :=
  (entries.map (fun e => drawn e.1 e.2)).sum

def contributes (entry : OcssdAllocRequest × OcssdUnit) : Bool := 0 < drawn entry.1 entry.2

def vunit (entry : OcssdAllocRequest × OcssdUnit) : VirtualOcssdUnit :=
  ⟨entry.2.name,entry.2.geo,vchannels entry.1 entry.2⟩

theorem decChannels_toNat {request : OcssdAllocRequest} {k : Nat} (bound : k ≤ request.numChannels.toNat) :
    (request.decChannels (UInt64.ofNat k)).numChannels.toNat = request.numChannels.toNat-k := by
  have word := request.numChannels.toNat_lt
  have narrow : (UInt64.ofNat k).toNat = k := by rw [UInt64.toNat_ofNat',Nat.mod_eq_of_lt (by omega)]
  have fits : UInt64.ofNat k ≤ request.numChannels.toUInt64 := by
    rw [UInt64.le_iff_toNat_le,narrow]
    simpa using bound
  simp only [OcssdAllocRequest.decChannels,UInt64.toNat_toUInt32,UInt64.toNat_sub_of_le _ _ fits,narrow,
    UInt32.toNat_toUInt64]
  omega

theorem drawn_le (request : OcssdAllocRequest) (unit : OcssdUnit) :
    drawn request unit ≤ request.numChannels.toNat := by
  unfold drawn
  omega

theorem drawn_idle {request : OcssdAllocRequest} (idle : request.numChannels = 0) (unit : OcssdUnit) :
    drawn request unit = 0 ∧ after request unit = unit :=
  ⟨by simp [drawn,idle],by simp [after,sharedDraw,exclusiveDraw,idle]⟩

theorem plan_idle {request : OcssdAllocRequest} (idle : request.numChannels = 0) (units : List OcssdUnit) :
    (plan request units).map (fun e => after e.1 e.2) = units ∧
      (plan request units).filter contributes = [] ∧ total (plan request units) = 0 := by
  induction units with
  | nil => exact ⟨rfl,rfl,rfl⟩
  | cons unit rest ih =>
    obtain ⟨zero,same⟩ := drawn_idle idle unit
    have next : request.decChannels (UInt64.ofNat (drawn request unit)) = request := by
      simp [zero,OcssdAllocRequest.decChannels]
    obtain ⟨units,none',sum⟩ := ih
    have silent : contributes (request,unit) = false := by simp [contributes,zero]
    rw [plan,next]
    refine ⟨by rw [List.map_cons,same,units],by rw [List.filter_cons,silent]; exact none',?_⟩
    rw [total,List.map_cons,List.sum_cons,zero,Nat.zero_add]
    exact sum

-- The manager's loop with its early end, in closed form.
theorem allocLoop_plan {units : List OcssdUnit} (valid : ∀ unit ∈ units,UnitValid unit)
    (vssd : VirtualOcssd) (request : OcssdAllocRequest) (channels : UInt64) :
    (OcssdManager.allocLoop units vssd request channels).ocssds =
        (plan request units).map (fun e => after e.1 e.2) ∧
      (OcssdManager.allocLoop units vssd request channels).vssd =
        ⟨vssd.id,vssd.units ++ ((plan request units).filter contributes).map vunit⟩ ∧
      (OcssdManager.allocLoop units vssd request channels).granted =
        channels+UInt64.ofNat (total (plan request units)) := by
  induction units generalizing vssd request channels with
  | nil => exact ⟨rfl,by simp [OcssdManager.allocLoop,plan],by simp [OcssdManager.allocLoop,plan,total]⟩
  | cons unit rest ih =>
    have given := allocChannels_draws (valid unit (by simp)) vssd request
    have sum : total (plan request (unit :: rest)) = drawn request unit +
        total (plan (request.decChannels (UInt64.ofNat (drawn request unit))) rest) := by
      simp [total,plan]
    have units : (unit.allocChannels vssd request).vssd = ⟨vssd.id,vssd.units ++
        (([(request,unit)] : List (OcssdAllocRequest × OcssdUnit)).filter contributes).map vunit⟩ := by
      rw [given]
      by_cases none' : drawn request unit = 0
      · simp [none',contributes]
      · simp [none',contributes,VirtualOcssd.add,vunit,Nat.pos_of_ne_zero none']
    have split' : (plan request (unit :: rest)).filter contributes =
        ([(request,unit)] : List (OcssdAllocRequest × OcssdUnit)).filter contributes ++
        (plan (request.decChannels (UInt64.ofNat (drawn request unit))) rest).filter contributes := by
      rw [plan,←List.singleton_append,List.filter_append]
    rw [sum,split']
    have granted : (unit.allocChannels vssd request).granted = UInt64.ofNat (drawn request unit) := by
      rw [given]
    have unit' : (unit.allocChannels vssd request).unit = after request unit := by rw [given]
    unfold OcssdManager.allocLoop
    simp only [units,granted,unit']
    by_cases idle : (request.decChannels (UInt64.ofNat (drawn request unit))).numChannels = 0
    · obtain ⟨same,none',zero⟩ := plan_idle idle rest
      simp [plan,idle,same,none',zero]
    · rw [if_neg idle]
      obtain ⟨ocssds,vssd',granted⟩ := ih (fun u m => valid u (by simp [m]))
        ⟨vssd.id,vssd.units ++
          (([(request,unit)] : List (OcssdAllocRequest × OcssdUnit)).filter contributes).map vunit⟩
        (request.decChannels (UInt64.ofNat (drawn request unit)))
        (channels+UInt64.ofNat (drawn request unit))
      refine ⟨?_,?_,?_⟩
      · simp only [ocssds,plan,List.map_cons]
      · simp only [vssd',List.map_append,List.append_assoc]
      · simp only [granted,UInt64.ofNat_add,UInt64.add_assoc]

def ManagerValid (manager : OcssdManager) : Prop := ∀ unit ∈ manager.ocssds,UnitValid unit

def nextUnits (request : OcssdAllocRequest) (units : List OcssdUnit) : List OcssdUnit :=
  (plan request units).map (fun e => after e.1 e.2)

def grantedUnits (request : OcssdAllocRequest) (units : List OcssdUnit) : List VirtualOcssdUnit :=
  ((plan request units).filter contributes).map vunit

theorem serve_plan {manager : OcssdManager} (valid : ManagerValid manager) (request : OcssdAllocRequest) :
    manager.serve request =
      (⟨nextUnits request manager.ocssds,manager.vssdId+1⟩,
        (⟨manager.vssdId,grantedUnits request manager.ocssds⟩,
          UInt64.ofNat (total (plan request manager.ocssds)))) := by
  obtain ⟨ocssds,vssd,granted⟩ := allocLoop_plan valid .new request 0
  simp only [OcssdManager.serve,OcssdManager.allocOcssdResource,ocssds,vssd,granted]
  simp [VirtualOcssd.setId,VirtualOcssd.new,nextUnits,grantedUnits]

theorem plan_member {request : OcssdAllocRequest} {units : List OcssdUnit}
    {entry : OcssdAllocRequest × OcssdUnit} (member : entry ∈ plan request units) : entry.2 ∈ units := by
  induction units generalizing request with
  | nil => simp [plan] at member
  | cons unit rest ih =>
    rcases List.mem_cons.mp member with rfl | later
    · simp
    · exact List.mem_cons_of_mem _ (ih later)

theorem plan_request {request : OcssdAllocRequest} {units : List OcssdUnit}
    {entry : OcssdAllocRequest × OcssdUnit} (member : entry ∈ plan request units) :
    entry.1.shared = request.shared ∧ entry.1.numBlocks = request.numBlocks := by
  induction units generalizing request with
  | nil => simp [plan] at member
  | cons unit rest ih =>
    rcases List.mem_cons.mp member with rfl | later
    · exact ⟨rfl,rfl⟩
    · have further := ih later
      exact further

theorem plan_units (request : OcssdAllocRequest) (units : List OcssdUnit) :
    (plan request units).map Prod.snd = units := by
  induction units generalizing request with
  | nil => rfl
  | cons unit rest ih => simp [plan,ih]

theorem total_le (request : OcssdAllocRequest) (units : List OcssdUnit) :
    total (plan request units) ≤ request.numChannels.toNat := by
  induction units generalizing request with
  | nil => simp [plan,total]
  | cons unit rest ih =>
    have here := drawn_le request unit
    have later := ih (request.decChannels (UInt64.ofNat (drawn request unit)))
    rw [decChannels_toNat here] at later
    simp only [total,plan,List.map_cons,List.sum_cons] at later ⊢
    omega

theorem serve_valid (manager : OcssdManager) (request : OcssdAllocRequest)
    (valid : ManagerValid manager) : ManagerValid (manager.serve request).1 := by
  rw [serve_plan valid]
  intro unit member
  obtain ⟨entry,inside,rfl⟩ := List.mem_map.mp member
  exact after_valid (valid _ (plan_member inside)) _

def devices (manager : OcssdManager) : List (DevName × NvmGeo) :=
  manager.ocssds.map (fun unit => (unit.name,unit.geo))

theorem serve_devices {manager : OcssdManager} (valid : ManagerValid manager)
    (request : OcssdAllocRequest) : devices (manager.serve request).1 = devices manager := by
  rw [serve_plan valid]
  have units := plan_units request manager.ocssds
  conv_rhs => rw [devices,←units]
  simp [devices,nextUnits,List.map_map,Function.comp_def]

theorem ofDevices_ocssds (set : List (DevName × NvmGeo)) :
    (OcssdManager.ofDevices set).ocssds = set.map (fun d => OcssdUnit.initializeDev d.1 d.2) := by
  have grow (manager : OcssdManager) : (set.foldl OcssdManager.addOcssd manager).ocssds =
      manager.ocssds ++ set.map (fun d => OcssdUnit.initializeDev d.1 d.2) := by
    induction set generalizing manager with
    | nil => simp
    | cons d rest ih => simp [ih,OcssdManager.addOcssd]
  exact (grow .new).trans (List.nil_append _)

theorem ofDevices_valid (set : List (DevName × NvmGeo)) : ManagerValid (.ofDevices set) := by
  intro unit member
  rw [ofDevices_ocssds] at member
  obtain ⟨d,_,rfl⟩ := List.mem_map.mp member
  exact initialize_valid _ _

theorem ofDevices_devices (set : List (DevName × NvmGeo)) : devices (.ofDevices set) = set := by
  simp [devices,ofDevices_ocssds,initializeDev_pools,Function.comp_def]

def reached (set : List (DevName × NvmGeo)) (requests : List OcssdAllocRequest) : OcssdManager :=
  MachineRuns.final OcssdManager.serve (.ofDevices set) requests

theorem reached_valid (set : List (DevName × NvmGeo)) (requests : List OcssdAllocRequest) :
    ManagerValid (reached set requests) :=
  MachineRuns.final_invariant serve_valid (ofDevices_valid set) requests

end OcssdServer.ManagerGrants
