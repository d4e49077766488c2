import OcssdServer.Descents
import OcssdServer.ManagerThreads
import OcssdServer.ThreadRows

namespace OcssdServer.ManagerSerial
open MachineRuns ThreadRows ManagerSite

def inManager : ManagerThread → Bool
  | .walking _ _ _ _ | .drawing _ _ _ _ | .leaving _ _ _ => true
  | .outside | .entering _ | .counting _ | .tallying _ => false

def inUnit (i : Nat) : ManagerThread → Bool
  | .drawing j _ _ _ | .tallying j => j = i
  | .outside | .entering _ | .walking _ _ _ _ | .leaving _ _ _ | .counting _ => false

section Steps
variable {site : ManagerSite}

inductive Stepped (site : ManagerSite) : ManagerSite × ManagerEvent → Prop where
  | rests : Stepped site (site,.silent)
  | calls (t : Nat) (after : ManagerThread) (here : site.threads[t]? = some .outside)
      (starts : after = .counting 0 ∨ ∃ request,after = .entering request) : Stepped site (site.moved t after,.silent)
  | enters (t : Nat) (request : OcssdAllocRequest) (here : site.threads[t]? = some (.entering request))
      (free : site.mutex = none) :
      Stepped site ({site.moved t (.walking 0 .new request 0) with mutex := some t},.entered t request)
  | breaks (t i : Nat) (vssd : VirtualOcssd) (request : OcssdAllocRequest) (channels : UInt64)
      (here : site.threads[t]? = some (.walking i vssd request channels))
      (done : site.ocssds[i]? = none ∨ request.numChannels = 0) :
      Stepped site (site.moved t (.leaving vssd request channels),.silent)
  | locks (t i : Nat) (vssd : VirtualOcssd) (request : OcssdAllocRequest) (channels : UInt64) (slot : UnitSlot)
      (here : site.threads[t]? = some (.walking i vssd request channels)) (found : site.ocssds[i]? = some slot)
      (free : slot.mutex = none) :
      Stepped site ({site.moved t (.drawing i vssd request channels) with
        ocssds := site.ocssds.set i {slot with mutex := some t}},.silent)
  | draws (t i : Nat) (vssd : VirtualOcssd) (request : OcssdAllocRequest) (channels : UInt64)
      (here : site.threads[t]? = some (.drawing i vssd request channels)) :
      Stepped site (site.draw t i vssd request channels,.silent)
  | leaves (t : Nat) (vssd : VirtualOcssd) (request : OcssdAllocRequest) (channels : UInt64)
      (here : site.threads[t]? = some (.leaving vssd request channels)) :
      Stepped site ({site.moved t .outside with vssdId := site.vssdId+1,mutex := none},
        .granted t (vssd.setId site.vssdId) channels)
  | finishes (t i : Nat) (here : site.threads[t]? = some (.counting i)) : Stepped site (site.moved t .outside,.silent)
  | opens (t i : Nat) (slot : UnitSlot) (here : site.threads[t]? = some (.counting i))
      (found : site.ocssds[i]? = some slot) (free : slot.mutex = none) :
      Stepped site ({site.moved t (.tallying i) with ocssds := site.ocssds.set i {slot with mutex := some t}},.silent)
  | tallies (t i : Nat) (slot : UnitSlot) (here : site.threads[t]? = some (.tallying i))
      (found : site.ocssds[i]? = some slot) :
      Stepped site ({site.moved t (.counting (i+1)) with ocssds := site.ocssds.set i {slot with mutex := none}},
        .tallied t i slot.unit.getOcssdStats)

theorem walk_stepped {t i : Nat} {vssd : VirtualOcssd} {request : OcssdAllocRequest} {channels : UInt64}
    (here : site.threads[t]? = some (.walking i vssd request channels)) :
    Stepped site (site.walk t i vssd request channels,.silent) := by
  unfold walk
  split
  · rename_i none'
    exact .breaks t i vssd request channels here (.inl none')
  · rename_i slot found
    split
    · rename_i idle
      exact .breaks t i vssd request channels here (.inr idle)
    · split
      · rename_i free
        exact .locks t i vssd request channels slot here found free
      · exact .rests

theorem count_stepped {t i : Nat} (here : site.threads[t]? = some (.counting i)) :
    Stepped site (site.count t i,.silent) := by
  unfold count
  split
  · exact .finishes t i here
  · rename_i slot found
    split
    · rename_i free
      exact .opens t i slot here found free
    · exact .rests

theorem advance_stepped {t : Nat} {state : ManagerThread} (here : site.threads[t]? = some state) :
    Stepped site (site.advance t state) := by
  cases state with
  | outside => exact .rests
  | entering request =>
    simp only [advance]
    split
    · rename_i free
      exact .enters t request here free
    · exact .rests
  | walking i vssd request channels => exact walk_stepped here
  | drawing i vssd request channels => exact .draws t i vssd request channels here
  | leaving vssd request channels => exact .leaves t vssd request channels here
  | counting i => exact count_stepped here
  | tallying i =>
    simp only [advance,tally]
    split
    · exact .rests
    · rename_i slot found
      exact .tallies t i slot here found

theorem step_stepped (site : ManagerSite) (step : ManagerStep) : Stepped site (site.step step) := by
  cases step with
  | call t call =>
    simp only [ManagerSite.step]
    split
    · rename_i request here
      exact .calls t _ here (.inr ⟨request,rfl⟩)
    · rename_i here
      exact .calls t _ here (.inl rfl)
    · exact .rests
  | advance t =>
    simp only [ManagerSite.step]
    split
    · exact .rests
    · rename_i state here
      exact advance_stepped here

end Steps

section Locks

-- Each mutex is held by the thread that stands where it is held, and by no other.
structure Locked (site : ManagerSite) : Prop where
  manager : Held site.mutex site.threads inManager
  units : ∀ i slot,site.ocssds[i]? = some slot → Held slot.mutex site.threads (inUnit i)
  known : ∀ thread ∈ site.threads,∀ i,inUnit i thread = true → i < site.ocssds.length

variable {site : ManagerSite} {t i : Nat} {before after : ManagerThread}

theorem start_locked (manager : OcssdManager) (threads : Nat) : Locked (start manager threads) := by
  have outside : ∀ thread ∈ (start manager threads).threads,thread = .outside := fun _ => List.eq_of_mem_replicate
  refine ⟨free_held fun thread member => ?_,?_,?_⟩
  · rw [outside thread member]
    rfl
  · intro i slot found
    obtain ⟨unit,_,rfl⟩ := List.mem_map.mp (List.mem_of_getElem? found)
    refine free_held fun thread member => ?_
    rw [outside thread member]
    rfl
  · intro thread member i inside
    rw [outside thread member] at inside
    cases inside

theorem moved_units (locked : Locked site) (here : site.threads[t]? = some before)
    (same : ∀ j,inUnit j after = inUnit j before) :
    (∀ j slot,site.ocssds[j]? = some slot → Held slot.mutex (site.threads.set t after) (inUnit j)) ∧
      ∀ thread ∈ site.threads.set t after,∀ j,inUnit j thread = true → j < site.ocssds.length := by
  refine ⟨fun j slot found => keep_held (locked.units j slot found) here (same j),?_⟩
  intro thread member j inside
  rcases List.mem_or_eq_of_mem_set member with old | rfl
  · exact locked.known thread old j inside
  · rw [same] at inside
    exact locked.known before (List.mem_of_getElem? here) j inside

theorem set_units (locked : Locked site) (here : site.threads[t]? = some before) {slot slot' : UnitSlot}
    (found : site.ocssds[i]? = some slot) (mine : Held slot'.mutex (site.threads.set t after) (inUnit i))
    (others : ∀ j,j ≠ i → inUnit j after = inUnit j before) :
    (∀ j s,(site.ocssds.set i slot')[j]? = some s → Held s.mutex (site.threads.set t after) (inUnit j)) ∧
      ∀ thread ∈ site.threads.set t after,∀ j,inUnit j thread = true → j < (site.ocssds.set i slot').length := by
  have inside := (List.getElem?_eq_some_iff.mp found).1
  constructor
  · intro j s at'
    by_cases same : i = j
    · subst same
      rw [List.getElem?_set_self inside] at at'
      cases at'
      exact mine
    · rw [List.getElem?_set_ne same] at at'
      exact keep_held (locked.units j s at') here (others j (Ne.symm same))
  · intro thread member j held
    rw [List.length_set]
    rcases List.mem_or_eq_of_mem_set member with old | rfl
    · exact locked.known thread old j held
    · by_cases same : j = i
      · rw [same]
        exact inside
      · rw [others j same] at held
        exact locked.known before (List.mem_of_getElem? here) j held

theorem draw_locked (locked : Locked site) {vssd : VirtualOcssd} {request : OcssdAllocRequest} {channels : UInt64}
    (here : site.threads[t]? = some (.drawing i vssd request channels)) :
    Locked (site.draw t i vssd request channels) := by
  unfold draw
  cases found : site.ocssds[i]? with
  | none => exact locked
  | some slot =>
    dsimp only
    generalize next' : (if (request.decChannels (slot.unit.allocChannels vssd request).granted).numChannels = 0 then
      ManagerThread.leaving _ _ _ else ManagerThread.walking _ _ _ _) = next
    have stays : inManager next = true ∧ ∀ j,inUnit j next = false := by
      rw [←next']
      split <;> exact ⟨rfl,fun _ => rfl⟩
    obtain ⟨units,known⟩ := @set_units site t i _ next locked here slot ⟨_,none⟩ found
      (drop_held (locked.units i slot found) here (decide_eq_true rfl) (stays.2 i))
      (fun j other => (stays.2 j).trans (decide_eq_false (Ne.symm other)).symm)
    exact ⟨keep_held locked.manager here stays.1,units,known⟩

theorem step_locked (locked : Locked site) (step : ManagerStep) : Locked (site.step step).1 := by
  have stepped := step_stepped site step
  generalize site.step step = r at stepped
  cases stepped with
  | rests => exact locked
  | calls t after here starts =>
    have apart : inManager after = false ∧ ∀ j,inUnit j after = false := by
      rcases starts with rfl | ⟨request,rfl⟩ <;> exact ⟨rfl,fun _ => rfl⟩
    obtain ⟨units,known⟩ := moved_units locked here apart.2
    exact ⟨keep_held locked.manager here apart.1,units,known⟩
  | enters t request here free =>
    have manager := locked.manager
    rw [free] at manager
    obtain ⟨units,known⟩ := @moved_units site t _ (.walking 0 .new request 0) locked here (fun _ => rfl)
    exact ⟨take_held manager here rfl,units,known⟩
  | breaks t i vssd request channels here =>
    obtain ⟨units,known⟩ := @moved_units site t _ (.leaving vssd request channels) locked here (fun _ => rfl)
    exact ⟨keep_held locked.manager here rfl,units,known⟩
  | locks t i vssd request channels slot here found free =>
    have own := locked.units i slot found
    rw [free] at own
    obtain ⟨units,known⟩ := @set_units site t i _ (.drawing i vssd request channels) locked here slot
      {slot with mutex := some t} found
      (take_held own here (decide_eq_true rfl)) (fun j other => decide_eq_false (Ne.symm other))
    exact ⟨keep_held locked.manager here rfl,units,known⟩
  | draws t i vssd request channels here => exact draw_locked locked here
  | leaves t vssd request channels here =>
    obtain ⟨units,known⟩ := @moved_units site t _ .outside locked here (fun _ => rfl)
    exact ⟨drop_held locked.manager here rfl rfl,units,known⟩
  | finishes t i here =>
    obtain ⟨units,known⟩ := @moved_units site t _ .outside locked here (fun _ => rfl)
    exact ⟨keep_held locked.manager here rfl,units,known⟩
  | opens t i slot here found free =>
    have own := locked.units i slot found
    rw [free] at own
    obtain ⟨units,known⟩ := @set_units site t i _ (.tallying i) locked here slot {slot with mutex := some t} found
      (take_held own here (decide_eq_true rfl)) (fun j other => decide_eq_false (Ne.symm other))
    exact ⟨keep_held locked.manager here rfl,units,known⟩
  | tallies t i slot here found =>
    obtain ⟨units,known⟩ := @set_units site t i _ (.counting (i+1)) locked here slot {slot with mutex := none} found
      (drop_held (locked.units i slot found) here (decide_eq_true rfl) rfl)
      (fun j other => (decide_eq_false (Ne.symm other)).symm)
    exact ⟨keep_held locked.manager here rfl,units,known⟩

end Locks

section Loop

-- The loop over the units, taken up again at the i-th.
def resumed (units : List OcssdUnit) (i : Nat) (vssd : VirtualOcssd) (request : OcssdAllocRequest)
    (channels : UInt64) : OcssdManager.LoopEnd :=
  let rest := OcssdManager.allocLoop (units.drop i) vssd request channels
  {rest with ocssds := units.take i ++ rest.ocssds}

variable {units : List OcssdUnit} {i : Nat} {vssd : VirtualOcssd} {request : OcssdAllocRequest} {channels : UInt64}

theorem loop_idle (idle : request.numChannels = 0) (units : List OcssdUnit) :
    OcssdManager.allocLoop units vssd request channels = ⟨units,vssd,request,channels⟩ := by
  cases units with
  | nil => rfl
  | cons unit rest =>
    have same : request.decChannels 0 = request := by simp [OcssdAllocRequest.decChannels]
    simp only [OcssdManager.allocLoop,OcssdUnit.allocChannels,if_pos idle,same,UInt64.add_zero]

theorem resumed_done (done : units[i]? = none ∨ request.numChannels = 0) :
    resumed units i vssd request channels = ⟨units,vssd,request,channels⟩ := by
  unfold resumed
  rcases done with past | idle
  · have length := List.getElem?_eq_none_iff.mp past
    rw [List.drop_of_length_le length,List.take_of_length_le length]
    simp only [OcssdManager.allocLoop,List.append_nil]
  · rw [loop_idle idle]
    simp only [List.take_append_drop]

theorem resumed_step {unit : OcssdUnit} (found : units[i]? = some unit) {given : OcssdUnit.Grant}
    (draws : unit.allocChannels vssd request = given) :
    resumed units i vssd request channels =
      if (request.decChannels given.granted).numChannels = 0 then
        ⟨units.set i given.unit,given.vssd,request.decChannels given.granted,channels+given.granted⟩
      else resumed (units.set i given.unit) (i+1) given.vssd (request.decChannels given.granted)
        (channels+given.granted) := by
  obtain ⟨inside,value⟩ := List.getElem?_eq_some_iff.mp found
  have cut : units.drop i = unit :: units.drop (i+1) := by rw [List.drop_eq_getElem_cons inside,value]
  have put : units.set i given.unit = units.take i ++ given.unit :: units.drop (i+1) := by
    rw [List.set_eq_take_append_cons_drop,if_pos inside]
  have front : (units.set i given.unit).take (i+1) = units.take i ++ [given.unit] := by
    have length : (units.take i ++ [given.unit]).length = i+1 := by
      rw [List.length_append,List.length_take,Nat.min_eq_left (Nat.le_of_lt inside),List.length_singleton]
    rw [put,List.append_cons]
    exact List.take_left' length
  unfold resumed
  rw [cut,OcssdManager.allocLoop,draws]
  dsimp only
  by_cases done : (request.decChannels given.granted).numChannels = 0
  · rw [if_pos done,if_pos done,put]
  · rw [if_neg done,if_neg done,List.drop_set_of_lt (Nat.lt_succ_self i),front,List.append_assoc]
    rfl

end Loop

section Serial

-- Where the thread with the manager's mutex is in its request, the units having
-- been `old` when it came in.
def InProgress (old units : List OcssdUnit) (request : OcssdAllocRequest) : ManagerThread → Prop
  | .walking i vssd left channels | .drawing i vssd left channels =>
    units.drop i = old.drop i ∧ resumed units i vssd left channels = OcssdManager.allocLoop old .new request 0
  | .leaving vssd left channels => ⟨units,vssd,left,channels⟩ = OcssdManager.allocLoop old .new request 0
  | .outside | .entering _ | .counting _ | .tallying _ => False

-- `base` is the manager after the requests that are over, `progress` the one that
-- is being served.
structure Serial (site : ManagerSite) (base : OcssdManager) (progress : Option (Nat × OcssdAllocRequest)) :
    Prop where
  locked : Locked site
  vssdId : site.vssdId = base.vssdId
  idle : site.mutex = none → progress = none ∧ site.units = base.ocssds
  busy : ∀ t,site.mutex = some t → ∃ request thread,progress = some (t,request) ∧
    site.threads[t]? = some thread ∧ InProgress base.ocssds site.units request thread

variable {site next : ManagerSite} {base : OcssdManager} {progress : Option (Nat × OcssdAllocRequest)}
  {t i : Nat} {before after : ManagerThread}

theorem start_serial (manager : OcssdManager) (threads : Nat) : Serial (start manager threads) manager none := by
  refine ⟨start_locked manager threads,rfl,fun _ => ⟨rfl,?_⟩,fun t taken => by cases taken⟩
  simp only [units,start,List.map_map]
  exact List.map_id _

theorem Serial.holder (serial : Serial site base progress) (here : site.threads[t]? = some before)
    (inside : inManager before = true) : site.mutex = some t ∧
      ∃ request,progress = some (t,request) ∧ InProgress base.ocssds site.units request before := by
  have own := (serial.locked.manager t).mpr ⟨before,here,inside⟩
  obtain ⟨request,thread,mine,same,stage⟩ := serial.busy t own
  rw [here] at same
  cases same
  exact ⟨own,request,mine,stage⟩

theorem aside_serial (serial : Serial site base progress) (locked : Locked next)
    (here : site.threads[t]? = some before) (outside : inManager before = false)
    (threads : next.threads = site.threads.set t after) (vssdId : next.vssdId = site.vssdId)
    (mutex : next.mutex = site.mutex) (units : next.units = site.units) : Serial next base progress := by
  refine ⟨locked,vssdId.trans serial.vssdId,?_,?_⟩
  · rw [mutex,units]
    exact serial.idle
  · intro holder taken
    rw [mutex] at taken
    obtain ⟨request,thread,mine,same,stage⟩ := serial.busy holder taken
    have other : t ≠ holder := by
      rintro rfl
      obtain ⟨known,at',inside⟩ := (serial.locked.manager t).mp taken
      rw [here] at at'
      cases at'
      rw [outside] at inside
      cases inside
    refine ⟨request,thread,mine,?_,by rw [units]; exact stage⟩
    rw [threads,List.getElem?_set_ne other]
    exact same

theorem own_serial (serial : Serial site base progress) (locked : Locked next)
    (here : site.threads[t]? = some before) (inside : inManager before = true)
    (threads : next.threads = site.threads.set t after) (vssdId : next.vssdId = site.vssdId)
    (mutex : next.mutex = site.mutex)
    (goes : ∀ request,InProgress base.ocssds site.units request before →
      InProgress base.ocssds next.units request after) : Serial next base progress := by
  obtain ⟨own,request,mine,stage⟩ := serial.holder here inside
  refine ⟨locked,vssdId.trans serial.vssdId,?_,?_⟩
  · rw [mutex,own]
    exact nofun
  · intro holder taken
    rw [mutex,own] at taken
    cases taken
    refine ⟨request,after,mine,?_,goes request stage⟩
    rw [threads,List.getElem?_set_self (List.getElem?_eq_some_iff.mp here).1]

theorem units_get {slot : UnitSlot} (found : site.ocssds[i]? = some slot) : site.units[i]? = some slot.unit := by
  rw [units,List.getElem?_map,found]
  rfl

theorem units_kept {slot : UnitSlot} (found : site.ocssds[i]? = some slot) (mutex : Option Nat) :
    (site.ocssds.set i {slot with mutex := mutex}).map (·.unit) = site.units := by
  obtain ⟨inside,value⟩ := List.getElem?_eq_some_iff.mp (units_get found)
  rw [List.map_set,←value]
  exact List.set_getElem_self inside

theorem draw_serial (serial : Serial site base progress) {vssd : VirtualOcssd} {request : OcssdAllocRequest}
    {channels : UInt64} (here : site.threads[t]? = some (.drawing i vssd request channels)) :
    Serial (site.draw t i vssd request channels) base progress := by
  have locked := draw_locked serial.locked here
  unfold draw at locked ⊢
  cases found : site.ocssds[i]? with
  | none => exact serial
  | some slot =>
    simp only [found] at locked ⊢
    generalize draws : slot.unit.allocChannels vssd request = given at locked ⊢
    refine own_serial serial locked here rfl rfl rfl rfl fun asked stage => ?_
    obtain ⟨later,result⟩ := stage
    rw [resumed_step (units_get found) draws] at result
    have put : ManagerSite.units {site.moved t (if (request.decChannels given.granted).numChannels = 0 then
        ManagerThread.leaving given.vssd (request.decChannels given.granted) (channels+given.granted) else
        .walking (i+1) given.vssd (request.decChannels given.granted) (channels+given.granted)) with
          ocssds := site.ocssds.set i ⟨given.unit,none⟩} = site.units.set i given.unit := List.map_set
    rw [put]
    by_cases done : (request.decChannels given.granted).numChannels = 0
    · rw [if_pos done] at result ⊢
      exact result
    · rw [if_neg done] at result ⊢
      have rest := congrArg (List.drop 1) later
      rw [List.drop_drop,List.drop_drop] at rest
      refine ⟨?_,result⟩
      rw [List.drop_set_of_lt (Nat.lt_succ_self i)]
      exact rest

def serveFor (manager : OcssdManager) (asked : Nat × OcssdAllocRequest) :
    OcssdManager × (Nat × (VirtualOcssd × UInt64)) :=
  ((manager.serve asked.2).1,(asked.1,(manager.serve asked.2).2))

-- A unit is as it was before the request that is being served, or as it is after it.
theorem unit_served (serial : Serial site base progress) {unit : OcssdUnit} (found : site.units[i]? = some unit) :
    ∃ served,served <+: progress.toList ∧ (final serveFor base served).ocssds[i]? = some unit := by
  cases mutex : site.mutex with
  | none =>
    rw [(serial.idle mutex).2] at found
    exact ⟨[],List.nil_prefix,found⟩
  | some t =>
    obtain ⟨request,thread,mine,_,stage⟩ := serial.busy t mutex
    have after : (base.serve request).1.ocssds = (OcssdManager.allocLoop base.ocssds .new request 0).ocssds := rfl
    have walks : ∀ j vssd left channels,(site.units.drop j = base.ocssds.drop j ∧
        resumed site.units j vssd left channels = OcssdManager.allocLoop base.ocssds .new request 0) →
        ∃ served,served <+: progress.toList ∧ (final serveFor base served).ocssds[i]? = some unit := by
      rintro j vssd left channels ⟨later,result⟩
      by_cases passed : i < j
      · refine ⟨progress.toList,List.prefix_rfl,?_⟩
        rw [mine]
        change (base.serve request).1.ocssds[i]? = some unit
        have inside := (List.getElem?_eq_some_iff.mp found).1
        rw [after,←result,resumed,List.getElem?_append_left (by rw [List.length_take]; omega),
          List.getElem?_take_of_lt passed]
        exact found
      · refine ⟨[],List.nil_prefix,?_⟩
        have cut := congrArg (fun units => units[i-j]?) later
        simp only [List.getElem?_drop,Nat.add_sub_cancel' (Nat.le_of_not_lt passed)] at cut
        exact cut.symm.trans found
    cases thread with
    | walking j vssd left channels => exact walks j vssd left channels stage
    | drawing j vssd left channels => exact walks j vssd left channels stage
    | leaving vssd left channels =>
      refine ⟨progress.toList,List.prefix_rfl,?_⟩
      rw [mine]
      change (base.serve request).1.ocssds[i]? = some unit
      have stage : ⟨site.units,vssd,left,channels⟩ = OcssdManager.allocLoop base.ocssds .new request 0 := stage
      rw [after,←stage]
      exact found
    | outside | entering | counting | tallying => exact stage.elim

-- What a step means for the requests one after another.
inductive Answered (base : OcssdManager) (progress : Option (Nat × OcssdAllocRequest)) (next : ManagerSite) :
    ManagerEvent → Prop where
  | silent (serial : Serial next base progress) : Answered base progress next .silent
  | entered (t : Nat) (request : OcssdAllocRequest) (idle : progress = none)
      (serial : Serial next base (some (t,request))) : Answered base progress next (.entered t request)
  | granted (t : Nat) (request : OcssdAllocRequest) (own : progress = some (t,request))
      (serial : Serial next (base.serve request).1 none) :
      Answered base progress next (.granted t (base.serve request).2.1 (base.serve request).2.2)
  | tallied (t i : Nat) (unit : OcssdUnit) (served : List (Nat × OcssdAllocRequest))
      (part : served <+: progress.toList) (shown : (final serveFor base served).ocssds[i]? = some unit)
      (serial : Serial next base progress) : Answered base progress next (.tallied t i unit.getOcssdStats)

theorem leave_answered (serial : Serial site base progress) {vssd : VirtualOcssd} {request : OcssdAllocRequest}
    {channels : UInt64} (here : site.threads[t]? = some (.leaving vssd request channels))
    (locked : Locked {site.moved t .outside with vssdId := site.vssdId+1,mutex := none}) :
    Answered base progress {site.moved t .outside with vssdId := site.vssdId+1,mutex := none}
      (.granted t (vssd.setId site.vssdId) channels) := by
  obtain ⟨_,asked,own,stage⟩ := serial.holder here rfl
  have stage : ⟨site.units,vssd,request,channels⟩ = OcssdManager.allocLoop base.ocssds .new asked 0 := stage
  have served : base.serve asked = (⟨site.units,site.vssdId+1⟩,(vssd.setId site.vssdId,channels)) := by
    rw [OcssdManager.serve,OcssdManager.allocOcssdResource,←stage,serial.vssdId]
  have answered := @Answered.granted base progress {site.moved t .outside with vssdId := site.vssdId+1,mutex := none}
    t asked own
  rw [served] at answered
  exact answered ⟨locked,rfl,fun _ => ⟨rfl,rfl⟩,fun holder taken => by cases taken⟩

theorem step_answered (serial : Serial site base progress) (step : ManagerStep) :
    Answered base progress (site.step step).1 (site.step step).2 := by
  have locked := step_locked serial.locked step
  have stepped := step_stepped site step
  generalize site.step step = r at stepped locked
  cases stepped with
  | rests => exact .silent serial
  | calls t after here starts => exact .silent (aside_serial serial locked here rfl rfl rfl rfl rfl)
  | enters t request here free =>
    obtain ⟨idle,same⟩ := serial.idle free
    refine .entered t request idle ⟨locked,serial.vssdId,fun none' => (by cases none'),?_⟩
    intro holder taken
    cases taken
    refine ⟨request,_,rfl,List.getElem?_set_self (List.getElem?_eq_some_iff.mp here).1,?_⟩
    change site.units.drop 0 = _ ∧ resumed site.units 0 .new request 0 = _
    rw [same]
    exact ⟨rfl,rfl⟩
  | breaks t i vssd request channels here done =>
    refine .silent (own_serial serial locked here rfl rfl rfl rfl fun asked stage => ?_)
    have past : site.units[i]? = none ∨ request.numChannels = 0 := by
      rw [units,List.getElem?_map]
      exact done.imp_left (fun none' => by rw [none']; rfl)
    exact (resumed_done past).symm.trans stage.2
  | locks t i vssd request channels slot here found free =>
    refine .silent (own_serial serial locked here rfl rfl rfl rfl fun asked stage => ?_)
    change InProgress _ (List.map _ _) _ _
    rw [units_kept found]
    exact stage
  | draws t i vssd request channels here => exact .silent (draw_serial serial here)
  | leaves t vssd request channels here => exact leave_answered serial here locked
  | finishes t i here => exact .silent (aside_serial serial locked here rfl rfl rfl rfl rfl)
  | opens t i slot here found free =>
    exact .silent (aside_serial serial locked here rfl rfl rfl rfl (units_kept found _))
  | tallies t i slot here found =>
    obtain ⟨served,part,shown⟩ := unit_served serial (units_get found)
    exact .tallied t i slot.unit served part shown
      (aside_serial serial locked here rfl rfl rfl rfl (units_kept found _))

def entered : ManagerEvent → Option (Nat × OcssdAllocRequest)
  | .entered t request => some (t,request)
  | .silent | .granted _ _ _ | .tallied _ _ _ => none

def granted : ManagerEvent → Option (Nat × (VirtualOcssd × UInt64))
  | .granted t vssd channels => some (t,(vssd,channels))
  | .silent | .entered _ _ | .tallied _ _ _ => none

-- Statistics that some number of the requests leads to.
def Shown (manager : OcssdManager) (requests : List (Nat × OcssdAllocRequest)) (event : ManagerEvent) : Prop :=
  ∀ t i stats,event = .tallied t i stats → ∃ served unit,served <+: requests ∧
    (final serveFor manager served).ocssds[i]? = some unit ∧ unit.getOcssdStats = stats

theorem shown_later {request : Nat × OcssdAllocRequest} {requests : List (Nat × OcssdAllocRequest)}
    {event : ManagerEvent} (shown : Shown (serveFor base request).1 requests event) :
    Shown base (request :: requests) event := by
  intro t i stats same
  obtain ⟨served,unit,part,found,read⟩ := shown t i stats same
  exact ⟨request :: served,unit,(List.prefix_cons_inj request).mpr part,found,read⟩

def events (site : ManagerSite) (steps : List ManagerStep) : List ManagerEvent :=
  (trace ManagerSite.step site steps).map Prod.snd

theorem events_cons (site : ManagerSite) (step : ManagerStep) (rest : List ManagerStep) :
    events site (step :: rest) = (site.step step).2 :: events (site.step step).1 rest := rfl

theorem run_serial (serial : Serial site base progress) (steps : List ManagerStep) : ∃ done last,
    progress.toList ++ (events site steps).filterMap entered = done ++ last.toList ∧
      (events site steps).filterMap granted = (trace serveFor base done).map Prod.snd ∧
      Serial (final ManagerSite.step site steps) (final serveFor base done) last ∧
      ∀ event ∈ events site steps,Shown base (done ++ last.toList) event := by
  induction steps generalizing site base progress with
  | nil => exact ⟨[],progress,List.append_nil _,rfl,serial,nofun⟩
  | cons step rest ih =>
    have answered := step_answered serial step
    rw [events_cons,final_cons]
    generalize site.step step = r at answered
    obtain ⟨next,event⟩ := r
    cases answered with
    | silent serial =>
      obtain ⟨done,last,requests,grants,later,shown⟩ := ih serial
      refine ⟨done,last,requests,grants,later,List.forall_mem_cons.mpr ⟨?_,shown⟩⟩
      intro t i stats same
      cases same
    | entered t request idle serial =>
      obtain ⟨done,last,requests,grants,later,shown⟩ := ih serial
      subst idle
      refine ⟨done,last,requests,grants,later,List.forall_mem_cons.mpr ⟨?_,shown⟩⟩
      intro t i stats same
      cases same
    | granted t request own serial =>
      obtain ⟨done,last,requests,grants,later,shown⟩ := ih serial
      subst own
      refine ⟨(t,request) :: done,last,congrArg _ requests,congrArg _ grants,later,
        List.forall_mem_cons.mpr ⟨?_,fun event member => shown_later (shown event member)⟩⟩
      intro t i stats same
      cases same
    | tallied t i unit served part found serial =>
      obtain ⟨done,last,requests,grants,later,shown⟩ := ih serial
      refine ⟨done,last,requests,grants,later,List.forall_mem_cons.mpr ⟨?_,shown⟩⟩
      intro t' i' stats same
      cases same
      refine ⟨served,unit,?_,found,rfl⟩
      rw [←requests]
      exact part.trans (List.prefix_append _ _)

end Serial

section Progress
variable {site : ManagerSite} {t i : Nat} {before after : ManagerThread}

def turns (count : Nat) : ManagerThread → Nat
  | .outside => 0
  | .entering _ => 2*count+4
  | .walking i _ _ _ => 2*(count-i)+3
  | .drawing i _ _ _ => 2*(count-i)+2
  | .leaving _ _ _ => 1
  | .counting i => 2*(count-i)+1
  | .tallying i => 2*(count-i)

def left (site : ManagerSite) : Nat := (site.threads.map (turns site.ocssds.length)).sum

theorem moved_less {next : ManagerSite} (here : site.threads[t]? = some before)
    (threads : next.threads = site.threads.set t after) (count : next.ocssds.length = site.ocssds.length)
    (less : turns site.ocssds.length after < turns site.ocssds.length before) : left next < left site := by
  have moved := @sum_moved _ _ _ _ after (turns site.ocssds.length) here
  rw [left,left,threads,count]
  omega

theorem inside_goes (locked : Locked site) (here : site.threads[t]? = some before) (inside : inUnit i before = true) :
    left (site.step (.advance t)).1 < left site := by
  have known := locked.known before (List.mem_of_getElem? here) i inside
  have found := List.getElem?_eq_getElem known
  cases before with
  | drawing j vssd request channels =>
    have same : j = i := of_decide_eq_true inside
    subst same
    simp only [ManagerSite.step,here,advance,draw,found]
    refine moved_less here rfl List.length_set ?_
    split
    · simp only [turns]
      omega
    · simp only [turns]
      omega
  | tallying j =>
    have same : j = i := of_decide_eq_true inside
    subst same
    simp only [ManagerSite.step,here,advance,tally,found]
    refine moved_less here rfl List.length_set ?_
    simp only [turns]
    omega
  | outside | entering | walking | leaving | counting => cases inside

theorem loop_goes (free : ∀ (i : Nat) (slot : UnitSlot),site.ocssds[i]? = some slot → slot.mutex = none)
    (here : site.threads[t]? = some before) (looping : before ≠ .outside ∧ ∀ request,before ≠ .entering request)
    (inside : ∀ i,inUnit i before = false) : left (site.step (.advance t)).1 < left site := by
  cases before with
  | outside => exact absurd rfl looping.1
  | entering request => exact absurd rfl (looping.2 request)
  | drawing j | tallying j => exact absurd (inside j) (by simp [inUnit])
  | leaving vssd request channels =>
    simp only [ManagerSite.step,here,advance]
    exact @moved_less _ _ _ .outside _ here rfl rfl Nat.one_pos
  | walking j vssd request channels =>
    simp only [ManagerSite.step,here,advance,walk]
    cases found : site.ocssds[j]? with
    | none =>
      refine moved_less here rfl rfl ?_
      simp only [turns]
      omega
    | some slot =>
      dsimp only
      split
      · refine moved_less here rfl rfl ?_
        simp only [turns]
        omega
      · rw [if_pos (free j slot found)]
        exact moved_less here rfl List.length_set (Nat.lt_succ_self _)
  | counting j =>
    simp only [ManagerSite.step,here,advance,count]
    cases found : site.ocssds[j]? with
    | none => exact @moved_less _ _ _ .outside _ here rfl rfl (Nat.succ_pos _)
    | some slot =>
      dsimp only
      rw [if_pos (free j slot found)]
      exact moved_less here rfl List.length_set (Nat.lt_succ_self _)

-- Units are locked with the manager's mutex held and never the other way round, so
-- that some thread can always go on.
theorem goes_on (locked : Locked site) : (∀ thread ∈ site.threads,thread = .outside) ∨
    ∃ t,left (site.step (.advance t)).1 < left site := by
  by_cases busy : ∃ thread ∈ site.threads,∃ i,inUnit i thread = true
  · obtain ⟨thread,member,i,inside⟩ := busy
    obtain ⟨t,here⟩ := List.mem_iff_getElem?.mp member
    exact .inr ⟨t,inside_goes locked here inside⟩
  have nobody : ∀ thread ∈ site.threads,∀ i,inUnit i thread = false := fun thread member i =>
    Bool.eq_false_of_not_eq_true fun inside => busy ⟨thread,member,i,inside⟩
  have free : ∀ (i : Nat) (slot : UnitSlot),site.ocssds[i]? = some slot → slot.mutex = none := by
    intro i slot found
    by_contra taken
    obtain ⟨t,thread,here,inside⟩ := held_busy (locked.units i slot found) taken
    rw [nobody thread (List.mem_of_getElem? here)] at inside
    cases inside
  by_cases looping : ∃ thread ∈ site.threads,thread ≠ .outside ∧ ∀ request,thread ≠ .entering request
  · obtain ⟨thread,member,apart⟩ := looping
    obtain ⟨t,here⟩ := List.mem_iff_getElem?.mp member
    exact .inr ⟨t,loop_goes free here apart (nobody thread member)⟩
  by_cases waiting : ∃ request,.entering request ∈ site.threads
  · obtain ⟨request,member⟩ := waiting
    obtain ⟨t,here⟩ := List.mem_iff_getElem?.mp member
    have open' : site.mutex = none := by
      by_contra taken
      obtain ⟨t,thread,at',inside⟩ := held_busy locked.manager taken
      refine looping ⟨thread,List.mem_of_getElem? at',?_,fun request => ?_⟩
      · rintro rfl
        cases inside
      · rintro rfl
        cases inside
    refine .inr ⟨t,?_⟩
    simp only [ManagerSite.step,here,advance,if_pos open']
    exact moved_less here rfl rfl (Nat.lt_succ_self _)
  · refine .inl fun thread member => ?_
    by_contra apart
    exact looping ⟨thread,member,apart,fun request same => waiting ⟨request,by rw [←same]; exact member⟩⟩

end Progress

-- Threads that allocate and publish at the same time. Whatever the interleaving:
-- each mutex has one holder at most, the grants are those of the same requests one
-- after another in the order in which they came to the manager, the units are as
-- these leave them whenever no request is being served, and all statistics read
-- are those of a unit after some number of these requests.
theorem concurrent_requests_serialise (manager : OcssdManager) (threads : Nat) (steps : List ManagerStep) :
    let site := final ManagerSite.step (start manager threads) steps
    let seen := events (start manager threads) steps
    (∀ (t u : Nat) (one two : ManagerThread),site.threads[t]? = some one → site.threads[u]? = some two →
      (inManager one = true ∧ inManager two = true ∨ ∃ i,inUnit i one = true ∧ inUnit i two = true) → t = u) ∧
    ∃ done last,seen.filterMap entered = done ++ last.toList ∧
      seen.filterMap granted = (trace serveFor manager done).map Prod.snd ∧
      (site.mutex = none → last = none ∧ site.units = (final serveFor manager done).ocssds) ∧
      site.vssdId = (final serveFor manager done).vssdId ∧
      ∀ event ∈ seen,Shown manager (done ++ last.toList) event := by
  intro site seen
  obtain ⟨done,last,requests,grants,serial,shown⟩ := run_serial (start_serial manager threads) steps
  refine ⟨?_,done,last,requests,grants,serial.idle,serial.vssdId,shown⟩
  rintro t u one two first second (⟨inOne,inTwo⟩ | ⟨i,inOne,inTwo⟩)
  · exact held_alone serial.locked.manager first second inOne inTwo
  · have inside := serial.locked.known one (List.mem_of_getElem? first) i inOne
    exact held_alone (serial.locked.units i _ (List.getElem?_eq_getElem inside)) first second inOne inTwo

-- The two levels of mutexes never lock each other out: from wherever a run has
-- come to, the threads get through what they have begun, and then every request
-- that was made has its grant.
theorem threads_finish (manager : OcssdManager) (threads : Nat) (steps : List ManagerStep) :
    ∃ more : List ManagerStep,(∀ step ∈ more,∃ t,step = .advance t) ∧
      let site := final ManagerSite.step (start manager threads) (steps ++ more)
      let seen := events (start manager threads) (steps ++ more)
      (∀ thread ∈ site.threads,thread = .outside) ∧ site.mutex = none ∧ (∀ slot ∈ site.ocssds,slot.mutex = none) ∧
        seen.filterMap granted = (trace serveFor manager (seen.filterMap entered)).map Prod.snd ∧
        site.units = (final serveFor manager (seen.filterMap entered)).ocssds := by
  have goes : ∀ site : ManagerSite,Locked site → (∀ thread ∈ site.threads,thread = .outside) ∨
      ∃ step,(∃ t,step = .advance t) ∧ Locked (site.step step).1 ∧ left (site.step step).1 < left site := by
    intro site locked
    rcases goes_on locked with done | ⟨t,less⟩
    · exact .inl done
    · exact .inr ⟨.advance t,⟨t,rfl⟩,step_locked locked _,less⟩
  have kept : ∀ site step,Locked site → Locked (ManagerSite.step site step).1 :=
    fun _ step locked => step_locked locked step
  obtain ⟨more,own,_,outside⟩ := descends left goes (final_invariant kept (start_locked manager threads) steps)
  rw [←final_foldl,←final_append] at outside
  refine ⟨more,own,outside,?_⟩
  obtain ⟨done,last,requests,grants,serial,_⟩ := run_serial (start_serial manager threads) (steps ++ more)
  have free : (final ManagerSite.step (start manager threads) (steps ++ more)).mutex = none := by
    by_contra taken
    obtain ⟨t,thread,here,inside⟩ := held_busy serial.locked.manager taken
    rw [outside thread (List.mem_of_getElem? here)] at inside
    cases inside
  obtain ⟨idle,units⟩ := serial.idle free
  rw [idle] at requests
  have all : (events (start manager threads) (steps ++ more)).filterMap entered = done :=
    requests.trans (List.append_nil _)
  rw [all]
  refine ⟨free,fun slot member => ?_,grants,units⟩
  by_contra taken
  obtain ⟨i,found⟩ := List.mem_iff_getElem?.mp member
  obtain ⟨t,thread,here,inside⟩ := held_busy (serial.locked.units i slot found) taken
  rw [outside thread (List.mem_of_getElem? here)] at inside
  cases inside

end OcssdServer.ManagerSerial
