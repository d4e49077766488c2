import OcssdServer.MachineRuns
import OcssdServer.ResourceManager

namespace OcssdServer

-- A unit and its mutex_, with the thread that holds it.
structure UnitSlot where
  unit : OcssdUnit
  mutex : Option Nat

-- Where a thread stands: before the mutex of the manager, in the loop of
-- alloc_ocssd_resource over the units (at the next one, or with its mutex), behind
-- the loop, or in the loop of publish_resource (likewise).
inductive ManagerThread where
  | outside
  | entering (request : OcssdAllocRequest)
  | walking (i : Nat) (vssd : VirtualOcssd) (request : OcssdAllocRequest) (channels : UInt64)
  | drawing (i : Nat) (vssd : VirtualOcssd) (request : OcssdAllocRequest) (channels : UInt64)
  | leaving (vssd : VirtualOcssd) (request : OcssdAllocRequest) (channels : UInt64)
  | counting (i : Nat)
  | tallying (i : Nat)

inductive ManagerCall where
  | allocOcssdResource (request : OcssdAllocRequest)
  | publishResource

inductive ManagerStep where
  | call (thread : Nat) (call : ManagerCall)
  | advance (thread : Nat)

inductive ManagerEvent where
  | silent
  | entered (thread : Nat) (request : OcssdAllocRequest)
  | granted (thread : Nat) (vssd : VirtualOcssd) (channels : UInt64)
  | tallied (thread : Nat) (i : Nat) (stats : OcssdStats)

structure ManagerSite where
  ocssds : List UnitSlot
  vssdId : UInt32
  mutex : Option Nat
  threads : List ManagerThread

namespace ManagerSite

def start (manager : OcssdManager) (threads : Nat) : ManagerSite :=
  ⟨manager.ocssds.map (fun unit => ⟨unit,none⟩),manager.vssdId,none,List.replicate threads .outside⟩

def units (site : ManagerSite) : List OcssdUnit := site.ocssds.map (·.unit)

def moved (site : ManagerSite) (thread : Nat) (state : ManagerThread) : ManagerSite :=
  {site with threads := site.threads.set thread state}

-- alloc_channels looks at the request before it locks the unit: with no channels
-- left to ask for it returns 0, and the loop over the units breaks.
def walk (site : ManagerSite) (thread i : Nat) (vssd : VirtualOcssd) (request : OcssdAllocRequest)
    (channels : UInt64) : ManagerSite :=
  match site.ocssds[i]? with
  | none => site.moved thread (.leaving vssd request channels)
  | some slot =>
    if request.numChannels = 0 then site.moved thread (.leaving vssd request channels)
    else if slot.mutex = none then
      {site.moved thread (.drawing i vssd request channels) with
        ocssds := site.ocssds.set i {slot with mutex := some thread}}
    else site

def draw (site : ManagerSite) (thread i : Nat) (vssd : VirtualOcssd) (request : OcssdAllocRequest)
    (channels : UInt64) : ManagerSite :=
  match site.ocssds[i]? with
  | none => site
  | some slot =>
    let given := slot.unit.allocChannels vssd request
    let channels := channels+given.granted
    let request := request.decChannels given.granted
    let next := if request.numChannels = 0 then .leaving given.vssd request channels
      else .walking (i+1) given.vssd request channels
    {site.moved thread next with ocssds := site.ocssds.set i ⟨given.unit,none⟩}

def count (site : ManagerSite) (thread i : Nat) : ManagerSite :=
  match site.ocssds[i]? with
  | none => site.moved thread .outside
  | some slot =>
    if slot.mutex = none then
      {site.moved thread (.tallying i) with ocssds := site.ocssds.set i {slot with mutex := some thread}}
    else site

def tally (site : ManagerSite) (thread i : Nat) : ManagerSite × ManagerEvent :=
  match site.ocssds[i]? with
  | none => (site,.silent)
  | some slot =>
    ({site.moved thread (.counting (i+1)) with ocssds := site.ocssds.set i {slot with mutex := none}},
      .tallied thread i slot.unit.getOcssdStats)

def advance (site : ManagerSite) (thread : Nat) : ManagerThread → ManagerSite × ManagerEvent
  | .outside => (site,.silent)
  | .entering request =>
    if site.mutex = none then
      ({site.moved thread (.walking 0 .new request 0) with mutex := some thread},.entered thread request)
    else (site,.silent)
  | .walking i vssd request channels => (site.walk thread i vssd request channels,.silent)
  | .drawing i vssd request channels => (site.draw thread i vssd request channels,.silent)
  | .leaving vssd _ channels =>
    ({site.moved thread .outside with vssdId := site.vssdId+1,mutex := none},
      .granted thread (vssd.setId site.vssdId) channels)
  | .counting i => (site.count thread i,.silent)
  | .tallying i => site.tally thread i

-- A mutex that is held makes its thread wait: the step changes nothing.
def step (site : ManagerSite) : ManagerStep → ManagerSite × ManagerEvent
  | .call thread call =>
    match site.threads[thread]?,call with
    | some .outside,.allocOcssdResource request => (site.moved thread (.entering request),.silent)
    | some .outside,.publishResource => (site.moved thread (.counting 0),.silent)
    | _,_ => (site,.silent)
  | .advance thread =>
    match site.threads[thread]? with
    | none => (site,.silent)
    | some state => site.advance thread state

end ManagerSite
end OcssdServer
