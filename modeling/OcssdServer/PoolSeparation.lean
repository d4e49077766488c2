import OcssdServer.ResourceManager
import OcssdServer.MachineRuns

namespace OcssdServer.PoolSeparation

def asksShared (request : OcssdAllocRequest) : Bool := request.shared = 1

def poolView (shared : Bool) (unit : OcssdUnit) : DevName × NvmGeo × List OcssdChannel :=
  (unit.name,unit.geo,if shared then unit.sharedChannels else unit.exclusiveChannels)

def managerView (shared : Bool) (manager : OcssdManager) : List (DevName × NvmGeo × List OcssdChannel) :=
  manager.ocssds.map (poolView shared)

-- What a client sees of a grant apart from the id of the virtual SSD.
def grantOf (reply : VirtualOcssd × UInt64) : List VirtualOcssdUnit × UInt64 := (reply.1.units,reply.2)

def serveGrant (manager : OcssdManager) (request : OcssdAllocRequest) :
    OcssdManager × (List VirtualOcssdUnit × UInt64) :=
  ((manager.serve request).1,grantOf (manager.serve request).2)

theorem alloc_hidden {kind : Bool} {request : OcssdAllocRequest} (other : asksShared request ≠ kind)
    (unit : OcssdUnit) (vssd : VirtualOcssd) :
    poolView kind (unit.allocChannels vssd request).unit = poolView kind unit := by
  unfold OcssdUnit.allocChannels
  by_cases nothing : request.numChannels = 0
  · rw [if_pos nothing]
  rw [if_neg nothing]
  by_cases shared : request.shared = 1
  · have exclusive : kind = false := by simpa [asksShared,shared] using other
    rw [if_pos shared,exclusive]
    rfl
  · have shared' : kind = true := by simpa [asksShared,shared] using other
    rw [if_neg shared,shared']
    rfl

theorem alloc_own {request : OcssdAllocRequest} {one two : OcssdUnit}
    (same : poolView (asksShared request) one = poolView (asksShared request) two) (vssd : VirtualOcssd) :
    (one.allocChannels vssd request).vssd = (two.allocChannels vssd request).vssd ∧
      (one.allocChannels vssd request).granted = (two.allocChannels vssd request).granted ∧
      poolView (asksShared request) (one.allocChannels vssd request).unit =
        poolView (asksShared request) (two.allocChannels vssd request).unit := by
  rcases one with ⟨name,geo,shared,exclusive⟩
  rcases two with ⟨name',geo',shared',exclusive'⟩
  simp only [poolView,Prod.mk.injEq] at same
  obtain ⟨rfl,rfl,pool⟩ := same
  by_cases kind : request.shared = 1
  · have asks : asksShared request = true := by simp [asksShared,kind]
    simp only [asks,if_true] at pool
    subst pool
    simp only [OcssdUnit.allocChannels,OcssdUnit.allocSharedChannels,poolView,asks,kind,if_true]
    split
    · exact ⟨rfl,rfl,rfl⟩
    · exact ⟨rfl,rfl,rfl⟩
  · have asks : asksShared request = false := by simp [asksShared,kind]
    simp only [asks,Bool.false_eq_true,if_false] at pool
    subst pool
    simp only [OcssdUnit.allocChannels,OcssdUnit.allocExclusiveChannels,poolView,asks,kind,
      Bool.false_eq_true,if_false]
    split
    · exact ⟨rfl,rfl,rfl⟩
    · exact ⟨rfl,rfl,rfl⟩

theorem loop_hidden {kind : Bool} {request : OcssdAllocRequest} (other : asksShared request ≠ kind)
    (units : List OcssdUnit) (vssd : VirtualOcssd) (channels : UInt64) :
    (OcssdManager.allocLoop units vssd request channels).ocssds.map (poolView kind) =
      units.map (poolView kind) := by
  induction units generalizing vssd request channels with
  | nil => rfl
  | cons unit rest ih =>
    have here := alloc_hidden other unit vssd
    unfold OcssdManager.allocLoop
    dsimp only
    split
    · rw [List.map_cons,List.map_cons,here]
    · rw [List.map_cons,List.map_cons,here]
      congr 1
      have other' : asksShared (request.decChannels (unit.allocChannels vssd request).granted) ≠ kind := other
      exact ih other' _ _

theorem loop_own {request : OcssdAllocRequest} {one two : List OcssdUnit}
    (same : one.map (poolView (asksShared request)) = two.map (poolView (asksShared request)))
    (vssd : VirtualOcssd) (channels : UInt64) :
    (OcssdManager.allocLoop one vssd request channels).vssd =
        (OcssdManager.allocLoop two vssd request channels).vssd ∧
      (OcssdManager.allocLoop one vssd request channels).granted =
        (OcssdManager.allocLoop two vssd request channels).granted ∧
      (OcssdManager.allocLoop one vssd request channels).ocssds.map (poolView (asksShared request)) =
        (OcssdManager.allocLoop two vssd request channels).ocssds.map (poolView (asksShared request)) := by
  induction one generalizing two vssd request channels with
  | nil =>
    cases two with
    | nil => exact ⟨rfl,rfl,rfl⟩
    | cons unit rest => cases same
  | cons unit rest ih =>
    cases two with
    | nil => cases same
    | cons unit' rest' =>
      obtain ⟨head,tail⟩ := List.cons.inj same
      obtain ⟨vssds,granted,view⟩ := alloc_own head vssd
      unfold OcssdManager.allocLoop
      dsimp only
      rw [vssds,granted]
      split
      · exact ⟨rfl,rfl,by rw [List.map_cons,List.map_cons,view,tail]⟩
      · -- What is left of the request is of its kind.
        generalize left : request.decChannels (unit'.allocChannels vssd request).granted = next
        have kind : asksShared next = asksShared request := by rw [←left]; rfl
        rw [←kind] at tail view ⊢
        obtain ⟨vssds',granted',views⟩ := ih tail (unit'.allocChannels vssd request).vssd
          (channels+(unit'.allocChannels vssd request).granted)
        refine ⟨vssds',granted',?_⟩
        rw [List.map_cons,List.map_cons,view]
        congr 1

theorem pool_unwinds (kind : Bool) :
    MachineRuns.Unwinds serveGrant (managerView kind) (fun request => asksShared request == kind) where
  hidden := by
    intro manager request other
    have different : asksShared request ≠ kind := by simpa using other
    exact loop_hidden different manager.ocssds _ _
  answer := by
    intro one two request own same
    have kind' : asksShared request = kind := by simpa using own
    subst kind'
    obtain ⟨vssds,granted,_⟩ := loop_own same .new 0
    simp only [serveGrant,grantOf,OcssdManager.serve,OcssdManager.allocOcssdResource,vssds,granted,
      VirtualOcssd.setId]
  next := by
    intro one two request own same
    have kind' : asksShared request = kind := by simpa using own
    subst kind'
    exact (loop_own same .new 0).2.2

theorem units_ext {one two : List OcssdUnit}
    (views : ∀ kind,one.map (poolView kind) = two.map (poolView kind)) : one = two := by
  induction one generalizing two with
  | nil =>
    cases two with
    | nil => rfl
    | cons unit rest => cases views true
  | cons unit rest ih =>
    cases two with
    | nil => cases views true
    | cons unit' rest' =>
      rcases unit with ⟨name,geo,shared,exclusive⟩
      rcases unit' with ⟨name',geo',shared',exclusive'⟩
      have left := (List.cons.inj (views true)).1
      have right := (List.cons.inj (views false)).1
      simp only [poolView,Prod.mk.injEq,if_true,Bool.false_eq_true,if_false] at left right
      obtain ⟨rfl,rfl,rfl⟩ := left
      obtain ⟨_,_,rfl⟩ := right
      rw [ih (fun kind => (List.cons.inj (views kind)).2)]

theorem manager_ext {one two : OcssdManager} (ids : one.vssdId = two.vssdId)
    (views : ∀ kind,managerView kind one = managerView kind two) : one = two := by
  rcases one with ⟨units,id⟩
  rcases two with ⟨units',id'⟩
  have same : units = units' := units_ext views
  have ids' : id = id' := ids
  rw [same,ids']

-- A shared and an exclusive request may be served in either order.
theorem kinds_commute (manager : OcssdManager) {shared exclusive : OcssdAllocRequest}
    (one : asksShared shared = true) (two : asksShared exclusive = false) :
    (serveGrant (serveGrant manager shared).1 exclusive).1 =
        (serveGrant (serveGrant manager exclusive).1 shared).1 ∧
      (serveGrant manager shared).2 = (serveGrant (serveGrant manager exclusive).1 shared).2 ∧
      (serveGrant manager exclusive).2 = (serveGrant (serveGrant manager shared).1 exclusive).2 := by
  have asks := pool_unwinds true
  have takes := pool_unwinds false
  have pass : managerView true (serveGrant manager exclusive).1 = managerView true manager :=
    asks.hidden manager exclusive (by simp [two])
  have pass' : managerView false (serveGrant manager shared).1 = managerView false manager :=
    takes.hidden manager shared (by simp [one])
  refine ⟨manager_ext rfl ?_,asks.answer _ _ shared (by simp [one]) pass.symm,
    takes.answer _ _ exclusive (by simp [two]) pass'.symm⟩
  intro kind
  cases kind with
  | true =>
    calc managerView true (serveGrant (serveGrant manager shared).1 exclusive).1
        = managerView true (serveGrant manager shared).1 := asks.hidden _ exclusive (by simp [two])
      _ = managerView true (serveGrant (serveGrant manager exclusive).1 shared).1 :=
          asks.next _ _ shared (by simp [one]) pass.symm
  | false =>
    calc managerView false (serveGrant (serveGrant manager shared).1 exclusive).1
        = managerView false (serveGrant manager exclusive).1 := takes.next _ _ exclusive (by simp [two]) pass'
      _ = managerView false (serveGrant (serveGrant manager exclusive).1 shared).1 :=
          (takes.hidden _ shared (by simp [one])).symm

theorem pools_do_not_interfere (manager : OcssdManager) (requests : List OcssdAllocRequest) :
    MachineRuns.trace serveGrant manager (requests.filter (fun request => request.shared = 1)) =
        (MachineRuns.trace serveGrant manager requests).filter (fun e => e.1.shared = 1) ∧
      MachineRuns.trace serveGrant manager (requests.filter (fun request => request.shared ≠ 1)) =
        (MachineRuns.trace serveGrant manager requests).filter (fun e => e.1.shared ≠ 1) ∧
      ∀ shared exclusive : OcssdAllocRequest,shared.shared = 1 → exclusive.shared ≠ 1 →
        (serveGrant (serveGrant manager shared).1 exclusive).1 =
            (serveGrant (serveGrant manager exclusive).1 shared).1 ∧
          (serveGrant manager shared).2 = (serveGrant (serveGrant manager exclusive).1 shared).2 ∧
          (serveGrant manager exclusive).2 = (serveGrant (serveGrant manager shared).1 exclusive).2 := by
  refine ⟨?_,?_,?_⟩
  · have purged := (pool_unwinds true).purged (rfl : managerView true manager = _) requests
    simpa [asksShared] using purged
  · have purged := (pool_unwinds false).purged (rfl : managerView false manager = _) requests
    simpa [asksShared] using purged
  · intro shared exclusive one two
    exact kinds_commute manager (by simp [asksShared,one]) (by simp [asksShared,two])

theorem two_kinds_commute :
    (serveGrant (serveGrant (.ofDevices [([110],⟨6,2,1,4,1,1,1,1,0⟩)]) ⟨2,8,1,0,0⟩).1 ⟨1,0,0,0,0⟩).1 =
        (serveGrant (serveGrant (.ofDevices [([110],⟨6,2,1,4,1,1,1,1,0⟩)]) ⟨1,0,0,0,0⟩).1 ⟨2,8,1,0,0⟩).1 :=
  ((pools_do_not_interfere (.ofDevices [([110],⟨6,2,1,4,1,1,1,1,0⟩)]) []).2.2 ⟨2,8,1,0,0⟩ ⟨1,0,0,0,0⟩
    (by decide) (by decide)).1

end OcssdServer.PoolSeparation
