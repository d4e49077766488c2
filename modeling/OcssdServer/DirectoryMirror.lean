import OcssdServer.CapacityLoss
import OcssdServer.LoopTenants
import OcssdServer.Upserts

namespace OcssdServer.DirectoryMirror
open MachineRuns BlockOwnership ManagerGrants LoopRequests Upserts

section Rows
variable {Table : Type} {cloud : CloudTable Table} {rows : Table → String × DevName → Option (List (String × String))}

-- What is relied on of the table service: creating the table touches no row, an
-- insert or replace sets the row under its two keys, a delete removes it, and a
-- query finds the rows of a partition.
structure TableRules (cloud : CloudTable Table) (rows : Table → String × DevName → Option (List (String × String))) :
    Prop where
  created : ∀ t t',cloud.createIfNotExists t = some t' → rows t' = rows t
  inserted : ∀ e t t',cloud.insertOrReplace e t = some t' →
    rows t' = Function.update (rows t) (e.partitionKey,e.rowKey) (some e.properties)
  deleted : ∀ e t t',cloud.deleteEntity e t = some t' →
    rows t' = Function.update (rows t) (e.partitionKey,e.rowKey) none
  queried : ∀ p t found,cloud.executeQuery p t = some found →
    ∀ e,e ∈ found ↔ e.partitionKey = p ∧ rows t (e.partitionKey,e.rowKey) = some e.properties

def key (ip : List UInt8) (unit : OcssdUnit) : String × DevName := ("OCSSD",unit.getDesc ip)

def value (unit : OcssdUnit) : List (String × String) :=
  (resourceEntity (unit.getDesc []) unit.getOcssdStats.numSharedChannels unit.getOcssdStats.numExclusiveChannels
    unit.getOcssdStats.freeBlocks).properties

def printed (ip : List UInt8) (unit : OcssdUnit) : String × DevName × String × String × String :=
  ("OCSSD",unit.getDesc ip,Nat.repr unit.getOcssdStats.numSharedChannels.toNat,
    Nat.repr unit.getOcssdStats.numExclusiveChannels.toNat,Nat.repr unit.getOcssdStats.freeBlocks.toNat)

theorem publish_rows (rules : TableRules cloud rows) {ip : List UInt8} {unit : OcssdUnit} {t t' : Table}
    (published : unit.publish cloud ip t = some t') :
    rows t' = Function.update (rows t) (key ip unit) (some (value unit)) := by
  unfold OcssdUnit.publish azureInsertEntity at published
  obtain ⟨created,made,inserted⟩ := Option.bind_eq_some_iff.mp published
  rw [rules.inserted _ _ _ inserted,rules.created _ _ made]
  rfl

theorem query_rows (rules : TableRules cloud rows) {t t' : Table} {found : List TableEntity}
    (query : azureQuery cloud t = some (t',found)) :
    rows t' = rows t ∧ ∀ e,e ∈ found ↔
      e.partitionKey = "OCSSD" ∧ rows t (e.partitionKey,e.rowKey) = some e.properties := by
  unfold azureQuery at query
  obtain ⟨created,made,rest⟩ := Option.bind_eq_some_iff.mp query
  obtain ⟨some',all,same⟩ := Option.bind_eq_some_iff.mp rest
  cases same
  have kept := rules.created _ _ made
  refine ⟨kept,?_⟩
  rw [←kept]
  exact rules.queried _ _ _ all

theorem columns_printed (ip : List UInt8) (unit : OcssdUnit) :
    (TableEntity.mk "OCSSD" (unit.getDesc ip) (value unit)).columns = some (printed ip unit) := rfl

theorem columns_keys {entity : TableEntity} {line : String × DevName × String × String × String}
    (made : entity.columns = some line) : line.1 = entity.partitionKey ∧ line.2.1 = entity.rowKey := by
  simp only [TableEntity.columns,Option.bind_eq_bind,Option.bind_eq_some_iff] at made
  obtain ⟨shared,_,exclusive,_,blocks,_,same⟩ := made
  cases same
  exact ⟨rfl,rfl⟩

theorem each_made {α β : Type} {f : α → Option β} {found : List α} {lines : List β} (made : found.mapM f = some lines) :
    (∀ line ∈ lines,∃ a ∈ found,f a = some line) ∧ ∀ a ∈ found,∃ line ∈ lines,f a = some line := by
  induction found generalizing lines with
  | nil =>
    cases made
    exact ⟨nofun,nofun⟩
  | cons a rest ih =>
    rw [List.mapM_cons] at made
    obtain ⟨line,here,later⟩ := Option.bind_eq_some_iff.mp made
    obtain ⟨others,there,same⟩ := Option.bind_eq_some_iff.mp later
    cases same
    obtain ⟨back,forth⟩ := ih there
    exact ⟨List.forall_mem_cons.mpr ⟨⟨a,List.mem_cons_self,here⟩,fun l member =>
        (back l member).imp fun _ inside => ⟨List.mem_cons_of_mem _ inside.1,inside.2⟩⟩,
      List.forall_mem_cons.mpr ⟨⟨line,List.mem_cons_self,here⟩,fun b member =>
        (forth b member).imp fun _ inside => ⟨List.mem_cons_of_mem _ inside.1,inside.2⟩⟩⟩

theorem retrieved_lines (rules : TableRules cloud rows) {t : Table}
    {lines : List (String × DevName × String × String × String)} (got : azureRetrieveEntity cloud t = some lines) :
    (∀ line ∈ lines,∃ row,rows t ("OCSSD",line.2.1) = some row ∧
      (TableEntity.mk "OCSSD" line.2.1 row).columns = some line) ∧
    ∀ name row,rows t ("OCSSD",name) = some row →
      ∃ line ∈ lines,(TableEntity.mk "OCSSD" name row).columns = some line := by
  obtain ⟨⟨t',found⟩,query,made⟩ := Option.bind_eq_some_iff.mp got
  obtain ⟨back,forth⟩ := each_made made
  have listed := (query_rows rules query).2
  constructor
  · intro line member
    obtain ⟨entity,inside,columns⟩ := back line member
    obtain ⟨partition',row⟩ := (listed entity).mp inside
    obtain ⟨_,name⟩ := columns_keys columns
    rw [partition'] at row
    refine ⟨entity.properties,?_,?_⟩
    · rw [name]
      exact row
    · rw [name,←partition']
      exact columns
  · intro name row stands
    have inside := (listed ⟨"OCSSD",name,row⟩).mpr ⟨rfl,stands⟩
    obtain ⟨line,member,columns⟩ := forth _ inside
    exact ⟨line,member,columns⟩

end Rows

section Site
variable {World Dev Vblk Client Table : Type} [DecidableEq Client] {lib : Lightnvm World Dev Vblk}
  {cloud : CloudTable Table} {rows : Table → String × DevName → Option (List (String × String))} {ip : List UInt8}
  {set : List (DevName × NvmGeo)} {requests : List OcssdAllocRequest}
  {site : DirectorySite World Dev Vblk Client Table}

-- Another server writes under other keys than this one.
def Foreign (ip : List UInt8) (set : List (DevName × NvmGeo)) : DirectoryMove Client → Prop
  | .elsewhere entity => (entity.partitionKey,entity.rowKey) ∉ (OcssdManager.ofDevices set).ocssds.map (key ip)
  | .event _ | .publish | .wipe | .delete _ => True

def deletes : DirectoryMove Client → Bool
  | .delete _ => true
  | .event _ | .publish | .wipe | .elsewhere _ => false

def opens (lib : Lightnvm World Dev Vblk) (site : DirectorySite World Dev Vblk Client Table) :
    DirectoryMove Client → Bool
  | .event event => decide (site.unpublished = []) && site.loop.publishes lib event
  | .publish | .wipe | .delete _ | .elsewhere _ => false

def heard (lib : Lightnvm World Dev Vblk) (site : DirectorySite World Dev Vblk Client Table) :
    DirectoryMove Client → List OcssdAllocRequest
  | .event event =>
    if site.unpublished = [] then ((site.loop.reading lib event).map (·.session.events)).toList.flatMap asked else []
  | .publish | .wipe | .delete _ | .elsewhere _ => []

def allHeard (lib : Lightnvm World Dev Vblk) (cloud : CloudTable Table) (ip : List UInt8) :
    DirectorySite World Dev Vblk Client Table → List (DirectoryMove Client) → List OcssdAllocRequest
  | _,[] => []
  | site,move :: rest => heard lib site move ++ allHeard lib cloud ip (site.step lib cloud ip move) rest

theorem step_manager (manager : site.loop.manager = reached set requests) (move : DirectoryMove Client) :
    (site.step lib cloud ip move).loop.manager = reached set (requests ++ heard lib site move) := by
  have valid : ManagerValid site.loop.manager := by
    rw [manager]
    exact reached_valid set requests
  unfold reached
  rw [final_append]
  change _ = final OcssdManager.serve (reached set requests) _
  rw [←manager]
  cases move with
  | event event =>
    simp only [DirectorySite.step,heard]
    split
    · exact (@serve_requests World Dev Vblk Client _ lib site.loop valid event).1
    · rfl
  | publish =>
    simp only [DirectorySite.step,heard]
    split
    · rfl
    · split
      · rfl
      · split <;> rfl
  | wipe =>
    simp only [DirectorySite.step,heard]
    split <;> rfl
  | delete i =>
    simp only [DirectorySite.step,heard]
    split
    · rfl
    · split <;> rfl
  | elsewhere entity =>
    simp only [DirectorySite.step,heard]
    split <;> rfl

-- A property of the units published so far and the table that the writes of the
-- server and of others keep.
structure Kept (ip : List UInt8) (set : List (DevName × NvmGeo))
    (P : List OcssdUnit → (String × DevName → Option (List (String × String))) → Prop) : Prop where
  write : ∀ published table unit,P published table →
    P (published ++ [unit]) (Function.update table (key ip unit) (some (value unit)))
  foreign : ∀ published table k row,P published table → k ∉ published.map (key ip) →
    k ∉ (OcssdManager.ofDevices set).ocssds.map (key ip) → P published (Function.update table k row)

def Removes (P : List OcssdUnit → (String × DevName → Option (List (String × String))) → Prop) : Prop :=
  ∀ published table k,P published table → P published (Function.update table k none)

def Standing (rows : Table → String × DevName → Option (List (String × String)))
    (P : List OcssdUnit → (String × DevName → Option (List (String × String))) → Prop)
    (site : DirectorySite World Dev Vblk Client Table) : Prop :=
  site.loop.ended = false → ∃ published,published ++ site.unpublished = site.loop.manager.ocssds ∧
    P published (rows site.table)

theorem reached_keys (ip : List UInt8) (set : List (DevName × NvmGeo)) (requests : List OcssdAllocRequest) :
    (reached set requests).ocssds.map (key ip) = (OcssdManager.ofDevices set).ocssds.map (key ip) := by
  have same : devices (reached set requests) = set :=
    (@final_invariant _ _ _ OcssdManager.serve (fun manager => ManagerValid manager ∧ devices manager = set)
      (fun manager request held => ⟨serve_valid manager request held.1,(serve_devices held.1 request).trans held.2⟩)
      _ ⟨ofDevices_valid set,ofDevices_devices set⟩ requests).2
  have keys := congrArg (List.map (fun d : DevName × NvmGeo =>
    (("OCSSD",(ip ++ d.1).map (fun c => if c = 0x2f then 0x5f else c)) : String × DevName)))
    (same.trans (ofDevices_devices set).symm)
  simp only [devices,List.map_map] at keys
  exact keys

variable {P : List OcssdUnit → (String × DevName → Option (List (String × String))) → Prop}

theorem open_stands {move : DirectoryMove Client} (opening : opens lib site move = true)
    (empty : P [] (rows site.table)) : Standing rows P (site.step lib cloud ip move) := by
  intro _
  cases move with
  | event event =>
    simp only [opens,Bool.and_eq_true,decide_eq_true_eq] at opening
    obtain ⟨through,publishes⟩ := opening
    simp only [DirectorySite.step,if_pos through,publishes,if_true]
    exact ⟨[],rfl,empty⟩
  | publish | wipe | delete | elsewhere => cases opening

theorem step_stands (rules : TableRules cloud rows) (manager : site.loop.manager = reached set requests)
    (kept : Kept ip set P) {move : DirectoryMove Client} (removes : deletes move = true → Removes P)
    (apart : Foreign ip set move) (closed : opens lib site move = false) (stands : Standing rows P site) :
    Standing rows P (site.step lib cloud ip move) := by
  cases move with
  | event event =>
    simp only [DirectorySite.step]
    split
    swap
    · exact stands
    rename_i through
    intro running
    have valid : ManagerValid site.loop.manager := by
      rw [manager]
      exact reached_valid set requests
    have silent : site.loop.publishes lib event = false := by simpa [opens,through] using closed
    obtain ⟨all,units,holds⟩ := stands (LoopTenants.running_before running)
    rw [through,List.append_nil] at units
    refine ⟨all,?_,holds⟩
    simp only [silent,Bool.false_eq_true,if_false,List.append_nil]
    exact units.trans (serve_silent valid running silent).symm
  | publish =>
    simp only [DirectorySite.step]
    split
    · exact stands
    rename_i unit rest left
    split
    · exact stands
    split
    · intro running
      cases running
    · rename_i table written
      intro running
      obtain ⟨published,units,holds⟩ := stands running
      rw [left] at units
      refine ⟨published ++ [unit],?_,?_⟩
      · rw [List.append_assoc]
        exact units
      · rw [publish_rows rules written]
        exact kept.write _ _ _ holds
  | wipe =>
    simp only [DirectorySite.step]
    split
    · exact stands
    · rename_i table found query
      intro running
      rw [(query_rows rules query).1]
      exact stands running
  | delete i =>
    simp only [DirectorySite.step]
    split
    · exact stands
    rename_i entity _
    split
    · exact stands
    · rename_i table gone
      intro running
      obtain ⟨published,units,holds⟩ := stands running
      rw [rules.deleted _ _ _ gone]
      exact ⟨published,units,removes rfl _ _ _ holds⟩
  | elsewhere entity =>
    simp only [DirectorySite.step]
    split
    · exact stands
    · rename_i table written
      intro running
      obtain ⟨published,units,holds⟩ := stands running
      rw [rules.inserted _ _ _ written]
      refine ⟨published,units,kept.foreign _ _ _ _ holds (fun mine => apart ?_) apart⟩
      rw [←reached_keys ip set requests,←manager,←units,List.map_append]
      exact List.mem_append_left _ mine

theorem run_append (past later : List (DirectoryMove Client)) :
    site.run lib cloud ip (past ++ later) = (site.run lib cloud ip past).run lib cloud ip later :=
  List.foldl_append

theorem run_manager (manager : site.loop.manager = reached set requests) (moves : List (DirectoryMove Client)) :
    (site.run lib cloud ip moves).loop.manager = reached set (requests ++ allHeard lib cloud ip site moves) := by
  induction moves generalizing site requests with
  | nil =>
    rw [allHeard,List.append_nil]
    exact manager
  | cons move rest ih =>
    rw [allHeard,←List.append_assoc]
    exact ih (step_manager manager move)

theorem run_stands (rules : TableRules cloud rows) (manager : site.loop.manager = reached set requests)
    (kept : Kept ip set P) (empty : ∀ table,P [] table) {moves : List (DirectoryMove Client)}
    (removes : ∀ move ∈ moves,deletes move = true → Removes P) (apart : ∀ move ∈ moves,Foreign ip set move)
    (stands : Standing rows P site) : Standing rows P (site.run lib cloud ip moves) := by
  induction moves generalizing site requests with
  | nil => exact stands
  | cons move rest ih =>
    refine ih (step_manager manager move) (fun m member => removes m (List.mem_cons_of_mem _ member))
      (fun m member => apart m (List.mem_cons_of_mem _ member)) ?_
    cases opening : opens lib site move with
    | true => exact open_stands opening (empty _)
    | false =>
      exact step_stands rules manager kept (removes move List.mem_cons_self) (apart move List.mem_cons_self) opening
        stands

theorem complete_kept : Kept ip set (Complete (key ip) value) :=
  ⟨fun _ _ unit complete => write_complete complete unit,fun _ _ _ row complete fresh _ =>
    foreign_complete complete fresh row⟩

omit [DecidableEq Client] in
theorem complete_line (rules : TableRules cloud rows) (manager : site.loop.manager = reached set requests)
    (standing : Standing rows (Complete (key ip) value) site) (running : site.loop.ended = false)
    (idle : site.unpublished = []) {lines : List (String × DevName × String × String × String)}
    (got : azureRetrieveEntity cloud site.table = some lines) {unit : OcssdUnit}
    (inside : unit ∈ (reached set requests).ocssds) :
    ∃ line ∈ lines,∃ same ∈ (reached set requests).ocssds,same.getDesc ip = unit.getDesc ip ∧
      line = printed ip same := by
  obtain ⟨published,units,complete⟩ := standing running
  rw [idle,List.append_nil,manager] at units
  have mine : key ip unit ∈ published.map (key ip) := by
    rw [units]
    exact List.mem_map_of_mem inside
  obtain ⟨row,seen⟩ := Option.isSome_iff_exists.mp ((shown_isSome _ _).mpr mine)
  obtain ⟨same,listed,name,holds⟩ := shown_row _ _ seen
  obtain ⟨line,member,columns⟩ := (retrieved_lines rules got).2 _ _ ((complete _ mine).trans seen)
  have named : same.getDesc ip = unit.getDesc ip := congrArg Prod.snd name
  rw [←holds,←named,columns_printed] at columns
  rw [units] at listed
  exact ⟨line,member,same,listed,named,(Option.some.inj columns).symm⟩

end Site

def listRows (table : List TableEntity) (k : String × DevName) : Option (List (String × String)) :=
  (table.find? (fun e => (e.partitionKey,e.rowKey) = k)).map (·.properties)

def without (table : List TableEntity) (k : String × DevName) : List TableEntity :=
  table.filter (fun e => (e.partitionKey,e.rowKey) ≠ k)

def listCloud : CloudTable (List TableEntity) where
  createIfNotExists := some
  insertOrReplace := fun e table => some (e :: without table (e.partitionKey,e.rowKey))
  deleteEntity := fun e table => some (without table (e.partitionKey,e.rowKey))
  executeQuery := fun p table =>
    some (table.filter (fun e => e.partitionKey = p ∧ listRows table (e.partitionKey,e.rowKey) = some e.properties))

theorem without_rows (table : List TableEntity) (k : String × DevName) :
    listRows (without table k) = Function.update (listRows table) k none := by
  funext j
  unfold listRows without
  rw [List.find?_filter]
  by_cases mine : j = k
  · subst mine
    rw [Function.update_self,Option.map_eq_none_iff,List.find?_eq_none]
    intro e _
    simp
  · rw [Function.update_of_ne mine]
    congr 2
    funext e
    by_cases here : (e.partitionKey,e.rowKey) = j
    · simp [here,mine]
    · simp [here]

theorem list_rules : TableRules listCloud listRows where
  created := by
    intro t t' made
    cases made
    rfl
  inserted := by
    intro e t t' made
    cases made
    funext j
    by_cases mine : j = (e.partitionKey,e.rowKey)
    · subst mine
      rw [Function.update_self,listRows,List.find?_cons_of_pos (by simp)]
      rfl
    · rw [Function.update_of_ne mine,listRows,List.find?_cons_of_neg (by simpa using Ne.symm mine)]
      exact (congrFun (without_rows t _) j).trans (Function.update_of_ne mine _ _)
  deleted := by
    intro e t t' made
    cases made
    exact without_rows t _
  queried := by
    intro p t found made e
    cases made
    rw [List.mem_filter,decide_eq_true_eq]
    refine ⟨And.right,fun both => ⟨?_,both⟩⟩
    obtain ⟨row,first,same⟩ := Option.map_eq_some_iff.mp both.2
    have found := List.find?_some first
    have keys := of_decide_eq_true found
    cases row
    cases e
    simp only [Prod.mk.injEq] at keys
    cases keys.1
    cases keys.2
    cases same
    exact List.mem_of_find?_eq_some first

-- One client takes the only exclusive channel. The line of the device is one
-- request behind until the next turn of publish_resource.
def listedRun (moves : List (DirectoryMove Bool)) : DirectorySite (PhysBlock → Nat) (DevName × NvmGeo)
    (DevName × List NvmAddr) Bool (List TableEntity) :=
  (DirectorySite.start TenantIsolation.smallDevice (fun _ => 7) []).run
    (TenantIsolation.markingLib TenantIsolation.smallDevice) listCloud (ascii "10.0.0.1") moves

def taking : List (DirectoryMove Bool) := CapacityLoss.exclusiveTaken.map .event

def listedHeard (moves : List (DirectoryMove Bool)) : List OcssdAllocRequest :=
  allHeard (TenantIsolation.markingLib TenantIsolation.smallDevice) listCloud (ascii "10.0.0.1")
    (DirectorySite.start TenantIsolation.smallDevice (fun _ => 7) []) moves

-- A publication repairs the directory, whatever was deleted before it. From any
-- state of such a run in which one begins, the first one or that after a grant, and
-- as long as nobody deletes: once it is through, every description has its line
-- again, and a unit that shares its own with no other has it as the requests so far
-- have left the unit.
theorem publication_repairs {World Dev Vblk Client Table : Type} [DecidableEq Client] (lib : Lightnvm World Dev Vblk)
    {cloud : CloudTable Table} {rows : Table → String × DevName → Option (List (String × String))}
    (rules : TableRules cloud rows) (ip : List UInt8) (set : List (DevName × NvmGeo)) (world : World) (table : Table)
    (past later : List (DirectoryMove Client)) (apart : ∀ move ∈ past ++ later,Foreign ip set move)
    (begins : ((DirectorySite.start set world table).run lib cloud ip past).unpublished =
      ((DirectorySite.start set world table).run lib cloud ip past).loop.manager.ocssds)
    (keeps : ∀ move ∈ later,deletes move = false) :
    let start : DirectorySite World Dev Vblk Client Table := .start set world table
    let site := start.run lib cloud ip (past ++ later)
    let requests := allHeard lib cloud ip start (past ++ later)
    site.loop.ended = false → site.unpublished = [] →
      ∀ lines,azureRetrieveEntity cloud site.table = some lines →
        ∀ unit ∈ (reached set requests).ocssds,
          (∃ line ∈ lines,∃ same ∈ (reached set requests).ocssds,
            same.getDesc ip = unit.getDesc ip ∧ line = printed ip same) ∧
          ((∀ other ∈ (reached set requests).ocssds,other.getDesc ip = unit.getDesc ip → other = unit) →
            printed ip unit ∈ lines) := by
  intro start site requests running idle lines got unit inside
  have fresh : start.loop.manager = reached set [] := rfl
  have middle := @run_manager _ _ _ _ _ _ lib cloud ip set [] start fresh past
  have standing : Standing rows (Complete (key ip) value) site := by
    have all : Standing rows (Complete (key ip) value) ((start.run lib cloud ip past).run lib cloud ip later) := by
      refine run_stands rules middle complete_kept (fun _ => nil_complete) (fun move member removed => ?_)
        (fun move member => apart move (List.mem_append_right _ member)) (fun _ => ⟨[],begins,nil_complete⟩)
      rw [keeps move member] at removed
      cases removed
    rw [←run_append] at all
    exact all
  have listed := complete_line rules (run_manager fresh (past ++ later)) standing running idle got inside
  refine ⟨listed,fun only => ?_⟩
  obtain ⟨line,member,same,inside',named,prints⟩ := listed
  rw [only same inside' named] at prints
  rw [←prints]
  exact member

def wiped : List (DirectoryMove Bool) := [.publish,.wipe,.delete 0] ++ taking

theorem wiped_repaired :
    azureRetrieveEntity listCloud (listedRun wiped).table = some [] ∧
      ∀ unit ∈ (reached TenantIsolation.smallDevice (listedHeard (wiped ++ [.publish]))).ocssds,
        printed (ascii "10.0.0.1") unit = ("OCSSD",ascii "10.0.0.1n","4","0","16") := by
  refine ⟨by decide +kernel,?_⟩
  have apart : ∀ move ∈ wiped ++ [.publish],Foreign (ascii "10.0.0.1") TenantIsolation.smallDevice move := by
    simp [wiped,taking,CapacityLoss.exclusiveTaken,Foreign]
  have repaired := publication_repairs (TenantIsolation.markingLib TenantIsolation.smallDevice) list_rules
    (ascii "10.0.0.1") TenantIsolation.smallDevice (fun _ => 7) [] wiped [.publish] apart rfl
    (fun move member => by rw [List.mem_singleton.mp member]; rfl) (by decide +kernel) rfl
    [("OCSSD",ascii "10.0.0.1n","4","0","16")] (by decide +kernel)
  intro unit inside
  change ∀ unit ∈ (reached TenantIsolation.smallDevice (listedHeard (wiped ++ [.publish]))).ocssds,_ at repaired
  refine List.mem_singleton.mp ((repaired unit inside).2 fun other inside' _ => ?_)
  change other ∈ (reached TenantIsolation.smallDevice (listedHeard (wiped ++ [.publish]))).ocssds at inside'
  have one : (reached TenantIsolation.smallDevice (listedHeard (wiped ++ [.publish]))).ocssds.length = 1 := by
    decide +kernel
  obtain ⟨only,same⟩ := List.length_eq_one_iff.mp one
  rw [same,List.mem_singleton] at inside inside'
  rw [inside,inside']

end OcssdServer.DirectoryMirror
