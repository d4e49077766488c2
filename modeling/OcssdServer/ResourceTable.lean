import OcssdServer.EventLoop

namespace OcssdServer
open SocketFill

def ascii (s : String) : List UInt8 := s.toList.map (fun c => UInt8.ofNat c.toNat)

structure TableEntity where
  partitionKey : String
  rowKey : DevName
  properties : List (String × String)
deriving DecidableEq, Repr

-- What the program uses of the table service. A call that throws has no result.
structure CloudTable (Table : Type) where
  createIfNotExists : Table → Option Table
  insertOrReplace : TableEntity → Table → Option Table
  deleteEntity : TableEntity → Table → Option Table
  executeQuery : String → Table → Option (List TableEntity)

def resourceEntity (device : DevName) (numShared numExclusive freeBlocks : UInt64) : TableEntity :=
  ⟨"OCSSD",device,[("NumSharedChannels",Nat.repr numShared.toNat),("NumExclusiveChannels",Nat.repr numExclusive.toNat),
    ("FreeBlocks",Nat.repr freeBlocks.toNat)]⟩

section Access
variable {Table : Type} (cloud : CloudTable Table)

def azureInsertEntity (device : DevName) (numShared numExclusive freeBlocks : UInt64) (table : Table) :
    Option Table := do
  let table ← cloud.createIfNotExists table
  cloud.insertOrReplace (resourceEntity device numShared numExclusive freeBlocks) table

-- properties.at throws where there is no such property.
def TableEntity.at (entity : TableEntity) (name : String) : Option String := entity.properties.lookup name

def TableEntity.columns (entity : TableEntity) : Option (String × DevName × String × String × String) := do
  let numShared ← entity.at "NumSharedChannels"
  let numExclusive ← entity.at "NumExclusiveChannels"
  let freeBlocks ← entity.at "FreeBlocks"
  return (entity.partitionKey,entity.rowKey,numShared,numExclusive,freeBlocks)

def azureQuery (table : Table) : Option (Table × List TableEntity) := do
  let table ← cloud.createIfNotExists table
  let found ← cloud.executeQuery "OCSSD" table
  return (table,found)

def azureRetrieveEntity (table : Table) : Option (List (String × DevName × String × String × String)) := do
  let (_,found) ← azureQuery cloud table
  found.mapM TableEntity.columns

end Access

-- std::replace of '/' by '_' in the ip and the name.
def OcssdUnit.getDesc (ip : List UInt8) (unit : OcssdUnit) : DevName :=
  (ip ++ unit.name).map (fun c => if c = 0x2f then 0x5f else c)

-- One turn of the loop of publish_resource. get_ocssd_stats returns 0.
def OcssdUnit.publish {Table : Type} (cloud : CloudTable Table) (ip : List UInt8) (unit : OcssdUnit) (table : Table) :
    Option Table :=
  let stats := unit.getOcssdStats
  azureInsertEntity cloud (unit.getDesc ip) stats.numSharedChannels stats.numExclusiveChannels stats.freeBlocks table

def devicePath (i : Nat) : DevName := ascii ("/dev/nvme" ++ Nat.repr i ++ "n1")

-- The loop from 1 below 2. `openDev` is what nvm_dev_open and nvm_dev_get_geo make
-- of a path: without a device the constructor of the unit throws.
def initializeOcssdManager (exists' : DevName → Bool) (openDev : DevName → Option NvmGeo) : Option OcssdManager :=
  (List.range' 1 1).foldlM (fun manager i =>
    if exists' (devicePath i) then (openDev (devicePath i)).map (fun geo => manager.addOcssd (devicePath i,geo))
    else some manager) OcssdManager.new

theorem initialize_devices {exists' : DevName → Bool} {openDev : DevName → Option NvmGeo} {manager : OcssdManager}
    (made : initializeOcssdManager exists' openDev = some manager) :
    manager = .ofDevices [] ∨
      ∃ geo,openDev (devicePath 1) = some geo ∧ manager = .ofDevices [(devicePath 1,geo)] := by
  rw [initializeOcssdManager,show List.range' 1 1 = [1] from rfl,List.foldlM_cons] at made
  split at made
  · cases opened : openDev (devicePath 1) with
    | none =>
      rw [opened] at made
      cases made
    | some geo =>
      rw [opened] at made
      cases made
      exact .inr ⟨geo,rfl,rfl⟩
  · cases made
    exact .inl rfl

def Event.isGranted {Vblk : Type} : Event Vblk → Bool
  | .granted _ _ => true
  | _ => false

section Callback
variable {World Dev Vblk Client : Type} (lib : Lightnvm World Dev Vblk) (loop : EventLoop World Dev Vblk Client)

def EventLoop.reading : LoopEvent Client → Option (Handled World Dev Vblk)
  | .readable client socket =>
    match loop.clients client with
    | none => none
    | some endpoint =>
      if loop.ended = false ∧ endpoint.conn.evRead ∧ (loop.owner endpoint.fd).isSome then
        some (processIncomingRequests lib endpoint.conn ⟨loop.manager,loop.world,[]⟩ socket)
      else none
  | .acceptable _ _ _ | .writable _ _ => none

def EventLoop.publishes (event : LoopEvent Client) : Bool :=
  match loop.reading lib event with
  | none => false
  | some r => r.ending = .returned 0 && r.session.events.any Event.isGranted

end Callback

-- The server, the table, the units that the loop of publish_resource has yet to
-- come to, and what runs of azure_delete_entities have found and not yet deleted.
structure DirectorySite (World Dev Vblk Client Table : Type) where
  loop : EventLoop World Dev Vblk Client
  table : Table
  unpublished : List OcssdUnit
  wiping : List TableEntity

inductive DirectoryMove (Client : Type) where
  | event (event : LoopEvent Client)
  | publish
  | wipe
  | delete (i : Nat)
  | elsewhere (entity : TableEntity)

namespace DirectorySite
variable {World Dev Vblk Client Table : Type} [DecidableEq Client]

omit [DecidableEq Client] in
def start (set : List (DevName × NvmGeo)) (world : World) (table : Table) :
    DirectorySite World Dev Vblk Client Table :=
  ⟨.start set world,table,(OcssdManager.ofDevices set).ocssds,[]⟩

-- The next callback comes when publish_resource is through. An exception of the
-- table service ends the server, or the tool that meets it.
def step (lib : Lightnvm World Dev Vblk) (cloud : CloudTable Table) (ip : List UInt8)
    (site : DirectorySite World Dev Vblk Client Table) :
    DirectoryMove Client → DirectorySite World Dev Vblk Client Table
  | .event event =>
    if site.unpublished = [] then
      let loop := (site.loop.serve lib event).1
      {site with loop := loop,unpublished := if site.loop.publishes lib event then loop.manager.ocssds else []}
    else site
  | .publish =>
    match site.unpublished with
    | [] => site
    | unit :: rest =>
      if site.loop.ended then site
      else
        match unit.publish cloud ip site.table with
        | none => {site with loop := {site.loop with ended := true}}
        | some table => {site with table := table,unpublished := rest}
  | .wipe =>
    match azureQuery cloud site.table with
    | none => site
    | some (table,found) => {site with table := table,wiping := site.wiping ++ found}
  | .delete i =>
    match site.wiping[i]? with
    | none => site
    | some entity =>
      match cloud.deleteEntity entity site.table with
      | none => {site with wiping := site.wiping.eraseIdx i}
      | some table => {site with table := table,wiping := site.wiping.eraseIdx i}
  | .elsewhere entity =>
    match cloud.insertOrReplace entity site.table with
    | none => site
    | some table => {site with table := table}

def run (lib : Lightnvm World Dev Vblk) (cloud : CloudTable Table) (ip : List UInt8)
    (site : DirectorySite World Dev Vblk Client Table) (moves : List (DirectoryMove Client)) :
    DirectorySite World Dev Vblk Client Table := moves.foldl (step lib cloud ip) site

end DirectorySite
end OcssdServer
