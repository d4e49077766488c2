import OcssdServer.Attempts
import OcssdServer.ServeLoop

namespace OcssdServer.DeviceEffects
open ByteBuffers SocketFill Attempts StripeLanes ServeLoop

variable {World Dev Vblk : Type}

theorem testWrites_attempts (lib : Lightnvm World Dev Vblk) (blk : Option Vblk) (buf : Memory) (reqSize : UInt64)
    (count : Nat) (session : Session World Vblk) :
    testWrites lib blk buf reqSize count session =
      attempts (vblkWrite lib blk (load buf 0 reqSize.toNat)) count session := by
  induction count generalizing session with
  | zero => rfl
  | succ count ih => simp only [testWrites,attempts,ih]

def readOnce (lib : Lightnvm World Dev Vblk) (blk : Option Vblk) (reqSize : UInt64)
    (s : Memory × Session World Vblk) : Int × (Memory × Session World Vblk) :=
  let r := vblkRead lib blk s.1 reqSize s.2
  (r.1.1,(r.1.2,r.2))

theorem testReads_attempts (lib : Lightnvm World Dev Vblk) (blk : Option Vblk) (reqSize : UInt64) (count : Nat)
    (buf : Memory) (session : Session World Vblk) :
    testReads lib blk reqSize count buf session =
      ((attempts (readOnce lib blk reqSize) count (buf,session)).1,
        (attempts (readOnce lib blk reqSize) count (buf,session)).2.2) := by
  induction count generalizing buf session with
  | zero => rfl
  | succ count ih =>
    rw [testReads,attempts,ih]
    dsimp only [readOnce]
    by_cases failed : (vblkRead lib blk buf reqSize session).1.1 < 0
    · simp only [failed,if_true]
    · simp only [failed,if_false]

-- Operations on some blocks only, and a relation of worlds that they respect.
-- Opening a device and building a virtual block touch no block at all.
structure Respects (lib : Lightnvm World Dev Vblk) (ok : Option Vblk → Prop) (same : World → World → Prop) :
    Prop where
  refl : ∀ w,same w w
  trans : ∀ u v w,same u v → same v w → same u w
  opened : ∀ devPath w,same w (lib.devOpen devPath w).2
  allocated : ∀ dev addrs w,same w (lib.vblkAlloc dev addrs w).2
  freed : ∀ blk w,ok blk → same w (lib.vblkFree blk w)
  erased : ∀ blk w,ok blk → same w (lib.vblkErase blk w).2
  written : ∀ blk data w,ok blk → same w (lib.vblkWrite blk data w).2
  read : ∀ blk buf count w,ok blk → same w (lib.vblkRead blk buf count w).2
  pread : ∀ blk buf count offset w,ok blk → same w (lib.vblkPread blk buf count offset w).2

theorem respects_all (lib : Lightnvm World Dev Vblk) : Respects lib (fun _ => True) (fun _ _ => True) := by
  constructor <;> simp

structure Worked (ok : Option Vblk → Prop) (same : World → World → Prop) (before after : Session World Vblk) :
    Prop where
  manager : after.manager = before.manager
  same : same before.world after.world
  calls : ∃ calls : List (Event Vblk),after.events = before.events ++ calls ∧
    ∀ event ∈ calls,∃ blk call,event = .called blk call ∧ ok blk

section Calls
variable {lib : Lightnvm World Dev Vblk} {ok : Option Vblk → Prop} {same : World → World → Prop}
  (respects : Respects lib ok same)
include respects

theorem worked_refl (session : Session World Vblk) : Worked ok same session session :=
  ⟨rfl,respects.refl _,[],by simp,nofun⟩

theorem worked_trans {one two three : Session World Vblk} (first : Worked ok same one two)
    (second : Worked ok same two three) : Worked ok same one three := by
  obtain ⟨calls,grown,fine⟩ := first.calls
  obtain ⟨calls',grown',fine'⟩ := second.calls
  refine ⟨second.manager.trans first.manager,respects.trans _ _ _ first.same second.same,calls ++ calls',
    by rw [grown',grown,List.append_assoc],?_⟩
  intro event member
  rcases List.mem_append.mp member with old | new
  · exact fine event old
  · exact fine' event new

omit respects in
theorem call_worked {α : Type} {blk : Option Vblk} (fine : ok blk) (call : VblkCall)
    {session : Session World Vblk} {result : α × World} (kept : same session.world result.2) :
    Worked ok same session (session.call blk call result).2 := by
  refine ⟨rfl,kept,[.called blk call],rfl,?_⟩
  intro event member
  exact ⟨blk,call,List.mem_singleton.mp member,fine⟩

theorem free_worked {blk : Option Vblk} (fine : ok blk) (session : Session World Vblk) :
    Worked ok same session (vblkFree lib blk session) := call_worked fine .free (respects.freed _ _ fine)

theorem alloc_worked (dev : Option Dev) (addrs : List NvmAddr) (session : Session World Vblk) :
    Worked ok same session (vblkAlloc lib dev addrs session).2 :=
  ⟨rfl,respects.allocated _ _ _,[],by simp [vblkAlloc],nofun⟩

theorem open_worked (devPath : DevName) (session : Session World Vblk) :
    Worked ok same session (devOpen lib devPath session).2 :=
  ⟨rfl,respects.opened _ _,[],by simp [devOpen],nofun⟩

theorem testWrites_worked {blk : Option Vblk} (fine : ok blk) (buf : Memory) (reqSize : UInt64) (count : Nat)
    (session : Session World Vblk) :
    Worked ok same session (testWrites lib blk buf reqSize count session).2 := by
  rw [testWrites_attempts]
  refine attempts_keeps _ (fun s worked => worked_trans respects worked ?_) count (worked_refl respects session)
  exact call_worked fine _ (respects.written _ _ _ fine)

theorem testReads_worked {blk : Option Vblk} (fine : ok blk) (reqSize : UInt64) (count : Nat) (buf : Memory)
    (session : Session World Vblk) :
    Worked ok same session (testReads lib blk reqSize count buf session).2 := by
  rw [testReads_attempts]
  refine @attempts_keeps _ (readOnce lib blk reqSize) (fun s => Worked ok same session s.2) ?_ count
    (buf,session) (worked_refl respects session)
  intro s worked
  exact worked_trans respects worked (call_worked fine _ (respects.read _ _ _ _ fine))

theorem test_worked {blk : Option Vblk} (fine : ok blk) (geo : NvmGeo) (session : Session World Vblk) :
    Worked ok same session (nvmVblkTest lib geo blk session).2 := by
  have erased : Worked ok same session (vblkErase lib blk session).2 :=
    call_worked fine _ (respects.erased _ _ fine)
  unfold nvmVblkTest
  dsimp only
  split
  · exact erased
  · have written := testWrites_worked respects fine
      (lib.bufAlloc geo 262144 (vblkErase lib blk session).2.world) 262144
      (intOfSize (lib.vblkGetNbytes blk session.world/262144)).toNat (vblkErase lib blk session).2
    split
    · exact worked_trans respects erased written
    · exact worked_trans respects (worked_trans respects erased written) (testReads_worked respects fine _ _ _ _)

theorem frees_worked {blks : List (Option Vblk)} (fine : ∀ blk ∈ blks,ok blk) (session : Session World Vblk) :
    Worked ok same session (blks.foldl (fun session blk => vblkFree lib blk session) session) := by
  induction blks generalizing session with
  | nil => exact worked_refl respects session
  | cons blk rest ih =>
    exact worked_trans respects (free_worked respects (fine blk (by simp)) session)
      (ih (fun b member => fine b (by simp [member])) _)

-- Setting up the stripes of a virtual unit: the blocks built for its lanes are
-- among those that may be operated on.
theorem stripes_worked {geo : NvmGeo} {vunit : VirtualOcssdUnit} (plain : Plain vunit)
    {conn : OcssdConn Dev Vblk}
    (built : ∀ addrs w,InLanes lib geo vunit addrs → ok (lib.vblkAlloc conn.dev addrs w).1)
    (held : ∀ blk ∈ conn.blksArray,ok blk) (session : Session World Vblk) :
    Worked ok same session (initializeVssdBlocks lib geo conn session vunit).session ∧
      ∀ blk ∈ (initializeVssdBlocks lib geo conn session vunit).conn.blksArray,ok blk := by
  have both := @stripeLoop_rule World Dev Vblk lib geo vunit
    (fun c s => c.dev = conn.dev ∧ Worked ok same session s ∧ ∀ blk ∈ c.blksArray,ok blk)
    ?_ ?_ ?_ ?_ conn session (vunit.generateUnits []) 0 (starts_onLanes geo plain)
    ⟨rfl,worked_refl respects session,held⟩
  · exact both.1.2
  · rintro c s addrs ⟨dev,worked,held⟩ inside
    have fine := built addrs s.world inside
    rw [←dev] at fine
    exact ⟨dev,worked_trans respects worked (worked_trans respects (alloc_worked respects c.dev addrs s)
      (worked_trans respects (test_worked respects fine geo _) (free_worked respects fine _))),held⟩
  · rintro c s addrs blk ⟨dev,worked,held⟩ inside given blkSize
    have fine := built addrs s.world inside
    rw [←dev] at fine
    change ok (vblkAlloc lib c.dev addrs s).1 at fine
    rw [given] at fine
    refine ⟨dev,worked_trans respects worked (worked_trans respects (alloc_worked respects c.dev addrs s)
      (test_worked respects fine geo _)),?_⟩
    intro b member
    rcases List.mem_append.mp member with old | new
    · exact held b old
    · rw [List.mem_singleton.mp new]
      exact fine
  · rintro c s addrs ⟨dev,worked,held⟩ inside null
    have fine := built addrs s.world inside
    rw [←dev] at fine
    change ok (vblkAlloc lib c.dev addrs s).1 at fine
    rw [null] at fine
    exact ⟨dev,worked_trans respects worked (worked_trans respects (alloc_worked respects c.dev addrs s)
      (worked_trans respects (test_worked respects fine geo _) (frees_worked respects held _))),held⟩
  · rintro c s numBlks ⟨dev,worked,held⟩
    exact ⟨dev,worked,held⟩

theorem remote_worked {vssd : VirtualOcssd} (plain : ∀ vunit ∈ vssd.units,Plain vunit)
    {conn : OcssdConn Dev Vblk}
    (built : ∀ vunit rest dev w addrs w',vssd.units = vunit :: rest → (lib.devOpen vunit.devName w).1 = some dev →
      InLanes lib (lib.devGetGeo dev) vunit addrs → ok (lib.vblkAlloc (some dev) addrs w').1)
    (held : ∀ blk ∈ conn.blksArray,ok blk) (session : Session World Vblk) :
    Worked ok same session (initializeRemoteVssd lib conn session vssd).session ∧
      ∀ blk ∈ (initializeRemoteVssd lib conn session vssd).conn.blksArray,ok blk := by
  unfold initializeRemoteVssd
  split
  · exact ⟨worked_refl respects session,held⟩
  · rename_i vunit rest units
    have opened := open_worked respects vunit.devName session
    dsimp only
    split
    · exact ⟨opened,held⟩
    · rename_i dev found
      have inside : ∀ addrs w',InLanes lib (lib.devGetGeo dev) vunit addrs →
          ok (lib.vblkAlloc (some dev) addrs w').1 :=
        fun addrs w' => built vunit rest dev session.world addrs w' units found
      obtain ⟨worked,held'⟩ := @stripes_worked World Dev Vblk lib ok same respects _ vunit
        (plain vunit (by simp [units])) {conn with dev := some dev,geo := some (lib.devGetGeo dev)} inside held
        (devOpen lib vunit.devName session).2
      split
      · exact ⟨worked_trans respects opened worked,held'⟩
      · exact ⟨worked_trans respects opened worked,held'⟩

theorem allocRequest_worked {conn : OcssdConn Dev Vblk} {session : Session World Vblk} {message : List UInt8}
    {request : OcssdAllocRequest} (decoded : OcssdAllocRequest.ofMessage message = some request)
    (built : ∀ vunit rest dev w addrs w',
      (session.manager.allocOcssdResource .new request).request.remote ≠ 0 →
      (session.manager.allocOcssdResource .new request).vssd.units = vunit :: rest →
      (lib.devOpen vunit.devName w).1 = some dev → InLanes lib (lib.devGetGeo dev) vunit addrs →
      ok (lib.vblkAlloc (some dev) addrs w').1)
    (held : ∀ blk ∈ conn.blksArray,ok blk) :
    let grant := session.manager.allocOcssdResource .new request
    Worked ok same (Session.log {session with manager := grant.manager}
        (.granted grant.vssd (decide (grant.request.remote ≠ 0))))
      (processAllocRequest lib conn session message).session ∧
      ∀ blk ∈ (processAllocRequest lib conn session message).conn.blksArray,ok blk := by
  dsimp only
  unfold processAllocRequest
  rw [decoded]
  dsimp only
  split
  · exact ⟨worked_refl respects _,held⟩
  · split
    · rename_i remote
      have prepared := @remote_worked World Dev Vblk lib ok same respects
        (session.manager.allocOcssdResource .new request).vssd (grant_plain session.manager request)
        {conn with remoteVssd := true}
        (fun vunit rest dev w addrs w' => built vunit rest dev w addrs w' remote) held
      split
      · exact prepared _
      · exact prepared _
    · exact ⟨worked_refl respects _,held⟩

end Calls

theorem test_erases (lib : Lightnvm World Dev Vblk) (geo : NvmGeo) (blk : Option Vblk) (session : Session World Vblk) :
    .called blk .erase ∈ (nvmVblkTest lib geo blk session).2.events := by
  have here : .called blk .erase ∈ (vblkErase lib blk session).2.events :=
    List.mem_append_right _ (List.mem_singleton_self _)
  have kept {later : Session World Vblk}
      (worked : Worked (fun _ => True) (fun _ _ => True) (vblkErase lib blk session).2 later) :
      .called blk .erase ∈ later.events := by
    obtain ⟨more,grown,_⟩ := worked.calls
    rw [grown]
    exact List.mem_append_left _ here
  have any := respects_all lib
  unfold nvmVblkTest
  dsimp only
  split
  · exact here
  · split
    · exact kept (testWrites_worked any trivial _ _ _ _)
    · exact kept (worked_trans any (testWrites_worked any trivial _ _ _ _) (testReads_worked any trivial _ _ _ _))

-- A block test leaves alone what the operations it makes leave alone.
section Left
variable {α : Type*} (lib : Lightnvm World Dev Vblk) (f : World → α)

theorem testWrites_leaves (written : ∀ blk data w,f (lib.vblkWrite blk data w).2 = f w) (blk : Option Vblk)
    (buf : Memory) (reqSize : UInt64) (count : Nat) (session : Session World Vblk) :
    f (testWrites lib blk buf reqSize count session).2.world = f session.world := by
  rw [testWrites_attempts]
  exact @attempts_keeps _ (vblkWrite lib blk (load buf 0 reqSize.toNat)) (fun s => f s.world = f session.world)
    (fun s kept => (written _ _ _).trans kept) count session rfl

theorem testReads_leaves (read : ∀ blk buf count w,f (lib.vblkRead blk buf count w).2 = f w) (blk : Option Vblk)
    (reqSize : UInt64) (count : Nat) (buf : Memory) (session : Session World Vblk) :
    f (testReads lib blk reqSize count buf session).2.world = f session.world := by
  rw [testReads_attempts]
  exact @attempts_keeps _ (readOnce lib blk reqSize) (fun s => f s.2.world = f session.world)
    (fun s kept => (read _ _ _ _).trans kept) count (buf,session) rfl

theorem test_leaves (erased : ∀ blk w,f (lib.vblkErase blk w).2 = f w)
    (written : ∀ blk data w,f (lib.vblkWrite blk data w).2 = f w)
    (read : ∀ blk buf count w,f (lib.vblkRead blk buf count w).2 = f w) (geo : NvmGeo) (blk : Option Vblk)
    (session : Session World Vblk) : f (nvmVblkTest lib geo blk session).2.world = f session.world := by
  unfold nvmVblkTest
  dsimp only
  split
  · exact erased _ _
  · split
    · exact (testWrites_leaves lib f written _ _ _ _ _).trans (erased _ _)
    · exact (testReads_leaves lib f read _ _ _ _ _).trans
        ((testWrites_leaves lib f written _ _ _ _ _).trans (erased _ _))

end Left

section Requests
variable (lib : Lightnvm World Dev Vblk)

structure StaysInside (conn : OcssdConn Dev Vblk) (session : Session World Vblk)
    (r : Reply World Dev Vblk) : Prop where
  array : r.conn.blksArray = conn.blksArray
  ending : r.ending ≠ .outOfRange
  worked : ∀ ok same,Respects lib ok same → (∀ blk ∈ conn.blksArray,ok blk) → Worked ok same session r.session

variable {lib} {conn : OcssdConn Dev Vblk} {session : Session World Vblk}

theorem idle_inside {ending : CallEnd} (inside : ending ≠ .outOfRange) :
    StaysInside lib conn session ⟨conn,session,ending⟩ :=
  ⟨rfl,inside,fun _ _ respects _ => worked_refl respects session⟩

theorem read_inside (message : List UInt8) :
    StaysInside lib conn session (processReadRequest lib conn session message) := by
  unfold processReadRequest
  split
  · exact idle_inside nofun
  · split
    · exact idle_inside nofun
    · exact idle_inside nofun
    · rename_i blk found
      refine ⟨rfl,nofun,fun ok same respects held => ?_⟩
      have fine := held _ (List.mem_of_getElem? found)
      exact call_worked fine _ (respects.pread _ _ _ _ _ fine)

theorem erase_inside (message : List UInt8) :
    StaysInside lib conn session (processEraseRequest lib conn session message) := by
  unfold processEraseRequest
  split
  · exact idle_inside nofun
  · split
    · exact idle_inside nofun
    · exact idle_inside nofun
    · rename_i blk found
      refine ⟨rfl,nofun,fun ok same respects held => ?_⟩
      have fine := held _ (List.mem_of_getElem? found)
      exact call_worked fine _ (respects.erased _ _ fine)

theorem write_inside (socket : Socket Errno) (message : List UInt8) :
    StaysInside lib conn session (processWriteRequest lib conn session socket message).toReply := by
  unfold processWriteRequest
  split
  · exact idle_inside nofun
  · split
    · exact idle_inside nofun
    · exact idle_inside nofun
    · rename_i blk found
      unfold finishWrite
      dsimp only
      split
      · exact idle_inside nofun
      · exact ⟨rfl,nofun,fun _ _ respects _ => worked_refl respects session⟩
      · exact ⟨rfl,nofun,fun _ _ respects _ => worked_refl respects session⟩
      · refine ⟨rfl,nofun,fun ok same respects held => ?_⟩
        have fine := held _ (List.mem_of_getElem? found)
        exact call_worked fine _ (respects.written _ _ _ fine)

-- All that one call can do: nothing to its session, or one dispatch, of an
-- allocation or of a request on the blocks of the connection.
inductive CallEffect (lib : Lightnvm World Dev Vblk) (conn : OcssdConn Dev Vblk) (session : Session World Vblk)
    (r : Reply World Dev Vblk) : Prop where
  | idle (same : r.session = session) (array : r.conn.blksArray = conn.blksArray) (ending : r.ending ≠ .outOfRange)
  | allocates (message : List UInt8) (conn' : OcssdConn Dev Vblk) (array : conn'.blksArray = conn.blksArray)
      (served : r = processAllocRequest lib conn' (session.log (.dispatched message)) message)
  | operates (message : List UInt8) (conn' : OcssdConn Dev Vblk) (array : conn'.blksArray = conn.blksArray)
      (served : StaysInside lib conn' (session.log (.dispatched message)) r)

theorem dispatch_effect (lib : Lightnvm World Dev Vblk) (conn : OcssdConn Dev Vblk)
    (session : Session World Vblk) (socket : Socket Errno) (message : List UInt8) :
    CallEffect lib conn session (dispatch lib conn session socket message).toReply := by
  unfold dispatch
  dsimp only
  split
  · exact .allocates message conn rfl rfl
  · split
    · exact .operates message conn rfl (read_inside message)
    · split
      · exact .operates message conn rfl (write_inside socket message)
      · split
        · exact .operates message conn rfl (erase_inside message)
        · exact .idle rfl rfl nofun

theorem call_effect (lib : Lightnvm World Dev Vblk) (conn : OcssdConn Dev Vblk)
    (session : Session World Vblk) (socket : Socket Errno) :
    CallEffect lib conn session (processIncomingRequests lib conn session socket).toReply := by
  unfold processIncomingRequests
  split
  · unfold processCommand
    generalize fill largestRead messageBufferSize socket.plan socket.stream conn.messageBuf
      conn.messageEnd = r
    unfold finishMessage
    dsimp only
    split
    · exact .idle rfl rfl nofun
    · exact .idle rfl rfl nofun
    · exact .idle rfl rfl nofun
    · cases dispatch_effect lib {conn with messageBuf := r.memory,messageEnd := 0} session r.socket
        (load r.memory 0 messageBufferSize) with
      | idle same array ending => exact .idle same array ending
      | allocates message conn' array served => exact .allocates message conn' array served
      | operates message conn' array served => exact .operates message conn' array served
  · exact .idle rfl rfl nofun

end Requests
end OcssdServer.DeviceEffects
