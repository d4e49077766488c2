import OcssdServer.BlockLedger

namespace OcssdServer.StripeFailures
open ByteBuffers MachineRuns StripeLanes DeviceEffects IndexChecks BlockLedger

section Arrays
variable {World Dev Vblk : Type}

def numbers (blksArray : List (Option (Stamped Vblk))) : List Nat := blksArray.filterMap (Option.map (·.number))

-- Blocks that were built and not freed, each in one place, and no block freed twice.
structure Held (blksArray : List (Option (Stamped Vblk))) (ledger : Ledger) : Prop where
  present : none ∉ blksArray
  apart : (numbers blksArray).Nodup
  live : ∀ number ∈ numbers blksArray,number < ledger.built.length ∧ number ∉ ledger.freed
  once : ledger.freed.Nodup
  known : ∀ number ∈ ledger.freed,number < ledger.built.length

theorem Held.empty : Held ([] : List (Option (Stamped Vblk))) ⟨[],[]⟩ := ⟨nofun,.nil,nofun,.nil,nofun⟩

theorem Held.fresh {blksArray : List (Option (Stamped Vblk))} {ledger : Ledger} (held : Held blksArray ledger) :
    ledger.built.length ∉ numbers blksArray ∧ ledger.built.length ∉ ledger.freed :=
  ⟨fun inside => Nat.lt_irrefl _ (held.live _ inside).1,fun inside => Nat.lt_irrefl _ (held.known _ inside)⟩

theorem Held.built {blksArray : List (Option (Stamped Vblk))} {ledger : Ledger} (held : Held blksArray ledger)
    (entry : Bool) : Held blksArray {ledger with built := ledger.built ++ [entry]} := by
  have more : ∀ number,number < ledger.built.length → number < (ledger.built ++ [entry]).length := by
    intro number below
    rw [List.length_append]
    exact Nat.lt_add_right _ below
  exact ⟨held.present,held.apart,fun number member => ⟨more _ (held.live number member).1,(held.live number member).2⟩,
    held.once,fun number member => more _ (held.known number member)⟩

theorem Held.pushed {blksArray : List (Option (Stamped Vblk))} {ledger : Ledger} (held : Held blksArray ledger)
    (addrs : List NvmAddr) (blk : Vblk) :
    Held (blksArray ++ [some ⟨ledger.built.length,addrs,blk⟩]) {ledger with built := ledger.built ++ [true]} := by
  obtain ⟨newHere,newFreed⟩ := held.fresh
  have more := held.built true
  have listed : numbers (blksArray ++ [some ⟨ledger.built.length,addrs,blk⟩]) =
      numbers blksArray ++ [ledger.built.length] := by simp [numbers]
  refine ⟨?_,?_,?_,more.once,more.known⟩
  · simpa using held.present
  · rw [listed]
    exact List.nodup_append.mpr ⟨held.apart,List.nodup_singleton _,fun a inside b last => by
      rw [List.mem_singleton.mp last]
      exact fun same => newHere (same ▸ inside)⟩
  · intro number member
    rw [listed] at member
    rcases List.mem_append.mp member with old | new
    · exact more.live number old
    · rw [List.mem_singleton.mp new]
      exact ⟨by simp,newFreed⟩

theorem Held.dropped {blksArray : List (Option (Stamped Vblk))} {ledger : Ledger} (held : Held blksArray ledger) :
    Held blksArray ⟨ledger.built ++ [true],ledger.freed ++ [ledger.built.length]⟩ := by
  obtain ⟨newHere,newFreed⟩ := held.fresh
  have more := held.built true
  refine ⟨more.present,more.apart,?_,?_,?_⟩
  · intro number member
    refine ⟨(more.live number member).1,fun freed => ?_⟩
    rcases List.mem_append.mp freed with old | new
    · exact (held.live number member).2 old
    · rw [List.mem_singleton.mp new] at member
      exact newHere member
  · exact List.nodup_append.mpr ⟨held.once,List.nodup_singleton _,fun a inside b last => by
      rw [List.mem_singleton.mp last]
      exact fun same => newFreed (same ▸ inside)⟩
  · intro number member
    rcases List.mem_append.mp member with old | new
    · exact more.known number old
    · rw [List.mem_singleton.mp new]
      simp

theorem frees_ledger (lib : Lightnvm World Dev Vblk) (blksArray : List (Option (Stamped Vblk)))
    (session : Session (World × Ledger) (Stamped Vblk)) :
    (blksArray.foldl (fun session blk => vblkFree (numbered lib) blk session) session).world.2 =
      {session.world.2 with freed := session.world.2.freed ++ numbers blksArray} := by
  induction blksArray generalizing session with
  | nil => simp [numbers]
  | cons blk rest ih =>
    rw [List.foldl_cons,ih,free_ledger]
    cases blk <;> simp [numbers]

end Arrays

section Rounds
variable {World Dev Vblk : Type} {lib : Lightnvm World Dev Vblk}

-- From the `k`th call of nvm_vblk_alloc on, every one built a block and all is
-- as it should be; or one did not, and null was operated on.
structure Sound (k : Nat) (blksArray : List (Option (Stamped Vblk)))
    (session : Session (World × Ledger) (Stamped Vblk)) : Prop where
  later : k ≤ session.world.2.built.length
  built : false ∉ session.world.2.built.drop k
  held : Held blksArray session.world.2
  calls : ∀ call,.called none call ∉ session.events

structure Missed (k : Nat) (session : Session (World × Ledger) (Stamped Vblk)) : Prop where
  missing : false ∈ session.world.2.built.drop k
  applied : ∃ call,.called none call ∈ session.events

def Tells (k : Nat) (blksArray : List (Option (Stamped Vblk)))
    (session : Session (World × Ledger) (Stamped Vblk)) : Prop := Sound k blksArray session ∨ Missed k session

def Grows (w w' : World × Ledger) : Prop := w.2.built <+: w'.2.built

theorem grows_respects (lib : Lightnvm World Dev Vblk) : Respects (numbered lib) (fun _ => True) Grows where
  refl := fun _ => List.prefix_refl _
  trans := fun _ _ _ => List.IsPrefix.trans
  opened := fun _ _ => List.prefix_refl _
  allocated := fun _ _ _ => List.prefix_append _ _
  freed := fun _ _ _ => List.prefix_refl _
  erased := fun _ _ _ => List.prefix_refl _
  written := fun _ _ _ _ => List.prefix_refl _
  read := fun _ _ _ _ _ => List.prefix_refl _
  pread := fun _ _ _ _ _ _ => List.prefix_refl _

theorem real_respects (lib : Lightnvm World Dev Vblk) :
    Respects (numbered lib) (fun blk => blk ≠ none) (fun _ _ => True) := by
  constructor <;> intros <;> trivial

theorem Missed.grows {k : Nat} {one two : Session (World × Ledger) (Stamped Vblk)} (missed : Missed k one)
    (worked : Worked (fun _ => True) Grows one two) : Missed k two := by
  obtain ⟨rest,more⟩ := worked.same
  obtain ⟨calls,grown,_⟩ := worked.calls
  obtain ⟨call,applied⟩ := missed.applied
  refine ⟨?_,call,?_⟩
  · rw [←more,List.drop_append]
    exact List.mem_append_left _ missed.missing
  · rw [grown]
    exact List.mem_append_left _ applied

theorem real_calls {one two : Session (World × Ledger) (Stamped Vblk)}
    (worked : Worked (fun blk => blk ≠ none) (fun _ _ => True) one two)
    (calls : ∀ call,.called none call ∉ one.events) (call : VblkCall) : .called none call ∉ two.events := by
  obtain ⟨more,grown,real⟩ := worked.calls
  rw [grown]
  intro member
  rcases List.mem_append.mp member with old | new
  · exact calls call old
  · obtain ⟨blk,_,same,some'⟩ := real _ new
    cases same
    exact some' rfl

theorem drop_built {k : Nat} {built : List Bool} (later : k ≤ built.length) (entry : Bool) :
    (built ++ [entry]).drop k = built.drop k ++ [entry] := List.drop_append_of_le_length later

variable {k : Nat} {blksArray : List (Option (Stamped Vblk))} {session : Session (World × Ledger) (Stamped Vblk)}

theorem null_missed (later : k ≤ session.world.2.built.length) (geo : NvmGeo) (dev : Option Dev)
    (addrs : List NvmAddr) (null : (vblkAlloc (numbered lib) dev addrs session).1 = none) :
    Missed k (nvmVblkTest (numbered lib) geo none (vblkAlloc (numbered lib) dev addrs session).2).2 := by
  have entry : (lib.vblkAlloc dev addrs session.world.1).1.isSome = false := by
    rw [Option.isSome_eq_false_iff,Option.isNone_iff_eq_none]
    exact Option.map_eq_none_iff.mp null
  have missing : false ∈ (vblkAlloc (numbered lib) dev addrs session).2.world.2.built.drop k := by
    rw [alloc_ledger,drop_built later,entry]
    exact List.mem_append_right _ (List.mem_singleton_self _)
  have worked : Worked (fun _ => True) Grows (vblkAlloc (numbered lib) dev addrs session).2
      (nvmVblkTest (numbered lib) geo none (vblkAlloc (numbered lib) dev addrs session).2).2 :=
    test_worked (grows_respects lib) trivial geo _
  obtain ⟨rest,more⟩ := worked.same
  refine ⟨?_,.erase,test_erases (numbered lib) geo none _⟩
  rw [←more,List.drop_append]
  exact List.mem_append_left _ missing

theorem block_tested (sound : Sound k blksArray session) (geo : NvmGeo) (dev : Option Dev) (addrs : List NvmAddr)
    {blk : Stamped Vblk} (given : (vblkAlloc (numbered lib) dev addrs session).1 = some blk) :
    let tested := (nvmVblkTest (numbered lib) geo (some blk) (vblkAlloc (numbered lib) dev addrs session).2).2
    blk.number = session.world.2.built.length ∧
      tested.world.2 = {session.world.2 with built := session.world.2.built ++ [true]} ∧
      false ∉ tested.world.2.built.drop k ∧ ∀ call,.called none call ∉ tested.events := by
  obtain ⟨v,made,stamped⟩ := Option.map_eq_some_iff.mp given
  have ledger := test_ledger lib geo (some blk) (vblkAlloc (numbered lib) dev addrs session).2
  have noted : (vblkAlloc (numbered lib) dev addrs session).2.world.2 =
      {session.world.2 with built := session.world.2.built ++ [true]} := by
    rw [alloc_ledger,made]
    rfl
  refine ⟨stamped ▸ rfl,ledger.trans noted,?_,?_⟩
  · rw [ledger,noted,drop_built sound.later]
    simpa using sound.built
  · exact real_calls (test_worked (real_respects lib) (Option.some_ne_none blk) geo _)
      (real_calls (alloc_worked (real_respects lib) dev addrs session) sound.calls)

theorem Sound.kept (sound : Sound k blksArray session) (geo : NvmGeo) (dev : Option Dev) (addrs : List NvmAddr)
    {blk : Stamped Vblk} (given : (vblkAlloc (numbered lib) dev addrs session).1 = some blk) :
    Sound k (blksArray ++ [some blk])
      (nvmVblkTest (numbered lib) geo (some blk) (vblkAlloc (numbered lib) dev addrs session).2).2 := by
  obtain ⟨_,ledger,built,calls⟩ := block_tested sound geo dev addrs given
  obtain ⟨v,_,stamped⟩ := Option.map_eq_some_iff.mp given
  refine ⟨?_,built,?_,calls⟩
  · rw [ledger,List.length_append]
    exact Nat.le_add_right_of_le sound.later
  · rw [ledger,←stamped]
    exact sound.held.pushed addrs v

theorem Sound.freed (sound : Sound k blksArray session) (geo : NvmGeo) (dev : Option Dev) (addrs : List NvmAddr)
    {blk : Stamped Vblk} (given : (vblkAlloc (numbered lib) dev addrs session).1 = some blk) :
    Sound k blksArray (vblkFree (numbered lib) (some blk)
      (nvmVblkTest (numbered lib) geo (some blk) (vblkAlloc (numbered lib) dev addrs session).2).2) := by
  obtain ⟨number,ledger,built,calls⟩ := block_tested sound geo dev addrs given
  have freed : (vblkFree (numbered lib) (some blk) (nvmVblkTest (numbered lib) geo (some blk)
      (vblkAlloc (numbered lib) dev addrs session).2).2).world.2 =
      ⟨session.world.2.built ++ [true],session.world.2.freed ++ [session.world.2.built.length]⟩ := by
    rw [free_ledger,ledger,←number]
    rfl
  refine ⟨?_,?_,?_,real_calls (free_worked (real_respects lib) (Option.some_ne_none blk) _) calls⟩
  · rw [freed,List.length_append]
    exact Nat.le_add_right_of_le sound.later
  · rw [ledger] at built
    rw [freed]
    exact built
  · rw [freed]
    exact sound.held.dropped

theorem tested_tells (tells : Tells k blksArray session) (geo : NvmGeo) (dev : Option Dev) (addrs : List NvmAddr)
    {blk : Stamped Vblk} (given : (vblkAlloc (numbered lib) dev addrs session).1 = some blk) :
    let tested := (nvmVblkTest (numbered lib) geo (some blk) (vblkAlloc (numbered lib) dev addrs session).2).2
    Tells k (blksArray ++ [some blk]) tested ∧ Tells k blksArray (vblkFree (numbered lib) (some blk) tested) := by
  rcases tells with sound | missed
  · exact ⟨.inl (sound.kept geo dev addrs given),.inl (sound.freed geo dev addrs given)⟩
  · have tested : Missed k (nvmVblkTest (numbered lib) geo (some blk)
        (vblkAlloc (numbered lib) dev addrs session).2).2 :=
      (missed.grows (alloc_worked (grows_respects lib) dev addrs session)).grows
        (test_worked (grows_respects lib) trivial geo _)
    exact ⟨.inr tested,.inr (tested.grows (free_worked (grows_respects lib) trivial _))⟩

theorem null_tells (tells : Tells k blksArray session) (geo : NvmGeo) (dev : Option Dev) (addrs : List NvmAddr)
    (null : (vblkAlloc (numbered lib) dev addrs session).1 = none) :
    Missed k (nvmVblkTest (numbered lib) geo none (vblkAlloc (numbered lib) dev addrs session).2).2 := by
  rcases tells with sound | missed
  · exact null_missed sound.later geo dev addrs null
  · exact (missed.grows (alloc_worked (grows_respects lib) dev addrs session)).grows
      (test_worked (grows_respects lib) trivial geo _)

theorem stripes_tell {geo : NvmGeo} {vunit : VirtualOcssdUnit} (plain : Plain vunit)
    {conn : OcssdConn Dev (Stamped Vblk)} (start : Tells k conn.blksArray session) :
    let r := initializeVssdBlocks (numbered lib) geo conn session vunit
    Tells k r.conn.blksArray r.session := by
  refine (@stripeLoop_rule (World × Ledger) Dev (Stamped Vblk) (numbered lib) geo vunit
    (fun c s => Tells k c.blksArray s) ?_ ?_ ?_ ?_ conn session (vunit.generateUnits []) 0
    (starts_onLanes geo plain) start).1
  · intro c s addrs tells _
    cases given : (vblkAlloc (numbered lib) c.dev addrs s).1 with
    | none => exact .inr ((null_tells tells geo c.dev addrs given).grows (free_worked (grows_respects lib) trivial _))
    | some blk => exact (tested_tells tells geo c.dev addrs given).2
  · intro c s addrs blk tells _ given _
    exact (tested_tells tells geo c.dev addrs given).1
  · intro c s addrs tells _ null
    exact .inr ((null_tells tells geo c.dev addrs null).grows
      (frees_worked (grows_respects lib) (fun _ _ => trivial) _))
  · exact fun c s numBlks tells => tells

theorem open_tells (tells : Tells k blksArray session) (devPath : DevName) :
    Tells k blksArray (devOpen (numbered lib) devPath session).2 := by
  rcases tells with sound | missed
  · exact .inl ⟨sound.later,sound.built,sound.held,sound.calls⟩
  · exact .inr ⟨missed.missing,missed.applied⟩

theorem remote_tells {vssd : VirtualOcssd} (plain : ∀ vunit ∈ vssd.units,Plain vunit)
    {conn : OcssdConn Dev (Stamped Vblk)} (start : Tells k conn.blksArray session) :
    let r := initializeRemoteVssd (numbered lib) conn session vssd
    Tells k r.conn.blksArray r.session := by
  unfold initializeRemoteVssd
  split
  · exact start
  · rename_i vunit rest units
    dsimp only
    have opened := @open_tells World Dev Vblk lib _ _ _ start vunit.devName
    split
    · exact opened
    · rename_i dev found
      split
      · exact stripes_tell (plain vunit (by simp [units])) opened
      · exact stripes_tell (plain vunit (by simp [units])) opened

theorem alloc_tells {conn : OcssdConn Dev (Stamped Vblk)} (start : Tells k conn.blksArray session)
    (message : List UInt8) :
    let r := processAllocRequest (numbered lib) conn session message
    Tells k r.conn.blksArray r.session := by
  unfold processAllocRequest
  split
  · exact start
  · rename_i request _
    have granted : Tells k conn.blksArray (Session.log {session with
        manager := (session.manager.allocOcssdResource .new request).manager}
        (.granted (session.manager.allocOcssdResource .new request).vssd
          (decide ((session.manager.allocOcssdResource .new request).request.remote ≠ 0)))) := by
      rcases start with sound | missed
      · refine .inl ⟨sound.later,sound.built,sound.held,fun call member => ?_⟩
        rcases List.mem_append.mp member with old | new
        · exact sound.calls call old
        · cases List.mem_singleton.mp new
      · obtain ⟨call,applied⟩ := missed.applied
        exact .inr ⟨missed.missing,call,List.mem_append_left _ applied⟩
    dsimp only
    split
    · exact granted
    · split
      · have prepared := @remote_tells World Dev Vblk lib k _ (session.manager.allocOcssdResource .new request).vssd
          (grant_plain session.manager request) {conn with remoteVssd := true} granted
        split
        · exact prepared
        · exact prepared
      · exact granted

end Rounds

section Lives
variable {World Dev Vblk : Type} (lib : Lightnvm World Dev Vblk) (devClose : Option Dev → World → World)

def ended (r : Reply (World × Ledger) Dev (Stamped Vblk)) : Session (World × Ledger) (Stamped Vblk) :=
  destroy (numbered lib) (fun dev w => (devClose dev w.1,w.2)) r.conn r.session

def builtIn (life : Life Dev Vblk) (turn : Turn World) : List Bool :=
  (life.call lib turn).session.world.2.built.drop life.ledger.built.length

structure Clean (life : Life Dev Vblk) (turn : Turn World) : Prop where
  applied : ∀ call,.called none call ∉ (ended lib devClose (life.call lib turn).toReply).events
  once : (ended lib devClose (life.call lib turn).toReply).world.2.freed.Nodup
  live : ∀ blk ∈ (life.call lib turn).conn.blksArray,∃ held,blk = some held ∧
    held.number ∉ (life.call lib turn).session.world.2.freed
  unanswered : false ∈ builtIn lib life turn → (life.call lib turn).conn.writeq = life.conn.writeq

def Supplied (life : Life Dev Vblk) (turn : Turn World) : Prop := false ∉ builtIn lib life turn

theorem call_tells {life : Life Dev Vblk} (held : Held life.conn.blksArray life.ledger) (turn : Turn World) :
    Tells life.ledger.built.length (life.call lib turn).conn.blksArray (life.call lib turn).session := by
  have start (message : List UInt8) : Sound life.ledger.built.length life.conn.blksArray
      ((life.session turn).log (.dispatched message)) := by
    refine ⟨Nat.le_refl _,?_,held,fun call member => ?_⟩
    · change false ∉ life.ledger.built.drop life.ledger.built.length
      rw [List.drop_length]
      exact nofun
    · cases List.mem_singleton.mp member
  cases life_call lib life turn with
  | idle takes session array numBlks =>
    rw [session,array]
    exact .inl ⟨(start []).later,(start []).built,held,nofun⟩
  | allocates message conn takes header array numBlks served =>
    rw [served]
    exact alloc_tells (array ▸ .inl (start message)) message
  | operates message conn takes header array numBlks served =>
    have sound := start message
    refine .inl ⟨?_,?_,?_,?_⟩
    · rw [served.ledger]
      exact sound.later
    · rw [served.ledger]
      exact sound.built
    · rw [served.ledger,served.array,array]
      exact held
    · intro call member
      rcases served.calls none call member with old | ⟨_,_,_,null,_⟩
      · exact sound.calls call old
      · cases null

theorem Sound.clean {k : Nat} {r : Reply (World × Ledger) Dev (Stamped Vblk)}
    (sound : Sound k r.conn.blksArray r.session) :
    (∀ call,.called none call ∉ (ended lib devClose r).events) ∧ (ended lib devClose r).world.2.freed.Nodup ∧
      ∀ blk ∈ r.conn.blksArray,∃ held,blk = some held ∧ held.number ∉ r.session.world.2.freed := by
  have held := sound.held
  have real : ∀ blk ∈ r.conn.blksArray,blk ≠ none := fun blk member null => held.present (null ▸ member)
  refine ⟨?_,?_,?_⟩
  · unfold ended destroy
    split
    · exact real_calls (frees_worked (real_respects lib) real _) sound.calls
    · exact sound.calls
  · unfold ended destroy
    split
    · rw [frees_ledger]
      exact List.nodup_append.mpr ⟨held.once,held.apart,fun a freed b listed same =>
        (held.live b listed).2 (same ▸ freed)⟩
    · exact held.once
  · intro blk member
    obtain ⟨v,some'⟩ := Option.ne_none_iff_exists'.mp (real blk member)
    exact ⟨v,some',(held.live v.number (List.mem_filterMap.mpr ⟨blk,member,by rw [some']; rfl⟩)).2⟩

theorem ended_grows (r : Reply (World × Ledger) Dev (Stamped Vblk)) {event : Event (Stamped Vblk)}
    (member : event ∈ r.session.events) : event ∈ (ended lib devClose r).events := by
  unfold ended destroy
  split
  · obtain ⟨calls,grown,_⟩ := (frees_worked (respects_all (numbered lib)) (fun _ _ => trivial)
      {r.session with world := (devClose r.conn.dev r.session.world.1,r.session.world.2)}).calls
    rw [grown]
    exact List.mem_append_left _ member
  · exact member

theorem clean_iff {life : Life Dev Vblk} (held : Held life.conn.blksArray life.ledger) (turn : Turn World) :
    Supplied lib life turn ↔ Clean lib devClose life turn := by
  rcases call_tells lib held turn with sound | missed
  · obtain ⟨applied,once,live⟩ := sound.clean lib devClose
    exact iff_of_true sound.built ⟨applied,once,live,fun missing => absurd missing sound.built⟩
  · refine iff_of_false (fun supplied => supplied missed.missing) fun clean => ?_
    obtain ⟨call,applied⟩ := missed.applied
    exact clean.applied call (ended_grows lib devClose _ applied)

-- Over a whole connection, whatever its requests and whatever goes on around it,
-- all is well exactly as long as no nvm_vblk_alloc returns null.
theorem stripe_failures_clean_iff (messageBuf : Memory) (turns : List (Turn World)) :
    Each (Life.serve lib) (Supplied lib) (Life.accepted messageBuf : Life Dev Vblk) turns ↔
      Each (Life.serve lib) (Clean lib devClose) (Life.accepted messageBuf) turns := by
  refine each_iff (fun life _ => Held life.conn.blksArray life.ledger) ?_
    (fun life turn _ held => clean_iff lib devClose held turn) .empty
  intro life turn _ held supplied
  rcases call_tells lib held turn with sound | missed
  · exact sound.held
  · exact absurd missed.missing supplied

end Lives

-- The second block cannot be built: the first one is freed and stays listed, the
-- reply goes out and the destructor frees the block again.
def laterNull : Lightnvm Nat Unit Unit where
  chBits := 8
  lunBits := 8
  blkBits := 16
  devOpen := fun _ calls => (some (),calls)
  devGetGeo := fun _ => ⟨5,1,1,4,1,1,1,1,0⟩
  vblkAlloc := fun _ _ calls => (if calls = 0 then some () else none,calls+1)
  vblkFree := fun _ calls => calls
  vblkGetNbytes := fun _ _ => 0
  vblkErase := fun _ calls => (0,calls)
  vblkWrite := fun _ data calls => (data.length,calls)
  vblkRead := fun _ buf count calls => ((count.toNat,buf),calls)
  vblkPread := fun _ buf count _ calls => ((count.toNat,buf),calls)
  bufAlloc := fun _ _ _ _ => 0
  malloc := fun _ _ _ => 0

def remoteTurn : Turn Nat :=
  ⟨.ofDevices [([110],⟨5,1,1,4,1,1,1,1,0⟩)],0,
    ⟨[1,0x65,0,0,1,0,0,0,0,0,0,0,0,0,0,0,0,0,0,0,1,0,0,0],[.bytes 23]⟩⟩

theorem null_block_freed_twice :
    let life : Life Unit Unit := Life.accepted (fun _ => 0)
    let r := life.call laterNull remoteTurn
    r.conn.writeq.length = 1 ∧ numbers r.conn.blksArray = [0] ∧ r.session.world.2 = ⟨[true,false],[0]⟩ ∧
      (ended laterNull (fun _ calls => calls) r.toReply).world.2.freed = [0,0] ∧
      ¬ Each (Life.serve laterNull) (Clean laterNull fun _ calls => calls) life [remoteTurn] := by
  have run : (let r := (Life.accepted (fun _ => 0) : Life Unit Unit).call laterNull remoteTurn
      r.conn.writeq.length = 1 ∧ numbers r.conn.blksArray = [0] ∧ r.session.world.2 = ⟨[true,false],[0]⟩ ∧
        (ended laterNull (fun _ calls => calls) r.toReply).world.2.freed = [0,0]) := by decide +kernel
  obtain ⟨queued,listed,ledger,freed⟩ := run
  refine ⟨queued,listed,ledger,freed,?_⟩
  rintro ⟨clean,_⟩
  have once := clean.once
  rw [freed] at once
  revert once
  decide

end OcssdServer.StripeFailures
