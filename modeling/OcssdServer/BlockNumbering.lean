import OcssdServer.BlockLedger

namespace OcssdServer.BlockNumbering
open ByteBuffers MachineRuns ManagerGrants StripeLanes IndexChecks BlockLedger RequestOutcomes

def names {Vblk : Type} (blksArray : List (Option (Stamped Vblk))) : List (Option (List NvmAddr)) :=
  blksArray.map (Option.map (·.addrs))

-- What the devices make of the stripes of a virtual SSD: those that pass their
-- tests, as far as no null does.
structure Survey where
  passed : List (List NvmAddr)
  whole : Bool
deriving DecidableEq, Repr

section Surveys
variable {World Dev Vblk : Type} (lib : Lightnvm World Dev Vblk)

def unitStripes (geo : NvmGeo) (vunit : VirtualOcssdUnit) (currBlocks : List UInt32) : List (List NvmAddr) :=
  match swept : sweepUnit lib geo vunit currBlocks with
  | none => []
  | some sweep =>
    if none' : sweep.addrs = [] then []
    else
      have := StripeSweep.sweepUnit_shrinks swept none'
      sweep.addrs :: unitStripes geo vunit sweep.currBlocks
termination_by remaining currBlocks

def survey (geo : NvmGeo) (dev : Option Dev) : List (List NvmAddr) → Session World Vblk → Survey
  | [],_ => ⟨[],true⟩
  | addrs :: rest,session =>
    let allocated := vblkAlloc lib dev addrs session
    let tested := nvmVblkTest lib geo allocated.1 allocated.2
    if tested.1 < 0 then survey geo dev rest (vblkFree lib allocated.1 tested.2)
    else if allocated.1.isNone then ⟨[],false⟩
    else
      let later := survey geo dev rest tested.2
      ⟨addrs :: later.passed,later.whole⟩

def surveyVssd (session : Session World Vblk) (vssd : VirtualOcssd) : Option Survey :=
  match vssd.units with
  | [] => none
  | vunit :: _ =>
    let opened := devOpen lib vunit.devName session
    opened.1.map fun dev =>
      let geo := lib.devGetGeo dev
      survey lib geo (some dev) (unitStripes lib geo vunit (vunit.generateUnits [])) opened.2

def surveyRequest (session : Session World Vblk) (message : List UInt8) : Option Survey :=
  match OcssdAllocRequest.ofMessage message with
  | none => none
  | some request =>
    let grant := session.manager.allocOcssdResource .new request
    let remote := grant.request.remote ≠ 0
    if grant.granted = 0 ∨ grant.vssd.units.length < 1 ∨ ¬ remote then none
    else surveyVssd lib (Session.log {session with manager := grant.manager} (.granted grant.vssd remote)) grant.vssd

end Surveys

section Rounds
variable {World Dev Vblk : Type} {lib : Lightnvm World Dev Vblk} {geo : NvmGeo} {vunit : VirtualOcssdUnit}

theorem unitStripes_swept {currBlocks : List UInt32} {sweep : Sweep}
    (swept : sweepUnit lib geo vunit currBlocks = some sweep) :
    unitStripes lib geo vunit currBlocks =
      if sweep.addrs = [] then [] else sweep.addrs :: unitStripes lib geo vunit sweep.currBlocks := by
  rw [unitStripes]
  split
  · rename_i missing
    rw [swept] at missing
    cases missing
  · rename_i found
    rw [swept] at found
    cases found
    rfl

theorem alloc_stamp {dev : Option Dev} {addrs : List NvmAddr} {session : Session (World × Ledger) (Stamped Vblk)}
    {blk : Stamped Vblk} (given : (vblkAlloc (numbered lib) dev addrs session).1 = some blk) : blk.addrs = addrs := by
  obtain ⟨_,_,rfl⟩ := Option.map_eq_some_iff.mp given
  rfl

theorem stripeLoop_numbers {conn : OcssdConn Dev (Stamped Vblk)} {session : Session (World × Ledger) (Stamped Vblk)}
    {currBlocks : List UInt32} {count : Nat} (on : OnLanes geo vunit currBlocks) :
    let surveyed := survey (numbered lib) geo conn.dev (unitStripes (numbered lib) geo vunit currBlocks) session
    let r := stripeLoop (numbered lib) geo vunit conn session currBlocks count
    names r.conn.blksArray = names conn.blksArray ++ surveyed.passed.map some ∧
      r.conn.numBlks =
        if surveyed.whole then some (UInt64.ofNat (count+surveyed.passed.length)) else conn.numBlks := by
  induction conn, session, currBlocks, count using stripeLoop.induct (numbered lib) geo vunit with
  | case1 conn session currBlocks count missing =>
    exact absurd missing (sweepUnit_ne_none (numbered lib) on)
  | case2 conn session currBlocks count sweep swept none' =>
    rw [stripeLoop_swept swept,if_pos none',unitStripes_swept swept,if_pos none']
    exact ⟨(List.append_nil _).symm,rfl⟩
  | case3 conn session currBlocks count sweep swept some' allocated tested bad ih =>
    have next := (swept_lanes on swept).1
    rw [stripeLoop_swept swept,if_neg some',unitStripes_swept swept,if_neg some',survey]
    dsimp only
    rw [if_pos bad,if_pos bad]
    exact ih next
  | case4 conn session currBlocks count sweep swept some' allocated tested good missing =>
    rw [stripeLoop_swept swept,if_neg some',unitStripes_swept swept,if_neg some',survey]
    dsimp only
    rw [if_neg good,if_pos missing,if_neg good,if_pos missing]
    exact ⟨(List.append_nil _).symm,rfl⟩
  | case5 conn session currBlocks count sweep swept some' allocated tested good held ih =>
    have next := (swept_lanes on swept).1
    obtain ⟨blk,given⟩ : ∃ blk,allocated.1 = some blk :=
      Option.ne_none_iff_exists'.mp fun null => held (Option.isNone_iff_eq_none.mpr null)
    rw [stripeLoop_swept swept,if_neg some',unitStripes_swept swept,if_neg some',survey]
    dsimp only
    rw [if_neg good,if_neg held,if_neg good,if_neg held]
    obtain ⟨array,numBlks⟩ := ih next
    refine ⟨array.trans ?_,numBlks.trans ?_⟩
    · have pushed : names (conn.addBlock allocated.1 ((numbered lib).vblkGetNbytes allocated.1 tested.2.world)).blksArray =
          names conn.blksArray ++ [some sweep.addrs] := by
        rw [given,OcssdConn.addBlock,names,List.map_append,names,←alloc_stamp given]
        rfl
      rw [pushed,List.append_assoc]
      rfl
    · rw [List.length_cons,Nat.add_right_comm,Nat.add_assoc]
      rfl

variable {conn : OcssdConn Dev (Stamped Vblk)} {session : Session (World × Ledger) (Stamped Vblk)}

-- What a call leaves of the array and its count, where it sets up a virtual SSD
-- and where it does not.
def Counts (conn : OcssdConn Dev (Stamped Vblk)) (surveyed : Option Survey)
    (r : Reply (World × Ledger) Dev (Stamped Vblk)) : Prop :=
  match surveyed with
  | none => r.conn.blksArray = conn.blksArray ∧ r.conn.numBlks = conn.numBlks
  | some surveyed => names r.conn.blksArray = names conn.blksArray ++ surveyed.passed.map some ∧
      r.conn.numBlks = if surveyed.whole then some (UInt64.ofNat surveyed.passed.length) else conn.numBlks

theorem remote_counts {vssd : VirtualOcssd} (plain : ∀ vunit ∈ vssd.units,Plain vunit) :
    Counts conn (surveyVssd (numbered lib) session vssd) (initializeRemoteVssd (numbered lib) conn session vssd) := by
  unfold surveyVssd initializeRemoteVssd
  cases units : vssd.units with
  | nil => exact ⟨rfl,rfl⟩
  | cons vunit rest =>
    dsimp only
    cases opened : (devOpen (numbered lib) vunit.devName session).1 with
    | none => exact ⟨rfl,rfl⟩
    | some dev =>
      have looped := @stripeLoop_numbers World Dev Vblk lib ((numbered lib).devGetGeo dev) vunit
        {conn with dev := some dev,geo := some ((numbered lib).devGetGeo dev)}
        (devOpen (numbered lib) vunit.devName session).2 (vunit.generateUnits []) 0
        (starts_onLanes _ (plain vunit (by simp [units])))
      simp only [Nat.zero_add] at looped
      dsimp only [Option.map_some]
      split
      · exact looped
      · exact looped

theorem request_counts (message : List UInt8) :
    Counts conn (surveyRequest (numbered lib) session message)
      (processAllocRequest (numbered lib) conn session message) := by
  unfold surveyRequest processAllocRequest
  cases decoded : OcssdAllocRequest.ofMessage message with
  | none => exact ⟨rfl,rfl⟩
  | some request =>
    dsimp only
    by_cases refused : (session.manager.allocOcssdResource .new request).granted = 0 ∨
        (session.manager.allocOcssdResource .new request).vssd.units.length < 1
    · rw [if_pos (by tauto),if_pos refused]
      exact ⟨rfl,rfl⟩
    by_cases remote : (session.manager.allocOcssdResource .new request).request.remote ≠ 0
    · rw [if_neg (by tauto),if_neg refused,if_pos remote]
      have set := @remote_counts World Dev Vblk lib {conn with remoteVssd := true}
        (Session.log {session with manager := (session.manager.allocOcssdResource .new request).manager}
          (.granted (session.manager.allocOcssdResource .new request).vssd
            (decide ((session.manager.allocOcssdResource .new request).request.remote ≠ 0))))
        _ (grant_plain session.manager request)
      split
      · exact set
      · exact set
    · rw [if_pos (by tauto),if_neg refused,if_neg remote]
      exact ⟨rfl,rfl⟩

theorem remote_answered_iff {message : List UInt8} {request : OcssdAllocRequest}
    (decoded : OcssdAllocRequest.ofMessage message = some request) :
    (surveyRequest (numbered lib) session message).isSome ↔
      (session.manager.allocOcssdResource .new request).request.remote ≠ 0 ∧
        (processAllocRequest (numbered lib) conn session message).ending = .returned 0 := by
  unfold surveyRequest processAllocRequest
  rw [decoded]
  dsimp only
  by_cases refused : (session.manager.allocOcssdResource .new request).granted = 0 ∨
      (session.manager.allocOcssdResource .new request).vssd.units.length < 1
  · rw [if_pos (by tauto),if_pos refused]
    exact iff_of_false nofun nofun
  by_cases remote : (session.manager.allocOcssdResource .new request).request.remote ≠ 0
  · rw [if_neg (by tauto),if_neg refused,if_pos remote,surveyVssd]
    cases units : (session.manager.allocOcssdResource .new request).vssd.units with
    | nil => exact absurd (.inr (by rw [units]; exact Nat.one_pos)) refused
    | cons vunit rest =>
      generalize Session.log {session with manager := (session.manager.allocOcssdResource .new request).manager}
        (.granted (session.manager.allocOcssdResource .new request).vssd
          (decide ((session.manager.allocOcssdResource .new request).request.remote ≠ 0))) = session'
      have ended := remote_ending (numbered lib) (grant_plain session.manager request) units
        {conn with remoteVssd := true} session'
      dsimp only [devOpen]
      cases opened : ((numbered lib).devOpen vunit.devName session'.world).1 with
      | none =>
        rw [opened,if_pos rfl] at ended
        simp [ended]
      | some dev =>
        rw [opened,if_neg (Option.some_ne_none dev)] at ended
        simpa [ended] using remote
  · rw [if_pos (by tauto)]
    exact iff_of_false nofun fun answered => remote answered.1

end Rounds

-- A connection with the stripes of the latest virtual SSD that it has set up.
structure Track (Dev Vblk : Type) where
  life : Life Dev Vblk
  latest : Option (List (List NvmAddr))

section Runs
variable {World Dev Vblk : Type} (lib : Lightnvm World Dev Vblk)

def setUp (life : Life Dev Vblk) (turn : Turn World) : Option Survey :=
  match taken life.conn turn.socket with
  | none => none
  | some message =>
    if getHeader message = requestMagic then
      surveyRequest (numbered lib) ((life.session turn).log (.dispatched message)) message
    else none

def Track.serve (track : Track Dev Vblk) (turn : Turn World) :
    Track Dev Vblk × Handled (World × Ledger) Dev (Stamped Vblk) :=
  (⟨(track.life.serve lib turn).1,((setUp lib track.life turn).map (·.passed)).or track.latest⟩,
    track.life.call lib turn)

structure Numbered (conn : OcssdConn Dev (Stamped Vblk)) (stripes : List (List NvmAddr)) : Prop where
  counted : conn.numBlks = some (UInt64.ofNat conn.blksArray.length)
  named : names conn.blksArray = stripes.map some

theorem Numbered.entry {conn : OcssdConn Dev (Stamped Vblk)} {stripes : List (List NvmAddr)}
    (numbered : Numbered conn stripes) {i : Nat} {held : Stamped Vblk}
    (found : conn.blksArray[i]? = some (some held)) : stripes[i]? = some held.addrs := by
  have same := congrArg (fun entries => entries[i]?) numbered.named
  simp only [names,List.getElem?_map,found,Option.map_some] at same
  obtain ⟨stripe,here,addrs⟩ := Option.map_eq_some_iff.mp same.symm
  rw [here,Option.some.inj addrs]

theorem Counts.kept {conn : OcssdConn Dev (Stamped Vblk)} {r : Reply (World × Ledger) Dev (Stamped Vblk)}
    {stripes : List (List NvmAddr)} (counts : Counts conn none r) (before : Numbered conn stripes) :
    Numbered r.conn stripes := by
  refine ⟨?_,?_⟩
  · rw [counts.1,counts.2]
    exact before.counted
  · rw [counts.1]
    exact before.named

-- The stripes of a new virtual SSD are numbered right where the array was empty
-- and the count is theirs.
theorem Counts.numbered_iff {conn : OcssdConn Dev (Stamped Vblk)} {r : Reply (World × Ledger) Dev (Stamped Vblk)}
    {surveyed : Survey} (counts : Counts conn (some surveyed) r) :
    conn.blksArray = [] ∧ (surveyed.whole = true ∨ conn.numBlks = some (UInt64.ofNat surveyed.passed.length)) ↔
      Numbered r.conn surveyed.passed := by
  obtain ⟨array,numBlks⟩ := counts
  have length : r.conn.blksArray.length = conn.blksArray.length+surveyed.passed.length := by
    simpa [names] using congrArg List.length array
  constructor
  · rintro ⟨empty,counted⟩
    rw [empty] at array length
    refine ⟨?_,array⟩
    rw [numBlks,length,List.length_nil,Nat.zero_add]
    rcases counted with whole | same
    · rw [if_pos whole]
    · rw [same]
      split <;> rfl
  · intro numbered
    have empty : conn.blksArray = [] := by
      have same := congrArg List.length (array.symm.trans numbered.named)
      simp only [names,List.length_append,List.length_map] at same
      exact List.length_eq_zero_iff.mp (by omega)
    refine ⟨empty,?_⟩
    have counted := numbered.counted
    rw [numBlks,length,empty,List.length_nil,Nat.zero_add] at counted
    by_cases whole : surveyed.whole = true
    · exact .inl whole
    · rw [if_neg whole] at counted
      exact .inr counted

-- The numbering holds after the call, and a request for a block that came in it
-- was carried out on the stripe of that number.
structure Follows (track : Track Dev Vblk) (turn : Turn World) : Prop where
  settled : ∀ stripes,(track.serve lib turn).1.latest = some stripes →
    Numbered (track.serve lib turn).1.life.conn stripes
  denoted : ∀ message io stripes,Names track.life.conn turn.socket message io → track.latest = some stripes →
    ∀ blk call,.called blk call ∈ (track.life.call lib turn).session.events →
      ∃ held,blk = some held ∧ stripes[io.blockIndex.toNat]? = some held.addrs

-- A virtual SSD is set up on a connection that has no blocks yet, and no null
-- passes its test, unless the old count happens to fit.
def Fresh (track : Track Dev Vblk) (turn : Turn World) : Prop :=
  ∀ surveyed,setUp lib track.life turn = some surveyed → track.life.conn.blksArray = [] ∧
    (surveyed.whole = true ∨ track.life.conn.numBlks = some (UInt64.ofNat surveyed.passed.length))

theorem call_counts (life : Life Dev Vblk) (turn : Turn World) :
    Counts life.conn (setUp lib life turn) (life.call lib turn).toReply := by
  unfold setUp
  cases life_call lib life turn with
  | idle takes session array numBlks =>
    rw [takes]
    exact ⟨array,numBlks⟩
  | allocates message conn takes header array numBlks served =>
    have counts := @request_counts World Dev Vblk lib conn ((life.session turn).log (.dispatched message)) message
    rw [takes,served]
    dsimp only
    rw [if_pos header]
    unfold Counts at counts ⊢
    rw [array,numBlks] at counts
    exact counts
  | operates message conn takes header array numBlks served =>
    rw [takes]
    dsimp only
    rw [if_neg header]
    exact ⟨served.array.trans array,served.numBlks.trans numBlks⟩

variable {lib} {track : Track Dev Vblk}
  (held : ∀ stripes,track.latest = some stripes → Numbered track.life.conn stripes)
include held

theorem denoted (turn : Turn World) {message : List UInt8} {io : OcssdIoRequest} {stripes : List (List NvmAddr)}
    (names' : Names track.life.conn turn.socket message io) (latest : track.latest = some stripes)
    {blk : Option (Stamped Vblk)} {call : VblkCall}
    (called : .called blk call ∈ (track.life.call lib turn).session.events) :
    ∃ held,blk = some held ∧ stripes[io.blockIndex.toNat]? = some held.addrs := by
  obtain ⟨takes,names',decoded⟩ := names'
  cases life_call lib track.life turn with
  | idle takes' =>
    rw [takes] at takes'
    cases takes'
  | allocates message' conn takes' header =>
    cases takes.symm.trans takes'
    exact absurd header (names_other names')
  | operates message' conn takes' header array numBlks served =>
    cases takes.symm.trans takes'
    rcases served.calls blk call called with old | ⟨io',block,decoded',rfl,found⟩
    · cases List.mem_singleton.mp old
    · cases decoded.symm.trans decoded'
      rw [array] at found
      exact ⟨block,rfl,(held stripes latest).entry found⟩

theorem follows_iff (turn : Turn World) : Fresh lib track turn ↔ Follows lib track turn := by
  have counts := call_counts lib track.life turn
  have rest : (∀ stripes,(track.serve lib turn).1.latest = some stripes →
      Numbered (track.serve lib turn).1.life.conn stripes) ↔ Follows lib track turn :=
    ⟨fun settled => ⟨settled,fun _ _ _ names' latest _ _ called => denoted held turn names' latest called⟩,
      Follows.settled⟩
  rw [←rest]
  unfold Fresh Track.serve Life.serve
  dsimp only
  cases found : setUp lib track.life turn with
  | none =>
    rw [found] at counts
    exact iff_of_true nofun fun stripes latest => counts.kept (held stripes latest)
  | some surveyed =>
    rw [found] at counts
    simp only [Option.some.injEq,forall_eq',Option.map_some,Option.some_or]
    exact counts.numbered_iff

end Runs

-- For every sequence of requests, block numbers follow the latest grant as long
-- as no virtual SSD is set up over the blocks of an earlier one.
theorem numbering_follows_iff {World Dev Vblk : Type} (lib : Lightnvm World Dev Vblk) (messageBuf : Memory)
    (turns : List (Turn World)) :
    Each (Track.serve lib) (Fresh lib) (⟨Life.accepted messageBuf,none⟩ : Track Dev Vblk) turns ↔
      Each (Track.serve lib) (Follows lib) ⟨Life.accepted messageBuf,none⟩ turns := by
  refine each_iff (fun track _ => ∀ stripes,track.latest = some stripes → Numbered track.life.conn stripes) ?_
    (fun track turn _ held => follows_iff held turn) nofun
  intro track turn _ held fresh
  exact ((follows_iff held turn).mp fresh).settled

-- One channel for a connection to itself, and then two blocks of a shared one.
def wholeChannel : OcssdAllocRequest := ⟨1,0,0,0,1⟩
def oneDevice : List (DevName × NvmGeo) := [([110],⟨5,1,1,4,1,1,1,1,0⟩)]

def remoteTurns : List (Turn Unit) :=
  [⟨reached oneDevice [],(),⟨[1,0x65,0,0,1,0,0,0,0,0,0,0,0,0,0,0,0,0,0,0,1,0,0,0],[.bytes 23]⟩⟩,
    ⟨reached oneDevice [wholeChannel],(),⟨[1,0x65,0,0,1,0,0,0,2,0,0,0,1,0,0,0,0,0,0,0,1,0,0,0],[.bytes 23]⟩⟩]

-- The second virtual SSD has two stripes; its block 0 is a block of the first.
theorem second_grant_misnumbered :
    let start : Track Unit Unit := ⟨Life.accepted (fun _ => 0),none⟩
    let after := final (Track.serve quietLib) start remoteTurns
    after.latest = some [[⟨0,0,0⟩],[⟨0,0,1⟩]] ∧ after.life.conn.numBlks = some 2 ∧
      names after.life.conn.blksArray = [some [⟨4,0,0⟩],some [⟨4,0,1⟩],some [⟨4,0,2⟩],some [⟨4,0,3⟩],
        some [⟨0,0,0⟩],some [⟨0,0,1⟩]] ∧
      ¬ Each (Track.serve quietLib) (Follows quietLib) start remoteTurns := by
  have run : (let start : Track Unit Unit := ⟨Life.accepted (fun _ => 0),none⟩
      let after := final (Track.serve quietLib) start remoteTurns
      after.latest = some [[⟨0,0,0⟩],[⟨0,0,1⟩]] ∧ after.life.conn.numBlks = some 2 ∧
        names after.life.conn.blksArray = [some [⟨4,0,0⟩],some [⟨4,0,1⟩],some [⟨4,0,2⟩],some [⟨4,0,3⟩],
          some [⟨0,0,0⟩],some [⟨0,0,1⟩]]) := by decide +kernel
  obtain ⟨latest,numBlks,named⟩ := run
  refine ⟨latest,numBlks,named,?_⟩
  rintro ⟨_,follows,_⟩
  have same := named.symm.trans (follows.settled _ latest).named
  revert same
  decide

end OcssdServer.BlockNumbering
