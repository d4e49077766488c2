import OcssdServer.DeviceEffects

namespace OcssdServer.RequestOutcomes
open SocketFill FirstFit ChannelBalance UnitGrants ManagerGrants StripeLanes ServeLoop DeviceEffects

-- The device that a request finds a channel open on first, if any does. What the
-- devices before it were asked is the request itself.
def offersChannel (request : OcssdAllocRequest) (unit : OcssdUnit) : Bool :=
  if request.shared = 1 then unit.sharedChannels.any (serves (share request))
  else unit.exclusiveChannels.any unused

def firstOpen (request : OcssdAllocRequest) (units : List OcssdUnit) : Option OcssdUnit :=
  if request.numChannels = 0 then none else units.find? (offersChannel request)

section Grants
variable {request : OcssdAllocRequest}

theorem drawn_pos (asks : request.numChannels ≠ 0) (unit : OcssdUnit) :
    0 < drawn request unit ↔ offersChannel request unit = true := by
  have some' : 0 < request.numChannels.toNat :=
    Nat.pos_of_ne_zero fun zero => asks (UInt32.toNat_inj.mp zero)
  unfold drawn offersChannel
  rw [Nat.lt_min]
  split
  · simp [some',List.countP_pos_iff]
  · simp [some',List.countP_pos_iff]

theorem after_idle {unit : OcssdUnit} (none' : drawn request unit = 0) : after request unit = unit := by
  rw [←taken_drawn] at none'
  have nothing := List.length_eq_zero_iff.mp none'
  unfold taken at nothing
  unfold after
  split at nothing
  · rename_i shared
    rw [if_pos shared,sharedDraw,left_idle _ _ nothing]
  · rename_i exclusive
    rw [if_neg exclusive,exclusiveDraw,left_idle _ _ nothing]

theorem plan_skip {unit : OcssdUnit} (none' : drawn request unit = 0) (rest : List OcssdUnit) :
    plan request (unit :: rest) = (request,unit) :: plan request rest := by
  have same : request.decChannels (UInt64.ofNat (drawn request unit)) = request := by
    simp [none',OcssdAllocRequest.decChannels]
  rw [plan,same]

theorem closed_idle (asks : request.numChannels ≠ 0) {unit : OcssdUnit}
    (closed : offersChannel request unit = false) : drawn request unit = 0 := by
  have pos := drawn_pos asks unit
  rw [closed] at pos
  simp only [Bool.false_eq_true,iff_false] at pos
  omega

theorem nothing_open {units : List OcssdUnit} (none' : firstOpen request units = none) :
    nextUnits request units = units ∧ total (plan request units) = 0 := by
  unfold firstOpen at none'
  split at none'
  · rename_i idle
    obtain ⟨same,_,zero⟩ := plan_idle idle units
    exact ⟨same,zero⟩
  · rename_i asks
    induction units with
    | nil => exact ⟨rfl,rfl⟩
    | cons unit rest ih =>
      rw [List.find?_cons] at none'
      cases open' : offersChannel request unit with
      | true => simp [open'] at none'
      | false =>
        have zero := closed_idle asks open'
        obtain ⟨same,sum⟩ := ih (by simpa [open'] using none')
        rw [nextUnits] at same
        rw [total] at sum
        rw [nextUnits,total,plan_skip zero,List.map_cons,List.map_cons,List.sum_cons,after_idle zero,same,sum,zero]
        exact ⟨rfl,rfl⟩

theorem first_granted {units : List OcssdUnit} {unit : OcssdUnit} (first : firstOpen request units = some unit) :
    0 < total (plan request units) ∧
      ∃ rest,grantedUnits request units = ⟨unit.name,unit.geo,vchannels request unit⟩ :: rest := by
  unfold firstOpen at first
  split at first
  · cases first
  · rename_i asks
    induction units with
    | nil => cases first
    | cons head rest ih =>
      rw [List.find?_cons] at first
      cases open' : offersChannel request head with
      | true =>
        simp only [open',Option.some.injEq] at first
        subst first
        have pos := (drawn_pos asks head).mpr open'
        have here : contributes (request,head) = true := by simp [contributes,pos]
        rw [grantedUnits,total,plan,List.map_cons,List.filter_cons_of_pos here,List.map_cons,List.sum_cons]
        exact ⟨Nat.add_pos_left pos _,_,rfl⟩
      | false =>
        have zero := closed_idle asks open'
        have here : contributes (request,head) = false := by simp [contributes,zero]
        obtain ⟨some',others,same⟩ := ih (by simpa [open'] using first)
        rw [grantedUnits] at same
        rw [total] at some'
        rw [grantedUnits,total,plan_skip zero,List.filter_cons_of_neg (by simp [here]),List.map_cons,
          List.sum_cons]
        exact ⟨Nat.add_pos_right _ some',others,same⟩

end Grants

theorem loop_remote (units : List OcssdUnit) (vssd : VirtualOcssd) (request : OcssdAllocRequest)
    (channels : UInt64) : (OcssdManager.allocLoop units vssd request channels).request.remote = request.remote := by
  induction units generalizing vssd request channels with
  | nil => rfl
  | cons unit rest ih =>
    unfold OcssdManager.allocLoop
    dsimp only
    split
    · rfl
    · exact ih _ _ _

section Output
variable {World Dev Vblk : Type} (lib : Lightnvm World Dev Vblk)

structure SameOutput (before after : OcssdConn Dev Vblk) : Prop where
  writeq : after.writeq = before.writeq
  evRead : after.evRead = before.evRead
  evWrite : after.evWrite = before.evWrite

theorem remote_output {vssd : VirtualOcssd} (plain : ∀ vunit ∈ vssd.units,Plain vunit)
    (conn : OcssdConn Dev Vblk) (session : Session World Vblk) :
    SameOutput conn (initializeRemoteVssd lib conn session vssd).conn := by
  unfold initializeRemoteVssd
  split
  · exact ⟨rfl,rfl,rfl⟩
  · rename_i vunit rest units
    dsimp only
    split
    · exact ⟨rfl,rfl,rfl⟩
    · rename_i dev opened
      have stripes := @stripeLoop_rule World Dev Vblk lib (lib.devGetGeo dev) vunit
        (fun c _ => SameOutput conn c) (fun _ _ _ same _ => same)
        (fun _ _ _ _ same _ _ _ => ⟨same.writeq,same.evRead,same.evWrite⟩) (fun _ _ _ same _ _ => same)
        (fun _ _ _ same => ⟨same.writeq,same.evRead,same.evWrite⟩)
        {conn with dev := some dev,geo := some (lib.devGetGeo dev)} (devOpen lib vunit.devName session).2
        (vunit.generateUnits []) 0 (starts_onLanes _ (plain vunit (by simp [units]))) ⟨rfl,rfl,rfl⟩
      split
      · exact stripes.1
      · exact stripes.1

-- A handler that comes back has left the output side alone or queued one reply.
inductive Output (before after : OcssdConn Dev Vblk) : Prop where
  | keeps (same : SameOutput before after)
  | queues (bufferq : Bufferq) (queued : after.writeq = before.writeq ++ [bufferq])
      (evRead : after.evRead = before.evRead) (evWrite : after.evWrite = true)

theorem alloc_output (conn : OcssdConn Dev Vblk) (session : Session World Vblk) (message : List UInt8) :
    Output conn (processAllocRequest lib conn session message).conn := by
  unfold processAllocRequest
  split
  · exact .keeps ⟨rfl,rfl,rfl⟩
  · rename_i request _
    have plain := grant_plain session.manager request
    dsimp only
    split
    · exact .keeps ⟨rfl,rfl,rfl⟩
    · split
      · have output := remote_output lib plain {conn with remoteVssd := true}
        split
        · exact .queues _ (congrArg (fun queue => queue ++ [_]) (output _).writeq) (output _).evRead rfl
        · exact .keeps ⟨(output _).writeq,(output _).evRead,(output _).evWrite⟩
      · exact .queues _ rfl rfl rfl

theorem read_output (conn : OcssdConn Dev Vblk) (session : Session World Vblk) (message : List UInt8) :
    Output conn (processReadRequest lib conn session message).conn := by
  unfold processReadRequest
  split
  · exact .keeps ⟨rfl,rfl,rfl⟩
  · split
    · exact .keeps ⟨rfl,rfl,rfl⟩
    · exact .keeps ⟨rfl,rfl,rfl⟩
    · exact .queues _ rfl rfl rfl

theorem erase_output (conn : OcssdConn Dev Vblk) (session : Session World Vblk) (message : List UInt8) :
    Output conn (processEraseRequest lib conn session message).conn := by
  unfold processEraseRequest
  split
  · exact .keeps ⟨rfl,rfl,rfl⟩
  · split
    · exact .keeps ⟨rfl,rfl,rfl⟩
    · exact .keeps ⟨rfl,rfl,rfl⟩
    · exact .keeps ⟨rfl,rfl,rfl⟩

-- Opening the device is the one step after the grant that can fail.
theorem remote_ending {vssd : VirtualOcssd} (plain : ∀ vunit ∈ vssd.units,Plain vunit)
    {vunit : VirtualOcssdUnit} {rest : List VirtualOcssdUnit} (units : vssd.units = vunit :: rest)
    (conn : OcssdConn Dev Vblk) (session : Session World Vblk) :
    (initializeRemoteVssd lib conn session vssd).ending =
      if (lib.devOpen vunit.devName session.world).1 = none then .threw else .returned 0 := by
  unfold initializeRemoteVssd
  rw [units]
  dsimp only [devOpen]
  cases opened : (lib.devOpen vunit.devName session.world).1 with
  | none => rfl
  | some dev =>
    obtain ⟨_,ret,ended⟩ := stripes_carried lib (lib.devGetGeo dev) (plain vunit (by simp [units]))
      {conn with dev := some dev,geo := some (lib.devGetGeo dev)}
      {session with world := (lib.devOpen vunit.devName session.world).2}
    dsimp only
    rw [if_neg (by rw [ended]; simp)]
    rfl

-- How an allocation request ends, decided by the state before it: no channel is
-- open for it, the reply is queued, or the device of a remote grant does not open.
inductive AllocOutcome (conn : OcssdConn Dev Vblk) (session : Session World Vblk) (request : OcssdAllocRequest)
    (r : Reply World Dev Vblk) : Prop where
  | refused (first : firstOpen request session.manager.ocssds = none) (conn' : r.conn = conn)
      (ocssds : r.session.manager.ocssds = session.manager.ocssds) (ending : r.ending = .returned (-1))
  | answers (unit : OcssdUnit) (first : firstOpen request session.manager.ocssds = some unit)
      (opens : request.remote = 0 ∨ (lib.devOpen unit.name session.world).1 ≠ none) (bufferq : Bufferq)
      (queued : r.conn.writeq = conn.writeq ++ [bufferq]) (evRead : r.conn.evRead = conn.evRead)
      (evWrite : r.conn.evWrite = true) (ending : r.ending = .returned 0)
  | fails (unit : OcssdUnit) (first : firstOpen request session.manager.ocssds = some unit)
      (remote : request.remote ≠ 0) (closed : (lib.devOpen unit.name session.world).1 = none)
      (output : SameOutput conn r.conn)
      (ocssds : r.session.manager.ocssds = nextUnits request session.manager.ocssds) (ending : r.ending = .threw)

theorem alloc_outcome {session : Session World Vblk} (valid : ManagerValid session.manager) {message : List UInt8}
    {request : OcssdAllocRequest} (decoded : OcssdAllocRequest.ofMessage message = some request)
    (conn : OcssdConn Dev Vblk) :
    AllocOutcome lib conn session request (processAllocRequest lib conn session message) := by
  have served := serve_plan valid request
  rw [OcssdManager.serve,Prod.mk.injEq,Prod.mk.injEq] at served
  obtain ⟨manager,vssd,granted⟩ := served
  have plain := grant_plain session.manager request
  have remote : (session.manager.allocOcssdResource .new request).request.remote = request.remote :=
    loop_remote _ _ _ _
  have word : total (plan request session.manager.ocssds) < 2^64 := by
    have less := total_le request session.manager.ocssds
    have small := request.numChannels.toNat_lt
    omega
  unfold processAllocRequest
  rw [decoded]
  dsimp only
  generalize session.manager.allocOcssdResource .new request = grant at *
  cases first : firstOpen request session.manager.ocssds with
  | none =>
    obtain ⟨same,zero⟩ := nothing_open first
    have nothing : grant.granted = 0 := by rw [granted,zero]; rfl
    rw [if_pos (.inl nothing)]
    exact .refused first rfl (by rw [manager]; exact same) rfl
  | some unit =>
    obtain ⟨some',rest,units⟩ := first_granted first
    have listed : grant.vssd.units = ⟨unit.name,unit.geo,vchannels request unit⟩ :: rest := by rw [vssd,←units]
    have enough : ¬ (grant.granted = 0 ∨ grant.vssd.units.length < 1) := by
      rw [granted,ofNat_zero_iff word,listed,List.length_cons]
      omega
    rw [if_neg enough]
    by_cases local' : request.remote = 0
    · rw [if_neg (by rw [remote,local']; decide)]
      exact .answers unit first (.inl local') _ rfl rfl rfl rfl
    · rw [if_pos (by rw [remote]; exact local')]
      generalize noted : Session.log {session with manager := grant.manager}
        (.granted grant.vssd (decide (grant.request.remote ≠ 0))) = session'
      have world : session'.world = session.world := by rw [←noted]; rfl
      have manager' : session'.manager = grant.manager := by rw [←noted]; rfl
      have output := remote_output lib plain {conn with remoteVssd := true} session'
      have ended := remote_ending lib plain listed {conn with remoteVssd := true} session'
      have kept := (@remote_worked World Dev Vblk lib (fun _ => True) (fun _ _ => True) (respects_all lib)
        grant.vssd plain {conn with remoteVssd := true} (fun _ _ _ _ _ _ _ _ _ => trivial)
        (fun _ _ => trivial) session').1.manager
      rw [world] at ended
      by_cases opened : (lib.devOpen unit.name session.world).1 = none
      · rw [if_pos opened] at ended
        rw [ended]
        exact .fails unit first local' opened ⟨output.writeq,output.evRead,output.evWrite⟩
          (by rw [kept,manager',manager]) ended
      · rw [if_neg opened] at ended
        rw [ended]
        exact .answers unit first (.inr opened) _ (congrArg (fun queue => queue ++ [_]) output.writeq)
          output.evRead rfl rfl

end Output

section Blocks
variable {World Dev Vblk : Type} (lib : Lightnvm World Dev Vblk)

def namesBlock (message : List UInt8) : Prop :=
  getHeader message = readBlockMagic ∨ getHeader message = writeBlockMagic ∨ getHeader message = eraseBlockMagic

theorem names_other {message : List UInt8} (names : namesBlock message) : getHeader message ≠ requestMagic := by
  intro alloc
  unfold namesBlock at names
  rw [alloc] at names
  revert names
  decide

variable {message : List UInt8} (names : namesBlock message) {io : OcssdIoRequest}
  (decoded : OcssdIoRequest.ofMessage message = some io) (conn : OcssdConn Dev Vblk) (session : Session World Vblk)
  (socket : Socket Errno)
include names decoded

theorem dispatch_unknown (missing : conn.blksArray[io.blockIndex.toNat]? = none) :
    dispatch lib conn session socket message =
      ⟨⟨conn,session.log (.dispatched message),.badIndex⟩,socket⟩ := by
  rw [dispatch,if_neg (names_other names)]
  rcases names with read | write | erase
  · rw [if_pos read,processReadRequest,decoded]
    dsimp only
    rw [missing]
  · rw [write,if_neg (by decide),if_pos rfl,processWriteRequest,decoded]
    dsimp only
    rw [missing]
  · rw [erase,if_neg (by decide),if_neg (by decide),if_pos rfl,processEraseRequest,decoded]
    dsimp only
    rw [missing]

theorem dispatch_known {pointer : Option Vblk} (found : conn.blksArray[io.blockIndex.toNat]? = some pointer) :
    (dispatch lib conn session socket message).ending ≠ .badIndex := by
  rw [dispatch,if_neg (names_other names)]
  rcases names with read | write | erase
  · rw [if_pos read,processReadRequest,decoded]
    dsimp only
    rw [found]
    cases pointer <;> nofun
  · rw [write,if_neg (by decide),if_pos rfl,processWriteRequest,decoded]
    dsimp only
    rw [found]
    cases pointer with
    | none => nofun
    | some blk =>
      unfold finishWrite
      dsimp only
      split <;> nofun
  · rw [erase,if_neg (by decide),if_neg (by decide),if_pos rfl,processEraseRequest,decoded]
    dsimp only
    rw [found]
    cases pointer <;> nofun

end Blocks
end OcssdServer.RequestOutcomes
