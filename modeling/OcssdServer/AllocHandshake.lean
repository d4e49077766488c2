import OcssdServer.AllocClient
import OcssdServer.GrantLedger
import OcssdServer.RemoteAccess
import OcssdServer.ReplyLength
import OcssdServer.RequestCodec

namespace OcssdServer.AllocHandshake
open ByteBuffers SocketFill MachineRuns UnitGrants ManagerGrants BlockOwnership StripeLanes ServeLoop DeviceEffects
  RequestOutcomes RequestFraming WouldBlock RequestCodec ReplyStream ReplyLength VirtualSsdCodec TenantIsolation
  DescriptorEvents LoopTenants LoopRequests ClientSeat BlockCalls RemoteAccess GrantLedger RemoteSite

section Codec

-- An allocation request is a message of its own.
def askFrame (request : OcssdAllocRequest) : Frame where
  message := allocWire request
  payload := []
  size := allocWire_length request
  known := .inl (wire_header _ _)
  carries := by
    rw [payloadLength,show getHeader (allocWire request) = requestMagic from wire_header _ _,if_neg (by decide)]
    rfl

theorem frame_inside {Dev Vblk : Type} (conn : OcssdConn Dev Vblk) (request : OcssdAllocRequest) :
    IndexInside conn (askFrame request) := by
  intro io decoded
  obtain ⟨magic,known,same⟩ := io_canonical (askFrame request).size decoded
  have header : getHeader (askFrame request).message = requestMagic := wire_header _ _
  rw [same,ioWire,wire_header] at header
  subst header
  cases command : io.command <;> rw [command] at known <;> cases known

theorem ask_sends {user : AllocClient} (fresh : user.phase = .unsent) :
    user.ask = ({user with buffer := store user.buffer 0 (allocWire user.request),phase := .waiting},
      (askFrame user.request).wire) := by
  have message := load_store user.buffer 0 (allocWire user.request)
  rw [allocWire_length] at message
  unfold AllocClient.ask
  rw [fresh]
  dsimp only
  rw [alloc_serialize,message,Frame.wire]
  exact congrArg _ (List.append_nil _).symm

def replyBytes (vssd : VirtualOcssd) (buf : Memory) : List UInt8 :=
  load (vssd.serialize buf).1 0 (UInt64.ofNat (vssd.serialize buf).2).toNat

theorem queue_chunks {Dev Vblk : Type} (conn : OcssdConn Dev Vblk) (vssd : VirtualOcssd) (buf : Memory) :
    chunks (queueVssd conn vssd buf) = chunks conn ++ [replyBytes vssd buf] := by
  simp [queueVssd,OcssdConn.queue,chunks,unsent,replyBytes]

theorem queue_bytes {Dev Vblk : Type} (conn : OcssdConn Dev Vblk) (vssd : VirtualOcssd) (buf : Memory) :
    (chunks (queueVssd conn vssd buf)).flatten = (chunks conn).flatten ++ replyBytes vssd buf := by
  simp [queue_chunks]

theorem serialize_size (vssd : VirtualOcssd) (one two : Memory) : (vssd.serialize one).2 = (vssd.serialize two).2 := by
  rw [serialize_length,serialize_length]

theorem reply_length {vssd : VirtualOcssd} (buf : Memory) (word : (vssd.serialize (fun _ => 0)).2 < 2^64) :
    (replyBytes vssd buf).length = (vssd.serialize (fun _ => 0)).2 := by
  rw [replyBytes,load_length,UInt64.toNat_ofNat',serialize_size vssd buf (fun _ => 0),Nat.mod_eq_of_lt word]

theorem reply_some {vssd : VirtualOcssd} (buf : Memory) (word : (vssd.serialize (fun _ => 0)).2 < 2^64) :
    replyBytes vssd buf ≠ [] := by
  intro none'
  have size := reply_length buf word
  rw [none',serialize_length,List.length_nil] at size
  omega

end Codec

section Grants
variable {manager : OcssdManager} {request : OcssdAllocRequest}

theorem none_granted {units : List OcssdUnit} (zero : total (plan request units) = 0) :
    grantedUnits request units = [] := by
  refine List.map_eq_nil_iff.mpr (List.filter_eq_nil_iff.mpr fun entry member => ?_)
  have listed : drawn entry.1 entry.2 ∈ (plan request units).map (fun e => drawn e.1 e.2) :=
    List.mem_map.mpr ⟨entry,member,rfl⟩
  have here := List.single_le_sum (fun _ _ => Nat.zero_le _) _ listed
  rw [total] at zero
  rw [contributes,decide_eq_true_eq]
  omega

theorem zero_granted (valid : ManagerValid manager) (zero : (manager.serve request).2.2 = 0) :
    (manager.serve request).2.1.units = [] := by
  have few := total_le request manager.ocssds
  have small := request.numChannels.toNat_lt
  rw [serve_plan valid] at zero ⊢
  exact none_granted ((ofNat_zero_iff (by omega)).mp zero)

end Grants

section Reply
variable {World Dev Vblk : Type} (lib : Lightnvm World Dev Vblk)

inductive Replied (conn : OcssdConn Dev Vblk) (vssd : VirtualOcssd) (r : Reply World Dev Vblk) : Prop where
  | refuses (same : r.conn = conn) (none' : vssd.units = [])
  | ends (ending : r.ending.ends = true)
  | replies (units : vssd.units ≠ []) (conn' : OcssdConn Dev Vblk) (output : SameOutput conn conn') (buf : Memory)
      (queued : r.conn = queueVssd conn' vssd buf)

theorem alloc_replied {message : List UInt8} {request : OcssdAllocRequest}
    (decoded : OcssdAllocRequest.ofMessage message = some request) (conn : OcssdConn Dev Vblk)
    {session : Session World Vblk} (valid : ManagerValid session.manager) :
    Replied conn (session.manager.serve request).2.1 (processAllocRequest lib conn session message) := by
  have plain := grant_plain session.manager request
  have nothing := @zero_granted session.manager request valid
  unfold OcssdManager.serve at nothing
  unfold processAllocRequest OcssdManager.serve
  rw [decoded]
  dsimp only at nothing ⊢
  generalize session.manager.allocOcssdResource .new request = grant at plain nothing ⊢
  split
  · rename_i few
    exact .refuses rfl (few.elim nothing fun less => List.length_eq_zero_iff.mp (Nat.lt_one_iff.mp less))
  rename_i enough
  have units : grant.vssd.units ≠ [] := by
    intro none'
    exact enough (.inr (by rw [none']; exact Nat.zero_lt_one))
  split
  · generalize Session.log {session with manager := grant.manager} _ = noted
    have output := remote_output lib plain {conn with remoteVssd := true} noted
    have output' : SameOutput conn (initializeRemoteVssd lib {conn with remoteVssd := true} noted grant.vssd).conn :=
      ⟨output.writeq,output.evRead,output.evWrite⟩
    cases listed : grant.vssd.units with
    | nil => exact absurd listed units
    | cons vunit rest =>
      have ended := remote_ending lib plain listed {conn with remoteVssd := true} noted
      split at ended
      · rw [ended]
        exact .ends (by rw [ended]; rfl)
      · rw [ended]
        exact .replies units _ output' _ rfl
  · exact .replies units conn ⟨rfl,rfl,rfl⟩ _ rfl

theorem serve_ask (conn : OcssdConn Dev Vblk) (session : Session World Vblk) (request : OcssdAllocRequest) :
    serveFrame lib conn session (askFrame request) =
      processAllocRequest lib {conn with messageBuf := store conn.messageBuf 0 (allocWire request)}
        (session.log (.dispatched (allocWire request))) (allocWire request) := by
  have header : getHeader (askFrame request).message = requestMagic := wire_header _ _
  unfold serveFrame answer
  dsimp only
  rw [header,if_pos rfl]
  rfl

-- What is built for a remote grant stands on blocks that are in it.
theorem remote_told {Vblk : Type} (events : List (Event Vblk)) :
    remoteBlocks events ⊆ {b | ∃ vssd ∈ events.filterMap LoopRequests.handed,b ∈ toldBlocks vssd} := by
  rintro b ⟨gift,member,_,grant,listed,inside⟩
  obtain ⟨event,logged,same⟩ := List.mem_filterMap.mp member
  refine ⟨gift.1,List.mem_filterMap.mpr ⟨event,logged,?_⟩,grant,listed,inside⟩
  cases event with
  | granted vssd remote =>
    cases same
    rfl
  | dispatched message => cases same
  | called blk call => cases same

end Reply

section Site
variable {World Dev Vblk Client γ : Type} [DecidableEq Client] {lib : Lightnvm World Dev Vblk}
  {set : List (DevName × NvmGeo)} {nameOf : Dev → DevName} {span : Vblk → Set PhysBlock}
  {content : World → PhysBlock → γ} {client : Client} {request : OcssdAllocRequest} {area : Set PhysBlock}
  {own : List (Client × OcssdAllocRequest × VirtualOcssd)} {endpoint : Endpoint Dev Vblk}
  {site : AllocSite World Dev Vblk Client}

def happens (client : Client) (site : AllocSite World Dev Vblk Client) :
    AllocMove Client → List (LoopEvent Client)
  | .serve cuts =>
    match site.wire.fires client cuts with
    | none => []
    | some (_,socket) => [.readable client socket]
  | .reply event => [.writable client event]
  | .other event => if event.client = client then [] else [event]
  | .ask | .recv _ | .hangup => []

-- How far the client has come, in its own state, on the wire and in the ledger.
inductive Stage (set : List (DevName × NvmGeo)) (client : Client) (request : OcssdAllocRequest)
    (own : List (Client × OcssdAllocRequest × VirtualOcssd)) (conn : OcssdConn Dev Vblk)
    (site : AllocSite World Dev Vblk Client) : Prop where
  | unsent (phase : site.user.phase = .unsent) (up : site.wire.up = [])
      (owed : site.wire.down ++ (chunks conn).flatten = []) (none' : own = [])
  | asked (phase : site.user.phase = .waiting) (up : site.wire.up = (askFrame request).wire)
      (owed : site.wire.down ++ (chunks conn).flatten = []) (none' : own = [])
  | refused (vssd : VirtualOcssd) (one : own = [(client,request,vssd)]) (none' : vssd.units = [])
      (phase : site.user.phase = .waiting) (up : site.wire.up = [])
      (owed : site.wire.down ++ (chunks conn).flatten = [])
  | granted (vssd : VirtualOcssd) (buf : Memory) (one : own = [(client,request,vssd)]) (units : vssd.units ≠ [])
      (made : ∃ manager : OcssdManager,Holds set manager ∧ vssd = (manager.serve request).2.1)
      (up : site.wire.up = []) (got : List UInt8)
      (bytes : got ++ (site.wire.down ++ (chunks conn).flatten) = replyBytes vssd buf)
      (phase : site.user.phase = .waiting ∧ got = [] ∨
        ∃ before : AllocClient,site.user = before.take got ∧ got.length ≤ bufferSize)

structure Shaking (set : List (DevName × NvmGeo)) (span : Vblk → Set PhysBlock) (client : Client)
    (request : OcssdAllocRequest) (area : Set PhysBlock) (own : List (Client × OcssdAllocRequest × VirtualOcssd))
    (endpoint : Endpoint Dev Vblk) (site : AllocSite World Dev Vblk Client) : Prop where
  seat : Seat set span client site.wire.loop endpoint
  asks : site.user.request = request
  array : arraySpan span endpoint.conn.blksArray ⊆ area ∪ {b | ∃ g ∈ own,b ∈ toldBlocks g.2.2}
  filled : (∀ g ∈ own,(g.2.2.serialize (fun _ => 0)).2 < 2^64) → [] ∉ chunks endpoint.conn
  stage : Stage set client request own endpoint.conn site

omit [DecidableEq Client] in
theorem ask_shaking (shaking : Shaking set span client request area own endpoint site) :
    Shaking set span client request area own endpoint
      {site with user := site.user.ask.1,wire := {site.wire with up := site.wire.up ++ site.user.ask.2}} := by
  have idle : site.user.phase ≠ .unsent → site.user.ask = (site.user,[]) := by
    intro other
    unfold AllocClient.ask
    split
    · exact absurd ‹_› other
    · rfl
    · rfl
  have same : site.user.phase ≠ .unsent → Shaking set span client request area own endpoint
      {site with user := site.user.ask.1,wire := {site.wire with up := site.wire.up ++ site.user.ask.2}} := by
    intro other
    rw [idle other,List.append_nil]
    exact shaking
  cases shaking.stage with
  | unsent phase up owed none' =>
    rw [ask_sends phase]
    refine ⟨shaking.seat,shaking.asks,shaking.array,shaking.filled,.asked rfl ?_ owed none'⟩
    rw [up,List.nil_append,shaking.asks]
  | asked phase => exact same (by rw [phase]; exact AllocPhase.noConfusion)
  | refused _ _ _ phase => exact same (by rw [phase]; exact AllocPhase.noConfusion)
  | granted vssd buf one units made up got bytes phase =>
    rcases phase with ⟨waits,_⟩ | ⟨before,took,_⟩
    · exact same (by rw [waits]; exact AllocPhase.noConfusion)
    · exact same (by rw [took]; exact AllocPhase.noConfusion)

omit [DecidableEq Client] in
theorem recv_shaking (shaking : Shaking set span client request area own endpoint site) (some' : site.wire.down ≠ [])
    (more : Nat) :
    Shaking set span client request area own endpoint
      {site with
        user := (site.user.recv site.wire.down more).1
        wire := {site.wire with down := (site.user.recv site.wire.down more).2}} := by
  have full : ∀ {rest : List UInt8},site.wire.down ++ rest ≠ [] := List.append_ne_nil_of_left_ne_nil some' _
  cases shaking.stage with
  | unsent _ _ owed => exact absurd owed full
  | asked _ _ owed => exact absurd owed full
  | refused _ _ _ _ _ owed => exact absurd owed full
  | granted vssd buf one units made up got bytes phase =>
    rcases phase with ⟨waits,nothing⟩ | ⟨before,took,_⟩
    · subst nothing
      rw [AllocClient.recv,waits]
      refine ⟨shaking.seat,shaking.asks,shaking.array,shaking.filled,.granted vssd buf one units made up
        (site.wire.down.take (min (more+1) bufferSize)) ?_ (.inr ⟨site.user,rfl,?_⟩)⟩
      · rw [←List.append_assoc,List.take_append_drop]
        exact bytes
      · exact (List.length_take_le _ _).trans (Nat.min_le_right _ _)
    · have held : site.user.recv site.wire.down more = (site.user,site.wire.down) := by rw [took]; rfl
      rw [held]
      exact shaking

omit [DecidableEq Client] in
theorem Stage.moved {conn conn' : OcssdConn Dev Vblk} (stage : Stage set client request own conn site)
    {site' : AllocSite World Dev Vblk Client} (user : site'.user = site.user) (up : site'.wire.up = site.wire.up)
    (owed : site'.wire.down ++ (chunks conn').flatten = site.wire.down ++ (chunks conn).flatten) :
    Stage set client request own conn' site' := by
  cases stage with
  | unsent phase up' owed' none' => exact .unsent (by rw [user,phase]) (up.trans up') (owed.trans owed') none'
  | asked phase up' owed' none' => exact .asked (by rw [user,phase]) (up.trans up') (owed.trans owed') none'
  | refused vssd one none' phase up' owed' =>
    exact .refused vssd one none' (by rw [user,phase]) (up.trans up') (owed.trans owed')
  | granted vssd buf one units made up' got bytes phase =>
    refine .granted vssd buf one units made (up.trans up') got ?_ ?_
    · rw [owed]
      exact bytes
    · rw [user]
      exact phase

def adds (lib : Lightnvm World Dev Vblk) (client : Client) (site : AllocSite World Dev Vblk Client)
    (move : AllocMove Client) : List (Client × OcssdAllocRequest × VirtualOcssd) :=
  (ledger lib site.wire.loop (happens client site move)).filter (fun g => g.1 = client)

theorem read_told (seat : Seat set span client site.wire.loop endpoint) (going : site.wire.loop.ended = false)
    (event : endpoint.conn.evRead = true) {socket : Socket Errno} {plan : List (ReadEvent Errno)}
    (called : processIncomingRequests lib endpoint.conn ⟨site.wire.loop.manager,site.wire.loop.world,[]⟩ socket =
      ⟨serveFrame lib endpoint.conn ⟨site.wire.loop.manager,site.wire.loop.world,[]⟩ (askFrame request),⟨[],plan⟩⟩) :
    (ledger lib site.wire.loop [.readable client socket]).filter (fun g => g.1 = client) =
      [(client,request,(site.wire.loop.manager.serve request).2.1)] := by
  have asks := @alloc_asks World Dev Vblk lib ⟨site.wire.loop.manager,site.wire.loop.world,[]⟩ rfl
    {endpoint.conn with messageBuf := store endpoint.conn.messageBuf 0 (allocWire request)} (allocWire request) request
    (alloc_roundtrip request)
  rw [serve_ask] at called
  have reading : site.wire.loop.reading lib (.readable client socket) = some (processIncomingRequests lib endpoint.conn
      ⟨site.wire.loop.manager,site.wire.loop.world,[]⟩ socket) := by
    unfold EventLoop.reading
    simp only [seat.found]
    rw [if_pos ⟨going,event,by rw [seat.owner]; rfl⟩]
  rw [called] at reading
  rw [ledger,reading,ledger,entries]
  simp [asks.came,asks.given,LoopEvent.client]

variable (rules : DeviceRules lib set nameOf span content) (fit : DevicesFit set)
  (fields : ∀ d ∈ set,FieldsHold lib d.2)
include rules fit fields

theorem read_shaking (shaking : Shaking set span client request area own endpoint site) (none' : own = [])
    (phase : site.user.phase = .waiting) (owed : site.wire.down ++ (chunks endpoint.conn).flatten = [])
    (going : site.wire.loop.ended = false) (event : endpoint.conn.evRead = true) {socket : Socket Errno}
    {plan : List (ReadEvent Errno)}
    (called : processIncomingRequests lib endpoint.conn ⟨site.wire.loop.manager,site.wire.loop.world,[]⟩ socket =
      ⟨serveFrame lib endpoint.conn ⟨site.wire.loop.manager,site.wire.loop.world,[]⟩ (askFrame request),⟨[],plan⟩⟩)
    (running : (site.wire.loop.serve lib (.readable client socket)).1.ended = false) :
    ∃ endpoint',Shaking set span client request area
      (own ++ (ledger lib site.wire.loop [.readable client socket]).filter (fun g => g.1 = client)) endpoint'
      {site with wire := {site.wire.callsBack lib client (.readable client socket) with up := []}} := by
  have seat := shaking.seat
  have tenants := serve_tenants rules fit fields (fun _ => seat.tenants) _ running
  have told := read_told seat going event called
  have step := seat.reads lib going event socket
  have confined := (call_confined rules fit fields seat.tenants.holds seat.boundary.held site.wire.loop.world socket).1
  have asks := @alloc_asks World Dev Vblk lib ⟨site.wire.loop.manager,site.wire.loop.world,[]⟩ rfl
    {endpoint.conn with messageBuf := store endpoint.conn.messageBuf 0 (allocWire request)} (allocWire request) request
    (alloc_roundtrip request)
  have replied := alloc_replied lib (alloc_roundtrip request)
    {endpoint.conn with messageBuf := store endpoint.conn.messageBuf 0 (allocWire request)}
    (show ManagerValid ((⟨site.wire.loop.manager,site.wire.loop.world,[]⟩ : Session World Vblk).log
      (.dispatched (allocWire request))).manager from seat.tenants.holds.valid)
  have boundary := (serveFrame_boundary lib seat.boundary (frame_inside endpoint.conn request)
    (⟨site.wire.loop.manager,site.wire.loop.world,[]⟩ : Session World Vblk)).1
  rw [serve_ask] at boundary called
  rw [called] at confined
  rw [step] at tenants running
  unfold EventLoop.onRead at tenants running
  rw [called] at tenants running
  have owed' : (site.wire.down ++ received client none) ++ (chunks endpoint.conn).flatten = [] := by
    rw [received,List.append_nil]
    exact owed
  have empty : [] ∉ chunks endpoint.conn := shaking.filled (by rw [none']; exact fun _ member => by cases member)
  have noted := noted_armed seat.armed (store endpoint.conn.messageBuf 0 (allocWire request))
  generalize processAllocRequest lib _ _ (allocWire request) = r at asks replied boundary confined tenants running called
  have array : arraySpan span r.conn.blksArray ⊆ area ∪ {b | ∃ g ∈ own ++
      [(client,request,(site.wire.loop.manager.serve request).2.1)],b ∈ toldBlocks g.2.2} := by
    refine (arraySpan_inside confined.array).trans (Set.union_subset ?_ ?_)
    · refine shaking.array.trans (Set.union_subset_union_right _ ?_)
      rintro b ⟨g,member,inside⟩
      exact ⟨g,List.mem_append_left _ member,inside⟩
    · refine (remote_told r.session.events).trans ?_
      rintro b ⟨vssd,member,inside⟩
      rw [asks.given,List.mem_singleton] at member
      subst member
      exact .inr ⟨_,List.mem_append_right _ (List.mem_singleton.mpr rfl),inside⟩
  rw [told]
  unfold RemoteSite.callsBack
  rw [step]
  unfold EventLoop.onRead
  rw [called]
  have seat' : Armed r.conn → Seat set span client _ {endpoint with conn := r.conn} := fun armed =>
    ⟨tenants,Function.update_self _ _ _,boundary,armed,fun other e different found =>
      seat.quiet other e different ((Function.update_of_ne different _ _).symm.trans found)⟩
  cases replied with
  | ends ending =>
    dsimp only at running
    rw [ending] at running
    cases running
  | refuses same empty' =>
    refine ⟨{endpoint with conn := r.conn},seat' ?_,shaking.asks,array,?_,.refused _ ?_ empty' phase rfl ?_⟩
    · rw [same]
      exact noted
    · rw [same]
      exact fun _ => empty
    · rw [none']
      rfl
    · rw [same]
      exact owed'
  | replies units conn' output buf queued =>
    have queue : chunks conn' = chunks endpoint.conn := congrArg (List.map unsent) output.writeq
    refine ⟨{endpoint with conn := r.conn},seat' ?_,shaking.asks,array,?_,
      .granted _ buf ?_ units ⟨_,seat.tenants.holds,rfl⟩ rfl [] ?_ (.inl ⟨phase,rfl⟩)⟩
    · rw [queued]
      refine queue_armed ⟨?_,?_⟩ _ _
      · rw [output.evWrite,output.writeq]
        exact noted.event
      · rw [output.writeq]
        exact noted.offsets
    · intro small
      have word := small _ (List.mem_append_right _ (List.mem_singleton.mpr rfl))
      rw [queued,queue_chunks,queue,List.mem_append,not_or]
      exact ⟨empty,fun only => reply_some buf word (List.mem_singleton.mp only).symm⟩
    · rw [none']
      rfl
    · rw [queued,queue_bytes,queue,List.nil_append,←List.append_assoc]
      exact congrArg (fun bytes => bytes ++ replyBytes _ buf) owed'

-- The request comes whole, or it is cut off by a read that would block.
theorem serve_shaking (shaking : Shaking set span client request area own endpoint site) (cuts : List Nat)
    (running : (site.step lib client (.serve cuts)).wire.loop.ended = false) :
    (∃ endpoint',Shaking set span client request area (own ++ adds lib client site (.serve cuts)) endpoint'
      (site.step lib client (.serve cuts))) ∨
      own = [] ∧ Gone (site.step lib client (.serve cuts)).wire.loop client := by
  simp only [AllocSite.step,RemoteSite.step,RemoteSite.reads,adds,happens] at running ⊢
  cases fires : site.wire.fires client cuts with
  | none =>
    refine .inl ⟨endpoint,?_⟩
    rw [ledger,List.filter_nil,List.append_nil]
    exact shaking
  | some pair =>
    obtain ⟨e,socket⟩ := pair
    simp only [fires] at running
    obtain ⟨guard,rfl⟩ := fires_some.mp fires
    cases guard.found.symm.trans shaking.seat.found
    have some' := guard.some_up
    cases shaking.stage with
    | unsent _ up => exact absurd up some'
    | refused _ _ _ _ up => exact absurd up some'
    | granted _ _ _ _ _ up => exact absurd up some'
    | asked phase up owed none' =>
      have front : site.wire.up ++ [] = (askFrame request).wire ++ [] := by rw [up]
      cases first_call shaking.seat.boundary (frame_inside endpoint.conn request)
        (⟨site.wire.loop.manager,site.wire.loop.world,[]⟩ : Session World Vblk) front (pieces_bytes cuts) guard.come
        .eagain with
      | answers _ left plan missing same =>
        rw [List.append_nil] at missing
        rw [missing,WouldBlock.extend] at same
        refine .inl ?_
        dsimp only
        rw [same]
        exact read_shaking rules fit fields shaking none' phase owed guard.going guard.event same running
      | starves _ _ gone => exact .inr ⟨none',shaking.seat.lost guard.going guard.event gone⟩

theorem reply_shaking (shaking : Shaking set span client request area own endpoint site) (event : WriteEvent)
    (running : (site.step lib client (.reply event)).wire.loop.ended = false) :
    ∃ endpoint',Shaking set span client request area (own ++ adds lib client site (.reply event)) endpoint'
      (site.step lib client (.reply event)) := by
  obtain ⟨conn,seat,array,bytes,filled,_⟩ := reply_seat rules fit fields shaking.seat event running
  have silent : adds lib client site (.reply event) = [] := rfl
  rw [silent,List.append_nil]
  refine ⟨{endpoint with conn := conn},seat,shaking.asks,?_,fun small => filled (shaking.filled small),
    shaking.stage.moved rfl rfl ?_⟩
  · rw [array]
    exact shaking.array
  · rw [←bytes,←List.append_assoc]
    rfl

theorem other_shaking (shaking : Shaking set span client request area own endpoint site) (event : LoopEvent Client)
    (running : (site.step lib client (.other event)).wire.loop.ended = false) :
    ∃ endpoint',Shaking set span client request area (own ++ adds lib client site (.other event)) endpoint'
      (site.step lib client (.other event)) := by
  simp only [AllocSite.step,RemoteSite.step,adds,happens] at running ⊢
  split
  · exact ⟨endpoint,by rw [ledger,List.filter_nil,List.append_nil]; exact shaking⟩
  rename_i foreign
  rw [if_neg foreign] at running
  obtain ⟨seat,nothing⟩ := other_seat rules fit fields shaking.seat foreign running
  have silent : (ledger lib site.wire.loop [event]).filter (fun g => g.1 = client) = [] := by
    refine List.filter_eq_nil_iff.mpr fun g member mine => foreign ?_
    rw [ledger,ledger,List.append_nil] at member
    exact (entries_client member).symm.trans (of_decide_eq_true mine)
  rw [silent,List.append_nil]
  simp only [callsBack,nothing,List.append_nil]
  exact ⟨endpoint,seat,shaking.asks,shaking.array,shaking.filled,shaking.stage.moved rfl rfl rfl⟩

theorem step_shaking (shaking : Shaking set span client request area own endpoint site) (move : AllocMove Client)
    (running : (site.step lib client move).wire.loop.ended = false) :
    (∃ endpoint',Shaking set span client request area (own ++ adds lib client site move) endpoint'
      (site.step lib client move)) ∨
      (∃ cuts,move = .serve cuts) ∧ own = [] ∧ Gone (site.step lib client move).wire.loop client := by
  cases move with
  | ask =>
    rw [show adds lib client site .ask = [] from rfl,List.append_nil]
    exact .inl ⟨endpoint,ask_shaking shaking⟩
  | recv more =>
    rw [show adds lib client site (.recv more) = [] from rfl,List.append_nil]
    refine .inl ⟨endpoint,?_⟩
    simp only [AllocSite.step]
    split
    · exact shaking
    · exact recv_shaking shaking ‹_› more
  | hangup =>
    rw [show adds lib client site .hangup = [] from rfl,List.append_nil]
    simp only [AllocSite.step,shaking.seat.found,shaking.seat.boundary.closed,Bool.false_eq_true,false_and,if_false]
    exact .inl ⟨endpoint,shaking⟩
  | serve cuts => exact (serve_shaking rules fit fields shaking cuts running).imp id fun lost => ⟨⟨cuts,rfl⟩,lost⟩
  | reply event => exact .inl (reply_shaking rules fit fields shaking event running)
  | other event => exact .inl (other_shaking rules fit fields shaking event running)

end Site

end OcssdServer.AllocHandshake
