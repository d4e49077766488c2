import Mathlib.Data.Prod.Lex
import OcssdServer.AllocHandshake
import OcssdServer.Descents

namespace OcssdServer.AllocProgress
open ByteBuffers SocketFill MachineRuns ManagerGrants BlockOwnership ServeLoop RequestOutcomes RequestFraming
  WouldBlock RequestCodec ReplyStream TenantIsolation DescriptorEvents LoopTenants ClientSeat BlockCalls RemoteAccess
  GrantLedger AllocHandshake RemoteSite

variable {World Dev Vblk Client γ : Type}

def ownMove : AllocMove Client → Bool
  | .other _ => false
  | .ask | .recv _ | .hangup | .serve _ | .reply _ => true

def Drained (client : Client) (site : AllocSite World Dev Vblk Client) : Prop :=
  site.wire.up = [] ∧ site.wire.down = [] ∧ queued site.wire.loop client = 0

-- Nothing is on its way that the client could still get: all of it has come, or
-- its buffer is full, or it waits for nothing.
def Settled (client : Client) (site : AllocSite World Dev Vblk Client) : Prop :=
  match site.user.phase with
  | .unsent => False
  | .waiting => Drained client site
  | .holds size _ => size = bufferSize ∨ Drained client site

-- How far the request is: not sent, on its way, taken up, answered.
def station (site : AllocSite World Dev Vblk Client) : Nat :=
  match site.user.phase with
  | .unsent => 3
  | .waiting => if site.wire.up = [] then 1 else 2
  | .holds _ _ => 0

def left (client : Client) (site : AllocSite World Dev Vblk Client) : Nat ×ₗ Nat :=
  toLex (station site,queued site.wire.loop client)

section Requests
variable {lib : Lightnvm World Dev Vblk} {set : List (DevName × NvmGeo)} {nameOf : Dev → DevName}
  {span : Vblk → Set PhysBlock} {content : World → PhysBlock → γ}

theorem ask_returns (rules : DeviceRules lib set nameOf span content) {session : Session World Vblk}
    (holds : Holds set session.manager) {message : List UInt8} {request : OcssdAllocRequest}
    (decoded : OcssdAllocRequest.ofMessage message = some request) (conn : OcssdConn Dev Vblk) :
    ∃ ret,(processAllocRequest lib conn session message).ending = .returned ret := by
  cases alloc_outcome lib holds.valid decoded conn with
  | refused _ _ _ ending => exact ⟨_,ending⟩
  | answers _ _ _ _ _ _ _ ending => exact ⟨_,ending⟩
  | fails unit first _ closed =>
    have member : unit ∈ session.manager.ocssds := by
      unfold firstOpen at first
      split at first
      · cases first
      · exact List.mem_of_find?_eq_some first
    obtain ⟨dev,opened,_⟩ := rules.opens _ (unit_device holds member) session.world
    rw [closed] at opened
    cases opened

theorem ask_some (request : OcssdAllocRequest) : (askFrame request).wire ≠ [] :=
  List.append_ne_nil_of_left_ne_nil (List.ne_nil_of_length_pos (by rw [(askFrame request).size]; decide)) _

end Requests

section Moves
variable [DecidableEq Client] {lib : Lightnvm World Dev Vblk} {set : List (DevName × NvmGeo)} {nameOf : Dev → DevName}
  {span : Vblk → Set PhysBlock} {content : World → PhysBlock → γ} {client : Client} {request : OcssdAllocRequest}
  {area : Set PhysBlock} {own : List (Client × OcssdAllocRequest × VirtualOcssd)} {endpoint : Endpoint Dev Vblk}
  {site : AllocSite World Dev Vblk Client}

theorem ask_less (fresh : site.user.phase = .unsent) :
    left client (site.step lib client .ask) < left client site := by
  refine Prod.Lex.toLex_lt_toLex.mpr (.inl ?_)
  rw [AllocSite.step,ask_sends fresh]
  simp only [station,fresh]
  split <;> omega

theorem serve_less (rules : DeviceRules lib set nameOf span content)
    (seat : Seat set span client site.wire.loop endpoint) (going : site.wire.loop.ended = false)
    (phase : site.user.phase = .waiting) (up : site.wire.up = (askFrame request).wire) : ∃ cuts,
    left client (site.step lib client (.serve cuts)) < left client site ∧
      (site.step lib client (.serve cuts)).user = site.user ∧
      (site.step lib client (.serve cuts)).wire.loop.ended = false ∧
      connected (site.step lib client (.serve cuts)).wire.loop client = true ∧
      adds lib client site (.serve cuts) = [(client,request,(site.wire.loop.manager.serve request).2.1)] := by
  have some' : site.wire.up ≠ [] := by
    rw [up]
    exact ask_some request
  have event := (seat.tenants.registered _ _ seat.found).mpr seat.boundary.closed
  obtain ⟨cuts,socket,plan,fires,_,same⟩ := seat.whole_served lib going
    (AllocHandshake.frame_inside endpoint.conn request) (up.trans (List.append_nil _).symm)
  have boundary := (serveFrame_boundary lib seat.boundary (frame_inside endpoint.conn request)
    (⟨site.wire.loop.manager,site.wire.loop.world,[]⟩ : Session World Vblk)).1
  obtain ⟨ret,ending⟩ := @ask_returns _ _ _ _ lib _ _ _ _ rules
    ((⟨site.wire.loop.manager,site.wire.loop.world,[]⟩ : Session World Vblk).log (.dispatched (allocWire request)))
    seat.tenants.holds _ _ (alloc_roundtrip request)
    {endpoint.conn with messageBuf := store endpoint.conn.messageBuf 0 (allocWire request)}
  rw [←serve_ask] at ending
  have step := seat.reads lib going event socket
  rw [EventLoop.onRead,same] at step
  have next : site.step lib client (.serve cuts) =
      {site with wire := {site.wire.callsBack lib client (.readable client socket) with up := []}} := by
    rw [AllocSite.step,RemoteSite.step,reads_fired fires,same]
  refine ⟨cuts,?_,?_,?_,?_,?_⟩
  · rw [next]
    refine Prod.Lex.toLex_lt_toLex.mpr (.inl ?_)
    simp only [station,phase,if_true]
    rw [if_neg some']
    exact Nat.lt_succ_self _
  · rw [next]
  · rw [next,callsBack,step]
    exact congrArg CallEnd.ends ending
  · rw [next,callsBack,step]
    simp [connected,boundary.closed]
  · rw [adds,happens,fires]
    exact read_told seat going event same

theorem recv_settles (phase : site.user.phase = .waiting) (up : site.wire.up = []) (some' : site.wire.down ≠ [])
    (sent : queued site.wire.loop client = 0) :
    left client (site.step lib client (.recv (bufferSize-1))) < left client site ∧
      Settled client (site.step lib client (.recv (bufferSize-1))) := by
  rw [AllocSite.step,if_neg some',AllocClient.recv,phase]
  constructor
  · refine Prod.Lex.toLex_lt_toLex.mpr (.inl ?_)
    simp only [station,phase,up,if_true,AllocClient.take]
    exact Nat.one_pos
  · have size : min (bufferSize-1+1) bufferSize = bufferSize := by decide
    rw [size]
    by_cases long : bufferSize ≤ site.wire.down.length
    · refine .inl ?_
      rw [List.length_take,Nat.min_eq_left long]
    · exact .inr ⟨up,List.drop_eq_nil_of_le (Nat.le_of_not_le long),sent⟩

-- A handshake on its way to a grant, while the server goes on: either the request
-- is still to be served, and the allocator would answer it so, or it was.
structure Heading (set : List (DevName × NvmGeo)) (span : Vblk → Set PhysBlock) (client : Client)
    (request : OcssdAllocRequest) (area : Set PhysBlock) (grant : VirtualOcssd)
    (own : List (Client × OcssdAllocRequest × VirtualOcssd)) (site : AllocSite World Dev Vblk Client) : Prop where
  shaking : ∃ endpoint,Shaking set span client request area own endpoint site
  unserved : own = [] → (site.wire.loop.manager.serve request).2.1 = grant
  served : ∀ g ∈ own,g = (client,request,grant)
  running : site.wire.loop.ended = false
  received : ∀ size vssd,site.user.phase = .holds size vssd → Settled client site

variable {grant : VirtualOcssd} (rules : DeviceRules lib set nameOf span content) (fit : DevicesFit set)
  (fields : ∀ d ∈ set,FieldsHold lib d.2)
include rules fit fields

theorem silent_heading (heading : Heading set span client request area grant own site) (move : AllocMove Client)
    (other : ∀ cuts,move ≠ .serve cuts) (silent : adds lib client site move = [])
    (manager : (site.step lib client move).wire.loop.manager = site.wire.loop.manager)
    (running : (site.step lib client move).wire.loop.ended = false)
    (received : ∀ size vssd,(site.step lib client move).user.phase = .holds size vssd →
      Settled client (site.step lib client move)) :
    Heading set span client request area grant (own ++ adds lib client site move) (site.step lib client move) := by
  obtain ⟨endpoint,shaking⟩ := heading.shaking
  cases step_shaking rules fit fields shaking move running with
  | inl next =>
    rw [silent,List.append_nil] at next ⊢
    exact ⟨next,by rw [manager]; exact heading.unserved,heading.served,running,received⟩
  | inr lost =>
    obtain ⟨cuts,same⟩ := lost.1
    exact absurd same (other cuts)

theorem waiting_goes (heading : Heading set span client request area grant own site)
    (phase : site.user.phase = .waiting) (up : site.wire.up = []) :
    Settled client site ∨ ∃ move,ownMove move = true ∧
      Heading set span client request area grant (own ++ adds lib client site move) (site.step lib client move) ∧
      left client (site.step lib client move) < left client site := by
  obtain ⟨endpoint,shaking⟩ := heading.shaking
  by_cases queue : endpoint.conn.writeq = []
  · have sent : queued site.wire.loop client = 0 := by
      rw [queued,shaking.seat.found,Option.map_some,Option.getD_some,chunks,queue]
      rfl
    by_cases down : site.wire.down = []
    · refine .inl ?_
      unfold Settled
      rw [phase]
      exact ⟨up,down,sent⟩
    · obtain ⟨less,settled⟩ := @recv_settles _ _ _ _ _ lib client site phase up down sent
      refine .inr ⟨.recv (bufferSize-1),rfl,?_,less⟩
      have same : (site.step lib client (.recv (bufferSize-1))).wire.loop = site.wire.loop := by
        rw [AllocSite.step,if_neg down]
      exact silent_heading rules fit fields heading _ (fun _ served => by cases served) rfl (by rw [same])
        (by rw [same]; exact heading.running) fun _ _ _ => settled
  · obtain ⟨fewer,still⟩ := @reply_drains _ _ _ _ lib _ _ _ _ _ _ shaking.seat heading.running queue
    refine .inr ⟨.reply (.accepts 1),rfl,
      silent_heading rules fit fields heading _ (fun _ served => by cases served) rfl ?_ still ?_,?_⟩
    · have step := serve_step lib site.wire.loop (.writable client (.accepts 1))
      change (site.wire.loop.serve lib (.writable client (.accepts 1))).1.manager = _
      generalize site.wire.loop.serve lib (.writable client (.accepts 1)) = next at step ⊢
      cases step with
      | rests _ => rfl
      | writes _ _ _ _ _ _ => rfl
    · intro size vssd holds
      rw [show (site.step lib client (.reply (.accepts 1))).user = site.user from rfl,phase] at holds
      cases holds
    · refine Prod.Lex.toLex_lt_toLex.mpr (.inr ⟨?_,fewer⟩)
      rfl

theorem goes_on (heading : Heading set span client request area grant own site) :
    Settled client site ∨ ∃ move,ownMove move = true ∧
      Heading set span client request area grant (own ++ adds lib client site move) (site.step lib client move) ∧
      left client (site.step lib client move) < left client site := by
  obtain ⟨endpoint,shaking⟩ := heading.shaking
  cases shaking.stage with
  | unsent phase =>
    refine .inr ⟨.ask,rfl,silent_heading rules fit fields heading .ask nofun rfl rfl heading.running ?_,
      ask_less phase⟩
    intro size vssd holds
    rw [AllocSite.step,ask_sends phase] at holds
    cases holds
  | asked phase up _ none' =>
    obtain ⟨cuts,less,user,still,open',told⟩ := serve_less rules shaking.seat heading.running phase up
    refine .inr ⟨.serve cuts,rfl,?_,less⟩
    cases serve_shaking rules fit fields shaking cuts still with
    | inl next =>
      rw [told,heading.unserved none',none',List.nil_append] at next ⊢
      refine ⟨next,?_,?_,still,?_⟩
      · exact fun empty => absurd empty (List.cons_ne_nil _ _)
      · exact fun g member => List.mem_singleton.mp member
      · intro size vssd holds
        rw [user,phase] at holds
        cases holds
    | inr lost =>
      rw [lost.2.apart] at open'
      cases open'
  | refused _ _ _ phase up => exact waiting_goes rules fit fields heading phase up
  | granted _ _ _ _ _ up _ _ phase =>
    rcases phase with ⟨waits,_⟩ | ⟨before,took,_⟩
    · exact waiting_goes rules fit fields heading waits up
    · exact .inl (heading.received _ _ (by rw [took]; rfl))

variable {start : AllocSite World Dev Vblk Client}

end Moves

end OcssdServer.AllocProgress
