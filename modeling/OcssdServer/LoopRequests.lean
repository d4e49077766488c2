import OcssdServer.Descents
import OcssdServer.DescriptorEvents
import OcssdServer.RequestOutcomes
import OcssdServer.ResourceTable

namespace OcssdServer.LoopRequests
open SocketFill MachineRuns FirstFit ChannelBalance UnitGrants ManagerGrants BlockOwnership DeviceEffects ServeLoop
  RequestOutcomes DescriptorEvents

section Calls
variable {World Dev Vblk : Type} {lib : Lightnvm World Dev Vblk}

def asks : Event Vblk → Option OcssdAllocRequest
  | .dispatched message => OcssdAllocRequest.ofMessage message
  | .granted _ _ | .called _ _ => none

def asked (events : List (Event Vblk)) : List OcssdAllocRequest :=
  if events.any Event.isGranted then events.filterMap asks else []

-- The virtual SSD of a grant, which may be an empty one.
def handed : Event Vblk → Option VirtualOcssd
  | .granted vssd _ => some vssd
  | .dispatched _ | .called _ _ => none

inductive Served (session : Session World Vblk) (r : Reply World Dev Vblk) : Prop where
  | nothing (manager : r.session.manager = session.manager) (quiet : r.session.events.any Event.isGranted = false)
      (nothing' : r.session.events.filterMap handed = [])
  | asks (request : OcssdAllocRequest) (came : asked r.session.events = [request])
      (manager : r.session.manager = (session.manager.serve request).1)
      (given : r.session.events.filterMap handed = [(session.manager.serve request).2.1])
      (loud : r.session.events.any Event.isGranted = true)
      (refused : r.ending = .returned (-1) → r.session.manager.ocssds = session.manager.ocssds)
      (ending : r.ending = .returned (-1) ∨ r.ending = .returned 0 ∨ r.ending = .threw)

-- What a decoded request leaves behind, whatever becomes of it.
structure Asks (session : Session World Vblk) (request : OcssdAllocRequest) (r : Reply World Dev Vblk) : Prop where
  came : asked r.session.events = [request]
  manager : r.session.manager = (session.manager.serve request).1
  given : r.session.events.filterMap handed = [(session.manager.serve request).2.1]
  loud : r.session.events.any Event.isGranted = true

theorem alloc_asks {session : Session World Vblk} (first : session.events = []) (conn : OcssdConn Dev Vblk)
    {message : List UInt8} {request : OcssdAllocRequest} (decoded : OcssdAllocRequest.ofMessage message = some request) :
    Asks session request (processAllocRequest lib conn (session.log (.dispatched message)) message) := by
  obtain ⟨worked,_⟩ := @allocRequest_worked World Dev Vblk lib _ _ (respects_all lib) conn
    (session.log (.dispatched message)) message request decoded (fun _ _ _ _ _ _ _ _ _ _ => trivial)
    (fun _ _ => trivial)
  obtain ⟨calls,grown,quiet⟩ := worked.calls
  have events : (processAllocRequest lib conn (session.log (.dispatched message)) message).session.events =
      .dispatched message :: .granted (session.manager.allocOcssdResource .new request).vssd
        (decide ((session.manager.allocOcssdResource .new request).request.remote ≠ 0)) :: calls := by
    rw [grown]
    simp [Session.log,first]
  have silent : calls.filterMap asks = [] := by
    refine List.filterMap_eq_nil_iff.mpr fun event member => ?_
    obtain ⟨blk,call,rfl,_⟩ := quiet event member
    rfl
  have nobody : calls.filterMap handed = [] := by
    refine List.filterMap_eq_nil_iff.mpr fun event member => ?_
    obtain ⟨blk,call,rfl,_⟩ := quiet event member
    rfl
  have loud : (processAllocRequest lib conn (session.log (.dispatched message)) message).session.events.any
      Event.isGranted = true := by
    rw [events]
    simp [Event.isGranted]
  refine ⟨?_,worked.manager,?_,loud⟩
  · rw [asked,if_pos loud,events,List.filterMap_cons,List.filterMap_cons]
    simp only [asks,decoded,silent]
  · rw [events,List.filterMap_cons,List.filterMap_cons]
    simp only [handed,nobody]
    rfl

theorem alloc_served {session : Session World Vblk} (valid : ManagerValid session.manager)
    (first : session.events = []) (conn : OcssdConn Dev Vblk) (message : List UInt8) :
    Served session (processAllocRequest lib conn (session.log (.dispatched message)) message) := by
  cases decoded : OcssdAllocRequest.ofMessage message with
  | none =>
    unfold processAllocRequest
    rw [decoded]
    refine .nothing rfl ?_ ?_
    · simp [Session.log,first,Event.isGranted]
    · simp [Session.log,first,handed]
  | some request =>
    have valid' : ManagerValid (session.log (.dispatched message)).manager := valid
    have asks := @alloc_asks World Dev Vblk lib session first conn message request decoded
    refine .asks request asks.came asks.manager asks.given asks.loud ?_ ?_
    · intro ending
      cases alloc_outcome lib valid' decoded conn with
      | refused _ _ ocssds => exact ocssds
      | answers _ _ _ _ _ _ _ answered => rw [answered] at ending; cases ending
      | fails _ _ _ _ _ _ threw => rw [threw] at ending; cases ending
    · cases alloc_outcome lib valid' decoded conn with
      | refused _ _ _ ending => exact .inl ending
      | answers _ _ _ _ _ _ _ ending => exact .inr (.inl ending)
      | fails _ _ _ _ _ _ ending => exact .inr (.inr ending)

theorem call_served {session : Session World Vblk} (valid : ManagerValid session.manager) (first : session.events = [])
    (conn : OcssdConn Dev Vblk) (socket : Socket Errno) :
    Served session (processIncomingRequests lib conn session socket).toReply := by
  cases call_effect lib conn session socket with
  | idle same => exact .nothing (by rw [same]) (by rw [same,first]; rfl) (by rw [same,first]; rfl)
  | allocates message conn' _ served =>
    rw [served]
    exact alloc_served valid first conn' message
  | operates message conn' _ served =>
    obtain ⟨manager,_,calls,grown,quiet⟩ := served.worked _ _ (respects_all lib) (fun _ _ => trivial)
    have events : (processIncomingRequests lib conn session socket).session.events = .dispatched message :: calls := by
      rw [grown]
      simp [Session.log,first]
    have plain : ∀ event ∈ Event.dispatched message :: calls,Event.isGranted event = false ∧ handed event = none := by
      intro event member
      rcases List.mem_cons.mp member with rfl | later
      · exact ⟨rfl,rfl⟩
      · obtain ⟨blk,call,rfl,_⟩ := quiet event later
        exact ⟨rfl,rfl⟩
    rw [←events] at plain
    refine .nothing manager (List.any_eq_false.mpr fun event member => ?_)
      (List.filterMap_eq_nil_iff.mpr fun event member => (plain event member).2)
    rw [(plain event member).1]
    exact Bool.false_ne_true

end Calls

section Loop
variable {World Dev Vblk Client : Type} [DecidableEq Client] (lib : Lightnvm World Dev Vblk)

def callEvents : EventLoop World Dev Vblk Client → List (LoopEvent Client) → List (List (Event Vblk))
  | _,[] => []
  | loop,event :: rest =>
    ((loop.reading lib event).map (·.session.events)).toList ++ callEvents (loop.serve lib event).1 rest

variable {lib} {loop : EventLoop World Dev Vblk Client}

-- An event calls on_read, or it leaves the manager alone.
theorem serve_reading (loop : EventLoop World Dev Vblk Client) (event : LoopEvent Client) :
    (loop.reading lib event = none ∧ (loop.serve lib event).1.manager = loop.manager) ∨
      ∃ conn socket,loop.reading lib event =
        some (processIncomingRequests lib conn ⟨loop.manager,loop.world,[]⟩ socket) ∧
        (loop.serve lib event).1.manager =
          (processIncomingRequests lib conn ⟨loop.manager,loop.world,[]⟩ socket).session.manager ∧
        (loop.serve lib event).1.ended =
          (processIncomingRequests lib conn ⟨loop.manager,loop.world,[]⟩ socket).ending.ends := by
  cases event with
  | acceptable client fd messageBuf =>
    refine .inl ⟨rfl,?_⟩
    unfold EventLoop.serve EventLoop.onAccept
    split
    · rfl
    · dsimp only
      split <;> rfl
  | writable client event =>
    refine .inl ⟨rfl,?_⟩
    unfold EventLoop.serve
    split
    · rfl
    · dsimp only
      split
      · rfl
      · split <;> rfl
  | readable client socket =>
    simp only [EventLoop.reading,EventLoop.serve]
    cases found : loop.clients client with
    | none => exact .inl ⟨rfl,by split <;> rfl⟩
    | some endpoint =>
      dsimp only
      by_cases fires : loop.ended = false ∧ endpoint.conn.evRead = true ∧ (loop.owner endpoint.fd).isSome = true
      · rw [if_pos fires,fires.1,if_neg Bool.false_ne_true,if_pos fires.2]
        exact .inr ⟨endpoint.conn,socket,rfl,rfl,rfl⟩
      · rw [if_neg fires]
        refine .inl ⟨rfl,?_⟩
        split
        · rfl
        · rename_i going
          rw [if_neg (fun both => fires ⟨Bool.eq_false_of_not_eq_true going,both⟩)]

theorem serve_requests (valid : ManagerValid loop.manager) (event : LoopEvent Client) :
    let calls := ((loop.reading lib event).map (·.session.events)).toList
    (loop.serve lib event).1.manager = final OcssdManager.serve loop.manager (calls.flatMap asked) ∧
      calls.flatMap (·.filterMap handed) =
        (trace OcssdManager.serve loop.manager (calls.flatMap asked)).map (fun e => e.2.1) := by
  rcases serve_reading loop event with ⟨none',same⟩ | ⟨conn,socket,called,manager,_⟩
  · rw [none']
    exact ⟨same,rfl⟩
  · have valid' : ManagerValid (⟨loop.manager,loop.world,[]⟩ : Session World Vblk).manager := valid
    have served := @call_served World Dev Vblk lib _ valid' rfl conn socket
    rw [called,manager]
    generalize processIncomingRequests lib conn ⟨loop.manager,loop.world,[]⟩ socket = r at served
    simp only [Option.map_some,Option.toList_some,List.flatMap_singleton]
    cases served with
    | nothing manager quiet nothing' =>
      rw [nothing',asked,quiet,if_neg Bool.false_ne_true]
      exact ⟨manager,rfl⟩
    | asks request came manager given =>
      rw [came,given]
      exact ⟨manager,rfl⟩

theorem serve_silent (valid : ManagerValid loop.manager) {event : LoopEvent Client}
    (running : (loop.serve lib event).1.ended = false) (silent : loop.publishes lib event = false) :
    (loop.serve lib event).1.manager.ocssds = loop.manager.ocssds := by
  unfold EventLoop.publishes at silent
  rcases serve_reading loop event with ⟨_,same⟩ | ⟨conn,socket,called,manager,ended⟩
  · rw [same]
  · have valid' : ManagerValid (⟨loop.manager,loop.world,[]⟩ : Session World Vblk).manager := valid
    have served := @call_served World Dev Vblk lib _ valid' rfl conn socket
    rw [called] at silent
    rw [ended] at running
    rw [manager]
    generalize processIncomingRequests lib conn ⟨loop.manager,loop.world,[]⟩ socket = r at served silent running
    cases served with
    | nothing manager => rw [manager]
    | asks request _ _ _ loud refused ending =>
      rcases ending with minus | zero | threw
      · exact refused minus
      · simp [zero,loud] at silent
      · rw [threw] at running
        cases running

theorem serve_stays_valid (valid : ManagerValid loop.manager) (event : LoopEvent Client) :
    ManagerValid (loop.serve lib event).1.manager := by
  rw [(serve_requests valid event).1]
  exact final_invariant serve_valid valid _

theorem run_requests (valid : ManagerValid loop.manager) (events : List (LoopEvent Client)) :
    (final (EventLoop.serve lib) loop events).manager =
      final OcssdManager.serve loop.manager ((callEvents lib loop events).flatMap asked) ∧
      (callEvents lib loop events).flatMap (·.filterMap handed) =
        (trace OcssdManager.serve loop.manager ((callEvents lib loop events).flatMap asked)).map (fun e => e.2.1) := by
  induction events generalizing loop with
  | nil => exact ⟨rfl,rfl⟩
  | cons event rest ih =>
    obtain ⟨here,given⟩ := @serve_requests World Dev Vblk Client _ lib loop valid event
    obtain ⟨later,others⟩ := ih (@serve_stays_valid World Dev Vblk Client _ lib loop valid event)
    rw [callEvents,List.flatMap_append,List.flatMap_append,final_append,trace_append,List.map_append,final_cons,later,
      given,others,here]
    exact ⟨rfl,rfl⟩

theorem run_valid (set : List (DevName × NvmGeo)) (world : World) (events : List (LoopEvent Client)) :
    ManagerValid (final (EventLoop.serve lib) (EventLoop.start set world) events).manager :=
  @final_invariant _ _ _ (EventLoop.serve lib) (fun loop => ManagerValid loop.manager)
    (fun _ event valid => serve_stays_valid valid event) _ (ofDevices_valid set) events

end Loop

-- The server is the allocator behind a wire. In every run of the event loop, with
-- any clients and any traffic: the manager is as the requests dispatched so far
-- leave it one after another, and each call has made out the virtual SSD that the
-- allocator gives for its request at its turn.
theorem loop_refines_allocator {World Dev Vblk Client : Type} [DecidableEq Client] (lib : Lightnvm World Dev Vblk)
    (set : List (DevName × NvmGeo)) (world : World) (events : List (LoopEvent Client)) :
    let calls := callEvents lib (EventLoop.start set world) events
    (final (EventLoop.serve lib) (EventLoop.start set world) events).manager = reached set (calls.flatMap asked) ∧
      calls.flatMap (·.filterMap handed) =
        (trace OcssdManager.serve (.ofDevices set) (calls.flatMap asked)).map (fun e => e.2.1) :=
  run_requests (ofDevices_valid set) events

end OcssdServer.LoopRequests
