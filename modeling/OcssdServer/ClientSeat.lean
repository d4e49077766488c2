import OcssdServer.BlockClient
import OcssdServer.LoopTenants
import OcssdServer.ReplyStream
import OcssdServer.WouldBlock

namespace OcssdServer.ClientSeat
open SocketFill UnitGrants ManagerGrants BlockOwnership DeviceEffects RequestFraming WouldBlock ReplyStream
  TenantIsolation DescriptorEvents LoopTenants RemoteSite MachineRuns

variable {World Dev Vblk Client γ : Type}

-- What a connected client sits on while the server serves others: its connection
-- between two requests, and a number on which nobody else's event fires.
structure Seat (set : List (DevName × NvmGeo)) (span : Vblk → Set PhysBlock) (client : Client)
    (loop : EventLoop World Dev Vblk Client) (endpoint : Endpoint Dev Vblk) : Prop where
  tenants : Tenants set span loop
  found : loop.clients client = some endpoint
  boundary : AtBoundary endpoint.conn
  armed : Armed endpoint.conn
  quiet : ∀ other e,other ≠ client → loop.clients other = some e → e.fd = endpoint.fd → e.conn.evWrite = false

def connected (loop : EventLoop World Dev Vblk Client) (client : Client) : Bool :=
  (loop.clients client).any fun e => !e.conn.closed

-- The server has given the connection up.
def Gone (loop : EventLoop World Dev Vblk Client) (client : Client) : Prop :=
  ∃ e,loop.clients client = some e ∧ e.conn.closed = true ∧ e.conn.evRead = false

theorem Gone.apart {loop : EventLoop World Dev Vblk Client} {client : Client} (gone : Gone loop client) :
    connected loop client = false := by
  obtain ⟨e,found,closed,_⟩ := gone
  simp [connected,found,closed]

def queued (loop : EventLoop World Dev Vblk Client) (client : Client) : Nat :=
  ((loop.clients client).map fun e => (chunks e.conn).flatten.length+(chunks e.conn).length).getD 0

section Fires
variable {client : Client} {site : RemoteSite World Dev Vblk Client} {cuts : List Nat}

theorem pieces_bytes (cuts : List Nat) : OnlyBytes (pieces cuts) := by
  intro event member
  obtain ⟨more,_,rfl⟩ := List.mem_map.mp member
  exact ⟨more,rfl⟩

theorem pieces_zero (count : Nat) : offered (pieces (List.replicate count 0)) = count := by
  induction count with
  | zero => rfl
  | succ count ih =>
    have one : offered (pieces (List.replicate (count+1) 0)) = 0+1+offered (pieces (List.replicate count 0)) := rfl
    rw [one,ih]
    omega

structure Fires (client : Client) (site : RemoteSite World Dev Vblk Client) (cuts : List Nat)
    (endpoint : Endpoint Dev Vblk) : Prop where
  found : site.loop.clients client = some endpoint
  going : site.loop.ended = false
  event : endpoint.conn.evRead = true
  owned : (site.loop.owner endpoint.fd).isSome = true
  some' : cuts ≠ []
  come : offered (pieces cuts) ≤ site.up.length

theorem Fires.some_up {endpoint : Endpoint Dev Vblk} (fires : Fires client site cuts endpoint) : site.up ≠ [] := by
  intro none'
  have come := fires.come
  obtain ⟨cut,later,rfl⟩ := List.exists_cons_of_ne_nil fires.some'
  rw [none'] at come
  change cut+1+offered (pieces later) ≤ 0 at come
  omega

theorem fires_some {endpoint : Endpoint Dev Vblk} {socket : Socket Errno} :
    site.fires client cuts = some (endpoint,socket) ↔
      Fires client site cuts endpoint ∧ socket = ⟨site.up,pieces cuts ++ [.fails .eagain]⟩ := by
  unfold RemoteSite.fires
  cases found : site.loop.clients client with
  | none =>
    constructor
    · exact nofun
    · intro fires
      cases fires.1.found.symm.trans found
  | some e =>
    dsimp only
    constructor
    · intro fires
      split at fires
      · rename_i guard
        cases fires
        exact ⟨⟨found,guard.1,guard.2.1,guard.2.2.1,guard.2.2.2.1,guard.2.2.2.2⟩,rfl⟩
      · cases fires
    · intro both
      obtain ⟨fires,rfl⟩ := both
      cases fires.found.symm.trans found
      rw [if_pos ⟨fires.going,fires.event,fires.owned,fires.some',fires.come⟩]

end Fires

section Seats
variable {lib : Lightnvm World Dev Vblk} {set : List (DevName × NvmGeo)} {nameOf : Dev → DevName}
  {span : Vblk → Set PhysBlock} {content : World → PhysBlock → γ} {client : Client}
  {loop : EventLoop World Dev Vblk Client} {endpoint : Endpoint Dev Vblk}

theorem Seat.owner (seat : Seat set span client loop endpoint) : loop.owner endpoint.fd = some client :=
  (seat.tenants.numbers _ _).mpr ⟨_,seat.found,rfl,seat.boundary.closed⟩

theorem Seat.connected (seat : Seat set span client loop endpoint) : connected loop client = true := by
  simp [ClientSeat.connected,seat.found,seat.boundary.closed]

theorem Seat.foreign (seat : Seat set span client loop endpoint) {other : Client} {e : Endpoint Dev Vblk}
    (different : other ≠ client) (found : loop.clients other = some e)
    (fires : e.conn.evRead = true ∨ e.conn.evWrite = true) : e.fd ≠ endpoint.fd := by
  intro same
  rcases fires with read | write
  · have open' := (seat.tenants.registered other e found).mp read
    exact different (seat.tenants.alone found seat.found open' seat.boundary.closed same)
  · rw [seat.quiet other e different found same] at write
    cases write

theorem returned_patient {conn : OcssdConn Dev Vblk} (armed : Armed conn) (fires : conn.evWrite = true)
    {event : WriteEvent} (returned : (fireWrite conn event).ending = .returned) :
    (QueueInput.writable event).fatal = false := by
  cases event with
  | accepts count => rfl
  | fails errno =>
    cases errno with
    | eagain => rfl
    | eintr => rfl
    | other code =>
      rw [fireWrite,if_pos fires,onWrite] at returned
      cases queue : conn.writeq with
      | nil => exact absurd queue (armed.event.mp fires)
      | cons bufferq rest =>
        simp only [queue] at returned
        rw [if_neg (by intro blocks; rcases blocks with h | h <;> cases h)] at returned
        cases returned

theorem fired_queue {conn : OcssdConn Dev Vblk} (armed : Armed conn) {event : WriteEvent}
    (patient : (QueueInput.writable event).fatal = false) :
    Armed (fireWrite conn event).conn ∧
      (fireWrite conn event).bytes ++ (chunks (fireWrite conn event).conn).flatten = (chunks conn).flatten ∧
      ([] ∉ chunks conn → [] ∉ chunks (fireWrite conn event).conn) := by
  obtain ⟨armed',_,step,came⟩ := serveQueue_step armed patient
  have balance := ChunkQueue.step_balance (chunks conn) (move conn (.writable event))
  rw [←step,came] at balance
  refine ⟨armed',balance.trans (List.append_nil _),fun filled => ?_⟩
  have next : chunks (fireWrite conn event).conn = (ChunkQueue.step (chunks conn) (move conn (.writable event))).1 :=
    congrArg Prod.fst step
  rw [next]
  cases event with
  | fails errno => exact filled
  | accepts count =>
    rw [move]
    split
    · exact ChunkQueue.take_filled filled _
    · exact filled

variable [DecidableEq Client]

theorem reply_drains (seat : Seat set span client loop endpoint) (going : loop.ended = false)
    (some' : endpoint.conn.writeq ≠ []) :
    queued (loop.serve lib (.writable client (.accepts 1))).1 client < queued loop client ∧
      (loop.serve lib (.writable client (.accepts 1))).1.ended = false := by
  have fires := seat.armed.event.mpr some'
  have owner : (loop.owner endpoint.fd).isSome = true := by rw [seat.owner]; rfl
  have step : loop.serve lib (.writable client (.accepts 1)) =
      ({loop with
        clients := Function.update loop.clients client
          (some {endpoint with conn := (fireWrite endpoint.conn (.accepts 1)).conn})
        ended := (fireWrite endpoint.conn (.accepts 1)).ending ≠ .returned},
        some ⟨client,loop.owner endpoint.fd,(fireWrite endpoint.conn (.accepts 1)).bytes⟩) := by
    rw [EventLoop.serve,going,if_neg Bool.false_ne_true]
    simp only [seat.found,fires,owner,and_self,if_true]
  obtain ⟨_,returned,moved,_⟩ := @serveQueue_step _ _ _ seat.armed (.writable (.accepts 1)) rfl
  have returned : (fireWrite endpoint.conn (.accepts 1)).ending = .returned := returned
  have moved : chunks (fireWrite endpoint.conn (.accepts 1)).conn = _ := congrArg Prod.fst moved
  have row : chunks endpoint.conn ≠ [] := fun empty => some' (List.map_eq_nil_iff.mp empty)
  have fewer : (chunks (fireWrite endpoint.conn (.accepts 1)).conn).flatten.length+
      (chunks (fireWrite endpoint.conn (.accepts 1)).conn).length <
      (chunks endpoint.conn).flatten.length+(chunks endpoint.conn).length := by
    rw [moved,ReplyStream.move,if_pos fires]
    obtain ⟨chunk,later,cells⟩ := List.exists_cons_of_ne_nil row
    rw [cells,ChunkQueue.step]
    have one : min 1 largestWrite = 1 := by decide
    rw [one]
    split
    · simp only [List.flatten_cons,List.length_append,List.length_drop,List.length_cons]
      omega
    · simp only [List.flatten_cons,List.length_append,List.length_cons]
      omega
  rw [step]
  constructor
  · rw [queued,queued,seat.found]
    simp only [Function.update_self]
    exact fewer
  · simpa using returned

variable (lib) in
theorem Seat.reads (seat : Seat set span client loop endpoint) (going : loop.ended = false)
    (event : endpoint.conn.evRead = true) (socket : Socket Errno) :
    loop.serve lib (.readable client socket) = (loop.onRead lib client endpoint socket,none) :=
  serve_reads going socket seat.found event seat.owner

theorem Seat.lost (seat : Seat set span client loop endpoint) (going : loop.ended = false)
    (event : endpoint.conn.evRead = true) {socket : Socket Errno} {conn : OcssdConn Dev Vblk}
    (gone : (processIncomingRequests lib endpoint.conn ⟨loop.manager,loop.world,[]⟩ socket).conn = conn.disconnect) :
    Gone (loop.serve lib (.readable client socket)).1 client := by
  rw [seat.reads lib going event,EventLoop.onRead]
  refine ⟨_,Function.update_self _ _ _,?_,?_⟩
  · exact congrArg OcssdConn.closed gone
  · exact congrArg OcssdConn.evRead gone

variable (lib) in
omit [DecidableEq Client] in
-- As many pieces as a request has bytes bring all of it.
theorem Seat.whole_served {site : RemoteSite World Dev Vblk Client} (seat : Seat set span client site.loop endpoint)
    (going : site.loop.ended = false) {frame : Frame} (inside : IndexInside endpoint.conn frame) {later : List UInt8}
    (up : site.up = frame.wire ++ later) : ∃ cuts socket plan,site.fires client cuts = some (endpoint,socket) ∧
      (processIncomingRequests lib endpoint.conn ⟨site.loop.manager,site.loop.world,[]⟩
        ⟨site.up,pieces cuts⟩).ending ≠ .waiting ∧
      processIncomingRequests lib endpoint.conn ⟨site.loop.manager,site.loop.world,[]⟩ socket =
        ⟨serveFrame lib endpoint.conn ⟨site.loop.manager,site.loop.world,[]⟩ frame,⟨later,plan⟩⟩ := by
  have size : site.up.length = frame.wire.length+later.length := by rw [up,List.length_append]
  have header : 0 < frame.wire.length := by
    have least : messageBufferSize = 24 := rfl
    rw [Frame.wire,List.length_append,frame.size]
    omega
  let zeros := List.replicate frame.wire.length 0
  have some' : zeros ≠ [] := by
    intro empty
    exact absurd ((List.replicate_eq_nil_iff _).mp empty) (Nat.ne_of_gt header)
  have come : offered (pieces zeros) ≤ site.up.length := by
    rw [pieces_zero]
    omega
  have event := (seat.tenants.registered _ _ seat.found).mpr seat.boundary.closed
  have fires := fires_some.mpr ⟨⟨seat.found,going,event,by rw [seat.owner]; rfl,some',come⟩,rfl⟩
  have front : site.up ++ [] = frame.wire ++ later := by rw [List.append_nil,up]
  cases first_call seat.boundary inside (⟨site.loop.manager,site.loop.world,[]⟩ : Session World Vblk) front
    (pieces_bytes zeros) come .eagain with
  | starves _ few _ =>
    have fewer := few (Nat.le.intro size.symm)
    rw [pieces,List.length_map,List.length_replicate] at fewer
    exact absurd fewer (Nat.lt_irrefl _)
  | answers back left plan missing same =>
    rw [List.append_nil] at missing
    rw [missing] at same
    exact ⟨zeros,_,plan,fires,back,same⟩

theorem reads_fired {site : RemoteSite World Dev Vblk Client} {cuts : List Nat} {socket : Socket Errno}
    (fires : site.fires client cuts = some (endpoint,socket)) :
    let r := processIncomingRequests lib endpoint.conn ⟨site.loop.manager,site.loop.world,[]⟩ socket
    site.reads lib client cuts =
      {site.callsBack lib client (.readable client socket) with up := r.socket.stream} := by
  unfold RemoteSite.reads
  rw [fires]

variable (rules : DeviceRules lib set nameOf span content) (fit : DevicesFit set)
  (fields : ∀ d ∈ set,FieldsHold lib d.2)
include rules fit fields

theorem reply_seat (seat : Seat set span client loop endpoint) (event : WriteEvent)
    (running : (loop.serve lib (.writable client event)).1.ended = false) :
    ∃ conn,Seat set span client (loop.serve lib (.writable client event)).1 {endpoint with conn := conn} ∧
      conn.blksArray = endpoint.conn.blksArray ∧
      received client (loop.serve lib (.writable client event)).2 ++ (chunks conn).flatten =
        (chunks endpoint.conn).flatten ∧
      ([] ∉ chunks endpoint.conn → [] ∉ chunks conn) ∧
      (loop.serve lib (.writable client event)).1.world = loop.world := by
  have tenants := serve_tenants rules fit fields (fun _ => seat.tenants) _ running
  have step := serve_step lib loop (.writable client event)
  generalize loop.serve lib (.writable client event) = next at step running tenants ⊢
  cases step with
  | rests _ => exact ⟨endpoint.conn,seat,rfl,rfl,id,rfl⟩
  | writes _ _ e _ found fires =>
    cases found.symm.trans seat.found
    have returned : (fireWrite endpoint.conn event).ending = .returned := by simpa using running
    obtain ⟨armed,bytes,filled⟩ := fired_queue seat.armed (returned_patient seat.armed fires returned)
    obtain ⟨writeq,evWrite,same⟩ := fire_keeps endpoint.conn event
    have boundary : AtBoundary (fireWrite endpoint.conn event).conn := by
      rw [same]
      exact ⟨seat.boundary.messageEnd,seat.boundary.state,seat.boundary.closed,seat.boundary.held⟩
    refine ⟨(fireWrite endpoint.conn event).conn,⟨tenants,Function.update_self _ _ _,boundary,armed,?_⟩,?_,?_,filled,
      rfl⟩
    · intro other e different found
      exact seat.quiet other e different ((Function.update_of_ne different _ _).symm.trans found)
    · rw [same]
    · rw [received,if_pos seat.owner]
      exact bytes

theorem other_seat (seat : Seat set span client loop endpoint) {event : LoopEvent Client}
    (foreign : event.client ≠ client) (running : (loop.serve lib event).1.ended = false) :
    Seat set span client (loop.serve lib event).1 endpoint ∧ received client (loop.serve lib event).2 = [] := by
  have tenants := serve_tenants rules fit fields (fun _ => seat.tenants) _ running
  have step := serve_step lib loop event
  generalize loop.serve lib event = next at step running tenants ⊢
  cases step with
  | rests _ => exact ⟨seat,rfl⟩
  | accepts other fd messageBuf =>
    have known : ∀ c e,(loop.onAccept other fd messageBuf).clients c = some e →
        loop.clients c = some e ∨ c = other ∧ e = ⟨fd,.accepted messageBuf⟩ := by
      intro c e lookup
      unfold EventLoop.onAccept at lookup
      split at lookup
      · rcases found_update lookup with ⟨rfl,rfl⟩ | ⟨_,old⟩
        · exact .inr ⟨rfl,rfl⟩
        · exact .inl old
      · exact .inl lookup
    refine ⟨⟨tenants,?_,seat.boundary,seat.armed,?_⟩,rfl⟩
    · unfold EventLoop.onAccept
      split
      · exact (Function.update_of_ne (Ne.symm foreign) _ _).trans seat.found
      · exact seat.found
    · intro c e different lookup same
      rcases known c e lookup with old | ⟨rfl,rfl⟩
      · exact seat.quiet c e different old same
      · rfl
  | reads other socket e _ found fires =>
    have apart := seat.foreign foreign found (.inl fires)
    refine ⟨⟨tenants,(Function.update_of_ne (Ne.symm foreign) _ _).trans seat.found,seat.boundary,seat.armed,?_⟩,rfl⟩
    intro c f different lookup same
    rcases found_update lookup with ⟨rfl,rfl⟩ | ⟨_,old⟩
    · exact absurd same apart
    · exact seat.quiet c f different old same
  | writes other event e _ found fires =>
    have apart := seat.foreign foreign found (.inr fires)
    refine ⟨⟨tenants,(Function.update_of_ne (Ne.symm foreign) _ _).trans seat.found,seat.boundary,seat.armed,?_⟩,?_⟩
    · intro c f different lookup same
      rcases found_update lookup with ⟨rfl,rfl⟩ | ⟨_,old⟩
      · exact absurd same apart
      · exact seat.quiet c f different old same
    · refine if_neg fun mine => ?_
      obtain ⟨f,found',number,_⟩ := (seat.tenants.numbers _ _).mp mine
      cases found'.symm.trans seat.found
      exact apart number.symm

end Seats
end OcssdServer.ClientSeat
