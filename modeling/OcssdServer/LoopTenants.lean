import OcssdServer.DescriptorEvents
import OcssdServer.TenantIsolation

namespace OcssdServer.LoopTenants
open ByteBuffers SocketFill UnitGrants ManagerGrants BlockOwnership StripeLanes ServeLoop DeviceEffects RequestOutcomes
  TenantIsolation DescriptorEvents MachineRuns

variable {World Dev Vblk Client γ : Type}

-- What holds of the clients in every state of a running server: whose number is
-- whose, and that the arrays of two clients stand on different physical blocks.
structure Tenants (set : List (DevName × NvmGeo)) (span : Vblk → Set PhysBlock)
    (loop : EventLoop World Dev Vblk Client) : Prop where
  holds : Holds set loop.manager
  held : ∀ client endpoint,loop.clients client = some endpoint → none ∉ endpoint.conn.blksArray
  inside : ∀ client endpoint,loop.clients client = some endpoint →
    arraySpan span endpoint.conn.blksArray ⊆ owned loop.manager
  apart : ∀ one two e f,one ≠ two → loop.clients one = some e → loop.clients two = some f →
    Disjoint (arraySpan span e.conn.blksArray) (arraySpan span f.conn.blksArray)
  numbers : ∀ fd client,loop.owner fd = some client ↔
    ∃ endpoint,loop.clients client = some endpoint ∧ endpoint.fd = fd ∧ endpoint.conn.closed = false
  registered : ∀ client endpoint,loop.clients client = some endpoint →
    (endpoint.conn.evRead = true ↔ endpoint.conn.closed = false)
  armed : ∀ client endpoint,loop.clients client = some endpoint → endpoint.conn.closed = false →
    (endpoint.conn.evWrite = true ↔ endpoint.conn.writeq ≠ [])

-- The parts of a connection that the allocator and the descriptors know of.
structure Turned (span : Vblk → Set PhysBlock) (fresh : Set PhysBlock) (before after : OcssdConn Dev Vblk) :
    Prop where
  array : ∀ blk ∈ after.blksArray,Inside span (arraySpan span before.blksArray ∪ fresh) blk
  registered : after.evRead = true ↔ after.closed = false
  armed : after.closed = false → (after.evWrite = true ↔ after.writeq ≠ [])

section Grants
variable {set : List (DevName × NvmGeo)} {manager after : OcssdManager} {events : List (Event Vblk)}

theorem moved_fresh (fit : DevicesFit set) (holds : Holds set manager) (moved : Moved manager events after) :
    Holds set after ∧ owned manager ⊆ owned after ∧ Disjoint (owned manager) (remoteBlocks events) ∧
      remoteBlocks events ⊆ owned after := by
  rcases moved with ⟨none',same⟩ | ⟨request,remote,one,served⟩
  · have nothing : remoteBlocks events = ∅ := by
      refine Set.eq_empty_iff_forall_notMem.mpr ?_
      rintro b ⟨gift,member,_⟩
      rw [none'] at member
      cases member
    rw [same,nothing]
    exact ⟨holds,subset_rfl,Set.disjoint_empty _,Set.empty_subset _⟩
  · rw [served]
    refine ⟨holds_kept _ _ holds,owned_grows holds request,?_,?_⟩
    · rw [Set.disjoint_left]
      rintro b old ⟨gift,member,_,grant,listed,new⟩
      rw [one,List.mem_singleton] at member
      rw [member] at listed
      exact Set.disjoint_left.mp (granted_fresh fit holds request grant listed) old new
    · rintro b ⟨gift,member,_,grant,listed,new⟩
      rw [one,List.mem_singleton] at member
      rw [member] at listed
      exact granted_within fit holds request grant listed new

theorem arraySpan_inside {span : Vblk → Set PhysBlock} {area : Set PhysBlock} {blksArray : List (Option Vblk)}
    (array : ∀ blk ∈ blksArray,Inside span area blk) : arraySpan span blksArray ⊆ area := by
  rintro b ⟨v,member,inside⟩
  obtain ⟨_,same,part⟩ := array _ member
  cases same
  exact part inside

end Grants

section Steps
variable [DecidableEq Client] {set : List (DevName × NvmGeo)} {span : Vblk → Set PhysBlock}
  {loop : EventLoop World Dev Vblk Client}

omit [DecidableEq Client] in
theorem Tenants.alone (tenants : Tenants set span loop) {one two : Client} {e f : Endpoint Dev Vblk}
    (found : loop.clients one = some e) (found' : loop.clients two = some f) (open' : e.conn.closed = false)
    (open'' : f.conn.closed = false) (same : e.fd = f.fd) : one = two := by
  have mine := (tenants.numbers e.fd one).mpr ⟨e,found,rfl,open'⟩
  have theirs := (tenants.numbers e.fd two).mpr ⟨f,found',same.symm,open''⟩
  exact Option.some.inj (mine.symm.trans theirs)

theorem replace_tenants (tenants : Tenants set span loop) {client : Client} {endpoint : Endpoint Dev Vblk}
    (found : loop.clients client = some endpoint) {fresh : Set PhysBlock} {conn : OcssdConn Dev Vblk}
    (turned : Turned span fresh endpoint.conn conn) (closes : endpoint.conn.closed = true → conn.closed = true)
    {manager : OcssdManager} (holds : Holds set manager) (grows : owned loop.manager ⊆ owned manager)
    (apart : Disjoint (owned loop.manager) fresh) (within : fresh ⊆ owned manager) (world : World) (ended : Bool) :
    Tenants set span ⟨manager,world,Function.update loop.clients client (some {endpoint with conn := conn}),
      if endpoint.conn.closed = false ∧ conn.closed = true then Function.update loop.owner endpoint.fd none
      else loop.owner,ended⟩ := by
  have array := arraySpan_inside turned.array
  have foreign : ∀ other f,other ≠ client → loop.clients other = some f →
      Disjoint (arraySpan span conn.blksArray) (arraySpan span f.conn.blksArray) := by
    intro other f different theirs
    refine Set.disjoint_of_subset_left array (Set.disjoint_union_left.mpr ⟨?_,?_⟩)
    · exact tenants.apart client other endpoint f (Ne.symm different) found theirs
    · exact (apart.mono_left (tenants.inside other f theirs)).symm
  refine ⟨holds,?_,?_,?_,?_,?_,?_⟩
  · intro other e lookup null
    rcases found_update lookup with ⟨rfl,rfl⟩ | ⟨_,old⟩
    · obtain ⟨_,missing,_⟩ := turned.array none null
      cases missing
    · exact tenants.held other e old null
  · intro other e lookup
    rcases found_update lookup with ⟨rfl,rfl⟩ | ⟨_,old⟩
    · exact array.trans (Set.union_subset ((tenants.inside other endpoint found).trans grows) within)
    · exact (tenants.inside other e old).trans grows
  · intro one two e f different lookup lookup'
    rcases found_update lookup with ⟨rfl,rfl⟩ | ⟨_,old⟩
    · rcases found_update lookup' with ⟨same,_⟩ | ⟨other,old'⟩
      · exact absurd same.symm different
      · exact foreign two f other old'
    · rcases found_update lookup' with ⟨rfl,rfl⟩ | ⟨_,old'⟩
      · exact (foreign one e different old).symm
      · exact tenants.apart one two e f different old old'
  · intro fd other
    by_cases own : other = client
    · subst own
      have mine := tenants.numbers fd other
      constructor
      · intro owns
        refine ⟨{endpoint with conn := conn},Function.update_self _ _ _,?_⟩
        dsimp only at owns ⊢
        split at owns
        · rename_i gone
          by_cases here : fd = endpoint.fd
          · rw [here,Function.update_self] at owns
            cases owns
          · rw [Function.update_of_ne here] at owns
            obtain ⟨e,known,number,_⟩ := mine.mp owns
            cases known.symm.trans found
            exact absurd number.symm here
        · rename_i stays
          obtain ⟨e,known,number,open'⟩ := mine.mp owns
          cases known.symm.trans found
          refine ⟨number,?_⟩
          cases closed : conn.closed with
          | false => rfl
          | true => exact absurd ⟨open',closed⟩ stays
      · rintro ⟨e,lookup,number,open'⟩
        cases (Function.update_self _ _ _).symm.trans lookup
        have before : endpoint.conn.closed = false := by
          cases closed : endpoint.conn.closed with
          | false => rfl
          | true => rw [closes closed] at open'; cases open'
        dsimp only at open' ⊢
        rw [if_neg (fun gone => by rw [open'] at gone; cases gone.2)]
        exact mine.mpr ⟨endpoint,found,number,before⟩
    · have theirs := tenants.numbers fd other
      dsimp only
      rw [Function.update_of_ne own]
      split
      · rename_i gone
        by_cases here : fd = endpoint.fd
        · rw [here,Function.update_self]
          refine iff_of_false nofun ?_
          rintro ⟨e,known,number,open'⟩
          exact own (tenants.alone known found open' gone.1 number)
        · rw [Function.update_of_ne here]
          exact theirs
      · exact theirs
  · intro other e lookup
    rcases found_update lookup with ⟨rfl,rfl⟩ | ⟨_,old⟩
    · exact turned.registered
    · exact tenants.registered other e old
  · intro other e lookup
    rcases found_update lookup with ⟨rfl,rfl⟩ | ⟨_,old⟩
    · exact turned.armed
    · exact tenants.armed other e old

theorem accept_tenants (tenants : Tenants set span loop) (client : Client) (fd : Nat) (messageBuf : Memory) :
    Tenants set span (loop.onAccept client fd messageBuf) := by
  unfold EventLoop.onAccept
  split
  swap
  · exact tenants
  rename_i new
  have stranger : loop.clients client = none := Option.isNone_iff_eq_none.mp new.1
  have unused : loop.owner fd = none := Option.isNone_iff_eq_none.mp new.2
  have bare : ∀ e : Endpoint Dev Vblk,e = ⟨fd,.accepted messageBuf⟩ → arraySpan span e.conn.blksArray = ∅ := by
    rintro e rfl
    refine Set.eq_empty_iff_forall_notMem.mpr ?_
    rintro b ⟨v,member,_⟩
    cases member
  refine ⟨tenants.holds,?_,?_,?_,?_,?_,?_⟩
  · intro other e lookup
    rcases found_update lookup with ⟨rfl,rfl⟩ | ⟨_,old⟩
    · exact nofun
    · exact tenants.held other e old
  · intro other e lookup
    rcases found_update lookup with ⟨rfl,same⟩ | ⟨_,old⟩
    · rw [bare e same]
      exact Set.empty_subset _
    · exact tenants.inside other e old
  · intro one two e f different lookup lookup'
    rcases found_update lookup with ⟨rfl,same⟩ | ⟨_,old⟩
    · rw [bare e same]
      exact Set.empty_disjoint _
    · rcases found_update lookup' with ⟨rfl,same⟩ | ⟨_,old'⟩
      · rw [bare f same]
        exact Set.disjoint_empty _
      · exact tenants.apart one two e f different old old'
  · intro number other
    by_cases here : number = fd
    · subst here
      dsimp only
      rw [Function.update_self]
      constructor
      · intro same
        cases same
        exact ⟨⟨number,.accepted messageBuf⟩,Function.update_self _ _ _,rfl,rfl⟩
      · rintro ⟨e,lookup,number',open'⟩
        rcases found_update lookup with ⟨rfl,_⟩ | ⟨_,old⟩
        · rfl
        · have owns := (tenants.numbers number other).mpr ⟨e,old,number',open'⟩
          rw [unused] at owns
          cases owns
    · dsimp only
      rw [Function.update_of_ne here,tenants.numbers number other]
      by_cases own : other = client
      · subst own
        rw [Function.update_self,stranger]
        refine iff_of_false ?_ ?_
        · rintro ⟨e,known,_⟩
          cases known
        · rintro ⟨e,known,number',_⟩
          cases known
          exact here number'.symm
      · rw [Function.update_of_ne own]
  · intro other e lookup
    rcases found_update lookup with ⟨rfl,rfl⟩ | ⟨_,old⟩
    · exact iff_of_true rfl rfl
    · exact tenants.registered other e old
  · intro other e lookup
    rcases found_update lookup with ⟨rfl,rfl⟩ | ⟨_,old⟩
    · exact fun _ => ⟨nofun,fun some' => absurd rfl some'⟩
    · exact tenants.armed other e old

theorem fire_keeps (conn : OcssdConn Dev Vblk) (event : WriteEvent) :
    ∃ writeq evWrite,(fireWrite conn event).conn = {conn with writeq := writeq,evWrite := evWrite} := by
  unfold fireWrite
  split
  · unfold onWrite
    split
    · exact ⟨_,_,rfl⟩
    · cases event with
      | fails errno => dsimp only; split <;> exact ⟨_,_,rfl⟩
      | accepts count => dsimp only; split <;> exact ⟨_,_,rfl⟩
  · exact ⟨_,_,rfl⟩

section Calls
variable {lib : Lightnvm World Dev Vblk} {nameOf : Dev → DevName} {content : World → PhysBlock → γ}

theorem call_turned {conn : OcssdConn Dev Vblk} (session : Session World Vblk) (socket : Socket Errno)
    {fresh : Set PhysBlock}
    (array : ∀ blk ∈ (processIncomingRequests lib conn session socket).conn.blksArray,
      Inside span (arraySpan span conn.blksArray ∪ fresh) blk)
    (registered : conn.evRead = true ↔ conn.closed = false)
    (armed : conn.closed = false → (conn.evWrite = true ↔ conn.writeq ≠ [])) :
    Turned span fresh conn (processIncomingRequests lib conn session socket).conn ∧
      (conn.closed = true → (processIncomingRequests lib conn session socket).conn.closed = true) := by
  rcases @call_ends _ _ _ lib conn session socket with ⟨_,hung⟩ | ⟨_,output,still⟩
  · refine ⟨⟨array,?_,?_⟩,fun _ => hung.closed⟩
    · rw [hung.evRead,hung.closed]
      exact iff_of_false nofun nofun
    · intro opened
      rw [hung.closed] at opened
      cases opened
  · have read : (processIncomingRequests lib conn session socket).conn.evRead = conn.evRead := by
      cases output with
      | keeps same => exact same.evRead
      | queues bufferq queued evRead evWrite => exact evRead
    refine ⟨⟨array,?_,?_⟩,fun closed => still.trans closed⟩
    · rw [read,still]
      exact registered
    · rw [still]
      exact fun opened => output_armed output (armed opened)

variable (rules : DeviceRules lib set nameOf span content) (fit : DevicesFit set)
  (fields : ∀ d ∈ set,FieldsHold lib d.2)
include rules fit fields

theorem read_tenants (tenants : Tenants set span loop) {client : Client} (socket : Socket Errno)
    {endpoint : Endpoint Dev Vblk} (found : loop.clients client = some endpoint)
    (fires : endpoint.conn.evRead = true) : Tenants set span (loop.onRead lib client endpoint socket) := by
  have open' := (tenants.registered client endpoint found).mp fires
  have confined := (call_confined rules fit fields tenants.holds (tenants.held client endpoint found) loop.world
    socket).1
  obtain ⟨holds,grows,apart,within⟩ := moved_fresh fit tenants.holds confined.moved
  obtain ⟨turned,closes⟩ := @call_turned _ _ _ _ lib _ ⟨loop.manager,loop.world,[]⟩ socket _ confined.array
    (tenants.registered client endpoint found) (tenants.armed client endpoint found)
  have replaced := replace_tenants tenants found turned closes holds grows apart within
    (processIncomingRequests lib endpoint.conn ⟨loop.manager,loop.world,[]⟩ socket).session.world
    (processIncomingRequests lib endpoint.conn ⟨loop.manager,loop.world,[]⟩ socket).ending.ends
  simp only [open',true_and] at replaced
  exact replaced

omit rules fit fields in
theorem write_tenants (tenants : Tenants set span loop) {client : Client} {event : WriteEvent}
    {endpoint : Endpoint Dev Vblk} (found : loop.clients client = some endpoint)
    (fires : endpoint.conn.evWrite = true) (returns : (fireWrite endpoint.conn event).ending = .returned)
    (ended : Bool) :
    Tenants set span {loop with
      clients := Function.update loop.clients client
        (some {endpoint with conn := (fireWrite endpoint.conn event).conn})
      ended := ended} := by
  obtain ⟨writeq,evWrite,same⟩ := fire_keeps endpoint.conn event
  have turned : Turned span ∅ endpoint.conn (fireWrite endpoint.conn event).conn := by
    refine ⟨?_,?_,?_⟩
    · rw [same]
      exact array_inside (tenants.held client endpoint found) ∅
    · rw [same]
      exact tenants.registered client endpoint found
    · intro opened
      have open' : endpoint.conn.closed = false := by
        rw [same] at opened
        exact opened
      exact (fire_armed (tenants.armed client endpoint found open') fires event).2 returns
  have closed : (fireWrite endpoint.conn event).conn.closed = endpoint.conn.closed := by rw [same]
  have replaced := replace_tenants tenants found turned (fun shut => closed.trans shut) tenants.holds subset_rfl
    (Set.disjoint_empty _) (Set.empty_subset _) loop.world ended
  rw [closed,if_neg (fun gone => by rw [gone.1] at gone; cases gone.2)] at replaced
  exact replaced

omit rules fit fields in
theorem running_before {event : LoopEvent Client} (running : (loop.serve lib event).1.ended = false) :
    loop.ended = false := by
  cases ended : loop.ended with
  | false => rfl
  | true =>
    unfold EventLoop.serve at running
    rw [if_pos ended,ended] at running
    cases running

-- A server that is still running has served every call within these bounds.
theorem serve_tenants (tenants : loop.ended = false → Tenants set span loop) (event : LoopEvent Client)
    (running : (loop.serve lib event).1.ended = false) : Tenants set span (loop.serve lib event).1 := by
  have tenants := tenants (running_before running)
  have step := serve_step lib loop event
  generalize loop.serve lib event = next at step running
  cases step with
  | rests event => exact tenants
  | accepts client fd messageBuf => exact accept_tenants tenants client fd messageBuf
  | reads client socket endpoint _ found fires => exact read_tenants rules fit fields tenants socket found fires
  | writes client event endpoint _ found fires =>
    exact write_tenants tenants found fires (by simpa using running) _

end Calls
end Steps
end OcssdServer.LoopTenants
