import OcssdServer.StripeLanes

namespace OcssdServer.ServeLoop
open ByteBuffers SocketFill StripeLanes

variable {World Dev Vblk : Type} (lib : Lightnvm World Dev Vblk)

-- What the handlers leave alone in a connection: its input side and its socket.
-- They also never put a null block into an array without one.
structure Carried (before after : OcssdConn Dev Vblk) : Prop where
  messageEnd : after.messageEnd = before.messageEnd
  messageBuf : after.messageBuf = before.messageBuf
  state : after.state = before.state
  closed : after.closed = before.closed
  held : none ∉ before.blksArray → none ∉ after.blksArray

theorem Carried.refl (conn : OcssdConn Dev Vblk) : Carried conn conn := ⟨rfl,rfl,rfl,rfl,id⟩

theorem Carried.trans {one two three : OcssdConn Dev Vblk} (first : Carried one two)
    (second : Carried two three) : Carried one three :=
  ⟨second.messageEnd.trans first.messageEnd,second.messageBuf.trans first.messageBuf,
    second.state.trans first.state,second.closed.trans first.closed,fun none' => second.held (first.held none')⟩

theorem Carried.queue (conn : OcssdConn Dev Vblk) (bufferq : Bufferq) : Carried conn (conn.queue bufferq) :=
  ⟨rfl,rfl,rfl,rfl,id⟩

theorem Carried.device (conn : OcssdConn Dev Vblk) (remote : Bool) (dev : Option Dev) (geo : Option NvmGeo)
    (numBlks : Option UInt64) :
    Carried conn {conn with remoteVssd := remote,dev := dev,geo := geo,numBlks := numBlks} :=
  ⟨rfl,rfl,rfl,rfl,id⟩

theorem Carried.addBlock (conn : OcssdConn Dev Vblk) (blk : Vblk) (blkSize : UInt64) :
    Carried conn (conn.addBlock (some blk) blkSize) := by
  refine ⟨rfl,rfl,rfl,rfl,?_⟩
  intro none' member
  rcases List.mem_append.mp member with old | new
  · exact none' old
  · cases List.mem_singleton.mp new

theorem stripes_carried (geo : NvmGeo) {vunit : VirtualOcssdUnit} (plain : Plain vunit)
    (conn : OcssdConn Dev Vblk) (session : Session World Vblk) :
    Carried conn (initializeVssdBlocks lib geo conn session vunit).conn ∧
      ∃ ret,(initializeVssdBlocks lib geo conn session vunit).ending = .returned ret := by
  refine stripeLoop_rule (I := fun c _ => Carried conn c) ?_ ?_ ?_ ?_ (starts_onLanes geo plain) (.refl conn)
  · intro _ _ _ carried _
    exact carried
  · intro c _ _ blk carried _ _ blkSize
    exact carried.trans (.addBlock c blk blkSize)
  · intro _ _ _ carried _ _
    exact carried
  · intro _ _ _ carried
    exact carried.trans (.device _ _ _ _ _)

theorem remote_carried {vssd : VirtualOcssd} (plain : ∀ vunit ∈ vssd.units,Plain vunit)
    (some' : vssd.units ≠ []) (conn : OcssdConn Dev Vblk) (session : Session World Vblk) :
    Carried conn (initializeRemoteVssd lib conn session vssd).conn ∧
      (initializeRemoteVssd lib conn session vssd).ending.stuck = false := by
  unfold initializeRemoteVssd
  split
  · rename_i empty
    exact absurd empty some'
  · rename_i vunit rest units
    have plain' : Plain vunit := plain vunit (by simp [units])
    dsimp only
    split
    · exact ⟨.device conn _ _ _ _,rfl⟩
    · rename_i dev opened
      obtain ⟨carried,ret,ended⟩ := stripes_carried lib (lib.devGetGeo dev) plain'
        {conn with dev := some dev,geo := some (lib.devGetGeo dev)} (devOpen lib vunit.devName session).2
      rw [if_neg (by rw [ended]; simp)]
      exact ⟨(Carried.device conn _ _ _ _).trans carried,rfl⟩

theorem alloc_carried (conn : OcssdConn Dev Vblk) (session : Session World Vblk) (message : List UInt8) :
    Carried conn (processAllocRequest lib conn session message).conn ∧
      (processAllocRequest lib conn session message).ending.stuck = false := by
  unfold processAllocRequest
  split
  · exact ⟨.refl conn,rfl⟩
  · rename_i request _
    have plain := grant_plain session.manager request
    dsimp only
    split
    · exact ⟨.refl conn,rfl⟩
    · rename_i granted
      have some' : (session.manager.allocOcssdResource .new request).vssd.units ≠ [] := by
        intro empty
        exact granted (.inr (by rw [empty]; decide))
      split
      · have remote := remote_carried lib plain some' {conn with remoteVssd := true}
        split
        · exact ⟨((Carried.device conn true _ _ _).trans (remote _).1).trans (.queue _ _),rfl⟩
        · exact ⟨(Carried.device conn true _ _ _).trans (remote _).1,(remote _).2⟩
      · exact ⟨.queue conn _,rfl⟩

theorem read_carried (conn : OcssdConn Dev Vblk) (session : Session World Vblk) (message : List UInt8) :
    Carried conn (processReadRequest lib conn session message).conn ∧
      (processReadRequest lib conn session message).ending ≠ .waiting := by
  unfold processReadRequest
  split
  · exact ⟨.refl conn,nofun⟩
  · split
    · exact ⟨.refl conn,nofun⟩
    · exact ⟨.refl conn,nofun⟩
    · exact ⟨.queue conn _,nofun⟩

theorem erase_carried (conn : OcssdConn Dev Vblk) (session : Session World Vblk) (message : List UInt8) :
    Carried conn (processEraseRequest lib conn session message).conn ∧
      (processEraseRequest lib conn session message).ending ≠ .waiting := by
  unfold processEraseRequest
  split
  · exact ⟨.refl conn,nofun⟩
  · split
    · exact ⟨.refl conn,nofun⟩
    · exact ⟨.refl conn,nofun⟩
    · exact ⟨.refl conn,nofun⟩

structure Forward (conn : OcssdConn Dev Vblk) (socket : Socket Errno) (r : Handled World Dev Vblk) : Prop where
  messageEnd : r.conn.messageEnd = conn.messageEnd
  state : r.conn.state = conn.state
  plan : r.socket.plan <:+ socket.plan

theorem Carried.forward {conn : OcssdConn Dev Vblk} {reply : Reply World Dev Vblk}
    (carried : Carried conn reply.conn) (socket : Socket Errno) : Forward conn socket ⟨reply,socket⟩ :=
  ⟨carried.messageEnd,carried.state,List.suffix_rfl⟩

theorem write_cases (conn : OcssdConn Dev Vblk) (session : Session World Vblk) (message : List UInt8) :
    (∃ ending : CallEnd,ending ≠ .waiting ∧ ∀ socket,
      processWriteRequest lib conn session socket message = ⟨⟨conn,session,ending⟩,socket⟩) ∨
    ∃ request blk,OcssdIoRequest.ofMessage message = some request ∧
      conn.blksArray[request.blockIndex.toNat]? = some (some blk) ∧ ∀ socket,
      processWriteRequest lib conn session socket message = finishWrite lib conn session blk
        (fill largestRead request.count.toNat socket.plan socket.stream
          (lib.malloc request.count session.world) 0) := by
  unfold processWriteRequest
  cases decoded : OcssdIoRequest.ofMessage message with
  | none => exact .inl ⟨.threw,by decide,fun _ => rfl⟩
  | some request =>
    dsimp only
    cases found : conn.blksArray[request.blockIndex.toNat]? with
    | none => exact .inl ⟨.badIndex,by decide,fun _ => rfl⟩
    | some pointer =>
      cases pointer with
      | none => exact .inl ⟨.returned (-1),by decide,fun _ => rfl⟩
      | some blk => exact .inr ⟨request,blk,rfl,found,fun _ => rfl⟩

theorem write_forward (conn : OcssdConn Dev Vblk) (session : Session World Vblk) (socket : Socket Errno)
    (message : List UInt8) : Forward conn socket (processWriteRequest lib conn session socket message) := by
  rcases write_cases lib conn session message with ⟨ending,_,refused⟩ | ⟨request,blk,_,_,receives⟩
  · rw [refused]
    exact (Carried.refl conn).forward socket
  · rw [receives]
    have fills := fill_fills (by decide : 0 < largestRead) (Nat.zero_le request.count.toNat)
      socket.plan socket.stream (lib.malloc request.count session.world)
    unfold finishWrite
    split
    · exact ⟨rfl,rfl,fills.suffix⟩
    · exact ⟨rfl,rfl,fills.suffix⟩
    · exact ⟨rfl,rfl,fills.suffix⟩
    · exact ⟨rfl,rfl,fills.suffix⟩

theorem dispatch_forward (conn : OcssdConn Dev Vblk) (session : Session World Vblk) (socket : Socket Errno)
    (message : List UInt8) : Forward conn socket (dispatch lib conn session socket message) := by
  unfold dispatch
  dsimp only
  split
  · exact (alloc_carried lib conn _ message).1.forward socket
  · split
    · exact (read_carried lib conn _ message).1.forward socket
    · split
      · exact write_forward lib conn _ socket message
      · split
        · exact (erase_carried lib conn _ message).1.forward socket
        · exact (Carried.refl conn).forward socket

-- What is left to read, a full message buffer counting as one more call.
def backlog (conn : OcssdConn Dev Vblk) (socket : Socket Errno) : Nat :=
  2*socket.plan.length+if conn.messageEnd < messageBufferSize then 0 else 1

theorem backlog_le (conn : OcssdConn Dev Vblk) (socket : Socket Errno) :
    backlog conn socket ≤ 2*socket.plan.length+1 := by
  unfold backlog
  split <;> omega

theorem Forward.backlog {conn : OcssdConn Dev Vblk} {socket : Socket Errno} {r : Handled World Dev Vblk}
    (forward : Forward conn socket r) (start : conn.messageEnd = 0) :
    backlog r.conn r.socket ≤ 2*socket.plan.length := by
  have less := forward.plan.length_le
  have empty : r.conn.messageEnd < messageBufferSize := by
    rw [forward.messageEnd,start]
    decide
  rw [ServeLoop.backlog,if_pos empty]
  omega

theorem call_shrinks {conn : OcssdConn Dev Vblk} (receiving : conn.state = .receivingCommand)
    (session : Session World Vblk) (socket : Socket Errno)
    (back : (processIncomingRequests lib conn session socket).ending ≠ .waiting) :
    backlog (processIncomingRequests lib conn session socket).conn
        (processIncomingRequests lib conn session socket).socket < backlog conn socket := by
  rw [processIncomingRequests,if_pos receiving] at back ⊢
  by_cases short : conn.messageEnd < messageBufferSize
  · have before : backlog conn socket = 2*socket.plan.length := by rw [backlog,if_pos short,Nat.add_zero]
    have fills := fill_fills (by decide : 0 < largestRead) (Nat.le_of_lt short) socket.plan socket.stream
      conn.messageBuf
    have events : socket.plan ≠ [] := by
      intro empty
      apply back
      rw [processCommand,empty,fill_waits short]
      rfl
    have used := fills.shorter short events
    rw [before]
    unfold processCommand
    generalize fill largestRead messageBufferSize socket.plan socket.stream conn.messageBuf
      conn.messageEnd = r at used ⊢
    unfold finishMessage
    dsimp only
    split
    · have size := backlog_le {conn with messageBuf := r.memory,messageEnd := r.received} r.socket
      dsimp only at size ⊢
      omega
    · have size := backlog_le
        (OcssdConn.disconnect {conn with messageBuf := r.memory,messageEnd := r.received}) r.socket
      dsimp only at size ⊢
      omega
    · have size := backlog_le
        (OcssdConn.disconnect {conn with messageBuf := r.memory,messageEnd := r.received}) r.socket
      dsimp only at size ⊢
      omega
    · have size := (dispatch_forward lib {conn with messageBuf := r.memory,messageEnd := 0} session r.socket
        (load r.memory 0 messageBufferSize)).backlog rfl
      omega
  · have before : backlog conn socket = 2*socket.plan.length+1 := by rw [backlog,if_neg short]
    rw [before]
    unfold processCommand
    rw [fill_done (Nat.le_of_not_lt short)]
    have size := (dispatch_forward lib {conn with messageEnd := 0} session socket
      (load conn.messageBuf 0 messageBufferSize)).backlog rfl
    exact Nat.lt_succ_of_le size

end OcssdServer.ServeLoop

namespace OcssdServer
open SocketFill ServeLoop

variable {World Dev Vblk : Type} (lib : Lightnvm World Dev Vblk)

-- process_incoming_requests of one connection, called again and again until the
-- connection is closed, the reads run out, or the code has no defined meaning.
-- An exception ends the call that throws it and is left to the caller. In the
-- other state a call reads nothing, so calling it again changes nothing.
def serveReads (conn : OcssdConn Dev Vblk) (session : Session World Vblk) (socket : Socket Errno) :
    Handled World Dev Vblk :=
  if _ : conn.closed = true ∨ conn.state ≠ .receivingCommand then ⟨⟨conn,session,.returned 0⟩,socket⟩
  else
    let r := processIncomingRequests lib conn session socket
    if _ : r.ending.stuck = true then r else serveReads r.conn r.session r.socket
termination_by backlog conn socket
decreasing_by
  rename_i rest stops
  refine call_shrinks lib ?_ session socket ?_
  · exact Decidable.not_not.mp fun other => rest (.inr other)
  · intro waits
    exact stops (by rw [waits]; rfl)

namespace ServeLoop
variable {lib}

theorem serve_rests {conn : OcssdConn Dev Vblk} (rest : conn.closed = true ∨ conn.state ≠ .receivingCommand)
    (session : Session World Vblk) (socket : Socket Errno) :
    serveReads lib conn session socket = ⟨⟨conn,session,.returned 0⟩,socket⟩ := by
  rw [serveReads.eq_def,dif_pos rest]

theorem serve_stops {conn : OcssdConn Dev Vblk} (active : ¬ (conn.closed = true ∨ conn.state ≠ .receivingCommand))
    {session : Session World Vblk} {socket : Socket Errno}
    (stuck : (processIncomingRequests lib conn session socket).ending.stuck = true) :
    serveReads lib conn session socket = processIncomingRequests lib conn session socket := by
  rw [serveReads.eq_def,dif_neg active]
  dsimp only
  rw [dif_pos stuck]

theorem serve_goes {conn : OcssdConn Dev Vblk} (active : ¬ (conn.closed = true ∨ conn.state ≠ .receivingCommand))
    {session : Session World Vblk} {socket : Socket Errno}
    (back : (processIncomingRequests lib conn session socket).ending.stuck ≠ true) :
    serveReads lib conn session socket =
      serveReads lib (processIncomingRequests lib conn session socket).conn
        (processIncomingRequests lib conn session socket).session
        (processIncomingRequests lib conn session socket).socket := by
  rw [serveReads.eq_def,dif_neg active]
  dsimp only
  rw [dif_neg back]

end ServeLoop
end OcssdServer
