import OcssdServer.RequestFraming

namespace OcssdServer.WouldBlock
open ByteBuffers SocketFill ServeLoop RequestFraming

variable {World Dev Vblk : Type} {lib : Lightnvm World Dev Vblk}

def extend (socket : Socket Errno) (later : List (ReadEvent Errno)) : Socket Errno :=
  {socket with plan := socket.plan ++ later}

def moreReads (r : Handled World Dev Vblk) (later : List (ReadEvent Errno)) : Handled World Dev Vblk :=
  {r with socket := extend r.socket later}

-- A loop that has come back does not see the reads after it; one that is
-- waiting sees the next read fail.
theorem fill_settled {want received : Nat} {socket : Socket Errno} {memory : Memory}
    (back : (fill largestRead want socket.plan socket.stream memory received).ending ≠ .waiting)
    (later : List (ReadEvent Errno)) :
    fill largestRead want (extend socket later).plan (extend socket later).stream memory received =
      {fill largestRead want socket.plan socket.stream memory received with
        socket := extend (fill largestRead want socket.plan socket.stream memory received).socket later} := by
  have split' := @fill_append Errno largestRead want socket.plan later socket.stream memory received
  dsimp only at split'
  rw [if_neg back] at split'
  exact split'

theorem fill_blocked {want received : Nat} {socket : Socket Errno} {memory : Memory}
    (waits : (fill largestRead want socket.plan socket.stream memory received).ending = .waiting)
    (error : Errno) (later : List (ReadEvent Errno)) :
    fill largestRead want (extend socket (.fails error :: later)).plan
        (extend socket (.fails error :: later)).stream memory received =
      ⟨.failed,(fill largestRead want socket.plan socket.stream memory received).memory,
        (fill largestRead want socket.plan socket.stream memory received).received,
        ⟨(fill largestRead want socket.plan socket.stream memory received).socket.stream,later⟩⟩ := by
  have start : received ≤ want := by
    refine Nat.le_of_not_lt fun past => ?_
    rw [fill_done (Nat.le_of_lt past)] at waits
    cases waits
  have fills := fill_fills (by decide : 0 < largestRead) start socket.plan socket.stream memory
  have short : (fill largestRead want socket.plan socket.stream memory received).received < want := by
    refine Nat.lt_of_le_of_ne fills.bounded fun same => ?_
    have full := fills.full.mpr same
    rw [waits] at full
    cases full
  have split' := @fill_append Errno largestRead want socket.plan (.fails error :: later) socket.stream
    memory received
  dsimp only at split'
  rw [if_pos waits,fill_fails short] at split'
  exact split'

theorem write_settled {conn : OcssdConn Dev Vblk} {session : Session World Vblk} {socket : Socket Errno}
    {message : List UInt8} (back : (processWriteRequest lib conn session socket message).ending ≠ .waiting)
    (later : List (ReadEvent Errno)) :
    processWriteRequest lib conn session (extend socket later) message =
      moreReads (processWriteRequest lib conn session socket message) later := by
  rcases write_cases lib conn session message with ⟨ending,_,refused⟩ | ⟨request,blk,_,_,receives⟩
  · rw [refused,refused]
    rfl
  · rw [receives] at back ⊢
    rw [receives,fill_settled]
    · unfold finishWrite
      dsimp only
      split
      · rfl
      · rfl
      · rfl
      · rfl
    · intro waits
      rw [finishWrite,waits] at back
      exact back rfl

theorem dispatch_settled {conn : OcssdConn Dev Vblk} {session : Session World Vblk} {socket : Socket Errno}
    {message : List UInt8} (back : (dispatch lib conn session socket message).ending ≠ .waiting)
    (later : List (ReadEvent Errno)) :
    dispatch lib conn session (extend socket later) message =
      moreReads (dispatch lib conn session socket message) later := by
  unfold dispatch at back ⊢
  dsimp only at back ⊢
  split
  · rfl
  · rename_i alloc
    rw [if_neg alloc] at back
    split
    · rfl
    · rename_i read
      rw [if_neg read] at back
      split
      · rename_i write
        rw [if_pos write] at back
        exact write_settled back later
      · split
        · rfl
        · rfl

theorem message_settled {conn : OcssdConn Dev Vblk} {session : Session World Vblk} {r : Filled Errno}
    (back : (finishMessage lib conn session r).ending ≠ .waiting) (later : List (ReadEvent Errno)) :
    finishMessage lib conn session {r with socket := extend r.socket later} =
      moreReads (finishMessage lib conn session r) later := by
  unfold finishMessage at back ⊢
  dsimp only at back ⊢
  split
  · rfl
  · rfl
  · rfl
  · rename_i full
    rw [full] at back
    exact dispatch_settled back later

theorem call_settled {conn : OcssdConn Dev Vblk} {session : Session World Vblk} {socket : Socket Errno}
    (back : (processIncomingRequests lib conn session socket).ending ≠ .waiting)
    (later : List (ReadEvent Errno)) :
    processIncomingRequests lib conn session (extend socket later) =
      moreReads (processIncomingRequests lib conn session socket) later := by
  unfold processIncomingRequests at back ⊢
  split
  · rename_i receiving
    rw [if_pos receiving] at back
    unfold processCommand at back ⊢
    rw [fill_settled]
    · exact message_settled back later
    · intro waits
      rw [finishMessage,waits] at back
      exact back rfl
  · rfl

def givenUp (r : Handled World Dev Vblk) (later : List (ReadEvent Errno)) : Handled World Dev Vblk :=
  ⟨⟨r.conn.disconnect,r.session,.returned (-1)⟩,⟨r.socket.stream,later⟩⟩

theorem write_blocked {conn : OcssdConn Dev Vblk} {session : Session World Vblk} {socket : Socket Errno}
    {message : List UInt8} (waits : (processWriteRequest lib conn session socket message).ending = .waiting)
    (error : Errno) (later : List (ReadEvent Errno)) :
    processWriteRequest lib conn session (extend socket (.fails error :: later)) message =
        givenUp (processWriteRequest lib conn session socket message) later ∧
      (processWriteRequest lib conn session socket message).conn = conn := by
  rcases write_cases lib conn session message with ⟨ending,back,refused⟩ | ⟨request,blk,_,_,receives⟩
  · rw [refused] at waits
    exact absurd waits back
  · rw [receives] at waits ⊢
    rw [receives]
    have inner : (fill largestRead request.count.toNat socket.plan socket.stream
        (lib.malloc request.count session.world) 0).ending = .waiting := by
      unfold finishWrite at waits
      split at waits
      · assumption
      · cases waits
      · cases waits
      · cases waits
    rw [fill_blocked inner]
    simp only [finishWrite,inner]
    exact ⟨rfl,trivial⟩

theorem dispatch_blocked {conn : OcssdConn Dev Vblk} {session : Session World Vblk} {socket : Socket Errno}
    {message : List UInt8} (waits : (dispatch lib conn session socket message).ending = .waiting)
    (error : Errno) (later : List (ReadEvent Errno)) :
    dispatch lib conn session (extend socket (.fails error :: later)) message =
        givenUp (dispatch lib conn session socket message) later ∧
      (dispatch lib conn session socket message).conn = conn := by
  unfold dispatch at waits ⊢
  dsimp only at waits ⊢
  split at waits
  · have back := (alloc_carried lib conn (session.log (.dispatched message)) message).2
    rw [waits] at back
    cases back
  · rename_i alloc
    rw [if_neg alloc,if_neg alloc]
    split at waits
    · exact absurd waits (read_carried lib conn _ message).2
    · rename_i read
      rw [if_neg read,if_neg read]
      split at waits
      · rename_i write
        rw [if_pos write,if_pos write]
        exact write_blocked waits error later
      · split at waits
        · exact absurd waits (erase_carried lib conn _ message).2
        · cases waits

theorem message_blocked {conn : OcssdConn Dev Vblk} {session : Session World Vblk} {r : Filled Errno}
    (full : r.ending = .full) (waits : (finishMessage lib conn session r).ending = .waiting) (error : Errno)
    (later : List (ReadEvent Errno)) :
    finishMessage lib conn session {r with socket := extend r.socket (.fails error :: later)} =
        givenUp (finishMessage lib conn session r) later ∧
      (finishMessage lib conn session r).conn.closed = conn.closed := by
  simp only [finishMessage,full] at waits ⊢
  obtain ⟨blocked,same⟩ := dispatch_blocked waits error later
  exact ⟨blocked,by rw [same]⟩

theorem call_blocked {conn : OcssdConn Dev Vblk} {session : Session World Vblk} {socket : Socket Errno}
    (waits : (processIncomingRequests lib conn session socket).ending = .waiting) (error : Errno)
    (later : List (ReadEvent Errno)) :
    processIncomingRequests lib conn session (extend socket (.fails error :: later)) =
        givenUp (processIncomingRequests lib conn session socket) later ∧
      (processIncomingRequests lib conn session socket).conn.closed = conn.closed := by
  unfold processIncomingRequests at waits ⊢
  split
  · rename_i receiving
    rw [if_pos receiving] at waits
    unfold processCommand at waits ⊢
    by_cases inner : (fill largestRead messageBufferSize socket.plan socket.stream conn.messageBuf
        conn.messageEnd).ending = .waiting
    · rw [fill_blocked inner]
      simp only [finishMessage,inner]
      exact ⟨rfl,trivial⟩
    · rw [fill_settled inner]
      refine message_blocked ?_ waits error later
      unfold finishMessage at waits
      dsimp only at waits
      split at waits
      · exact absurd (by assumption) inner
      · cases waits
      · cases waits
      · assumption
  · rename_i other
    rw [if_neg other] at waits
    cases waits

theorem not_waiting {ending : CallEnd} (back : ending.stuck ≠ true) : ending ≠ .waiting := by
  rintro rfl
  exact back rfl

theorem serve_blocked {conn : OcssdConn Dev Vblk} {session : Session World Vblk} {socket : Socket Errno}
    (waits : (serveReads lib conn session socket).ending = .waiting) (error : Errno)
    (later : List (ReadEvent Errno)) :
    (serveReads lib conn session socket).conn.closed = false ∧
      (serveReads lib conn session (extend socket (.fails error :: later))).conn.closed = true ∧
      (serveReads lib conn session (extend socket (.fails error :: later))).session =
        (serveReads lib conn session socket).session := by
  induction conn, session, socket using serveReads.induct lib with
  | case1 conn session socket rest =>
    rw [serve_rests rest] at waits
    cases waits
  | case2 conn session socket active r stuck =>
    rw [serve_stops active stuck] at waits ⊢
    obtain ⟨blocked,same⟩ := call_blocked waits error later
    have back : (processIncomingRequests lib conn session
        (extend socket (.fails error :: later))).ending.stuck ≠ true := by
      rw [blocked]
      exact nofun
    rw [serve_goes active back,blocked,serve_rests (.inl rfl),same]
    refine ⟨?_,rfl,rfl⟩
    exact Bool.eq_false_iff.mpr fun closed => active (.inl closed)
  | case3 conn session socket active r back ih =>
    rw [serve_goes active back] at waits ⊢
    have settled := call_settled (not_waiting back) (.fails error :: later)
    have back' : (processIncomingRequests lib conn session
        (extend socket (.fails error :: later))).ending.stuck ≠ true := by
      rw [settled]
      exact back
    rw [serve_goes active back',settled]
    exact ih waits

-- What a would-block result between the reads `one` and `two` should leave alone:
-- whether the connection is open, the bytes it has received, and everything the
-- whole run does.
structure Harmless (lib : Lightnvm World Dev Vblk) (conn : OcssdConn Dev Vblk) (session : Session World Vblk)
    (stream : List UInt8) (one two : List (ReadEvent Errno)) (error : Errno) : Prop where
  stays : (serveReads lib conn session ⟨stream,one ++ [.fails error]⟩).conn.closed =
    (serveReads lib conn session ⟨stream,one⟩).conn.closed
  keeps : (serveReads lib conn session ⟨stream,one ++ [.fails error]⟩).conn.messageBuf =
      (serveReads lib conn session ⟨stream,one⟩).conn.messageBuf ∧
    (serveReads lib conn session ⟨stream,one ++ [.fails error]⟩).conn.messageEnd =
      (serveReads lib conn session ⟨stream,one⟩).conn.messageEnd ∧
    (serveReads lib conn session ⟨stream,one ++ [.fails error]⟩).socket.stream =
      (serveReads lib conn session ⟨stream,one⟩).socket.stream
  same : (serveReads lib conn session ⟨stream,one ++ .fails error :: two⟩).session =
    (serveReads lib conn session ⟨stream,one ++ two⟩).session

theorem blocked_harmful {conn : OcssdConn Dev Vblk} {session : Session World Vblk} {stream : List UInt8}
    {one : List (ReadEvent Errno)} (waits : (serveReads lib conn session ⟨stream,one⟩).ending = .waiting)
    (two : List (ReadEvent Errno)) (error : Errno) : ¬ Harmless lib conn session stream one two error := by
  intro harmless
  obtain ⟨open',closed,_⟩ := serve_blocked waits error []
  have stays := harmless.stays
  unfold extend at closed
  rw [open',closed] at stays
  cases stays

section Live

theorem write_spent (lib : Lightnvm World Dev Vblk) (conn : OcssdConn Dev Vblk) (session : Session World Vblk)
    (socket : Socket Errno) (message : List UInt8) :
    Spent socket (processWriteRequest lib conn session socket message).socket := by
  cases write_cases lib conn session message with
  | inl refuses =>
    obtain ⟨ending,_,refused⟩ := refuses
    rw [refused]
    exact .refl socket
  | inr receives =>
    obtain ⟨request,blk,_,_,receives⟩ := receives
    rw [receives]
    have spent := @fill_spent Errno largestRead request.count.toNat socket.plan socket.stream
      (lib.malloc request.count session.world) 0
    unfold finishWrite
    split <;> exact spent

theorem dispatch_spent (lib : Lightnvm World Dev Vblk) (conn : OcssdConn Dev Vblk) (session : Session World Vblk)
    (socket : Socket Errno) (message : List UInt8) :
    Spent socket (dispatch lib conn session socket message).socket := by
  unfold dispatch
  dsimp only
  split
  · exact .refl socket
  · split
    · exact .refl socket
    · split
      · exact write_spent lib conn _ socket message
      · split
        · exact .refl socket
        · exact .refl socket

theorem call_spent (lib : Lightnvm World Dev Vblk) (conn : OcssdConn Dev Vblk) (session : Session World Vblk)
    (socket : Socket Errno) : Spent socket (processIncomingRequests lib conn session socket).socket := by
  unfold processIncomingRequests
  split
  · have spent := @fill_spent Errno largestRead messageBufferSize socket.plan socket.stream conn.messageBuf
      conn.messageEnd
    unfold processCommand finishMessage
    dsimp only
    split
    · exact spent
    · exact spent
    · exact spent
    · exact spent.trans (dispatch_spent lib _ session _ _)
  · exact .refl socket

variable {conn : OcssdConn Dev Vblk} {session : Session World Vblk} {socket : Socket Errno}

theorem write_live (cuts : OnlyBytes socket.plan) (live : offered socket.plan ≤ socket.stream.length)
    (message : List UInt8) : (processWriteRequest lib conn session socket message).conn = conn := by
  cases write_cases lib conn session message with
  | inl refuses =>
    obtain ⟨ending,_,refused⟩ := refuses
    rw [refused]
  | inr receives =>
    obtain ⟨request,blk,_,_,receives⟩ := receives
    rw [receives,finishWrite]
    cases fill_live (by decide : 0 < largestRead) cuts live (lib.malloc request.count session.world) 0 with
    | inl full => rw [full]
    | inr waits => rw [waits]

theorem dispatch_live (cuts : OnlyBytes socket.plan) (live : offered socket.plan ≤ socket.stream.length)
    (message : List UInt8) : (dispatch lib conn session socket message).conn.closed = conn.closed := by
  unfold dispatch
  dsimp only
  split
  · exact (alloc_carried lib conn _ message).1.closed
  · split
    · exact (read_carried lib conn _ message).1.closed
    · split
      · rw [write_live cuts live]
      · split
        · exact (erase_carried lib conn _ message).1.closed
        · rfl

theorem call_live (start : conn.messageEnd ≤ messageBufferSize) (cuts : OnlyBytes socket.plan)
    (live : offered socket.plan ≤ socket.stream.length) :
    (processIncomingRequests lib conn session socket).conn.closed = conn.closed := by
  unfold processIncomingRequests
  split
  · have fills := fill_fills (by decide : 0 < largestRead) start socket.plan socket.stream conn.messageBuf
    have spent := @fill_spent Errno largestRead messageBufferSize socket.plan socket.stream conn.messageBuf
      conn.messageEnd
    have ended := @fill_live Errno largestRead messageBufferSize (by decide) _ cuts _ live conn.messageBuf
      conn.messageEnd
    unfold processCommand finishMessage
    dsimp only
    split
    · rfl
    · rename_i eof
      simp [eof] at ended
    · rename_i failed
      simp [failed] at ended
    · refine dispatch_live (cuts.suffix fills.suffix) ?_ _
      unfold Spent at spent
      dsimp only at spent
      omega
  · rfl

-- While a request is not complete, the call is still in its read.
theorem unfinished_waits (boundary : AtBoundary conn) (session : Session World Vblk) {tail : List UInt8}
    (unfinished : Unfinished conn tail) {plan : List (ReadEvent Errno)} (cuts : OnlyBytes plan)
    (live : offered plan ≤ tail.length) :
    (processIncomingRequests lib conn session ⟨tail,plan⟩).ending = .waiting := by
  have open' := @call_live _ _ _ lib conn session ⟨tail,plan⟩ (boundary.messageEnd.trans_le (Nat.zero_le _))
    cuts live
  cases (call_abandoned lib boundary session cuts unfinished).1 with
  | inl waits => exact waits
  | inr hung =>
    rw [hung.2,boundary.closed] at open'
    cases open'

theorem stream_waits (boundary : AtBoundary conn) {frames : List Frame} (indexes : IndexesInside lib conn session frames)
    {tail : List UInt8} (unfinished : Unfinished (serveFrames lib conn session frames).1 tail)
    {plan : List (ReadEvent Errno)} (cuts : OnlyBytes plan) (live : offered plan ≤ (wires frames ++ tail).length) :
    (serveReads lib conn session ⟨wires frames ++ tail,plan⟩).ending = .waiting := by
  induction frames generalizing conn session plan with
  | nil =>
    have waits := @unfinished_waits _ _ _ lib _ boundary session _ unfinished _ cuts live
    change (serveReads lib conn session ⟨tail,plan⟩).ending = .waiting
    rw [serve_stops boundary.active (by rw [waits]; rfl),waits]
  | cons frame frames ih =>
    obtain ⟨inside,indexes⟩ := indexes
    obtain ⟨boundary',back⟩ := serveFrame_boundary lib boundary inside session
    have here : wires (frame :: frames) ++ tail = frame.wire ++ (wires frames ++ tail) := by
      simp only [wires,List.flatMap_cons,List.append_assoc]
    have spent := call_spent lib conn session ⟨frame.wire ++ (wires frames ++ tail),plan⟩
    rw [here] at live ⊢
    cases call_answers lib boundary inside session cuts (wires frames ++ tail) with
    | inl answered =>
      obtain ⟨later,part,_,called⟩ := answered
      rw [serve_goes boundary.active (by rw [called]; exact Bool.eq_false_iff.mp back),called]
      refine ih boundary' indexes unfinished (cuts.suffix part) ?_
      rw [called] at spent
      unfold Spent at spent
      dsimp only at spent
      rw [List.length_append] at live spent
      omega
    | inr held =>
      rw [serve_stops boundary.active (by rw [held.1]; rfl)]
      exact held.1

-- A call when only this much of its request may be there and a read after that
-- would block: it answers the request, or it gives the connection up.
inductive FirstCall (lib : Lightnvm World Dev Vblk) (conn : OcssdConn Dev Vblk) (session : Session World Vblk)
    (frame : Frame) (missing later : List UInt8) (socket : Socket Errno) (error : Errno) : Prop where
  | answers (back : (processIncomingRequests lib conn session socket).ending ≠ .waiting) (left : List UInt8)
      (plan : List (ReadEvent Errno)) (rest : left ++ missing = later)
      (same : processIncomingRequests lib conn session (extend socket [.fails error]) =
        ⟨serveFrame lib conn session frame,⟨left,plan⟩⟩)
  | starves (waits : (processIncomingRequests lib conn session socket).ending = .waiting)
      (few : frame.wire.length ≤ socket.stream.length → socket.plan.length < frame.wire.length)
      (gone : (processIncomingRequests lib conn session (extend socket [.fails error])).conn =
        (processIncomingRequests lib conn session socket).conn.disconnect)

theorem first_call (boundary : AtBoundary conn) {frame : Frame} (inside : IndexInside conn frame)
    (session : Session World Vblk) {up missing later : List UInt8} (front : up ++ missing = frame.wire ++ later)
    {plan : List (ReadEvent Errno)} (cuts : OnlyBytes plan) (live : offered plan ≤ up.length) (error : Errno) :
    FirstCall lib conn session frame missing later ⟨up,plan⟩ error := by
  have starved : (processIncomingRequests lib conn session ⟨up,plan⟩).ending = .waiting →
      (frame.wire.length ≤ up.length → plan.length < frame.wire.length) →
      FirstCall lib conn session frame missing later ⟨up,plan⟩ error := by
    intro waits few
    refine .starves waits few ?_
    rw [(call_blocked waits error []).1]
    rfl
  by_cases whole : frame.wire.length ≤ up.length
  · obtain ⟨left,rest⟩ := List.prefix_of_prefix_length_le ⟨later,front.symm⟩ ⟨missing,rfl⟩ whole
    subst rest
    cases call_answers lib boundary inside session cuts left with
    | inl answered =>
      obtain ⟨plan',_,_,called⟩ := answered
      have back : (processIncomingRequests lib conn session ⟨frame.wire ++ left,plan⟩).ending ≠ .waiting := by
        rw [called]
        exact not_waiting (Bool.eq_false_iff.mp (serveFrame_boundary lib boundary inside session).2)
      refine .answers back left (plan' ++ [.fails error]) ?_ ?_
      · rw [List.append_assoc] at front
        exact List.append_cancel_left front
      · rw [call_settled back,called]
        rfl
    | inr held => exact starved held.1 fun _ => held.2.2
  · have unfinished : Unfinished conn up := by
      refine .inr ⟨frame,?_,Nat.lt_of_not_le whole,inside⟩
      exact List.prefix_of_prefix_length_le ⟨missing,rfl⟩ ⟨later,front.symm⟩ (Nat.le_of_not_le whole)
    exact starved (unfinished_waits boundary session unfinished cuts live) fun all => absurd all whole

end Live

-- Wherever in a stream of requests, whole or unfinished, a read would block, the
-- connection is closed: however the bytes before it came.
theorem would_block_never_harmless (lib : Lightnvm World Dev Vblk) {conn : OcssdConn Dev Vblk}
    (boundary : AtBoundary conn) (session : Session World Vblk) {frames : List Frame}
    (indexes : IndexesInside lib conn session frames) {tail : List UInt8}
    (unfinished : Unfinished (serveFrames lib conn session frames).1 tail) {one : List (ReadEvent Errno)}
    (cuts : OnlyBytes one) (live : offered one ≤ (wires frames ++ tail).length) (two : List (ReadEvent Errno))
    (error : Errno) : ¬ Harmless lib conn session (wires frames ++ tail) one two error :=
  blocked_harmful (stream_waits boundary indexes unfinished cuts live) two error

-- Inside the payload of the second of two writes.
theorem cut_payload_harmed : ¬ Harmless quietLib oneBlock ⟨.ofDevices [],(),[]⟩ (wires [writeTwo] ++ writeTwo.message)
    [.bytes 23,.bytes 0,.bytes 0,.bytes 23] [.bytes 1] .eintr := by
  have boundary : AtBoundary oneBlock := ⟨rfl,rfl,rfl,by decide⟩
  have cuts : OnlyBytes ([.bytes 23,.bytes 0,.bytes 0,.bytes 23] : List (ReadEvent Errno)) := by
    intro event member
    simp only [List.mem_cons,List.not_mem_nil,or_false] at member
    rcases member with rfl | rfl | rfl | rfl <;> exact ⟨_,rfl⟩
  have indexes : IndexesInside quietLib oneBlock ⟨.ofDevices [],(),[]⟩ [writeTwo] := ⟨writeTwo_inside,trivial⟩
  exact would_block_never_harmless quietLib boundary ⟨.ofDevices [],(),[]⟩ indexes
    (.inr ⟨writeTwo,⟨[7,8],rfl⟩,by decide,writeTwo_inside⟩) cuts (by decide) [.bytes 1] .eintr

def oneDevice : Session Unit Unit := ⟨.ofDevices [([110],⟨5,1,1,4,1,1,1,1,0⟩)],(),[]⟩

def askForOne : List UInt8 := [1,0x65,0,0,1,0,0,0,0,0,0,0,0,0,0,0,0,0,0,0,0,0,0,0]

-- The header arrives as ten and fourteen bytes. A read in between that would
-- block closes the connection and the request is never dispatched.
theorem split_header_closes :
    (serveReads quietLib (.accepted (fun _ => 0)) oneDevice
        ⟨askForOne,[.bytes 9,.bytes 13]⟩).session.events.length = 2 ∧
      (serveReads quietLib (.accepted (fun _ => 0)) oneDevice
        ⟨askForOne,[.bytes 9,.fails .eagain,.bytes 13]⟩).session.events = [] ∧
      (serveReads quietLib (.accepted (fun _ => 0)) oneDevice
        ⟨askForOne,[.bytes 9,.fails .eagain,.bytes 13]⟩).conn.closed = true ∧
      ¬ Harmless quietLib (.accepted (fun _ => 0)) oneDevice askForOne [.bytes 9] [.bytes 13] .eagain := by
  have waits : (serveReads quietLib (.accepted (fun _ => 0)) oneDevice ⟨askForOne,[.bytes 9]⟩).ending =
      .waiting := by
    rw [serve_stops (by decide) (by decide)]
    decide
  refine ⟨?_,?_,?_,blocked_harmful waits _ _⟩
  · rw [serve_goes (by decide) (by decide),serve_stops (by decide) (by decide)]
    decide
  · rw [serve_goes (by decide) (by decide),serve_rests (by decide)]
    decide
  · rw [serve_goes (by decide) (by decide),serve_rests (by decide)]
    decide

end OcssdServer.WouldBlock
