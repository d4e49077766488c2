import OcssdServer.EventLoop
import OcssdServer.ChunkQueue

namespace OcssdServer.ReplyStream
open ByteBuffers MachineRuns

-- A buffer of any size with its event_add, or the socket of the connection
-- becoming writable.
inductive QueueInput where
  | push (buf : Memory) (size : UInt64)
  | writable (event : WriteEvent)

section Queue
variable {Dev Vblk : Type}

def serveQueue (conn : OcssdConn Dev Vblk) : QueueInput → OcssdConn Dev Vblk × (List UInt8 × WriteEnd)
  | .push buf size => (conn.queue ⟨buf,size,0⟩,([],.returned))
  | .writable event =>
    let r := fireWrite conn event
    (r.conn,(r.bytes,r.ending))

def QueueInput.pushed : QueueInput → List UInt8
  | .push buf size => load buf 0 size.toNat
  | .writable _ => []

def QueueInput.fatal : QueueInput → Bool
  | .writable (.fails (.other _)) => true
  | _ => false

def unsent (bufferq : Bufferq) : List UInt8 :=
  load bufferq.buf bufferq.offset.toNat (bufferq.len.toNat-bufferq.offset.toNat)

def chunks (conn : OcssdConn Dev Vblk) : List (List UInt8) := conn.writeq.map unsent

def move (conn : OcssdConn Dev Vblk) : QueueInput → ChunkQueue.Move UInt8
  | .push buf size => .push (load buf 0 size.toNat)
  | .writable (.fails _) => .retry
  | .writable (.accepts count) => if conn.evWrite then .take (min count largestWrite) else .retry

-- The event is registered exactly while there is something to send, and no
-- buffer was sent past its end.
structure Armed (conn : OcssdConn Dev Vblk) : Prop where
  event : conn.evWrite = true ↔ conn.writeq ≠ []
  offsets : ∀ bufferq ∈ conn.writeq,bufferq.offset ≤ bufferq.len

theorem accepted_armed (messageBuf : Memory) : Armed (.accepted messageBuf : OcssdConn Dev Vblk) :=
  ⟨⟨nofun,fun some' => absurd rfl some'⟩,nofun⟩

theorem queue_armed {conn : OcssdConn Dev Vblk} (armed : Armed conn) (buf : Memory) (size : UInt64) :
    Armed (conn.queue ⟨buf,size,0⟩) := by
  refine ⟨⟨fun _ => List.append_ne_nil_of_right_ne_nil _ (List.cons_ne_nil _ _),fun _ => rfl⟩,?_⟩
  intro bufferq member
  rcases List.mem_append.mp member with old | new
  · exact armed.offsets bufferq old
  · rw [List.mem_singleton.mp new,UInt64.le_iff_toNat_le]
    exact Nat.zero_le _

theorem accepted_toNat {bufferq : Bufferq} (inside : bufferq.offset ≤ bufferq.len) (count : Nat) :
    let len := UInt64.ofNat (min count (min (bufferq.len-bufferq.offset).toNat largestWrite))
    len.toNat = min (min count largestWrite) (bufferq.len.toNat-bufferq.offset.toNat) ∧
      (bufferq.offset+len).toNat = bufferq.offset.toNat+len.toNat := by
  have word := bufferq.len.toNat_lt
  have left := UInt64.toNat_sub_of_le _ _ inside
  have below := UInt64.le_iff_toNat_le.mp inside
  dsimp only
  have len : (UInt64.ofNat (min count (min (bufferq.len-bufferq.offset).toNat largestWrite))).toNat =
      min (min count largestWrite) (bufferq.len.toNat-bufferq.offset.toNat) := by
    rw [UInt64.toNat_ofNat',left,Nat.mod_eq_of_lt (by omega)]
    omega
  refine ⟨len,?_⟩
  rw [UInt64.toNat_add,len,Nat.mod_eq_of_lt (by omega)]

theorem load_drop (m : Memory) (start count gone : Nat) :
    (load m start count).drop gone = load m (start+gone) (count-gone) := by
  apply List.ext_getElem (by simp)
  intro i _ _
  simp [load,Nat.add_assoc]

theorem load_take (m : Memory) (start count kept : Nat) :
    (load m start count).take kept = load m start (min kept count) := by
  simp [load,←List.map_take,List.take_range]

theorem write_step {conn : OcssdConn Dev Vblk} (armed : Armed conn) {bufferq : Bufferq} {rest : List Bufferq}
    (queue : conn.writeq = bufferq :: rest) (count : Nat) :
    let r := onWrite {conn with evWrite := false} (.accepts count)
    Armed r.conn ∧ r.ending = .returned ∧
      (chunks r.conn,r.bytes) = ChunkQueue.step (chunks conn) (.take (min count largestWrite)) := by
  have inside := armed.offsets bufferq (by simp [queue])
  have others : ∀ b ∈ rest,b.offset ≤ b.len := fun b member => armed.offsets b (by simp [queue,member])
  obtain ⟨len,next⟩ := accepted_toNat inside count
  have size : (unsent bufferq).length = bufferq.len.toNat-bufferq.offset.toNat := load_length _ _ _
  have row : chunks conn = unsent bufferq :: rest.map unsent := by rw [chunks,queue,List.map_cons]
  simp only [onWrite,queue]
  generalize UInt64.ofNat (min count (min (bufferq.len-bufferq.offset).toNat largestWrite)) = sent at *
  by_cases part : bufferq.offset+sent < bufferq.len
  · rw [if_pos part]
    rw [UInt64.lt_iff_toNat_lt,next] at part
    have same : sent.toNat = min count largestWrite := by omega
    have few : min count largestWrite < (unsent bufferq).length := by rw [size]; omega
    refine ⟨⟨⟨fun _ => List.cons_ne_nil _ _,fun _ => rfl⟩,?_⟩,rfl,?_⟩
    · intro b member
      rcases List.mem_cons.mp member with rfl | later
      · rw [UInt64.le_iff_toNat_le,next]
        exact Nat.le_of_lt part
      · exact others b later
    · rw [row,ChunkQueue.step,if_pos few,chunks,List.map_cons,unsent,unsent,load_drop,load_take,←same,
        Nat.min_eq_left (by omega),next,Nat.sub_sub]
  · rw [if_neg part]
    rw [UInt64.lt_iff_toNat_lt,next] at part
    have whole : sent.toNat = bufferq.len.toNat-bufferq.offset.toNat := by omega
    have all : ¬ min count largestWrite < (unsent bufferq).length := by rw [size]; omega
    refine ⟨⟨?_,others⟩,rfl,?_⟩
    · cases rest with
      | nil => simp
      | cons b rest => simp
    · rw [row,ChunkQueue.step,if_neg all,whole]
      rfl

theorem onWrite_retries {conn : OcssdConn Dev Vblk} {bufferq : Bufferq} {rest : List Bufferq}
    (queue : conn.writeq = bufferq :: rest) {errno : Errno}
    (patient : (QueueInput.writable (.fails errno)).fatal = false) :
    onWrite {conn with evWrite := false} (.fails errno) = ⟨{conn with evWrite := true},[],.returned⟩ := by
  have again : errno = .eintr ∨ errno = .eagain := by
    cases errno with
    | eagain => exact .inr rfl
    | eintr => exact .inl rfl
    | other code => cases patient
  simp only [onWrite,queue,if_pos again]

theorem serveQueue_step {conn : OcssdConn Dev Vblk} (armed : Armed conn) {input : QueueInput}
    (patient : input.fatal = false) :
    Armed (serveQueue conn input).1 ∧ (serveQueue conn input).2.2 = .returned ∧
      (chunks (serveQueue conn input).1,(serveQueue conn input).2.1) =
        ChunkQueue.step (chunks conn) (move conn input) ∧
      (move conn input).pushed = input.pushed := by
  cases input with
  | push buf size =>
    refine ⟨queue_armed armed buf size,rfl,?_,rfl⟩
    simp [serveQueue,OcssdConn.queue,chunks,ChunkQueue.step,move,unsent]
  | writable event =>
    by_cases fires : conn.evWrite = true
    · cases queue : conn.writeq with
      | nil => exact absurd queue (armed.event.mp fires)
      | cons bufferq rest =>
        cases event with
        | accepts count =>
          have step := write_step armed queue count
          rw [serveQueue,fireWrite,if_pos fires,move,if_pos fires]
          exact ⟨step.1,step.2.1,step.2.2,rfl⟩
        | fails errno =>
          rw [serveQueue,fireWrite,if_pos fires,onWrite_retries queue patient]
          exact ⟨⟨⟨fun _ => armed.event.mp fires,fun _ => rfl⟩,armed.offsets⟩,rfl,rfl,rfl⟩
    · have idle : fireWrite conn event = ⟨conn,[],.returned⟩ := by rw [fireWrite,if_neg fires]
      have still : move conn (.writable event) = .retry := by
        cases event with
        | accepts count => rw [move,if_neg fires]
        | fails errno => rfl
      rw [serveQueue,idle,still]
      exact ⟨armed,rfl,rfl,rfl⟩

def sent (events : List (QueueInput × (List UInt8 × WriteEnd))) : List UInt8 := events.flatMap (fun e => e.2.1)

theorem serveQueue_runs {conn : OcssdConn Dev Vblk} (armed : Armed conn) {inputs : List QueueInput}
    (patient : ∀ input ∈ inputs,input.fatal = false) :
    Armed (final serveQueue conn inputs) ∧ (∀ e ∈ trace serveQueue conn inputs,e.2.2 = .returned) ∧
      ∃ moves : List (ChunkQueue.Move UInt8),
        chunks (final serveQueue conn inputs) = final ChunkQueue.step (chunks conn) moves ∧
        sent (trace serveQueue conn inputs) = ChunkQueue.taken (trace ChunkQueue.step (chunks conn) moves) ∧
        inputs.flatMap QueueInput.pushed = moves.flatMap ChunkQueue.Move.pushed := by
  induction inputs generalizing conn with
  | nil => exact ⟨armed,nofun,[],rfl,rfl,rfl⟩
  | cons input rest ih =>
    obtain ⟨armed',ended,step,same⟩ := serveQueue_step armed (patient input (by simp))
    obtain ⟨last,all,moves,left,out,came⟩ := ih armed' (fun i member => patient i (by simp [member]))
    have next := congrArg Prod.fst step
    have bytes := congrArg Prod.snd step
    dsimp only at next bytes
    refine ⟨last,?_,move conn input :: moves,?_,?_,?_⟩
    · intro e member
      rcases List.mem_cons.mp member with rfl | later
      · exact ended
      · exact all e later
    · rw [final_cons,left,next,final_cons]
    · rw [sent,trace_cons,List.flatMap_cons,ChunkQueue.taken,trace_cons,List.flatMap_cons,bytes,←next]
      exact congrArg _ out
    · rw [List.flatMap_cons,List.flatMap_cons,same,came]

end Queue

-- However pushes and writes alternate: the socket has accepted a prefix of what
-- was pushed, the event is registered exactly while something is queued, and an
-- empty queue means that everything was accepted.
theorem reply_stream_intact {Dev Vblk : Type} (messageBuf : Memory) (inputs : List QueueInput)
    (patient : ∀ input ∈ inputs,input.fatal = false) :
    let conn := final serveQueue (.accepted messageBuf : OcssdConn Dev Vblk) inputs
    let events := trace serveQueue (.accepted messageBuf : OcssdConn Dev Vblk) inputs
    let pushed := inputs.flatMap QueueInput.pushed
    sent events <+: pushed ∧ sent events ++ (chunks conn).flatten = pushed ∧
      (conn.evWrite = true ↔ conn.writeq ≠ []) ∧ (∀ e ∈ events,e.2.2 = .returned) ∧
      (conn.writeq = [] → sent events = pushed) := by
  obtain ⟨armed,ended,moves,left,out,came⟩ := serveQueue_runs
    (accepted_armed messageBuf : Armed (.accepted messageBuf : OcssdConn Dev Vblk)) patient
  have balance := ChunkQueue.run_balance (chunks (.accepted messageBuf : OcssdConn Dev Vblk)) moves
  rw [←left,←out,←came] at balance
  have whole : sent (trace serveQueue (.accepted messageBuf : OcssdConn Dev Vblk) inputs) ++
      (chunks (final serveQueue (.accepted messageBuf : OcssdConn Dev Vblk) inputs)).flatten =
      inputs.flatMap QueueInput.pushed := balance
  refine ⟨⟨_,whole⟩,whole,armed.event,ended,?_⟩
  intro empty
  rw [chunks,empty,List.map_nil,List.flatten_nil,List.append_nil] at whole
  exact whole

-- A buffer of three bytes that goes out in two writes with a failed one between
-- them, and an empty buffer behind it.
def threeBytes : List QueueInput :=
  [.push (fun a => UInt8.ofNat (a+7)) 3,.writable (.accepts 2),.push (fun _ => 0) 0,.writable (.fails .eagain),
    .writable (.accepts 9),.writable (.accepts 0)]

theorem three_bytes_sent :
    let events := trace serveQueue (.accepted (fun _ => 0) : OcssdConn Unit Unit) threeBytes
    (final serveQueue (.accepted (fun _ => 0) : OcssdConn Unit Unit) threeBytes).writeq = [] ∧
      sent events = [7,8,9] := by
  have intact := @reply_stream_intact Unit Unit (fun _ => 0) threeBytes (by decide)
  have empty : (final serveQueue (.accepted (fun _ => 0) : OcssdConn Unit Unit) threeBytes).writeq = [] :=
    List.length_eq_zero_iff.mp (by decide)
  exact ⟨empty,(intact.2.2.2.2 empty).trans (by decide)⟩

end OcssdServer.ReplyStream
