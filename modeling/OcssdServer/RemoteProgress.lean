import Mathlib.Data.Prod.Lex
import OcssdServer.RemoteAccess
import OcssdServer.Descents

namespace OcssdServer.RemoteProgress
open ByteBuffers SocketFill BlockOwnership RequestFraming ReplyStream TenantIsolation DescriptorEvents LoopTenants
  ClientSeat BlockCalls RemoteAccess RemoteSite MachineRuns

variable {World Dev Vblk Client γ κ : Type}

def own : SiteMove Client → Bool
  | .other _ => false
  | .send _ | .recv _ | .hangup | .serve _ | .reply _ => true

-- What is left to do, most urgent last: calls to make, data to send, bytes to be
-- read by the server, bytes and buffers to be written, bytes to be received.
def left (client : Client) (site : RemoteSite World Dev Vblk Client) : Nat ×ₗ Nat ×ₗ Nat ×ₗ Nat ×ₗ Nat :=
  toLex (site.user.todo.length,toLex (site.user.unsent.length,toLex (site.up.length,
    toLex (queued site.loop client,site.down.length))))

structure Finished (site : RemoteSite World Dev Vblk Client) : Prop where
  todo : site.user.todo = []
  unsent : site.user.unsent = []
  taking : site.user.taking = none
  up : site.up = []

variable {lib : Lightnvm World Dev Vblk} {set : List (DevName × NvmGeo)} {nameOf : Dev → DevName}
  {span : Vblk → Set PhysBlock} {content : World → PhysBlock → γ} {cursor : World → Vblk → κ}
  {task : Task World Vblk Client} {lead : List UInt8} {account : Account World Dev Vblk}
  {site : RemoteSite World Dev Vblk Client}

section Moves
variable [DecidableEq Client]

theorem send_less {client : Client} (some' : site.user.unsent ≠ [] ∨ site.user.taking = none ∧ site.user.todo ≠ []) :
    left client (site.step lib client (.send (fun _ => 0))) < left client site := by
  have shorter : (site.user.send (fun _ => 0)).1.todo.length < site.user.todo.length ∨
      (site.user.send (fun _ => 0)).1.todo = site.user.todo ∧
        (site.user.send (fun _ => 0)).1.unsent.length < site.user.unsent.length := by
    generalize site.user = user at some' ⊢
    obtain ⟨todo,unsent,taking,results⟩ := user
    cases unsent with
    | cons byte rest => exact .inr ⟨rfl,Nat.zero_lt_succ _⟩
    | nil =>
      obtain ⟨idle,more⟩ := some'.resolve_left (fun none' => none' rfl)
      obtain ⟨call,rest,listed⟩ := List.exists_cons_of_ne_nil more
      dsimp only at idle listed
      rw [idle,listed]
      refine .inl ?_
      cases call with
      | erase blockIdx => exact Nat.lt_succ_self _
      | write blockIdx data fits => exact Nat.lt_succ_self _
      | read blockIdx count offset =>
        simp only [BlockClient.send,BlockClient.await,BlockClient.finish]
        split
        · exact Nat.lt_succ_self _
        · exact Nat.lt_succ_self _
  refine Prod.Lex.toLex_lt_toLex.mpr (shorter.imp id fun same => ⟨congrArg List.length same.1,?_⟩)
  exact Prod.Lex.toLex_lt_toLex.mpr (.inl same.2)

theorem recv_less {client : Client} {open' : UInt64 × List UInt8} (taking : site.user.taking = some open')
    (short : open'.2.length < open'.1.toNat) (some' : site.down ≠ []) :
    left client (site.step lib client (.recv 0)) < left client site := by
  have shorter : (site.user.recv site.down 0).2.length < site.down.length := by
    have size := List.length_pos_of_ne_nil some'
    have most : 0 < largestRead := by decide
    simp only [BlockClient.recv,taking,List.length_drop]
    omega
  obtain ⟨todo,unsent⟩ := recv_keeps site.user site.down 0
  rw [RemoteSite.step,if_neg some',left,left,todo,unsent]
  exact Prod.Lex.toLex_lt_toLex.mpr (.inr ⟨rfl,Prod.Lex.toLex_lt_toLex.mpr
    (.inr ⟨rfl,Prod.Lex.toLex_lt_toLex.mpr (.inr ⟨rfl,Prod.Lex.toLex_lt_toLex.mpr (.inr ⟨rfl,shorter⟩)⟩)⟩)⟩)

theorem serve_less (feasible : Feasible span task) (live : Live lib set span content cursor task lead account site)
    (going : site.loop.ended = false) (sent' : site.user.unsent = []) (some' : site.up ≠ []) : ∃ cuts,
    ¬ starves lib task.client site (.serve cuts) ∧
      left task.client (site.reads lib task.client cuts) < left task.client site ∧
      (site.reads lib task.client cuts).loop.ended = false := by
  obtain ⟨call,rest,sent⟩ := live.first some'
  have inside := live.inside feasible sent
  have served := call_served lib live.boundary.held inside
    (⟨site.loop.manager,site.loop.world,[]⟩ : Session World Vblk)
  have event := (live.tenants.registered _ _ live.found).mpr live.boundary.closed
  have wire : site.up = (callFrame call).wire ++ wires (rest.map callFrame) := by
    have up := live.up
    rw [sent',List.append_nil,sent] at up
    exact up
  obtain ⟨cuts,socket,plan,fires,back,same⟩ := live.seat.whole_served lib going (frame_inside inside)
    wire
  have step := live.seat.reads lib going event socket
  rw [EventLoop.onRead,same] at step
  refine ⟨cuts,?_,?_,?_⟩
  · intro dry
    obtain ⟨endpoint,socket,fires',waits⟩ := dry
    cases fires.symm.trans fires'
    exact back waits
  · have less : (wires (rest.map callFrame)).length < site.up.length := by
      have header := (callFrame call).size
      have least : messageBufferSize = 24 := rfl
      rw [wire,List.length_append,Frame.wire,List.length_append]
      omega
    rw [reads_fired fires,same]
    refine Prod.Lex.toLex_lt_toLex.mpr (.inr ⟨rfl,Prod.Lex.toLex_lt_toLex.mpr (.inr ⟨rfl,?_⟩)⟩)
    exact Prod.Lex.toLex_lt_toLex.mpr (.inl less)
  · rw [reads_fired fires,callsBack,step]
    exact congrArg CallEnd.ends served.ending

theorem reply_less (live : Live lib set span content cursor task lead account site) (going : site.loop.ended = false)
    (some' : account.endpoint.conn.writeq ≠ []) :
    left task.client (site.callsBack lib task.client (.writable task.client (.accepts 1))) < left task.client site ∧
      (site.callsBack lib task.client (.writable task.client (.accepts 1))).loop.ended = false := by
  obtain ⟨fewer,still⟩ := @reply_drains _ _ _ _ lib _ _ _ _ _ _ live.seat going some'
  exact ⟨Prod.Lex.toLex_lt_toLex.mpr (.inr ⟨rfl,Prod.Lex.toLex_lt_toLex.mpr
    (.inr ⟨rfl,Prod.Lex.toLex_lt_toLex.mpr (.inr ⟨rfl,Prod.Lex.toLex_lt_toLex.mpr (.inl fewer)⟩)⟩)⟩),still⟩

theorem goes_on (feasible : Feasible span task) (live : Live lib set span content cursor task lead account site)
    (going : site.loop.ended = false) :
    Finished site ∨ ∃ move,own move = true ∧ ¬ starves lib task.client site move ∧
      left task.client (site.step lib task.client move) < left task.client site ∧
      (site.step lib task.client move).loop.ended = false := by
  by_cases unsent : site.user.unsent = []
  swap
  · exact .inr ⟨.send (fun _ => 0),rfl,id,send_less (.inl unsent),going⟩
  by_cases up : site.up = []
  swap
  · obtain ⟨cuts,fed,less,still⟩ := serve_less feasible live going unsent up
    exact .inr ⟨.serve cuts,rfl,fed,less,still⟩
  by_cases queue : account.endpoint.conn.writeq = []
  swap
  · exact .inr ⟨.reply (.accepts 1),rfl,id,reply_less live going queue⟩
  have nothing : (chunks account.endpoint.conn).flatten = [] := by rw [chunks,queue]; rfl
  cases taking : site.user.taking with
  | some open' =>
    have short : open'.2.length < open'.1.toNat :=
      live.balanced.short open'.1.toNat open'.2 (congrArg (Option.map _) taking)
    have owed := CallPipe.owed_wanted live.balanced (live.drained up unsent)
    simp only [CallPipe.Pipe.got,CallPipe.Pipe.wanted,Account.pipe,pipe,taking,nothing,List.append_nil,Option.map_some,
      Option.getD_some,Option.toList_some,List.sum_singleton] at owed
    have some' : site.down ≠ [] := by
      intro empty
      rw [empty,List.length_nil,Nat.add_zero] at owed
      omega
    refine .inr ⟨.recv 0,rfl,id,recv_less taking short some',?_⟩
    rw [RemoteSite.step,if_neg some']
    exact going
  | none =>
    by_cases todo : site.user.todo = []
    · exact .inl ⟨todo,unsent,taking,up⟩
    · exact .inr ⟨.send (fun _ => 0),rfl,id,send_less (.inr ⟨taking,todo⟩),going⟩

variable (rules : DeviceRules lib set nameOf span content) (store : StoreRules lib span content cursor)
  (fit : DevicesFit set) (fields : ∀ d ∈ set,FieldsHold lib d.2)
include rules store fit fields

theorem finishes (feasible : Feasible span task) (live : Live lib set span content cursor task lead account site)
    (going : site.loop.ended = false) : ∃ more,(∀ move ∈ more,own move = true) ∧
      ((∃ account',Live lib set span content cursor task lead account' (site.run lib task.client more)) ∧
        (site.run lib task.client more).loop.ended = false) ∧ Finished (site.run lib task.client more) := by
  have goes : ∀ site : RemoteSite World Dev Vblk Client,
      ((∃ account',Live lib set span content cursor task lead account' site) ∧ site.loop.ended = false) →
        Finished site ∨ ∃ move,own move = true ∧
          ((∃ account',Live lib set span content cursor task lead account' (site.step lib task.client move)) ∧
            (site.step lib task.client move).loop.ended = false) ∧
          left task.client (site.step lib task.client move) < left task.client site := by
    rintro site ⟨⟨account,live⟩,going⟩
    cases goes_on feasible live going with
    | inl done => exact .inl done
    | inr goes =>
      obtain ⟨move,mine,fed,less,still⟩ := goes
      cases step_next rules store fit fields feasible live move still with
      | lives _ account' live' => exact .inr ⟨move,mine,⟨⟨account',live'⟩,still⟩,less⟩
      | starves dry _ => exact absurd dry fed
  exact descends (left task.client) goes ⟨⟨account,live⟩,going⟩

end Moves

end OcssdServer.RemoteProgress
