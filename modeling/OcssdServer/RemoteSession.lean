import OcssdServer.AllocProgress
import OcssdServer.RemoteProgress

namespace OcssdServer.RemoteSession
open ByteBuffers SocketFill BlockOwnership RequestFraming ReplyStream TenantIsolation DescriptorEvents LoopTenants
  ClientSeat BlockCalls RemoteAccess RemoteProgress RemoteSite AllocHandshake AllocProgress MachineRuns

section Rounds

-- What test_remote_ocssd does to a block: erase it, fill it and read it back. The
-- data goes out in one send.
structure Round where
  blockIdx : UInt32
  data : List UInt8
  whole : data.length ≤ largestWrite

theorem Round.fits (round : Round) : round.data.length < 2^64 := round.whole.trans_lt (by decide)

def Round.calls (round : Round) : List BlockCall :=
  [.erase round.blockIdx,.write round.blockIdx round.data round.fits,
    .read round.blockIdx (UInt64.ofNat round.data.length) 0]

def roundCalls (rounds : List Round) : List BlockCall := rounds.flatMap Round.calls

def filled (blockIdx : UInt32) (count : UInt64) (whole : count.toNat ≤ largestWrite) : Round :=
  ⟨blockIdx,List.replicate count.toNat 0x61,List.length_replicate.trans_le whole⟩

end Rounds

section Store
variable {World Dev Vblk : Type} (lib : Lightnvm World Dev Vblk)

-- An erased block that takes data of this length gives it back.
def GivesBack (v : Vblk) (data : List UInt8) : Prop :=
  ∀ w buf,load (lib.vblkPread (some v) buf (UInt64.ofNat data.length) 0
    (lib.vblkWrite (some v) data (lib.vblkErase (some v) w).2).2).1.2 0 data.length = data

structure Doable (span : Vblk → Set PhysBlock) (blksArray : List (Option Vblk)) (rounds : List Round) : Prop where
  inside : ∀ round ∈ rounds,round.blockIdx.toNat < blksArray.length
  keeps : ∀ round ∈ rounds,∀ v,blksArray[round.blockIdx.toNat]? = some (some v) → GivesBack lib v round.data
  built : ∀ v,some v ∈ blksArray → (span v).Nonempty

variable {lib} {span : Vblk → Set PhysBlock} {blksArray : List (Option Vblk)} {rounds : List Round}

theorem round_call {call : BlockCall} (member : call ∈ roundCalls rounds) :
    ∃ round ∈ rounds,call.blockIdx = round.blockIdx ∧ call.payload.length ≤ largestWrite := by
  obtain ⟨round,listed,here⟩ := List.mem_flatMap.mp member
  refine ⟨round,listed,?_⟩
  simp only [Round.calls,List.mem_cons,List.not_mem_nil,or_false] at here
  rcases here with rfl | rfl | rfl
  · exact ⟨rfl,Nat.zero_le _⟩
  · exact ⟨rfl,round.whole⟩
  · exact ⟨rfl,Nat.zero_le _⟩

theorem Doable.feasible {Client : Type} (doable : Doable lib span blksArray rounds) (client : Client) (start : World) :
    Feasible span ⟨client,blksArray,start,roundCalls rounds⟩ := by
  refine ⟨fun call member => ?_,fun call member => ?_,doable.built⟩
  · obtain ⟨round,listed,same,_⟩ := round_call member
    rw [same]
    exact doable.inside round listed
  · obtain ⟨_,_,_,short⟩ := round_call member
    exact short

end Store

section Session
variable {World Dev Vblk Client γ κ : Type} {lib : Lightnvm World Dev Vblk} {set : List (DevName × NvmGeo)}
  {span : Vblk → Set PhysBlock} {content : World → PhysBlock → γ} {cursor : World → Vblk → κ} {client : Client}
  {request : OcssdAllocRequest} {area : Set PhysBlock} {own : List (Client × OcssdAllocRequest × VirtualOcssd)}
  {endpoint : Endpoint Dev Vblk} {site : AllocSite World Dev Vblk Client}

end Session

end OcssdServer.RemoteSession
