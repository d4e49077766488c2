import OcssdServer.BlockClient
import OcssdServer.LoopRequests

namespace OcssdServer.GrantLedger
open SocketFill MachineRuns ManagerGrants BlockOwnership LoopRequests

variable {World Dev Vblk Client : Type}

def entries (event : LoopEvent Client) (call : Option (Handled World Dev Vblk)) :
    List (Client × OcssdAllocRequest × VirtualOcssd) :=
  (call.toList.flatMap (fun r => (asked r.session.events).zip (r.session.events.filterMap handed))).map
    (fun entry => (event.client,entry))

variable [DecidableEq Client] (lib : Lightnvm World Dev Vblk)

def ledger : EventLoop World Dev Vblk Client → List (LoopEvent Client) →
    List (Client × OcssdAllocRequest × VirtualOcssd)
  | _,[] => []
  | loop,event :: rest => entries event (loop.reading lib event) ++ ledger (loop.serve lib event).1 rest

-- The blocks that somebody is told are his.
def toldBlocks (vssd : VirtualOcssd) : Set PhysBlock :=
  {b | ∃ grant ∈ channelGrants vssd,b ∈ blocksOf grant.1 grant.2}

variable {lib} {loop : EventLoop World Dev Vblk Client}

omit [DecidableEq Client] in
theorem entries_client {event : LoopEvent Client} {call : Option (Handled World Dev Vblk)}
    {entry : Client × OcssdAllocRequest × VirtualOcssd} (member : entry ∈ entries event call) :
    entry.1 = event.client := by
  obtain ⟨_,_,rfl⟩ := List.mem_map.mp member
  rfl

end OcssdServer.GrantLedger
