import OcssdServer.BlockClient

namespace OcssdServer
open ByteBuffers SocketFill

def bufferSize : Nat := 1024

-- Where the first part of test_local_ocssd and test_remote_ocssd stands. `holds`:
-- what recv has returned and what deserialize has then made of the buffer, which
-- has no value when it reads past its end.
inductive AllocPhase where
  | unsent
  | waiting
  | holds (size : Nat) (vssd : Option VirtualOcssd)
deriving DecidableEq, Repr

-- Request and reply go through the same buffer.
structure AllocClient where
  request : OcssdAllocRequest
  buffer : Memory
  phase : AllocPhase

namespace AllocClient

def start (request : OcssdAllocRequest) : AllocClient := ⟨request,fun _ => 0,.unsent⟩

def ask (client : AllocClient) : AllocClient × List UInt8 :=
  match client.phase with
  | .unsent =>
    let serialized := client.request.serialize client.buffer
    ({client with buffer := serialized.1,phase := .waiting},load serialized.1 0 serialized.2)
  | .waiting | .holds _ _ => (client,[])

-- There is one recv(2), whatever it returns: on a stream with data that is at
-- least one byte of it, and nothing when the server has closed the connection.
def take (client : AllocClient) (data : List UInt8) : AllocClient :=
  let buffer := store client.buffer 0 data
  {client with
    buffer := buffer
    phase := .holds data.length ((VirtualOcssd.new.deserialize (load buffer 0 bufferSize)).map Prod.fst)}

def recv (client : AllocClient) (stream : List UInt8) (more : Nat) : AllocClient × List UInt8 :=
  match client.phase with
  | .waiting =>
    let len := min (more+1) bufferSize
    (client.take (stream.take len),stream.drop len)
  | .unsent | .holds _ _ => (client,stream)

def hangup (client : AllocClient) : AllocClient :=
  match client.phase with
  | .waiting => client.take []
  | .unsent | .holds _ _ => client

end AllocClient

structure AllocSite (World Dev Vblk Client : Type) where
  wire : RemoteSite World Dev Vblk Client
  user : AllocClient

inductive AllocMove (Client : Type) where
  | ask
  | recv (more : Nat)
  | hangup
  | serve (cuts : List Nat)
  | reply (event : WriteEvent)
  | other (event : LoopEvent Client)

namespace AllocSite
variable {World Dev Vblk Client : Type} [DecidableEq Client]

omit [DecidableEq Client] in
def start (loop : EventLoop World Dev Vblk Client) (user : AllocClient) : AllocSite World Dev Vblk Client :=
  ⟨⟨loop,⟨[],[],none,[]⟩,[],[]⟩,user⟩

def step (lib : Lightnvm World Dev Vblk) (client : Client) (site : AllocSite World Dev Vblk Client) :
    AllocMove Client → AllocSite World Dev Vblk Client
  | .ask =>
    let r := site.user.ask
    {site with user := r.1,wire := {site.wire with up := site.wire.up ++ r.2}}
  | .recv more =>
    if site.wire.down = [] then site
    else
      let r := site.user.recv site.wire.down more
      {site with user := r.1,wire := {site.wire with down := r.2}}
  | .hangup =>
    match site.wire.loop.clients client with
    | none => site
    | some endpoint =>
      if endpoint.conn.closed ∧ site.wire.down = [] then {site with user := site.user.hangup} else site
  | .serve cuts => {site with wire := site.wire.step lib client (.serve cuts)}
  | .reply event => {site with wire := site.wire.step lib client (.reply event)}
  | .other event => {site with wire := site.wire.step lib client (.other event)}

def run (lib : Lightnvm World Dev Vblk) (client : Client) (site : AllocSite World Dev Vblk Client)
    (moves : List (AllocMove Client)) : AllocSite World Dev Vblk Client := moves.foldl (step lib client) site

end AllocSite
end OcssdServer
