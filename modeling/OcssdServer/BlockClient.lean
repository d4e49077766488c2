import OcssdServer.EventLoop

namespace OcssdServer
open ByteBuffers SocketFill

inductive BlockCall where
  | erase (blockIdx : UInt32)
  | write (blockIdx : UInt32) (data : List UInt8) (fits : data.length < 2^64)
  | read (blockIdx : UInt32) (count offset : UInt64)

namespace BlockCall

def blockIdx : BlockCall → UInt32
  | .erase blockIdx => blockIdx
  | .write blockIdx _ _ => blockIdx
  | .read blockIdx _ _ => blockIdx

def request : BlockCall → OcssdIoRequest
  | .erase blockIdx => ⟨.eraseBlock,blockIdx,0,0⟩
  | .write blockIdx data _ => ⟨.writeBlock,blockIdx,UInt64.ofNat data.length,0⟩
  | .read blockIdx count offset => ⟨.readBlock,blockIdx,count,offset⟩

def payload : BlockCall → List UInt8
  | .write _ data _ => data
  | .erase _ => []
  | .read _ _ _ => []

def message (call : BlockCall) (buffer : Memory) : List UInt8 :=
  let serialized := call.request.serialize buffer
  load serialized.1 0 serialized.2

-- What test_write_block hands to its second send(2), as far as one call moves it.
def data (call : BlockCall) : List UInt8 := call.payload.take largestWrite

end BlockCall

-- A client and the calls it has left. `unsent`: the data of a write whose request
-- is sent. `taking`: what the recv loop of a read wants and has got.
structure BlockClient where
  todo : List BlockCall
  unsent : List UInt8
  taking : Option (UInt64 × List UInt8)
  results : List (List UInt8)

namespace BlockClient

def finish (client : BlockClient) (result : List UInt8) : BlockClient :=
  {client with taking := none,results := client.results ++ [result]}

def await (client : BlockClient) (count : UInt64) (got : List UInt8) : BlockClient :=
  if count.toNat ≤ got.length then client.finish got else {client with taking := some (count,got)}

-- The next send(2) of the program, on a socket that blocks: it comes back when its
-- bytes are on their way. Of a read of no bytes the recv returns 0.
def send (client : BlockClient) (buffer : Memory) : BlockClient × List UInt8 :=
  match client.unsent,client.taking,client.todo with
  | byte :: rest,_,_ => ({client with unsent := []},byte :: rest)
  | [],none,call :: rest =>
    let client := {client with todo := rest,unsent := call.data}
    match call with
    | .read _ count _ => (client.await count [],call.message buffer)
    | .erase _ => (client,call.message buffer)
    | .write _ _ _ => (client,call.message buffer)
  | [],_,_ => (client,[])

-- recv(2) on a stream with data takes at least one byte of it.
def recv (client : BlockClient) (stream : List UInt8) (more : Nat) : BlockClient × List UInt8 :=
  match client.taking with
  | none => (client,stream)
  | some (count,got) =>
    let len := min (more+1) (min (count.toNat-got.length) largestRead)
    (client.await count (got ++ stream.take len),stream.drop len)

-- The server has closed the connection and nothing is left to receive: what
-- data_buf was set to stays behind what came.
def hangup (client : BlockClient) : BlockClient :=
  match client.taking with
  | none => client
  | some (count,got) => client.finish (got ++ List.replicate (count.toNat-got.length) 0x62)

end BlockClient

def LoopEvent.client {Client : Type} : LoopEvent Client → Client
  | .acceptable client _ _ => client
  | .readable client _ => client
  | .writable client _ => client

structure RemoteSite (World Dev Vblk Client : Type) where
  loop : EventLoop World Dev Vblk Client
  user : BlockClient
  up : List UInt8
  down : List UInt8

inductive SiteMove (Client : Type) where
  | send (buffer : Memory)
  | recv (more : Nat)
  | hangup
  | serve (cuts : List Nat)
  | reply (event : WriteEvent)
  | other (event : LoopEvent Client)

namespace RemoteSite
variable {World Dev Vblk Client : Type} [DecidableEq Client]

def received (client : Client) (delivery : Option (Delivery Client)) : List UInt8 :=
  match delivery with
  | none => []
  | some delivery => if delivery.receiver = some client then delivery.bytes else []

def callsBack (lib : Lightnvm World Dev Vblk) (client : Client) (site : RemoteSite World Dev Vblk Client)
    (event : LoopEvent Client) : RemoteSite World Dev Vblk Client :=
  let r := site.loop.serve lib event
  {site with loop := r.1,down := site.down ++ received client r.2}

def pieces (cuts : List Nat) : List (ReadEvent Errno) := cuts.map .bytes

omit [DecidableEq Client] in
-- What on_read finds: these pieces (each counted from one) of what was sent have
-- come, and a read after them would block. With none of it the event does not fire.
def fires (client : Client) (site : RemoteSite World Dev Vblk Client) (cuts : List Nat) :
    Option (Endpoint Dev Vblk × Socket Errno) :=
  match site.loop.clients client with
  | none => none
  | some endpoint =>
    if site.loop.ended = false ∧ endpoint.conn.evRead ∧ (site.loop.owner endpoint.fd).isSome ∧ cuts ≠ [] ∧
        offered (pieces cuts) ≤ site.up.length then
      some (endpoint,⟨site.up,pieces cuts ++ [.fails .eagain]⟩)
    else none

def reads (lib : Lightnvm World Dev Vblk) (client : Client) (site : RemoteSite World Dev Vblk Client)
    (cuts : List Nat) : RemoteSite World Dev Vblk Client :=
  match site.fires client cuts with
  | none => site
  | some (endpoint,socket) =>
    let r := processIncomingRequests lib endpoint.conn ⟨site.loop.manager,site.loop.world,[]⟩ socket
    {site.callsBack lib client (.readable client socket) with up := r.socket.stream}

def step (lib : Lightnvm World Dev Vblk) (client : Client) (site : RemoteSite World Dev Vblk Client) :
    SiteMove Client → RemoteSite World Dev Vblk Client
  | .send buffer =>
    let r := site.user.send buffer
    {site with user := r.1,up := site.up ++ r.2}
  | .recv more =>
    if site.down = [] then site
    else
      let r := site.user.recv site.down more
      {site with user := r.1,down := r.2}
  | .hangup =>
    match site.loop.clients client with
    | none => site
    | some endpoint =>
      if endpoint.conn.closed ∧ site.down = [] then {site with user := site.user.hangup} else site
  | .serve cuts => site.reads lib client cuts
  | .reply event => site.callsBack lib client (.writable client event)
  | .other event => if event.client = client then site else site.callsBack lib client event

def run (lib : Lightnvm World Dev Vblk) (client : Client) (site : RemoteSite World Dev Vblk Client)
    (moves : List (SiteMove Client)) : RemoteSite World Dev Vblk Client := moves.foldl (step lib client) site

end RemoteSite
end OcssdServer
