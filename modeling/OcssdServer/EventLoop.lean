import OcssdServer.Connection

namespace OcssdServer
open ByteBuffers SocketFill

inductive WriteEvent where
  | accepts (count : Nat)
  | fails (errno : Errno)
deriving DecidableEq, Repr

def largestWrite : Nat := 2147483647

-- `exited`: err(1, ..). `emptyQueue`: the front of an empty deque, which has no defined meaning.
inductive WriteEnd where
  | returned
  | exited
  | emptyQueue
deriving DecidableEq, Repr

structure Written (Dev Vblk : Type) where
  conn : OcssdConn Dev Vblk
  bytes : List UInt8
  ending : WriteEnd

section Callbacks
variable {Dev Vblk : Type}

def onWrite (conn : OcssdConn Dev Vblk) (event : WriteEvent) : Written Dev Vblk :=
  match conn.writeq with
  | [] => ⟨conn,[],.emptyQueue⟩
  | bufferq :: rest =>
    match event with
    | .fails errno =>
      if errno = .eintr ∨ errno = .eagain then ⟨{conn with evWrite := true},[],.returned⟩
      else ⟨conn,[],.exited⟩
    | .accepts count =>
      let len := UInt64.ofNat (min count (min (bufferq.len-bufferq.offset).toNat largestWrite))
      let bytes := load bufferq.buf bufferq.offset.toNat len.toNat
      if bufferq.offset+len < bufferq.len then
        ⟨{conn with writeq := {bufferq with offset := bufferq.offset+len} :: rest,evWrite := true},bytes,.returned⟩
      else
        ⟨{conn with writeq := rest,evWrite := if 0 < rest.length then true else conn.evWrite},bytes,.returned⟩

-- ev_write is a one-shot event: it is no longer registered when it calls back.
def fireWrite (conn : OcssdConn Dev Vblk) (event : WriteEvent) : Written Dev Vblk :=
  if conn.evWrite then onWrite {conn with evWrite := false} event else ⟨conn,[],.returned⟩

end Callbacks

-- A client object is never freed and keeps the descriptor number it was accepted on.
structure Endpoint (Dev Vblk : Type) where
  fd : Nat
  conn : OcssdConn Dev Vblk

structure EventLoop (World Dev Vblk Client : Type) where
  manager : OcssdManager
  world : World
  clients : Client → Option (Endpoint Dev Vblk)
  owner : Nat → Option Client
  ended : Bool

inductive LoopEvent (Client : Type) where
  | acceptable (client : Client) (fd : Nat) (messageBuf : Memory)
  | readable (client : Client) (socket : Socket Errno)
  | writable (client : Client) (event : WriteEvent)

structure Delivery (Client : Type) where
  sender : Client
  receiver : Option Client
  bytes : List UInt8
deriving DecidableEq, Repr

-- An exception leaves on_read uncaught: nothing is said of what would follow.
def CallEnd.ends : CallEnd → Bool
  | .threw | .badIndex | .outOfRange => true
  | .returned _ | .waiting => false

namespace EventLoop
variable {World Dev Vblk Client : Type} [DecidableEq Client]

omit [DecidableEq Client] in
def start (set : List (DevName × NvmGeo)) (world : World) : EventLoop World Dev Vblk Client :=
  ⟨.ofDevices set,world,fun _ => none,fun _ => none,false⟩

-- accept(2) gives a new client any number that is not open.
def onAccept (loop : EventLoop World Dev Vblk Client) (client : Client) (fd : Nat) (messageBuf : Memory) :
    EventLoop World Dev Vblk Client :=
  if (loop.clients client).isNone ∧ (loop.owner fd).isNone then
    {loop with
      clients := Function.update loop.clients client (some ⟨fd,.accepted messageBuf⟩)
      owner := Function.update loop.owner fd (some client)}
  else loop

def onRead (lib : Lightnvm World Dev Vblk) (loop : EventLoop World Dev Vblk Client) (client : Client)
    (endpoint : Endpoint Dev Vblk) (socket : Socket Errno) : EventLoop World Dev Vblk Client :=
  let r := processIncomingRequests lib endpoint.conn ⟨loop.manager,loop.world,[]⟩ socket
  ⟨r.session.manager,r.session.world,Function.update loop.clients client (some {endpoint with conn := r.conn}),
    if r.conn.closed then Function.update loop.owner endpoint.fd none else loop.owner,r.ending.ends⟩

-- What is registered stays registered on the number, whoever that belongs to.
def serve (lib : Lightnvm World Dev Vblk) (loop : EventLoop World Dev Vblk Client) (event : LoopEvent Client) :
    EventLoop World Dev Vblk Client × Option (Delivery Client) :=
  if loop.ended then (loop,none)
  else
    match event with
    | .acceptable client fd messageBuf => (loop.onAccept client fd messageBuf,none)
    | .readable client socket =>
      match loop.clients client with
      | none => (loop,none)
      | some endpoint =>
        if endpoint.conn.evRead ∧ (loop.owner endpoint.fd).isSome then
          (loop.onRead lib client endpoint socket,none)
        else (loop,none)
    | .writable client event =>
      match loop.clients client with
      | none => (loop,none)
      | some endpoint =>
        if endpoint.conn.evWrite ∧ (loop.owner endpoint.fd).isSome then
          let r := fireWrite endpoint.conn event
          ({loop with
            clients := Function.update loop.clients client (some {endpoint with conn := r.conn})
            ended := r.ending ≠ .returned},some ⟨client,loop.owner endpoint.fd,r.bytes⟩)
        else (loop,none)

end EventLoop
end OcssdServer
