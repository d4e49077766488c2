import OcssdServer.ResourceManager

namespace OcssdServer
open ByteBuffers

-- The three fields of struct nvm_addr that the server sets.
structure NvmAddr where
  ch : Nat
  lun : Nat
  blk : Nat
deriving DecidableEq, Repr

-- liblightnvm as the server calls it. `World` is everything the library and the
-- devices remember. A `Vblk` is the identity of one allocation, so it is not
-- reused after nvm_vblk_free. The address fields have these widths.
structure Lightnvm (World Dev Vblk : Type) where
  chBits : Nat
  lunBits : Nat
  blkBits : Nat
  devOpen : DevName → World → Option Dev × World
  devGetGeo : Dev → NvmGeo
  vblkAlloc : Option Dev → List NvmAddr → World → Option Vblk × World
  vblkFree : Option Vblk → World → World
  vblkGetNbytes : Option Vblk → World → UInt64
  vblkErase : Option Vblk → World → Int × World
  vblkWrite : Option Vblk → List UInt8 → World → Int × World
  vblkRead : Option Vblk → Memory → UInt64 → World → (Int × Memory) × World
  vblkPread : Option Vblk → Memory → UInt64 → UInt64 → World → (Int × Memory) × World
  bufAlloc : NvmGeo → UInt64 → World → Memory
  malloc : UInt64 → World → Memory

-- A library whose calls all succeed and remember nothing.
def quietLib : Lightnvm Unit Unit Unit where
  chBits := 8
  lunBits := 8
  blkBits := 16
  devOpen := fun _ _ => (some (),())
  devGetGeo := fun _ => ⟨5,1,1,4,1,1,1,1,0⟩
  vblkAlloc := fun _ _ _ => (some (),())
  vblkFree := fun _ _ => ()
  vblkGetNbytes := fun _ _ => 0
  vblkErase := fun _ _ => (0,())
  vblkWrite := fun _ data _ => (data.length,())
  vblkRead := fun _ buf count _ => ((count.toNat,buf),())
  vblkPread := fun _ buf count _ _ => ((count.toNat,buf),())
  bufAlloc := fun _ _ _ _ => 0
  malloc := fun _ _ _ => 0

inductive VblkCall where
  | free
  | erase
  | write (data : List UInt8)
  | read (count : UInt64)
  | pread (count offset : UInt64)
deriving DecidableEq, Repr

inductive Event (Vblk : Type) where
  | dispatched (message : List UInt8)
  | granted (vssd : VirtualOcssd) (remote : Bool)
  | called (vblk : Option Vblk) (call : VblkCall)
deriving DecidableEq, Repr

structure Session (World Vblk : Type) where
  manager : OcssdManager
  world : World
  events : List (Event Vblk)

section Calls
variable {World Dev Vblk : Type} (lib : Lightnvm World Dev Vblk)

def Session.log (session : Session World Vblk) (event : Event Vblk) : Session World Vblk :=
  {session with events := session.events ++ [event]}

def Session.call {α : Type} (session : Session World Vblk) (vblk : Option Vblk) (call : VblkCall)
    (result : α × World) : α × Session World Vblk :=
  (result.1,{session.log (.called vblk call) with world := result.2})

def vblkErase (vblk : Option Vblk) (session : Session World Vblk) : Int × Session World Vblk :=
  session.call vblk .erase (lib.vblkErase vblk session.world)

def vblkWrite (vblk : Option Vblk) (data : List UInt8) (session : Session World Vblk) :
    Int × Session World Vblk :=
  session.call vblk (.write data) (lib.vblkWrite vblk data session.world)

def vblkRead (vblk : Option Vblk) (buf : Memory) (count : UInt64) (session : Session World Vblk) :
    (Int × Memory) × Session World Vblk :=
  session.call vblk (.read count) (lib.vblkRead vblk buf count session.world)

def vblkPread (vblk : Option Vblk) (buf : Memory) (count offset : UInt64)
    (session : Session World Vblk) : (Int × Memory) × Session World Vblk :=
  session.call vblk (.pread count offset) (lib.vblkPread vblk buf count offset session.world)

def vblkFree (vblk : Option Vblk) (session : Session World Vblk) : Session World Vblk :=
  (session.call vblk .free ((),lib.vblkFree vblk session.world)).2

def vblkAlloc (dev : Option Dev) (addrs : List NvmAddr) (session : Session World Vblk) :
    Option Vblk × Session World Vblk :=
  ((lib.vblkAlloc dev addrs session.world).1,
    {session with world := (lib.vblkAlloc dev addrs session.world).2})

def devOpen (devPath : DevName) (session : Session World Vblk) : Option Dev × Session World Vblk :=
  ((lib.devOpen devPath session.world).1,{session with world := (lib.devOpen devPath session.world).2})

-- The conversion of a size_t to int keeps the low 32 bits.
def intOfSize (size : UInt64) : Int := size.toUInt32.toInt32.toInt

theorem intOfSize_eq (size : UInt64) : intOfSize size =
    if size.toNat % 2^32 < 2^31 then ((size.toNat % 2^32 : Nat) : Int) else ((size.toNat % 2^32 : Nat) : Int) - 2^32 := by
  have word : intOfSize size = size.toUInt32.toBitVec.toInt := rfl
  rw [word,BitVec.toInt_eq_toNat_cond,UInt32.toNat_toBitVec,UInt64.toNat_toUInt32]
  split <;> split <;> omega

def testWrites (vblk : Option Vblk) (buf : Memory) (reqSize : UInt64) :
    Nat → Session World Vblk → Int × Session World Vblk
  | 0,session => (0,session)
  | count+1,session =>
    let r := vblkWrite lib vblk (load buf 0 reqSize.toNat) session
    if r.1 < 0 then r else testWrites vblk buf reqSize count r.2

def testReads (vblk : Option Vblk) (reqSize : UInt64) :
    Nat → Memory → Session World Vblk → Int × Session World Vblk
  | 0,_,session => (0,session)
  | count+1,buf,session =>
    let r := vblkRead lib vblk buf reqSize session
    if r.1.1 < 0 then (r.1.1,r.2) else testReads vblk reqSize count r.1.2 r.2

def nvmVblkTest (geo : NvmGeo) (vblk : Option Vblk) (session : Session World Vblk) :
    Int × Session World Vblk :=
  let blkSize := lib.vblkGetNbytes vblk session.world
  let reqSize : UInt64 := 262144
  let count := intOfSize (blkSize/reqSize)
  let erased := vblkErase lib vblk session
  if erased.1 ≠ 0 then erased
  else
    let buf := lib.bufAlloc geo reqSize erased.2.world
    let written := testWrites lib vblk buf reqSize count.toNat erased.2
    if written.1 < 0 then written else testReads lib vblk reqSize count.toNat buf written.2

end Calls
end OcssdServer
