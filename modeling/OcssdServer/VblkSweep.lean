import OcssdServer.BlockDevice

namespace OcssdServer

structure SweepRound where
  size : Int
  requests : List (Nat × Nat)
deriving DecidableEq, Repr

inductive SweepEnd where
  | done
  | undefined
  | aborted
deriving DecidableEq, Repr

structure Swept where
  rounds : List SweepRound
  ending : SweepEnd
deriving DecidableEq, Repr

-- What liblightnvm says of the virtual block of some addresses: its size, whether there is a
-- buffer of some size, and what a transfer of a length returns at a position.
structure VblkBench where
  nbytes : List NvmAddr → UInt64
  buffer : UInt64 → Bool
  transfer : List NvmAddr → UInt64 → UInt64 → Int

-- The library moves the position on by what it returns; a failed request leaves it.
def issueRequests (transfer : UInt64 → UInt64 → Int) (size : UInt64) :
    Nat → UInt64 → List (Nat × Nat) × UInt64
  | 0,pos => ([],pos)
  | count+1,pos =>
    let res := transfer pos size
    let r := issueRequests transfer size count (if res < 0 then pos else pos+UInt64.ofInt res)
    ((pos.toNat,size.toNat) :: r.1,r.2)

def fitsInt (value : Int) : Prop := -2^31 ≤ value ∧ value < 2^31

instance (value : Int) : Decidable (fitsInt value) := inferInstanceAs (Decidable (_ ∧ _))

-- On ints. The remainder is taken only where the comparison holds, so of its two undefined cases
-- only the zero divisor can come up. Only the write test has the assertion.
def sweepLoop (asserts : Bool) (transfer : UInt64 → UInt64 → Int) (endSize startSize : Int) : Swept :=
  if startSize ≤ endSize then
    if startSize = 0 then ⟨[],.undefined⟩
    else if endSize.tmod startSize = 0 then
      let issued := issueRequests transfer (UInt64.ofInt startSize) (endSize.tdiv startSize).toNat 0
      let round : SweepRound := ⟨startSize,issued.1⟩
      if fits : fitsInt (startSize*2) then
        if asserts ∧ issued.2 ≠ UInt64.ofInt endSize then ⟨[round],.aborted⟩
        else
          let r := sweepLoop asserts transfer endSize (startSize*2)
          {r with rounds := round :: r.rounds}
      else ⟨[round],.undefined⟩
    else ⟨[],.done⟩
  else ⟨[],.done⟩
termination_by 2^31-startSize.natAbs
decreasing_by
  obtain ⟨_,_⟩ := fits
  omega

def sweepUnits (geo : NvmGeo) (channels : List Nat) : List NvmAddr :=
  channels.flatMap fun channel => (List.range geo.nluns.toNat).map fun lun => ⟨channel,lun,0⟩

def startSize (geo : NvmGeo) : Int := intOfSize (geo.nplanes*geo.nsectors*geo.sectorNbytes)

def testVblk (asserts : Bool) (bench : VblkBench) (geo : NvmGeo) (channels : List Nat) : Swept :=
  let units := sweepUnits geo channels
  let endSize := intOfSize (bench.nbytes units)
  if bench.buffer (UInt64.ofInt endSize) then sweepLoop asserts (bench.transfer units) endSize (startSize geo)
  else ⟨[],.done⟩

def testVblkWrite (bench : VblkBench) (geo : NvmGeo) (channels : List Nat) : Swept :=
  testVblk true bench geo channels

def testVblkRead (bench : VblkBench) (geo : NvmGeo) (channels : List Nat) : Swept :=
  testVblk false bench geo channels

end OcssdServer
