import OcssdServer.SharedLevels

namespace OcssdServer.RequestRemainders
open ChannelBalance SharedLevels

def freeBlocks (channel : OcssdChannel) : Nat :=
  (channel.luns.map (fun lun => lun.numBlocks.toNat-lun.numUsed.toNat)).sum

section Channel
variable {geo : NvmGeo} {channel : OcssdChannel}

theorem freeBlocks_level (balanced : Balanced geo channel) :
    freeBlocks channel = geo.nluns.toNat*(geo.nblocks.toNat-(level channel).toNat) := by
  have each : ∀ lun ∈ channel.luns,
      lun.numBlocks.toNat-lun.numUsed.toNat = geo.nblocks.toNat-(level channel).toNat := by
    intro lun member
    rw [balanced.luns] at member
    obtain ⟨i,_,rfl⟩ := List.mem_map.mp member
    rfl
  rw [freeBlocks,List.map_congr_left each,List.map_const',List.sum_replicate,Nat.nsmul_eq_mul,(luns_level balanced).1]

-- What get_free_blocks reports of an unused channel, as long as its counters do
-- not overflow.
theorem getFreeBlocks_toNat (fits : geo.nluns.toNat*geo.nblocks.toNat < 2^64) (balanced : Balanced geo channel)
    (unused : channel.used = false) : channel.getFreeBlocks.toNat = freeBlocks channel := by
  obtain ⟨used,total⟩ := counters_toNat fits balanced
  have bounded := Nat.mul_le_mul_left geo.nluns.toNat (UInt64.le_iff_toNat_le.mp balanced.bounded)
  have below : channel.numUsedBlocks ≤ channel.numTotalBlocks := by
    rw [UInt64.le_iff_toNat_le,used,total]
    exact bounded
  rw [OcssdChannel.getFreeBlocks,unused,freeBlocks_level balanced,Nat.mul_sub,←used,←total]
  exact UInt64.toNat_sub_of_le _ _ below

theorem allocated_toNat (balanced : Balanced geo channel) (request : UInt64) :
    (channel.allocBlocks [] request).allocated.toNat = if notFull channel then
      geo.nluns.toNat*min (request.toNat/geo.nluns.toNat) (geo.nblocks.toNat-(level channel).toNat) else 0 := by
  rw [←lunShare_toNat request balanced,←given_toNat request balanced]
  cases served : serves request channel with
  | true =>
    have open' : notFull channel = true := by simpa [notFull] using (serves_parts served).1
    rw [allocBlocks_serves balanced served,if_pos open']
  | false =>
    rw [(allocBlocks_refuses served).2]
    split
    · rename_i open'
      have refused : request/channel.numLuns = 0 := by
        by_contra asks
        have served' : serves request channel = true := by simpa [serves,asks,notFull] using open'
        rw [served] at served'
        cases served'
      have nothing : lunShare channel request = 0 := by
        rw [lunShare,refused]
        apply UInt64.toNat_inj.mp
        rw [stdMin_toNat,UInt64.toNat_zero,Nat.zero_min]
      rw [nothing,UInt64.mul_zero]
    · rfl

end Channel

-- Rounding down to a share loses nothing exactly where the request is a multiple
-- of the shares or takes all there is.
theorem shares_min_iff (luns request room : Nat) :
    luns*min (request/luns) room = min request (luns*room) ↔ luns ∣ request ∨ luns*room ≤ request := by
  rcases Nat.eq_zero_or_pos luns with rfl | positive
  · simp
  have whole := Nat.mul_div_le request luns
  rcases Nat.le_total (luns*room) request with all | some'
  · have share : room ≤ request/luns := (Nat.le_div_iff_mul_le positive).mpr (by rw [Nat.mul_comm]; exact all)
    rw [Nat.min_eq_right share,Nat.min_eq_right all]
    exact iff_of_true rfl (.inr all)
  · have share : request/luns ≤ room := by
      apply Nat.le_of_mul_le_mul_left _ positive
      exact whole.trans some'
    rw [Nat.min_eq_left share,Nat.min_eq_left some']
    constructor
    · intro exact'
      exact .inl ⟨request/luns,exact'.symm⟩
    · rintro (divides | all)
      · exact Nat.mul_div_cancel' divides
      · rw [Nat.le_antisymm some' all,Nat.mul_div_cancel_left room positive]

-- A channel gives what it has exactly where the share that each LUN is asked for
-- loses no remainder.
theorem gives_free_iff (geo : NvmGeo) (channelId : UInt64) (shared used : Bool) (calls : List UInt64)
    (request : UInt64) :
    let channel := MachineRuns.final serveBlocks
      {OcssdChannel.new channelId geo.nluns geo.nblocks with shared := shared,used := used} calls
    (channel.allocBlocks [] request).allocated.toNat = min request.toNat (freeBlocks channel) ↔
      freeBlocks channel = 0 ∨ request = 0 ∨ notFull channel = true ∧
        (geo.nluns.toNat ∣ request.toNat ∨ freeBlocks channel ≤ request.toNat) := by
  intro channel
  have balanced : Balanced geo channel := reachedBy_balanced ⟨channelId,shared,used,calls,rfl⟩
  have zero : request = 0 ↔ request.toNat = 0 := by rw [←UInt64.toNat_inj,UInt64.toNat_zero]
  rw [allocated_toNat balanced,freeBlocks_level balanced,zero]
  generalize geo.nblocks.toNat-(level channel).toNat = room
  split
  · rename_i open'
    rw [shares_min_iff,and_iff_right open']
    constructor
    · exact fun fair => .inr (.inr fair)
    · rintro (full | nothing | fair)
      · exact .inr (by omega)
      · exact .inl (by rw [nothing]; exact Nat.dvd_zero _)
      · exact fair
  · rename_i closed
    rw [eq_comm,Nat.min_eq_zero_iff]
    constructor
    · rintro (nothing | full)
      · exact .inr (.inl nothing)
      · exact .inl full
    · rintro (full | nothing | ⟨open',_⟩)
      · exact .inr full
      · exact .inl nothing
      · exact absurd open' closed

-- Two LUNs of four blocks, all of them free, and a request for one block.
theorem lone_block_refused :
    let channel := OcssdChannel.new 0 2 4
    (channel.allocBlocks [] 1).allocated = 0 ∧ freeBlocks channel = 8 ∧
      ¬ ∀ (channel : OcssdChannel) (request : UInt64),(∃ geo,ReachedBy geo channel) →
        (channel.allocBlocks [] request).allocated.toNat = min request.toNat (freeBlocks channel) := by
  refine ⟨by decide,by decide,?_⟩
  intro gives
  have reached : ∃ geo,ReachedBy geo (OcssdChannel.new 0 2 4) := ⟨⟨0,2,0,4,0,0,0,0,0⟩,0,false,false,[],rfl⟩
  have one := gives (OcssdChannel.new 0 2 4) 1 reached
  revert one
  decide

end OcssdServer.RequestRemainders
