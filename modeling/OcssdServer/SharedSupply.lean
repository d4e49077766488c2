import OcssdServer.PublishedStats

namespace OcssdServer.SharedSupply
open ChannelBalance FirstFit UnitGrants ManagerGrants PublishedStats

def room (channel : OcssdChannel) : Nat :=
  (channel.luns.map (fun lun => lun.numBlocks.toNat-lun.numUsed.toNat)).sum

-- What a shared channel gives a client that asks it for `share` blocks: the same
-- number from every LUN, as far as they go.
def offer (share : Nat) (channel : OcssdChannel) : Nat :=
  if channel.numUsedBlocks = channel.numTotalBlocks then 0
  else min (share/channel.numLuns.toNat*channel.numLuns.toNat) (room channel)

def offers (channels blocks : Nat) (unit : OcssdUnit) : List Nat :=
  ((unit.sharedChannels.map (offer (blocks/channels))).filter (0 < ·)).take channels

-- Unit after unit, every one dividing the whole number of blocks by the number
-- of channels that the units before it left over.
def supply (blocks : Nat) : Nat → List OcssdUnit → Nat
  | _,[] => 0
  | channels,unit :: rest =>
    (offers channels blocks unit).sum+supply blocks (channels-(offers channels blocks unit).length) rest

section Channel
variable {geo : NvmGeo} {channel : OcssdChannel}

theorem room_level (balanced : Balanced geo channel) :
    room channel = geo.nluns.toNat*(geo.nblocks.toNat-(level channel).toNat) := by
  rw [room,balanced.luns,lunsAt,List.map_map]
  simp only [Function.comp_def,List.map_const',List.length_range,List.sum_replicate,Nat.nsmul_eq_mul]

theorem offer_toNat (balanced : Balanced geo channel) (share : UInt64)
    (served : serves share channel = true) :
    offer share.toNat channel = geo.nluns.toNat*(lunShare channel share).toNat := by
  rw [offer,if_neg (serves_parts served).1,room_level balanced,lunShare_toNat _ balanced,
    balanced.numLuns,Nat.mul_comm (share.toNat/geo.nluns.toNat),←Nat.mul_min_mul_left]

theorem offer_serves (balanced : Balanced geo channel) (share : UInt64) :
    0 < offer share.toNat channel ↔ serves share channel = true := by
  constructor
  · intro some'
    unfold offer at some'
    split at some'
    · omega
    · rename_i open'
      have asks : share/channel.numLuns ≠ 0 := by
        intro zero
        have nothing := congrArg UInt64.toNat zero
        rw [UInt64.toNat_div,UInt64.toNat_zero] at nothing
        rw [nothing,Nat.zero_mul,Nat.zero_min] at some'
        exact Nat.lt_irrefl _ some'
      simp [serves,open',asks]
  · intro served
    have luns : geo.nluns.toNat ≠ 0 := fun zero =>
      serves_luns balanced served (UInt64.toNat_inj.mp zero)
    rw [offer_toNat balanced share served]
    exact Nat.mul_pos (Nat.pos_of_ne_zero luns) (lunShare_pos balanced served)

end Channel

section Unit
variable {unit : OcssdUnit} {request : OcssdAllocRequest}

theorem granted_offers (valid : UnitValid unit) (shared : request.shared = 1) :
    (vchannels request unit).map (·.totalBlocks.toNat) =
      offers request.numChannels.toNat request.numBlocks.toNat unit := by
  unfold offers
  rw [←share_toNat request,List.filter_map,←List.map_take,vchannels,if_pos shared,sharedDraw,draw_taken]
  have ready : unit.sharedChannels.filter (serves (share request)) =
      unit.sharedChannels.filter ((fun n => decide (0 < n)) ∘ offer (share request).toNat) := by
    refine List.filter_congr fun channel member => ?_
    have same := offer_serves (valid.shared channel member).1 (share request)
    rw [Function.comp_apply,Bool.eq_iff_iff,decide_eq_true_iff,same]
  rw [←ready,List.map_map]
  refine List.map_congr_left fun channel member => ?_
  obtain ⟨inside,served⟩ := List.mem_filter.mp (List.mem_of_mem_take member)
  have balanced := (valid.shared channel inside).1
  rw [Function.comp_apply,sharedGrant_total balanced,offer_toNat balanced _ served]

theorem drawn_offers (valid : UnitValid unit) (shared : request.shared = 1) :
    drawn request unit = (offers request.numChannels.toNat request.numBlocks.toNat unit).length := by
  rw [←granted_offers valid shared,List.length_map,vchannels_drawn]

end Unit

theorem plan_supply {units : List OcssdUnit} (valid : ∀ unit ∈ units,UnitValid unit)
    {request : OcssdAllocRequest} (shared : request.shared = 1) :
    ((plan request units).map (fun e => totalGranted (vchannels e.1 e.2))).sum =
      supply request.numBlocks.toNat request.numChannels.toNat units := by
  induction units generalizing request with
  | nil => rfl
  | cons unit rest ih =>
    have here := valid unit (by simp)
    have kind : (request.decChannels (UInt64.ofNat (drawn request unit))).shared = 1 := shared
    have later := ih (fun u member => valid u (by simp [member])) kind
    have blocks : (request.decChannels (UInt64.ofNat (drawn request unit))).numBlocks =
        request.numBlocks := rfl
    have given : totalGranted (vchannels request unit) =
        (offers request.numChannels.toNat request.numBlocks.toNat unit).sum :=
      congrArg List.sum (granted_offers here shared)
    rw [decChannels_toNat (drawn_le request unit),blocks] at later
    rw [plan,List.map_cons,List.sum_cons,later,supply,given,drawn_offers here shared]

theorem granted_plan (request : OcssdAllocRequest) (units : List OcssdUnit) :
    (grantedUnits request units).flatMap (·.channels) =
      (plan request units).flatMap (fun e => vchannels e.1 e.2) := by
  unfold grantedUnits
  induction plan request units with
  | nil => rfl
  | cons e rest ih =>
    have count := vchannels_drawn e.1 e.2
    cases kept : contributes e with
    | true =>
      rw [List.filter_cons_of_pos kept,List.map_cons,List.flatMap_cons,List.flatMap_cons,ih]
      rfl
    | false =>
      have empty : vchannels e.1 e.2 = [] := by
        apply List.length_eq_zero_iff.mp
        rw [count]
        simpa [contributes] using kept
      rw [List.filter_cons_of_neg (by simp [kept]),ih,List.flatMap_cons,empty,List.nil_append]

theorem granted_total {manager : OcssdManager} (valid : ManagerValid manager)
    {request : OcssdAllocRequest} (shared : request.shared = 1) :
    totalGranted ((manager.serve request).2.1.units.flatMap (·.channels)) =
      supply request.numBlocks.toNat request.numChannels.toNat manager.ocssds := by
  rw [serve_plan valid,granted_plan,totalGranted,List.map_flatMap,List.flatMap_def,List.sum_flatten,
    List.map_map,←plan_supply valid shared]
  rfl

theorem granted_count {manager : OcssdManager} (valid : ManagerValid manager)
    (request : OcssdAllocRequest) :
    ((manager.serve request).2.1.units.flatMap (·.channels)).length =
      total (plan request manager.ocssds) := by
  rw [serve_plan valid,granted_plan,List.length_flatMap,total]
  congr 1
  exact List.map_congr_left fun e _ => vchannels_drawn e.1 e.2

def exhausted (unit : OcssdUnit) : Prop :=
  ∀ channel ∈ unit.sharedChannels,channel.numUsedBlocks = channel.numTotalBlocks

theorem exhausted_offers {unit : OcssdUnit} (empty : exhausted unit) (channels blocks : Nat) :
    offers channels blocks unit = [] := by
  have none' : (unit.sharedChannels.map (offer (blocks/channels))).filter (0 < ·) = [] := by
    rw [List.filter_eq_nil_iff]
    intro amount listed
    obtain ⟨channel,member,rfl⟩ := List.mem_map.mp listed
    rw [offer,if_pos (empty channel member)]
    decide
  rw [offers,none',List.take_nil]

theorem exhausted_supply {units : List OcssdUnit} (empty : ∀ unit ∈ units,exhausted unit)
    (channels blocks : Nat) : supply blocks channels units = 0 := by
  induction units generalizing channels with
  | nil => rfl
  | cons unit rest ih =>
    rw [supply,exhausted_offers (empty unit (by simp)),ih (fun u member => empty u (by simp [member]))]
    rfl

theorem offers_bounded (unit : OcssdUnit) (channels blocks : Nat) :
    (offers channels blocks unit).sum ≤ blocks := by
  have each : ∀ amount ∈ offers channels blocks unit,amount ≤ blocks/channels := by
    intro amount listed
    obtain ⟨channel,_,rfl⟩ := List.mem_map.mp (List.mem_filter.mp (List.mem_of_mem_take listed)).1
    unfold offer
    split
    · exact Nat.zero_le _
    · exact (Nat.min_le_left _ _).trans (Nat.div_mul_le_self _ _)
  have few : (offers channels blocks unit).length ≤ channels := List.length_take_le _ _
  calc (offers channels blocks unit).sum
      ≤ (offers channels blocks unit).length*(blocks/channels) := by
        rw [←Nat.nsmul_eq_mul]
        exact List.sum_le_card_nsmul _ _ each
    _ ≤ channels*(blocks/channels) := Nat.mul_le_mul_right _ few
    _ ≤ blocks := Nat.mul_div_le _ _

theorem lone_supply {before rest : List OcssdUnit} {unit : OcssdUnit}
    (empty : ∀ other ∈ before ++ rest,exhausted other) (channels blocks : Nat) :
    supply blocks channels (before ++ unit :: rest) ≤ blocks := by
  induction before generalizing channels with
  | nil =>
    rw [List.nil_append,supply,exhausted_supply (fun u member => empty u (by simpa using member))]
    exact offers_bounded unit channels blocks
  | cons first before ih =>
    rw [List.cons_append,supply,exhausted_offers (empty first (by simp))]
    have later := ih (fun u member => empty u (by simp only [List.cons_append,List.mem_cons]; exact .inr member))
      channels
    simpa using later

-- The bound on the blocks holds exactly where the units' offers, each made out of
-- the whole request, stay within it.
theorem shared_grant_bounded_iff (set : List (DevName × NvmGeo)) (requests : List OcssdAllocRequest)
    (request : OcssdAllocRequest) (shared : request.shared = 1) :
    (totalGranted (((reached set requests).serve request).2.1.units.flatMap (·.channels)) ≤
          request.numBlocks.toNat ∧
        (((reached set requests).serve request).2.1.units.flatMap (·.channels)).length ≤
          request.numChannels.toNat) ↔
      supply request.numBlocks.toNat request.numChannels.toNat (reached set requests).ocssds ≤
        request.numBlocks.toNat := by
  have valid := reached_valid set requests
  rw [granted_total valid shared,granted_count valid]
  exact and_iff_left (total_le request _)

theorem lone_device_bounded :
    (totalGranted (((reached [([110],⟨2,1,1,8,1,1,1,1,0⟩)] [⟨1,5,1,0,0⟩]).serve
            ⟨2,8,1,0,0⟩).2.1.units.flatMap (·.channels)) ≤ (⟨2,8,1,0,0⟩ : OcssdAllocRequest).numBlocks.toNat ∧
        (((reached [([110],⟨2,1,1,8,1,1,1,1,0⟩)] [⟨1,5,1,0,0⟩]).serve
          ⟨2,8,1,0,0⟩).2.1.units.flatMap (·.channels)).length ≤
            (⟨2,8,1,0,0⟩ : OcssdAllocRequest).numChannels.toNat) ↔
      supply (⟨2,8,1,0,0⟩ : OcssdAllocRequest).numBlocks.toNat
          (⟨2,8,1,0,0⟩ : OcssdAllocRequest).numChannels.toNat
          (reached [([110],⟨2,1,1,8,1,1,1,1,0⟩)] [⟨1,5,1,0,0⟩]).ocssds ≤
        (⟨2,8,1,0,0⟩ : OcssdAllocRequest).numBlocks.toNat :=
  shared_grant_bounded_iff [([110],⟨2,1,1,8,1,1,1,1,0⟩)] [⟨1,5,1,0,0⟩] ⟨2,8,1,0,0⟩ (by decide)

-- Two devices with one shared channel of eight blocks each. A request for eight
-- blocks on two channels draws four from the first and eight from the second.
theorem second_device_overgrants :
    (⟨2,8,1,0,0⟩ : OcssdAllocRequest).shared = 1 ∧
      totalGranted (((reached [([110],⟨1,1,1,8,1,1,1,1,0⟩),([111],⟨1,1,1,8,1,1,1,1,0⟩)] []).serve
        ⟨2,8,1,0,0⟩).2.1.units.flatMap (·.channels)) = 12 ∧
      ¬ (totalGranted (((reached [([110],⟨1,1,1,8,1,1,1,1,0⟩),([111],⟨1,1,1,8,1,1,1,1,0⟩)] []).serve
            ⟨2,8,1,0,0⟩).2.1.units.flatMap (·.channels)) ≤
              (⟨2,8,1,0,0⟩ : OcssdAllocRequest).numBlocks.toNat ∧
        (((reached [([110],⟨1,1,1,8,1,1,1,1,0⟩),([111],⟨1,1,1,8,1,1,1,1,0⟩)] []).serve
          ⟨2,8,1,0,0⟩).2.1.units.flatMap (·.channels)).length ≤
            (⟨2,8,1,0,0⟩ : OcssdAllocRequest).numChannels.toNat) := by
  decide

end OcssdServer.SharedSupply
