import OcssdServer.ResourceManager
import Mathlib.Tactic.Ring

namespace OcssdServer.ChannelBalance

theorem stdMin_toNat (a b : UInt64) : (stdMin a b).toNat = min a.toNat b.toNat := by
  unfold stdMin
  split
  · rename_i less
    rw [UInt64.lt_iff_toNat_lt] at less
    omega
  · rename_i notLess
    rw [UInt64.lt_iff_toNat_lt] at notLess
    omega

def lunsAt (geo : NvmGeo) (level : UInt64) : List OcssdLun :=
  (List.range geo.nluns.toNat).map (fun lunId => ⟨UInt64.ofNat lunId,level,geo.nblocks⟩)

def level (channel : OcssdChannel) : UInt64 := (channel.luns.head?.map (·.numUsed)).getD 0

-- The state every channel keeps from its construction on: its LUNs are those of
-- the geometry and stand at one level, and the counters agree with them.
structure Balanced (geo : NvmGeo) (channel : OcssdChannel) : Prop where
  numLuns : channel.numLuns = geo.nluns
  numBlocks : channel.numBlocks = geo.nblocks
  total : channel.numTotalBlocks = geo.nblocks*geo.nluns
  counted : channel.numUsedBlocks = geo.nluns*level channel
  luns : channel.luns = lunsAt geo (level channel)
  bounded : level channel ≤ geo.nblocks

theorem level_lunsAt {geo : NvmGeo} {channel : OcssdChannel} {l : UInt64}
    (luns : channel.luns = lunsAt geo l) (some' : geo.nluns ≠ 0) : level channel = l := by
  have positive : geo.nluns.toNat ≠ 0 := fun zero => some' (UInt64.toNat_inj.mp zero)
  obtain ⟨k,succ⟩ := Nat.exists_eq_succ_of_ne_zero positive
  simp [level,luns,lunsAt,succ,List.range_succ_eq_map]

theorem new_balanced (geo : NvmGeo) (channelId : UInt64) :
    Balanced geo (.new channelId geo.nluns geo.nblocks) := by
  have empty : level (.new channelId geo.nluns geo.nblocks) = 0 := by
    simp only [level,OcssdChannel.new,List.head?_map,Option.map_map]
    cases (List.range geo.nluns.toNat).head? <;> rfl
  refine ⟨rfl,rfl,rfl,?_,?_,?_⟩
  · rw [empty]; simp [OcssdChannel.new]
  · rw [empty]; rfl
  · rw [empty,UInt64.le_iff_toNat_le]; simp

theorem flag_balanced {geo : NvmGeo} {channel : OcssdChannel} (balanced : Balanced geo channel)
    (shared used : Bool) : Balanced geo {channel with shared := shared,used := used} :=
  ⟨balanced.numLuns,balanced.numBlocks,balanced.total,balanced.counted,balanced.luns,balanced.bounded⟩

theorem lun_gives {id l blocks share : UInt64} (room : l < blocks) (asks : share ≠ 0)
    (blockUnit : UInt64 × UInt64) :
    OcssdLun.allocBlocks ⟨id,l,blocks⟩ blockUnit share =
      ⟨⟨id,l+stdMin share (blocks-l),blocks⟩,(l,stdMin share (blocks-l)),stdMin share (blocks-l)⟩ := by
  have notFull : l ≠ blocks := fun same => by simp [same] at room
  simp [OcssdLun.allocBlocks,notFull,asks]

-- The loop over equally filled LUNs. A request of at least one share for each
-- LUN cannot run out before the last one, so no LUN is left behind.
theorem distribute_even {l blocks share : UInt64} (room : l < blocks) (asks : share ≠ 0)
    (ids : List UInt64) (request allocated : UInt64) (allocUnits : AllocUnits)
    (enough : ids.length*share.toNat ≤ request.toNat) :
    OcssdChannel.distribute blocks share (ids.map (fun id => ⟨id,l,blocks⟩)) request allocated allocUnits =
      ⟨ids.map (fun id => ⟨id,l+stdMin share (blocks-l),blocks⟩),
        allocUnits ++ ids.map (fun id => (id,l,stdMin share (blocks-l))),
        allocated+UInt64.ofNat ids.length*stdMin share (blocks-l)⟩ := by
  induction ids generalizing request allocated allocUnits with
  | nil => simp [OcssdChannel.distribute]
  | cons id rest ih =>
    have notFull : ¬ blocks ≤ l := by
      rw [UInt64.lt_iff_toNat_lt] at room
      rw [UInt64.le_iff_toNat_le]
      omega
    have given : (stdMin share (blocks-l)).toNat ≤ share.toNat := by rw [stdMin_toNat]; omega
    have product : (rest.length+1)*share.toNat = rest.length*share.toNat+share.toNat := by ring
    rw [List.length_cons,product] at enough
    have left : (request-stdMin share (blocks-l)).toNat =
        request.toNat-(stdMin share (blocks-l)).toNat :=
      UInt64.toNat_sub_of_le _ _ (UInt64.le_iff_toNat_le.mpr (by omega))
    simp only [List.map_cons,OcssdChannel.distribute,if_neg notFull,lun_gives room asks]
    by_cases out : request-stdMin share (blocks-l) = 0
    · -- Nothing left to ask for: then this LUN was the last.
      have last : rest = [] := by
        have zero : request.toNat ≤ share.toNat := by
          rw [out] at left
          simp only [UInt64.toNat_zero] at left
          omega
        have positive : 0 < share.toNat := Nat.pos_of_ne_zero fun zero => asks (UInt64.toNat_inj.mp zero)
        have few : rest.length*share.toNat = 0 := by omega
        rcases Nat.mul_eq_zero.mp few with none' | zero
        · exact List.length_eq_zero_iff.mp none'
        · omega
      subst last
      rw [if_pos out]
      simp
    · rw [if_neg out,ih _ _ _ (by omega)]
      simp only [List.append_assoc,List.singleton_append,List.length_cons,UInt64.ofNat_add]
      congr 1
      grind

def lunShare (channel : OcssdChannel) (request : UInt64) : UInt64 :=
  stdMin (request/channel.numLuns) (channel.numBlocks-level channel)

def serves (request : UInt64) (channel : OcssdChannel) : Bool :=
  channel.numUsedBlocks ≠ channel.numTotalBlocks ∧ request/channel.numLuns ≠ 0

def raise (geo : NvmGeo) (request : UInt64) (channel : OcssdChannel) : OcssdChannel :=
  {channel with
    luns := lunsAt geo (level channel+lunShare channel request)
    numUsedBlocks := channel.numUsedBlocks+geo.nluns*lunShare channel request}

def shareUnits (geo : NvmGeo) (request : UInt64) (channel : OcssdChannel) : AllocUnits :=
  (List.range geo.nluns.toNat).map
    (fun lunId => (UInt64.ofNat lunId,level channel,lunShare channel request))

section Serves
variable {geo : NvmGeo} {channel : OcssdChannel} {request : UInt64}

theorem serves_parts (served : serves request channel = true) :
    channel.numUsedBlocks ≠ channel.numTotalBlocks ∧ request/channel.numLuns ≠ 0 := by
  simpa [serves] using served

theorem serves_luns (balanced : Balanced geo channel) (served : serves request channel = true) :
    geo.nluns ≠ 0 := by
  intro zero
  apply (serves_parts served).1
  rw [balanced.counted,balanced.total,zero]
  simp

theorem serves_room (balanced : Balanced geo channel) (served : serves request channel = true) :
    level channel < geo.nblocks := by
  have open' := (serves_parts served).1
  rw [balanced.counted,balanced.total] at open'
  have different : (level channel).toNat ≠ geo.nblocks.toNat := fun same =>
    open' (by rw [UInt64.toNat_inj.mp same,UInt64.mul_comm])
  have bounded := UInt64.le_iff_toNat_le.mp balanced.bounded
  rw [UInt64.lt_iff_toNat_lt]
  omega

theorem lunShare_toNat (request : UInt64) (balanced : Balanced geo channel) :
    (lunShare channel request).toNat =
      min (request.toNat/geo.nluns.toNat) (geo.nblocks.toNat-(level channel).toNat) := by
  rw [lunShare,stdMin_toNat,balanced.numLuns,balanced.numBlocks,UInt64.toNat_div,
    UInt64.toNat_sub_of_le _ _ balanced.bounded]

theorem lunShare_pos (balanced : Balanced geo channel) (served : serves request channel = true) :
    0 < (lunShare channel request).toNat := by
  have room := UInt64.lt_iff_toNat_lt.mp (serves_room balanced served)
  have asks : (request/geo.nluns).toNat ≠ 0 := by
    intro zero
    rw [←balanced.numLuns] at zero
    exact (serves_parts served).2 (UInt64.toNat_inj.mp zero)
  rw [UInt64.toNat_div] at asks
  rw [lunShare_toNat _ balanced]
  exact Nat.lt_min.mpr ⟨Nat.pos_of_ne_zero asks,by omega⟩

theorem lunShare_request (request : UInt64) (balanced : Balanced geo channel) :
    geo.nluns.toNat*(lunShare channel request).toNat ≤ request.toNat := by
  rw [lunShare_toNat _ balanced]
  calc geo.nluns.toNat*min (request.toNat/geo.nluns.toNat) (geo.nblocks.toNat-(level channel).toNat)
      ≤ geo.nluns.toNat*(request.toNat/geo.nluns.toNat) := Nat.mul_le_mul_left _ (Nat.min_le_left _ _)
    _ ≤ request.toNat := Nat.mul_div_le _ _

-- No wrap: what is allocated is at most what was asked for.
theorem given_toNat (request : UInt64) (balanced : Balanced geo channel) :
    (geo.nluns*lunShare channel request).toNat = geo.nluns.toNat*(lunShare channel request).toNat := by
  have small := lunShare_request request balanced
  have word := request.toNat_lt
  rw [UInt64.toNat_mul,Nat.mod_eq_of_lt (by omega)]

theorem raised_level (balanced : Balanced geo channel) (served : serves request channel = true) :
    level (raise geo request channel) = level channel+lunShare channel request :=
  level_lunsAt rfl (serves_luns balanced served)

theorem raised_toNat (request : UInt64) (balanced : Balanced geo channel) :
    (level channel+lunShare channel request).toNat =
      (level channel).toNat+(lunShare channel request).toNat := by
  have bounded := UInt64.le_iff_toNat_le.mp balanced.bounded
  have word := geo.nblocks.toNat_lt
  have share := lunShare_toNat request balanced
  rw [UInt64.toNat_add,Nat.mod_eq_of_lt (by omega)]

theorem raise_balanced (balanced : Balanced geo channel) (served : serves request channel = true) :
    Balanced geo (raise geo request channel) := by
  have stands := raised_level balanced served
  refine ⟨balanced.numLuns,balanced.numBlocks,balanced.total,?_,?_,?_⟩
  · rw [stands]
    simp only [raise,balanced.counted]
    grind
  · rw [stands]; rfl
  · have bounded := UInt64.le_iff_toNat_le.mp balanced.bounded
    have share := lunShare_toNat request balanced
    rw [stands,UInt64.le_iff_toNat_le,raised_toNat _ balanced]
    omega

-- A served call raises every LUN by one share and lists every LUN.
theorem allocBlocks_serves (balanced : Balanced geo channel) (served : serves request channel = true) :
    channel.allocBlocks [] request =
      ⟨raise geo request channel,shareUnits geo request channel,geo.nluns*lunShare channel request⟩ := by
  obtain ⟨open',asks⟩ := serves_parts served
  have some' : request ≠ 0 := by rintro rfl; simp at asks
  have split' := lunShare_request request balanced
  have room := serves_room balanced served
  rw [←balanced.numBlocks] at room
  have enough : ((List.range geo.nluns.toNat).map UInt64.ofNat).length*(request/channel.numLuns).toNat ≤
      request.toNat := by
    rw [List.length_map,List.length_range,balanced.numLuns,UInt64.toNat_div]
    exact Nat.mul_div_le _ _
  have luns : channel.luns = ((List.range geo.nluns.toNat).map UInt64.ofNat).map
      (fun id => (⟨id,level channel,channel.numBlocks⟩ : OcssdLun)) := by
    rw [balanced.luns,balanced.numBlocks,lunsAt,List.map_map]
    rfl
  have even := distribute_even room asks _ request 0 [] enough
  rw [←luns] at even
  simp only [OcssdChannel.allocBlocks,open',some',or_self,if_false,even]
  simp only [raise,shareUnits,lunsAt,lunShare,List.map_map,List.nil_append,List.length_map,
    List.length_range,UInt64.ofNat_toNat,UInt64.zero_add,balanced.numBlocks,Function.comp_def]

-- A call that is not served changes nothing, whatever it lists.
theorem distribute_nothing (blocks : UInt64) (luns : List OcssdLun) {request : UInt64} (asked : request ≠ 0)
    (allocated : UInt64) (allocUnits : AllocUnits) :
    (OcssdChannel.distribute blocks 0 luns request allocated allocUnits).luns = luns ∧
      (OcssdChannel.distribute blocks 0 luns request allocated allocUnits).allocated = allocated := by
  induction luns generalizing allocUnits with
  | nil => exact ⟨rfl,rfl⟩
  | cons lun rest ih =>
    have idle : lun.allocBlocks (0,0) 0 = ⟨lun,(0,0),0⟩ := by simp [OcssdLun.allocBlocks]
    by_cases full : blocks ≤ lun.numUsed
    · simp [OcssdChannel.distribute,full,ih]
    · simp [OcssdChannel.distribute,full,idle,asked,ih]

theorem allocBlocks_refuses (refused : serves request channel = false) :
    (channel.allocBlocks [] request).channel = channel ∧
      (channel.allocBlocks [] request).allocated = 0 := by
  by_cases full : channel.numUsedBlocks = channel.numTotalBlocks ∨ request = 0
  · simp [OcssdChannel.allocBlocks,full]
  · have zero : request/channel.numLuns = 0 := by
      by_contra asks
      simp only [serves,ne_eq,decide_eq_false_iff_not] at refused
      exact refused ⟨fun same => full (.inl same),asks⟩
    have nothing := distribute_nothing channel.numBlocks channel.luns
      (fun same => full (.inr same)) 0 ([] : AllocUnits)
    simp only [OcssdChannel.allocBlocks,if_neg full,zero,nothing.1,nothing.2]
    simp

end Serves
end OcssdServer.ChannelBalance
