/-
  RedisOperator.Cluster.ShardStatus

  `status.shards`, as `deriveClusterStatus` fills it.  The loop over the polled
  pods overwrites entries while it runs; that no primary is overwritten by
  another rests on the planner: a shard has one pod that leads it
  (`ShardLayout.leads`).  `Shown` says what the map holds after any part of the
  loop, whatever the order the pods are visited in.

  The conditions only count primaries.  `primaries_complete` is the counting
  argument behind them: as many primaries as wanted shards means that each
  wanted shard has one, also where the map holds further shards.
-/

import RedisOperator.Cluster.LayoutShape
import RedisOperator.Cluster.TopologySpecs
import RedisOperator.Cluster.Conditions
import Mathlib.Data.Set.Card

namespace RedisOperator

open Lib

/-! ## The pod that leads a shard -/

/-- `deriveClusterStatus` reports the pod as the primary of its shard. -/
def ShardLayout.leads (layout : ShardLayout) (shard : Nat) (name : String) : Bool :=
  (layout.isPrimary name && !layout.handingOver shard) || layout.ownerOf.get shard == name

section

variable {e : PlanEnv} {names : List String} {layout : ShardLayout}

theorem PlanEnv.Sound.placed_ne_empty (h : e.Sound names layout) {name : String} {s : Nat}
    (hplaced : layout.shardOf.lookup name = some s) : name ≠ "" := by
  rintro rfl
  exact h.no_empty (h.placed_mem hplaced)

/-- Reading an owner that is no empty name is looking it up. -/
theorem ShardLayout.lookup_owner {s : Nat} {name : String} (hname : name ≠ "")
    (h : layout.ownerOf.get s = name) : layout.ownerOf.lookup s = some name := by
  unfold GoMap.get at h
  cases hl : layout.ownerOf.lookup s with
  | none =>
    rw [hl] at h
    exact absurd h.symm hname
  | some owner =>
    rw [hl] at h
    exact congrArg some h

/-- The pod that leads a shard is its owner, or its primary if it has no owner. -/
theorem PlanEnv.Sound.leads_iff (h : e.Sound names layout) {s : Nat} {name : String}
    (hplaced : layout.shardOf.lookup name = some s) :
    layout.leads s name = true ↔
      layout.ownerOf.lookup s = some name ∨
        (layout.ownerOf.lookup s = none ∧ layout.primaryOf.get s = name) := by
  have hname := h.placed_ne_empty hplaced
  have hprimary : layout.isPrimary name = true ↔ layout.primaryOf.get s = name := by
    unfold ShardLayout.isPrimary
    rw [hplaced, beq_iff_eq]
  unfold ShardLayout.leads ShardLayout.handingOver
  rw [Bool.or_eq_true, Bool.and_eq_true, hprimary, beq_iff_eq]
  cases ho : layout.ownerOf.lookup s with
  | none =>
    have hget : layout.ownerOf.get s ≠ name := by
      intro hget
      rw [ShardLayout.lookup_owner hname hget] at ho
      cases ho
    simp [hget]
  | some owner =>
    rw [GoMap.get_of_lookup ho]
    constructor
    · rintro (⟨rfl, heq⟩ | rfl)
      · exact Or.inl (congrArg some (by simpa using heq))
      · exact Or.inl rfl
    · rintro (heq | ⟨hno, -⟩)
      · exact Or.inr (Option.some.inj heq)
      · cases hno

/-- A shard is led by one pod. -/
theorem PlanEnv.Sound.leads_unique (h : e.Sound names layout) {s : Nat} {a b : String}
    (ha : layout.shardOf.lookup a = some s) (hb : layout.shardOf.lookup b = some s)
    (hla : layout.leads s a = true) (hlb : layout.leads s b = true) : a = b := by
  rcases (h.leads_iff ha).mp hla with hoa | ⟨hna, hpa⟩
  · rcases (h.leads_iff hb).mp hlb with hob | ⟨hnb, -⟩
    · exact Option.some.inj (hoa.symm.trans hob)
    · rw [hoa] at hnb
      cases hnb
  · rcases (h.leads_iff hb).mp hlb with hob | ⟨-, hpb⟩
    · rw [hna] at hob
      cases hob
    · exact hpa.symm.trans hpb

end

/-! ## One visit of the loop -/

/-- The entry of a shard after a polled pod was added to it. -/
def shardEntry (layout : ShardLayout) (s : Nat) (old : ShardStatus)
    (p : String × InstanceStatus) : ShardStatus :=
  let known := { old with epoch := max old.epoch p.2.currentEpoch }
  if layout.leads s p.1 then
    { known with primaryPod := p.1, primaryNodeID := p.2.nodeID, slotRanges := p.2.slotsServed }
  else { known with replicaPods := known.replicaPods ++ [p.1] }

variable {s : Nat} {layout : ShardLayout} {p : String × InstanceStatus}

theorem addToShard_of_placed
    (hplaced : layout.shardOf.lookup p.1 = some s) (shards : GoMap String ShardStatus) :
    addToShard layout shards p =
      shards.insert (shardName s) (shardEntry layout s (shards.get (shardName s)) p) := by
  unfold addToShard
  rw [hplaced]
  rfl

theorem addToShard_of_not_placed
    (hplaced : layout.shardOf.lookup p.1 = none) (shards : GoMap String ShardStatus) :
    addToShard layout shards p = shards := by
  unfold addToShard
  rw [hplaced]

theorem addToShard_get
    (hplaced : layout.shardOf.lookup p.1 = some s) (shards : GoMap String ShardStatus) (t : Nat) :
    (addToShard layout shards p).get (shardName t) =
      if t = s then shardEntry layout s (shards.get (shardName s)) p
      else shards.get (shardName t) := by
  rw [addToShard_of_placed hplaced, GoMap.get_insert]
  by_cases hts : t = s
  · rw [if_pos hts, if_pos (congrArg shardName hts)]
  · rw [if_neg hts, if_neg fun h => hts (shardName_injective h)]

/-! ## What the map holds -/

/-- The pods that do not lead the shard they are in. -/
def replicasSeen (layout : ShardLayout) (seen : List (String × InstanceStatus)) (s : Nat) :
    List String :=
  (seen.filter fun p => decide (layout.shardOf.lookup p.1 = some s) && !layout.leads s p.1).map
    Prod.fst

/-- The map after the pods in `seen` were visited. -/
structure Shown (layout : ShardLayout) (seen : List (String × InstanceStatus))
    (shards : GoMap String ShardStatus) : Prop where
  replicas : ∀ s, (shards.get (shardName s)).replicaPods = replicasSeen layout seen s
  /-- the pod that leads a shard is shown as its primary, with its slots -/
  leader : ∀ s, ∀ p ∈ seen, layout.shardOf.lookup p.1 = some s → layout.leads s p.1 = true →
    (shards.get (shardName s)).primaryPod = p.1 ∧
      (shards.get (shardName s)).slotRanges = p.2.slotsServed
  /-- nobody else is -/
  primary : ∀ s, (shards.get (shardName s)).primaryPod = "" ∨
    ∃ p ∈ seen, (shards.get (shardName s)).primaryPod = p.1 ∧
      layout.shardOf.lookup p.1 = some s ∧ layout.leads s p.1 = true
  keys : ∀ key, key ∈ shards ↔
    ∃ s, key = shardName s ∧ ∃ p ∈ seen, layout.shardOf.lookup p.1 = some s

theorem shown_nil (layout : ShardLayout) : Shown layout [] ∅ where
  replicas _ := rfl
  leader _ _ hp := (nomatch hp)
  primary _ := Or.inl rfl
  keys key := by simp

section

variable {e : PlanEnv} {names : List String} {layout : ShardLayout}
variable {seen : List (String × InstanceStatus)} {shards : GoMap String ShardStatus}

theorem replicasSeen_append (p : String × InstanceStatus) (s : Nat) :
    replicasSeen layout (seen ++ [p]) s = replicasSeen layout seen s ++
      if layout.shardOf.lookup p.1 = some s ∧ layout.leads s p.1 = false then [p.1] else [] := by
  unfold replicasSeen
  rw [List.filter_append, List.map_append]
  congr 1
  by_cases hc : layout.shardOf.lookup p.1 = some s ∧ layout.leads s p.1 = false
  · simp [hc]
  · rw [if_neg hc]
    simpa using hc

/-- A pod without a place changes nothing. -/
theorem Shown.skip (h : Shown layout seen shards) {p : String × InstanceStatus}
    (hplaced : layout.shardOf.lookup p.1 = none) : Shown layout (seen ++ [p]) shards where
  replicas s := by
    rw [replicasSeen_append, hplaced, h.replicas]
    simp
  leader s q hq hs := by
    rcases List.mem_append.mp hq with hq | hq
    · exact h.leader s q hq hs
    · rw [List.mem_singleton.mp hq, hplaced] at hs
      cases hs
  primary s := (h.primary s).imp_right fun ⟨q, hq, hrest⟩ =>
    ⟨q, List.mem_append_left _ hq, hrest⟩
  keys key := by
    rw [h.keys]
    simp [hplaced]

/-- A visit shows the pod and leaves what was shown before. -/
theorem Shown.add (hsound : e.Sound names layout) (h : Shown layout seen shards)
    {p : String × InstanceStatus} (hnew : p.1 ∉ seen.map Prod.fst) {s : Nat}
    (hplaced : layout.shardOf.lookup p.1 = some s) :
    Shown layout (seen ++ [p]) (addToShard layout shards p) := by
  have hother : ∀ q ∈ seen, q.1 ≠ p.1 := fun q hq heq =>
    hnew (List.mem_map.mpr ⟨q, hq, heq⟩)
  refine ⟨?_, ?_, ?_, ?_⟩
  · intro t
    rw [addToShard_get hplaced, replicasSeen_append, hplaced]
    by_cases hts : t = s
    · subst hts
      rw [if_pos rfl, ← h.replicas]
      unfold shardEntry
      cases hleads : layout.leads t p.1 <;> simp
    · rw [if_neg hts, if_neg fun hh => hts (Option.some.inj hh.1).symm, h.replicas,
        List.append_nil]
  · intro t q hq hqt hleads
    rw [addToShard_get hplaced]
    by_cases hts : t = s
    · subst hts
      rw [if_pos rfl]
      rcases List.mem_append.mp hq with hq | hq
      · -- the shard has its leader already, so this pod does not lead it
        have hnot : layout.leads t p.1 = false := by
          by_contra hp
          exact hother q hq (hsound.leads_unique hqt hplaced hleads (by simpa using hp))
        unfold shardEntry
        rw [hnot]
        exact h.leader t q hq hqt hleads
      · rw [List.mem_singleton.mp hq] at hleads ⊢
        unfold shardEntry
        rw [hleads]
        exact ⟨rfl, rfl⟩
    · rw [if_neg hts]
      rcases List.mem_append.mp hq with hq | hq
      · exact h.leader t q hq hqt hleads
      · rw [List.mem_singleton.mp hq, hplaced] at hqt
        exact absurd (Option.some.inj hqt).symm hts
  · intro t
    rw [addToShard_get hplaced]
    have hkept : (shards.get (shardName t)).primaryPod = "" ∨
        ∃ q ∈ seen ++ [p], (shards.get (shardName t)).primaryPod = q.1 ∧
          layout.shardOf.lookup q.1 = some t ∧ layout.leads t q.1 = true :=
      (h.primary t).imp_right fun hseen =>
        hseen.imp fun q hq => ⟨List.mem_append_left _ hq.1, hq.2⟩
    by_cases hts : t = s
    · subst hts
      rw [if_pos rfl]
      unfold shardEntry
      cases hleads : layout.leads t p.1 with
      | true => exact Or.inr ⟨p, by simp, rfl, hplaced, hleads⟩
      | false => exact hkept
    · rw [if_neg hts]
      exact hkept
  · intro key
    rw [addToShard_of_placed hplaced, GoMap.mem_insert, h.keys]
    constructor
    · rintro (rfl | ⟨t, rfl, q, hq, hqt⟩)
      · exact ⟨s, rfl, p, by simp, hplaced⟩
      · exact ⟨t, rfl, q, List.mem_append_left _ hq, hqt⟩
    · rintro ⟨t, rfl, q, hq, hqt⟩
      rcases List.mem_append.mp hq with hq | hq
      · exact Or.inr ⟨t, rfl, q, hq, hqt⟩
      · rw [List.mem_singleton.mp hq, hplaced] at hqt
        exact Or.inl (congrArg shardName (Option.some.inj hqt).symm)

/-- The whole loop, by induction on the pods still to visit. -/
theorem Shown.foldl (hsound : e.Sound names layout) (h : Shown layout seen shards)
    (rest : List (String × InstanceStatus)) (hnodup : ((seen ++ rest).map Prod.fst).Nodup) :
    Shown layout (seen ++ rest) (rest.foldl (addToShard layout) shards) := by
  induction rest generalizing seen shards with
  | nil => simpa using h
  | cons p rest ih =>
    have hnew : p.1 ∉ seen.map Prod.fst := by
      rw [List.map_append, List.nodup_append] at hnodup
      exact fun hmem => hnodup.2.2 _ hmem _ (by simp) rfl
    have hstep : Shown layout (seen ++ [p]) (addToShard layout shards p) := by
      cases hplaced : layout.shardOf.lookup p.1 with
      | none =>
        rw [addToShard_of_not_placed hplaced]
        exact h.skip hplaced
      | some s => exact h.add hsound hnew hplaced
    have hcons : seen ++ p :: rest = seen ++ [p] ++ rest := by simp
    rw [hcons] at hnodup ⊢
    exact ih hstep hnodup

end

section

variable (order : MapOrder) (cluster : RedisCluster) (pods : List Pod)
variable (statuses : Statuses)

theorem deriveClusterStatus_get (key : String) :
    (deriveClusterStatus order cluster pods statuses).2.2.get key =
      let shard := (statuses.pairs.foldl
        (addToShard (planShardLayout order cluster pods statuses)) ∅).get key
      { shard with replicaPods := shard.replicaPods.insertionSort (· ≤ ·) } := by
  unfold deriveClusterStatus GoMap.get
  dsimp only
  rw [GoMap.lookup_mapValues]
  cases (statuses.pairs.foldl
    (addToShard (planShardLayout order cluster pods statuses)) ∅).lookup key <;> rfl

theorem mem_deriveClusterStatus {key : String} :
    key ∈ (deriveClusterStatus order cluster pods statuses).2.2 ↔
      key ∈ statuses.pairs.foldl (addToShard (planShardLayout order cluster pods statuses)) ∅ := by
  unfold deriveClusterStatus
  dsimp only
  rw [GoMap.mem_iff_lookup, GoMap.mem_iff_lookup, GoMap.lookup_mapValues]
  simp

theorem shown_deriveClusterStatus (hpods : ∀ pod ∈ pods, pod.name ≠ "") :
    Shown (planShardLayout order cluster pods statuses) statuses.pairs
      (statuses.pairs.foldl (addToShard (planShardLayout order cluster pods statuses)) ∅) := by
  have h := (shown_nil (planShardLayout order cluster pods statuses)).foldl
    (planShardLayout_sound order cluster pods statuses hpods) statuses.pairs
  rw [List.nil_append] at h
  refine h ?_
  rw [GoMap.map_fst_pairs]
  exact GoMap.keys_nodup _

end

/-! ## A faithful picture -/

/-- How often the entry of a shard shows a pod. -/
def ShardStatus.shows (shard : ShardStatus) (name : String) : Nat :=
  (if shard.primaryPod = name then 1 else 0) + shard.replicaPods.count name

/-- The slots some polled pod serves. -/
def servedSlots (statuses : Statuses) : Set Nat :=
  {slot | slot < 16384 ∧ ∃ name st, statuses.lookup name = some st ∧
    ∃ r ∈ st.slotsServed, r.Contains slot}

/-- What `status.shards` and `status.slotsAssigned` tell is what was polled. -/
structure FaithfulShards (statuses : Statuses) (layout : ShardLayout)
    (slotsAssigned : Int) (shards : GoMap String ShardStatus) : Prop where
  /-- each polled pod is shown once, in one shard -/
  shown_once : ∀ name ∈ statuses, ∃ key ∈ shards, (shards.get key).shows name = 1 ∧
    ∀ other, other ≠ key → (shards.get other).shows name = 0
  /-- an owner is shown as the primary of its shard, also while it is handed over -/
  owner_shown : ∀ s owner, layout.ownerOf.lookup s = some owner →
    (shards.get (shardName s)).primaryPod = owner ∧
      (shards.get (shardName s)).slotRanges = (statuses.get owner).slotsServed
  serving_shown : ∀ name, (statuses.get name).slotsServed ≠ [] →
    ∃ key ∈ shards, (shards.get key).primaryPod = name
  slots : slotsAssigned = (servedSlots statuses).ncard

theorem coveredSlots_eq_ncard (statuses : Statuses) :
    coveredSlots statuses = (servedSlots statuses).ncard := by
  have hset : servedSlots statuses = (((List.range 16384).filter fun slot : Nat =>
      calculateSlotCoverage statuses slot).toFinset : Set Nat) := by
    ext slot
    simp only [servedSlots, Set.mem_ofPred_eq, List.coe_toFinset, List.mem_filter, List.mem_range,
      calculateSlotCoverage_iff]
    refine and_congr_right fun hlt => (and_iff_right ?_).symm
    exact ⟨by omega, by omega⟩
  rw [hset, Set.ncard_coe_finset, List.toFinset_card_of_nodup (List.nodup_range.filter _)]
  rfl

section

variable {e : PlanEnv} {names : List String} {layout : ShardLayout}
variable {seen : List (String × InstanceStatus)} {shards : GoMap String ShardStatus}

theorem mem_replicasSeen {s : Nat} {name : String} :
    name ∈ replicasSeen layout seen s ↔
      name ∈ seen.map Prod.fst ∧ layout.shardOf.lookup name = some s ∧
        layout.leads s name = false := by
  unfold replicasSeen
  rw [List.mem_map, List.mem_map]
  constructor
  · rintro ⟨p, hp, rfl⟩
    obtain ⟨hmem, hc⟩ := List.mem_filter.mp hp
    rw [Bool.and_eq_true, decide_eq_true_iff, Bool.not_eq_eq_eq_not, Bool.not_true] at hc
    exact ⟨⟨p, hmem, rfl⟩, hc⟩
  · rintro ⟨⟨p, hmem, rfl⟩, hs, hleads⟩
    refine ⟨p, List.mem_filter.mpr ⟨hmem, ?_⟩, rfl⟩
    rw [hleads, decide_eq_true hs]
    rfl

theorem count_replicasSeen (hnodup : (seen.map Prod.fst).Nodup) (s : Nat) (name : String) :
    (replicasSeen layout seen s).count name =
      if name ∈ replicasSeen layout seen s then 1 else 0 := by
  have hsub : (replicasSeen layout seen s).Nodup := hnodup.sublist (List.filter_sublist.map _)
  split
  · rename_i hmem
    exact List.count_eq_one_of_mem hsub hmem
  · rename_i hmem
    exact List.count_eq_zero_of_not_mem hmem

/-- A visited pod is shown by the entry of its shard, once, and by no other. -/
theorem Shown.shows_eq (hsound : e.Sound names layout) (h : Shown layout seen shards)
    (hnodup : (seen.map Prod.fst).Nodup) {name : String} {s : Nat}
    (hseen : name ∈ seen.map Prod.fst) (hplaced : layout.shardOf.lookup name = some s) (t : Nat) :
    (shards.get (shardName t)).shows name = if t = s then 1 else 0 := by
  have hname := hsound.placed_ne_empty hplaced
  -- shown as a primary exactly if it leads the shard
  have hprimary : (shards.get (shardName t)).primaryPod = name ↔
      t = s ∧ layout.leads t name = true := by
    constructor
    · intro heq
      rcases h.primary t with hempty | ⟨p, -, hp, hpt, hleads⟩
      · exact absurd (heq.symm.trans hempty) hname
      · rw [← hp, heq] at hpt hleads
        rw [hplaced] at hpt
        exact ⟨(Option.some.inj hpt).symm, hleads⟩
    · rintro ⟨rfl, hleads⟩
      obtain ⟨p, hp, rfl⟩ := List.mem_map.mp hseen
      exact (h.leader t p hp hplaced hleads).1
  unfold ShardStatus.shows
  rw [h.replicas, count_replicasSeen hnodup]
  simp only [hprimary, mem_replicasSeen, hseen, hplaced, true_and, Option.some.injEq,
    eq_comm (a := s)]
  by_cases hts : t = s
  · subst hts
    cases layout.leads t name <;> simp
  · simp [hts]

/-- An entry that is no shard's shows nobody. -/
theorem shows_of_not_mem {name key : String} (hname : name ≠ "") (hkey : key ∉ shards) :
    (shards.get key).shows name = 0 := by
  rw [GoMap.get_of_not_mem hkey]
  exact if_neg (Ne.symm hname)

end

/-- Sorting the replicas of an entry shows the same pods. -/
theorem ShardStatus.shows_sorted (shard : ShardStatus) (name : String) :
    ShardStatus.shows { shard with replicaPods := shard.replicaPods.insertionSort (· ≤ ·) } name
      = shard.shows name := by
  unfold ShardStatus.shows
  rw [(List.perm_insertionSort _ shard.replicaPods).count_eq]

variable {statuses : Statuses} {order : MapOrder}

/-- An owner is reported as the primary of its shard. -/
theorem deriveClusterStatus_owner {cluster : RedisCluster} {pods : List Pod}
    (hpods : ∀ pod ∈ pods, pod.name ≠ "") {owner : String}
    (ho : (planShardLayout order cluster pods statuses).ownerOf.lookup s = some owner) :
    shardName s ∈ (deriveClusterStatus order cluster pods statuses).2.2 ∧
      ((deriveClusterStatus order cluster pods statuses).2.2.get (shardName s)).primaryPod = owner ∧
      ((deriveClusterStatus order cluster pods statuses).2.2.get (shardName s)).slotRanges
        = (statuses.get owner).slotsServed := by
  have hsound := planShardLayout_sound order cluster pods statuses hpods
  have hshown := shown_deriveClusterStatus order cluster pods statuses hpods
  have hplaced := hsound.owner_placed ho
  have hleads := (hsound.leads_iff hplaced).mpr (Or.inl ho)
  have hpolled : owner ∈ statuses := mem_of_serves (hsound.owner_serves ho)
  obtain ⟨st, hst⟩ := GoMap.mem_iff_lookup.mp hpolled
  have hpair : (owner, st) ∈ statuses.pairs := GoMap.mem_pairs.mpr hst
  rw [mem_deriveClusterStatus, deriveClusterStatus_get, GoMap.get_of_lookup hst]
  exact ⟨(hshown.keys _).mpr ⟨s, rfl, _, hpair, hplaced⟩, hshown.leader s _ hpair hplaced hleads⟩

/-- **`status.shards` is a faithful picture** of what was polled, in whichever
    order the planner and the loop over the polled pods visit their maps. -/
theorem deriveClusterStatus_faithful (order : MapOrder) (cluster : RedisCluster) (pods : List Pod)
    (statuses : Statuses) (hpods : ∀ pod ∈ pods, pod.name ≠ "")
    (hkeys : ∀ name ∈ statuses, ∃ pod ∈ pods, pod.name = name) :
    FaithfulShards statuses (planShardLayout order cluster pods statuses)
      (deriveClusterStatus order cluster pods statuses).2.1
      (deriveClusterStatus order cluster pods statuses).2.2 := by
  have hsound := planShardLayout_sound order cluster pods statuses hpods
  have hshown := shown_deriveClusterStatus order cluster pods statuses hpods
  have hnodup : (statuses.pairs.map Prod.fst).Nodup := by
    rw [GoMap.map_fst_pairs]
    exact GoMap.keys_nodup _
  refine ⟨?_, fun s owner ho => (deriveClusterStatus_owner hpods ho).2, ?_, ?_⟩
  · intro name hname
    obtain ⟨s, hplaced⟩ := GoMap.mem_iff_lookup.mp (planShardLayout_places order cluster pods
      statuses hpods (mem_layoutNames_of_polled hkeys hname))
    have hseen : name ∈ statuses.pairs.map Prod.fst := by
      rw [GoMap.map_fst_pairs]
      exact GoMap.mem_keys.mpr hname
    have hshows := hshown.shows_eq hsound hnodup hseen hplaced
    refine ⟨shardName s, ?_, ?_, ?_⟩
    · obtain ⟨p, hp, rfl⟩ := List.mem_map.mp hseen
      rw [mem_deriveClusterStatus]
      exact (hshown.keys _).mpr ⟨s, rfl, p, hp, hplaced⟩
    · rw [deriveClusterStatus_get, ShardStatus.shows_sorted, hshows s, if_pos rfl]
    · intro other hother
      rw [deriveClusterStatus_get, ShardStatus.shows_sorted]
      by_cases hkey : other ∈ statuses.pairs.foldl
          (addToShard (planShardLayout order cluster pods statuses)) ∅
      · obtain ⟨t, rfl, -⟩ := (hshown.keys other).mp hkey
        rw [hshows t, if_neg fun hts => hother (congrArg shardName hts)]
      · exact shows_of_not_mem (hsound.placed_ne_empty hplaced) hkey
  · intro name hserves
    obtain ⟨s, hs⟩ := planShardLayout_owner order hpods
      (mem_layoutNames_of_polled hkeys (mem_of_serves hserves)) hserves
    have hshown := deriveClusterStatus_owner hpods hs
    exact ⟨shardName s, hshown.1, hshown.2.1⟩
  · rw [← coveredSlots_eq_ncard, ← deriveSlotsAssigned_eq order cluster hpods hkeys]
    rfl

/-- The shard that is handed over still shows `c-3`, the pod that serves its slots. -/
theorem drainingStatuses_faithful :
    FaithfulShards drainingStatuses
        (planShardLayout .stored (shardedCluster 0) drainingPods drainingStatuses)
        (deriveClusterStatus .stored (shardedCluster 0) drainingPods drainingStatuses).2.1
        (deriveClusterStatus .stored (shardedCluster 0) drainingPods drainingStatuses).2.2 ∧
      ((deriveClusterStatus .stored (shardedCluster 0) drainingPods drainingStatuses).2.2.get
        "s2").primaryPod = "c-3" :=
  ⟨deriveClusterStatus_faithful .stored _ _ _ (by decide +kernel) drainingStatuses_keys,
    by decide +kernel⟩

/-! ## As many primaries as shards -/

/-- The number of shards with a primary, as the conditions count it. -/
def primaryCount (shards : GoMap String ShardStatus) : Nat :=
  ((shards.pairs.map (·.2)).filter fun shard => shard.primaryPod != "").length

/-- The names of the shards that have a primary. -/
def ledNames (shards : GoMap String ShardStatus) : List String :=
  (shards.pairs.filter fun p => p.2.primaryPod != "").map Prod.fst

theorem length_ledNames (shards : GoMap String ShardStatus) :
    (ledNames shards).length = primaryCount shards := by
  unfold ledNames primaryCount
  rw [List.length_map, List.filter_map, List.length_map]
  rfl

theorem ledNames_nodup (shards : GoMap String ShardStatus) : (ledNames shards).Nodup := by
  have hkeys : (shards.pairs.map Prod.fst).Nodup := by
    rw [GoMap.map_fst_pairs]
    exact GoMap.keys_nodup _
  exact hkeys.sublist (List.filter_sublist.map _)

theorem mem_ledNames {shards : GoMap String ShardStatus} {key : String} :
    key ∈ ledNames shards ↔ ∃ shard, shards.lookup key = some shard ∧ shard.primaryPod ≠ "" := by
  unfold ledNames
  rw [List.mem_map]
  constructor
  · rintro ⟨⟨key, shard⟩, hp, rfl⟩
    obtain ⟨hmem, hne⟩ := List.mem_filter.mp hp
    exact ⟨shard, GoMap.mem_pairs.mp hmem, by simpa using hne⟩
  · rintro ⟨shard, hlook, hne⟩
    exact ⟨(key, shard), List.mem_filter.mpr ⟨GoMap.mem_pairs.mpr hlook, by simpa using hne⟩, rfl⟩

/-- With as many primaries as wanted shards, every wanted shard has one.  Either
    all primaries are of wanted shards, and then they exhaust them; or one is of
    a surplus shard, and then every wanted shard has an owner. -/
theorem primaries_complete {cluster : RedisCluster} {pods : List Pod}
    (hpods : ∀ pod ∈ pods, pod.name ≠ "") (hcount : desiredShardCount cluster ≤
      primaryCount (deriveClusterStatus order cluster pods statuses).2.2)
    (hs : s < desiredShardCount cluster) :
    shardName s ∈ ledNames (deriveClusterStatus order cluster pods statuses).2.2 := by
  have hshown := shown_deriveClusterStatus order cluster pods statuses hpods
  have hsound := planShardLayout_sound order cluster pods statuses hpods
  by_cases hsurplus : ∃ t, desiredShardCount cluster ≤ t ∧
      shardName t ∈ ledNames (deriveClusterStatus order cluster pods statuses).2.2
  · obtain ⟨t, ht, hmem⟩ := hsurplus
    obtain ⟨shard, hlook, -⟩ := mem_ledNames.mp hmem
    -- somebody is in the surplus shard
    obtain ⟨t', heq, p, -, hplaced⟩ := (hshown.keys _).mp
      ((mem_deriveClusterStatus ..).mp (GoMap.mem_of_lookup hlook))
    obtain rfl := shardName_injective heq
    obtain ⟨owner, howner⟩ := planShardLayout_surplus hpods hplaced ht hs
    obtain ⟨hkey, hprimary, -⟩ := deriveClusterStatus_owner hpods howner
    obtain ⟨shard, hlook⟩ := GoMap.mem_iff_lookup.mp hkey
    rw [GoMap.get_of_lookup hlook] at hprimary
    refine mem_ledNames.mpr ⟨shard, hlook, ?_⟩
    rw [hprimary]
    exact hsound.placed_ne_empty (hsound.owner_placed howner)
  · have hsub : ledNames (deriveClusterStatus order cluster pods statuses).2.2 ⊆
        (List.range (desiredShardCount cluster)).map shardName := by
      intro key hkey
      obtain ⟨shard, hlook, -⟩ := mem_ledNames.mp hkey
      obtain ⟨t, rfl, -⟩ := (hshown.keys _).mp
        ((mem_deriveClusterStatus ..).mp (GoMap.mem_of_lookup hlook))
      refine List.mem_map_of_mem (List.mem_range.mpr ?_)
      by_contra hge
      exact hsurplus ⟨t, Nat.not_lt.mp hge, hkey⟩
    have hperm := (List.subperm_of_subset (ledNames_nodup _) hsub).perm_of_length_le (by
      rw [List.length_map, List.length_range, length_ledNames]
      exact hcount)
    rw [hperm.mem_iff]
    exact List.mem_map_of_mem (List.mem_range.mpr hs)

/-! ## What the conditions report -/

/-- The status reports a condition as true. -/
def RedisClusterStatus.Reports (status : RedisClusterStatus) (type : ConditionType) : Prop :=
  ∃ c, findCondition status.conditions type = some c ∧ c.status = true

/-- The status update reports what `determineConditions` computed. -/
theorem reports_withSummary {before : RedisCluster} {status : RedisClusterStatus}
    {time : Nat} {type : ConditionType} (htype : type ∉ preservedConditions) :
    (withSummary before status statuses time).Reports type ↔
      ∃ c, findCondition (determineConditions { before with status :=
          { status with phase := determinePhase { before with status := status } statuses } }
        statuses time) type = some c ∧ c.status = true := by
  unfold RedisClusterStatus.Reports withSummary
  dsimp only
  rw [findCondition_carryTransitionTimes, findCondition_preserveConditions, if_neg htype,
    Option.or_none]
  simp only [Option.map_eq_some_iff]
  constructor
  · rintro ⟨c, ⟨c', hc', rfl⟩, hstatus⟩
    exact ⟨c', hc', carriedTime_status _ c' ▸ hstatus⟩
  · rintro ⟨c, hc, hstatus⟩
    exact ⟨_, ⟨c, hc, rfl⟩, (carriedTime_status _ c).trans hstatus⟩

section

variable {faulty : Cmd → Prop} {order : MapOrder} {l : RedisCluster} {w : World}
variable {statuses : Statuses}

/-- A completed status update leaves the status it derived. -/
theorem updateStatus_returns {w' : World} {l' : RedisCluster}
    (h : Prog.Returns (Handles faulty) (updateStatus statuses w.cluster) w (.ok ((), l')) w') :
    ∃ order, l' = { w.cluster with status := refreshedStatus order w.cluster w statuses } := by
  have hsafe : Safe faulty (fun _ _ => True) (updateStatus statuses)
      (fun _ l' _ => ∃ order, l' = { w.cluster with
        status := refreshedStatus order w.cluster w statuses }) w.cluster w :=
    (safe_updateStatus ⟨fun _ _ _ => trivial, fun _ _ _ => trivial⟩ rfl).mpr
      fun order => ⟨order, rfl⟩
  exact (Prog.wp_iff.mp hsafe).2 _ _ h

/-- Every order the maps can be visited in makes for a completed status update. -/
theorem returns_updateStatus (faulty : Cmd → Prop) (order : MapOrder) (w : World)
    (statuses : Statuses) :
    ∃ w', Prog.Returns (Handles faulty) (updateStatus statuses w.cluster) w
      (.ok ((), { w.cluster with status := refreshedStatus order w.cluster w statuses })) w' := by
  have hcan : CanReturn faulty (updateStatus statuses) (fun _ l' _ => l' =
      { w.cluster with status := refreshedStatus order w.cluster w statuses }) w.cluster w :=
    canReturn_updateStatus rfl order rfl
  rcases Prog.may_iff.mp hcan with ⟨-, -, -, hno⟩ | ⟨result, w', hreturns, hpost⟩
  · exact hno.elim
  · cases result with
    | error err => exact hpost.elim
    | ok value =>
      obtain ⟨⟨⟩, l'⟩ := value
      obtain rfl : l' = _ := hpost
      exact ⟨w', hreturns⟩

/-- The shards depend on the spec, not on the status they replace. -/
theorem deriveClusterStatus_status (status : RedisClusterStatus) (pods : List Pod) :
    deriveClusterStatus order { l with status := status } pods statuses
      = deriveClusterStatus order l pods statuses := by
  have hplan : planShardLayout order { l with status := status } pods statuses
      = planShardLayout order l pods statuses := rfl
  unfold deriveClusterStatus
  rw [hplan]

/-- The status of a sharded cluster, up to phase and conditions. -/
def shardedStatus (order : MapOrder) (l : RedisCluster) (w : World)
    (statuses : Statuses) : RedisClusterStatus :=
  { withShards (withCounters l.status statuses)
      (deriveClusterStatus order l w.dataPods statuses) with sentinelReadyInstances := 0 }

theorem refreshedStatus_sharded (hmode : l.spec.mode = .cluster) :
    refreshedStatus order l w statuses
      = withSummary l (shardedStatus order l w statuses) statuses w.clock := by
  unfold refreshedStatus shardedStatus
  dsimp only
  rw [if_pos hmode, if_pos (by rw [hmode]; decide), deriveClusterStatus_status]

theorem refreshedStatus_shards (hmode : l.spec.mode = .cluster) :
    (refreshedStatus order l w statuses).shards
      = (deriveClusterStatus order l w.dataPods statuses).2.2 := by
  rw [refreshedStatus_sharded hmode]
  rfl

theorem clusterConditions_ready (cluster : RedisCluster)
    (statuses : Statuses) (time : Nat) :
    ∃ c, findCondition (clusterConditions cluster statuses time) .ready = some c ∧
      c.status = (cluster.status.clusterState == .ok && cluster.status.slotsAssigned == 16384 &&
        decide (cluster.spec.shards ≤ (primaryCount cluster.status.shards : Int))) :=
  ⟨_, rfl, rfl⟩

theorem clusterConditions_primaryAvailable (cluster : RedisCluster)
    (statuses : Statuses) (time : Nat) :
    ∃ c, findCondition (clusterConditions cluster statuses time) .primaryAvailable = some c ∧
      c.status = decide (cluster.spec.shards ≤ (primaryCount cluster.status.shards : Int)) :=
  ⟨_, rfl, rfl⟩

/-- `PrimaryAvailable` says that there are as many primaries as shards. -/
theorem reports_primaryAvailable (hmode : l.spec.mode = .cluster) :
    (refreshedStatus order l w statuses).Reports .primaryAvailable ↔
      l.spec.shards ≤ primaryCount (deriveClusterStatus order l w.dataPods statuses).2.2 := by
  rw [refreshedStatus_sharded hmode, reports_withSummary (by decide), determineConditions,
    if_pos hmode]
  obtain ⟨c, hc, hstatus⟩ := clusterConditions_primaryAvailable _ statuses w.clock
  rw [hc]
  simp only [Option.some.injEq, exists_eq_left', hstatus, decide_eq_true_eq]
  rfl

/-- `Ready` adds that every slot is covered and nobody reports a bad state. -/
theorem reports_ready (hmode : l.spec.mode = .cluster) :
    (refreshedStatus order l w statuses).Reports .ready ↔
      (deriveClusterState statuses = .ok ∧
        (deriveClusterStatus order l w.dataPods statuses).2.1 = 16384) ∧
      l.spec.shards ≤ primaryCount (deriveClusterStatus order l w.dataPods statuses).2.2 := by
  rw [refreshedStatus_sharded hmode, reports_withSummary (by decide), determineConditions,
    if_pos hmode]
  obtain ⟨c, hc, hstatus⟩ := clusterConditions_ready _ statuses w.clock
  rw [hc]
  simp only [Option.some.injEq, exists_eq_left', hstatus, Bool.and_eq_true, beq_iff_eq,
    decide_eq_true_eq]
  rfl

end

/-- With enough primaries, every wanted shard has an entry that names one. -/
theorem shards_named {l : RedisCluster} {w : World} (hmode : l.spec.mode = .cluster)
    (hshards : 3 ≤ l.spec.shards) (hpods : ∀ pod ∈ w.dataPods, pod.name ≠ "")
    (h : l.spec.shards ≤ primaryCount (deriveClusterStatus order l w.dataPods statuses).2.2)
    (hs : (s : Int) < l.spec.shards) :
    ∃ shard, (refreshedStatus order l w statuses).shards.lookup (shardName s) = some shard ∧
      shard.primaryPod ≠ "" := by
  have hcount : (desiredShardCount l : Int) = l.spec.shards := by
    unfold desiredShardCount
    rw [if_neg (by omega)]
    omega
  rw [refreshedStatus_shards hmode]
  exact mem_ledNames.mp (primaries_complete hpods (by omega) (by omega))

/-- **Ready means that every shard is there**: when a status update reports the
    cluster as ready, `status.shards` names a primary for each wanted shard,
    also with surplus shards in the same map. -/
theorem ready_shards_named (faulty : Cmd → Prop) (w w' : World) (l' : RedisCluster)
    (statuses : Statuses) (hmode : w.cluster.spec.mode = .cluster)
    (hshards : 3 ≤ w.cluster.spec.shards) (hpods : ∀ pod ∈ w.dataPods, pod.name ≠ "")
    (hreturn : Prog.Returns (Handles faulty) (updateStatus statuses w.cluster) w (.ok ((), l')) w')
    (hready : l'.status.Reports .ready) (s : Nat) (hs : (s : Int) < w.cluster.spec.shards) :
    ∃ shard, l'.status.shards.lookup (shardName s) = some shard ∧ shard.primaryPod ≠ "" := by
  obtain ⟨order, rfl⟩ := updateStatus_returns hreturn
  exact shards_named hmode hshards hpods ((reports_ready hmode).mp hready).2 hs

/-- Four masters share the slots of a cluster that wants three shards. -/
def surplusStatuses : Statuses :=
  let master := fun (id : String) (r : SlotRange) =>
    { answeredMaster id [r] with clusterState := .ok }
  ((((∅ : Statuses).insert "c-0" (master "id0" ⟨0, 4095⟩)).insert
    "c-1" (master "id1" ⟨4096, 8191⟩)).insert "c-2" (master "id2" ⟨8192, 12287⟩)).insert
    "c-3" (master "id3" ⟨12288, 16383⟩)

def surplusWorld : World where
  cluster := shardedCluster 0
  pods := drainingPods

theorem surplusStatuses_covered (slot : Int) (hslot : IsSlot slot) :
    calculateSlotCoverage surplusStatuses slot = true := by
  have hlook : ∀ name st, surplusStatuses.lookup name = some st →
      (∃ r ∈ st.slotsServed, r.Contains slot) → calculateSlotCoverage surplusStatuses slot = true :=
    fun name st hst hr => calculateSlotCoverage_iff.mpr ⟨hslot, name, st, hst, hr⟩
  obtain ⟨h0, h1⟩ := hslot
  by_cases h4 : slot ≤ 4095
  · exact hlook "c-0" _ rfl ⟨⟨0, 4095⟩, by decide, h0, h4⟩
  by_cases h8 : slot ≤ 8191
  · exact hlook "c-1" _ rfl ⟨⟨4096, 8191⟩, by decide, by simp; omega, h8⟩
  by_cases h12 : slot ≤ 12287
  · exact hlook "c-2" _ rfl ⟨⟨8192, 12287⟩, by decide, by simp; omega, h12⟩
  · exact hlook "c-3" _ rfl ⟨⟨12288, 16383⟩, by decide, by simp; omega, h1⟩

/-- It becomes ready, and names a primary for the third shard among others. -/
theorem surplusWorld_shards_named :
    ∃ l' w', Prog.Returns (Handles fun _ => False)
        (updateStatus surplusStatuses surplusWorld.cluster) surplusWorld (.ok ((), l')) w' ∧
      l'.status.Reports .ready ∧
      ∃ shard, l'.status.shards.lookup (shardName 2) = some shard ∧ shard.primaryPod ≠ "" := by
  have hpods : ∀ pod ∈ surplusWorld.dataPods, pod.name ≠ "" := by decide +kernel
  have hkeys : ∀ name ∈ surplusStatuses, ∃ pod ∈ surplusWorld.dataPods, pod.name = name :=
    fun name hname => (by decide +kernel : ∀ name ∈ surplusStatuses.keys,
      ∃ pod ∈ surplusWorld.dataPods, pod.name = name) name (GoMap.mem_keys.mpr hname)
  have hslots : (deriveClusterStatus .stored surplusWorld.cluster surplusWorld.dataPods
      surplusStatuses).2.1 = 16384 := by
    have hall := coveredSlots_eq_iff.mpr surplusStatuses_covered
    rw [← deriveSlotsAssigned_eq .stored surplusWorld.cluster hpods hkeys] at hall
    exact congrArg Int.ofNat hall
  obtain ⟨w', hreturns⟩ :=
    returns_updateStatus (fun _ => False) .stored surplusWorld surplusStatuses
  have hready : (refreshedStatus .stored surplusWorld.cluster surplusWorld
      surplusStatuses).Reports .ready :=
    (reports_ready rfl).mpr ⟨⟨by decide +kernel, hslots⟩, by decide +kernel⟩
  exact ⟨_, w', hreturns, hready, ready_shards_named _ _ _ _ _ rfl (by decide) hpods hreturns
    hready 2 (by decide)⟩

end RedisOperator
