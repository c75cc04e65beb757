/-
  RedisOperator.Cluster.LayoutShape

  The shape of a planned layout: every pod has one place, every primary leads
  the shard it is in, every pod that serves slots owns the shard it is in.
  The owners are settled by the first stage and kept by all later ones
  (`layout_ownerOf`), and a shard beyond the wanted ones is only ever opened
  when every wanted shard has an owner (`planShardLayout_surplus`).
-/

import RedisOperator.Cluster.LayoutCounting
import RedisOperator.Cluster.PodCount

namespace RedisOperator

open Lib

/-! ## Owners stay owners -/

namespace PlanEnv

variable {e : PlanEnv} {names : List String} {l : ShardLayout}

theorem placeFollower_ownerOf (acc : ShardLayout × List String) (name : String) :
    (e.placeFollower acc name).1.ownerOf = acc.1.ownerOf := by
  obtain ⟨l, free⟩ := acc
  rcases placeFollower_cases e l free name with ⟨-, heq⟩ | ⟨-, shard, l', heq, rfl | rfl⟩ | ⟨-, heq⟩
  · rw [heq]
  · rw [heq, ShardLayout.assign_ownerOf]
  · rw [heq, inherit_ownerOf, ShardLayout.assign_ownerOf]
  · rw [heq]

theorem fillShard_ownerOf (acc : ShardLayout × List String) (shard : Nat) :
    (fillShard acc shard).1.ownerOf = acc.1.ownerOf := by
  obtain ⟨l, _ | ⟨name, survivors⟩⟩ := acc
  · rfl
  · unfold fillShard
    dsimp only
    split
    · rfl
    · rfl

theorem followed_ownerOf : (e.followed names).1.ownerOf = (e.claimed names).ownerOf :=
  List.foldlRecOn (motive := fun acc : ShardLayout × List String =>
    acc.1.ownerOf = (e.claimed names).ownerOf) _ _ rfl
    fun acc h name _ => (placeFollower_ownerOf acc name).trans h

theorem filled_ownerOf : (e.filled names).1.ownerOf = (e.claimed names).ownerOf :=
  List.foldlRecOn (motive := fun acc : ShardLayout × List String =>
    acc.1.ownerOf = (e.claimed names).ownerOf) _ _ followed_ownerOf
    fun acc h shard _ => (fillShard_ownerOf acc shard).trans h

theorem planReplicaMoves_ownerOf (l : ShardLayout) (replicasPerShard : Int) :
    (e.planReplicaMoves l replicasPerShard).ownerOf = l.ownerOf := by
  unfold PlanEnv.planReplicaMoves
  dsimp only
  split <;> rfl

/-- Only the first stage names owners. -/
theorem layout_ownerOf (order : MapOrder) (replicasPerShard : Int) :
    (e.layout order names replicasPerShard).ownerOf = (e.claimed names).ownerOf := by
  unfold PlanEnv.layout PlanEnv.spread PlanEnv.borrowed
  rw [planReplicaMoves_ownerOf]
  dsimp only
  rw [foldl_spreadFree_ownerOf, borrowHeirs_ownerOf, filled_ownerOf]

variable {name : String}

/-- Every pod that serves slots is the owner of some shard. -/
theorem exists_owner (hne : "" ∉ names) (hname : name ∈ names)
    (hserves : (e.statuses.get name).slotsServed ≠ []) :
    ∃ s, (e.claimed names).ownerOf.lookup s = some name := by
  have hplaced := (mem_claimed_shardOf hne).mpr (mem_owners.mpr ⟨hname, hserves⟩)
  obtain ⟨s, hs⟩ := GoMap.mem_iff_lookup.mp hplaced
  exact ⟨s, (claimed_sound hne).2 hs⟩

/-! ## Surplus shards -/

/-- Every pod sits in a wanted shard or in one that an owner claimed. -/
def Inside (e : PlanEnv) (claims l : ShardLayout) : Prop :=
  ∀ name s, l.shardOf.lookup name = some s →
    s < e.shardCount ∨ ∃ owner, claims.shardOf.lookup owner = some s

variable {claims : ShardLayout}

theorem Inside.insert {l l' : ShardLayout} (h : Inside e claims l) (name : String)
    (shard : Nat) (hl' : l'.shardOf = l.shardOf.insert name shard)
    (hshard : shard < e.shardCount ∨ ∃ owner, claims.shardOf.lookup owner = some shard) :
    Inside e claims l' := by
  intro n s hl
  rw [hl', GoMap.lookup_insert] at hl
  split at hl
  · obtain rfl := Option.some.inj hl
    exact hshard
  · exact h n s hl

theorem followedShard_placed {shard : Nat}
    (h : e.followedShard l name = some shard) : ∃ other, l.shardOf.lookup other = some shard := by
  unfold PlanEnv.followedShard at h
  dsimp only at h
  split at h
  · exact ⟨_, h⟩
  · cases h

theorem labelledShard_lt {shard : Nat} (h : e.labelledShard name = some shard) :
    shard < e.shardCount := by
  unfold PlanEnv.labelledShard at h
  split at h
  · cases h
  · split at h
    · rename_i hguard
      obtain rfl := Option.some.inj h
      exact hguard.2
    · cases h

theorem Inside.placeFollower {acc : ShardLayout × List String}
    (h : Inside e claims acc.1) (name : String) : Inside e claims (e.placeFollower acc name).1 := by
  obtain ⟨l, free⟩ := acc
  unfold PlanEnv.placeFollower
  dsimp only
  split
  · exact h
  · split
    · rename_i shard hshard
      refine h.insert name shard (inherit_shardOf ..) ?_
      obtain ⟨other, hother⟩ := followedShard_placed hshard
      exact h other shard hother
    · split
      · rename_i shard hshard
        refine h.insert name shard ?_ (Or.inl (labelledShard_lt hshard))
        dsimp only
        split
        · exact inherit_shardOf ..
        · rfl
      · exact h

theorem Inside.fillShard {acc : ShardLayout × List String}
    (h : Inside e claims acc.1) {shard : Nat} (hshard : shard < e.shardCount) :
    Inside e claims (PlanEnv.fillShard acc shard).1 := by
  obtain ⟨l, _ | ⟨name, survivors⟩⟩ := acc
  · exact h
  · unfold PlanEnv.fillShard
    dsimp only
    split
    · exact h
    · exact h.insert name shard rfl (Or.inl hshard)

theorem Inside.borrowHeirs (order : MapOrder) {shards : List Nat}
    (h : Inside e claims l) (hshards : ∀ s ∈ shards, s < e.shardCount) :
    Inside e claims (e.borrowHeirs order l shards) := by
  induction shards generalizing l with
  | nil => exact h
  | cons shard shards ih =>
    have hrest : ∀ s ∈ shards, s < e.shardCount :=
      fun s hs => hshards s (List.mem_cons_of_mem _ hs)
    unfold PlanEnv.borrowHeirs
    split
    · exact ih h hrest
    · dsimp only
      split
      · exact h
      · exact ih (h.insert (l.spareSurvivor order e.doomed) shard rfl
          (Or.inl (hshards shard (List.mem_cons_self ..)))) hrest

theorem smallestShard_lt (hcount : 0 < e.shardCount) (l : ShardLayout) :
    e.smallestShard l < e.shardCount := by
  refine List.foldlRecOn (motive := fun target : Nat => target < e.shardCount) _ _ hcount ?_
  intro target htarget shard hshard
  split
  · exact List.mem_range.mp hshard
  · exact htarget

theorem inside_spread (hcount : 0 < e.shardCount) (order : MapOrder) :
    Inside e (e.claimed names) (e.spread order names) := by
  have hclaimed : Inside e (e.claimed names) (e.claimed names) := fun name _ hl => Or.inr ⟨name, hl⟩
  have hfollowed : Inside e (e.claimed names) (e.followed names).1 :=
    List.foldlRecOn (motive := fun acc : ShardLayout × List String =>
      Inside e (e.claimed names) acc.1) _ _ hclaimed fun acc h name _ => h.placeFollower name
  have hfilled : Inside e (e.claimed names) (e.filled names).1 :=
    List.foldlRecOn (motive := fun acc : ShardLayout × List String =>
      Inside e (e.claimed names) acc.1) _ _ hfollowed
      fun acc h shard hshard => h.fillShard (List.mem_range.mp hshard)
  have hborrowed : Inside e (e.claimed names) (e.borrowed order names) :=
    hfilled.borrowHeirs order fun _ hs => List.mem_range.mp hs
  refine List.foldlRecOn (motive := fun l : ShardLayout => Inside e (e.claimed names) l) _ _
    hborrowed ?_
  intro l h name _
  exact h.insert name _ rfl (Or.inl (smallestShard_lt hcount l))

/-- An owner that claimed a shard beyond the wanted ones found them all claimed. -/
theorem claimed_surplus (hne : "" ∉ names) {s t : Nat}
    (hs : (e.claimed names).shardOf.lookup name = some s) (hsurplus : e.shardCount ≤ s)
    (ht : t < e.shardCount) : ∃ owner, (e.claimed names).ownerOf.lookup t = some owner := by
  have hseats := seats_claimed e names
  have hlow : ∀ wish ∈ (rankOwnersByOverlap (e.owners names) e.statuses
      (calculateClusterSlotRanges e.shardCount)).map (fun m => (m.pod, m.shard)),
      wish.2 < e.shardCount := by
    intro wish hwish
    obtain ⟨m, hm, rfl⟩ := List.mem_map.mp hwish
    simpa using (mem_rankOwnersByOverlap hm).2
  have htaken := Greedy.taken_of_beyond hlow ((hseats.placed name s).mp hs) hsurplus t
    (Nat.lt_of_lt_of_le ht hsurplus)
  obtain ⟨owner, howner⟩ := Greedy.taken_iff.mp htaken
  exact ⟨owner, (claimed_sound hne).2 ((hseats.placed owner t).mpr howner)⟩

end PlanEnv

section

variable (order : MapOrder) (cluster : RedisCluster) (pods : List Pod)
variable (statuses : Statuses)

theorem planShardLayout_shardOf :
    (planShardLayout order cluster pods statuses).shardOf
      = ((planEnv order cluster pods statuses).spread order
        (layoutNames cluster pods)).shardOf := by
  unfold planShardLayout PlanEnv.layout
  rw [PlanEnv.planReplicaMoves_shardOf]

variable {order cluster pods statuses}

theorem doomed_planEnv_eq_false {name : String} :
    (planEnv order cluster pods statuses).doomed name = false ↔
      podIndex cluster.name name < cluster.spec.desiredDataInstances :=
  decide_eq_false_iff_not.trans Int.not_le

/-- A shard beyond the wanted ones has members only if every wanted one has an owner. -/
theorem planShardLayout_surplus (hpods : ∀ pod ∈ pods, pod.name ≠ "") {name : String} {s : Nat}
    (hs : (planShardLayout order cluster pods statuses).shardOf.lookup name = some s)
    (hsurplus : desiredShardCount cluster ≤ s) {t : Nat} (ht : t < desiredShardCount cluster) :
    ∃ owner, (planShardLayout order cluster pods statuses).ownerOf.lookup t = some owner := by
  have hne := (planShardLayout_sound order cluster pods statuses hpods).no_empty
  rw [planShardLayout_shardOf] at hs
  have hinside := PlanEnv.inside_spread (e := planEnv order cluster pods statuses)
    (desiredShardCount_pos cluster) order name s hs
  unfold planShardLayout
  rw [PlanEnv.layout_ownerOf]
  rcases hinside with hlt | ⟨owner, howner⟩
  · exact absurd hlt (Nat.not_lt.mpr hsurplus)
  · exact PlanEnv.claimed_surplus hne howner hsurplus ht

/-- Every polled pod that serves slots owns a shard of the plan. -/
theorem planShardLayout_owner (order : MapOrder) (hpods : ∀ pod ∈ pods, pod.name ≠ "")
    {name : String}
    (hname : name ∈ layoutNames cluster pods) (hserves : (statuses.get name).slotsServed ≠ []) :
    ∃ s, (planShardLayout order cluster pods statuses).ownerOf.lookup s = some name := by
  have hne := (planShardLayout_sound order cluster pods statuses hpods).no_empty
  unfold planShardLayout
  rw [PlanEnv.layout_ownerOf]
  exact PlanEnv.exists_owner hne hname hserves

end

/-! ## The shape -/

/-- A layout in which everything has its place. -/
structure ShardLayout.WellFormed (cluster : RedisCluster) (pods : List Pod)
    (statuses : Statuses) (l : ShardLayout) : Prop where
  /-- a pod that exists or is expected is in one member list, once: that of `shardOf` -/
  placed : ∀ name, (∃ pod ∈ pods, pod.name = name) ∨
      (∃ i : Nat, (i : Int) < cluster.spec.desiredDataInstances ∧
        name = podNameForIndex cluster.name i) →
    ∃ s, l.shardOf.lookup name = some s ∧ (l.members.get s).count name = 1 ∧
      ∀ t, t ≠ s → name ∉ l.members.get t
  primary_injective : ∀ s t, l.primaryOf.get s ≠ "" → l.primaryOf.get s = l.primaryOf.get t → s = t
  primary_member : ∀ s, l.primaryOf.get s ≠ "" → l.primaryOf.get s ∈ l.members.get s ∧
    podIndex cluster.name (l.primaryOf.get s) < cluster.spec.desiredDataInstances
  /-- a pod that serves slots owns the shard it is in, and leads it unless it is to go -/
  owner : ∀ name, (statuses.get name).slotsServed ≠ [] →
    ∃ s, l.shardOf.lookup name = some s ∧ (∀ t, l.ownerOf.lookup t = some name ↔ t = s) ∧
      (podIndex cluster.name name < cluster.spec.desiredDataInstances → l.primaryOf.get s = name)

/-- A polled pod is one the planner places. -/
theorem mem_layoutNames_of_polled {cluster : RedisCluster} {pods : List Pod}
    {statuses : Statuses} (hkeys : ∀ name ∈ statuses, ∃ pod ∈ pods, pod.name = name) {name : String}
    (hname : name ∈ statuses) : name ∈ layoutNames cluster pods := by
  obtain ⟨pod, hpod, rfl⟩ := hkeys name hname
  exact mem_layoutNames.mpr (Or.inr ⟨pod, hpod, rfl⟩)

theorem mem_of_serves {statuses : Statuses} {name : String}
    (hserves : (statuses.get name).slotsServed ≠ []) : name ∈ statuses := by
  by_contra hnot
  rw [GoMap.get_of_not_mem hnot] at hserves
  exact hserves rfl

/-- **The planned layout is well formed**, whatever the pods are labelled with,
    whatever they were polled with and in whichever order maps are visited. -/
theorem planShardLayout_wellFormed (order : MapOrder) (cluster : RedisCluster) (pods : List Pod)
    (statuses : Statuses) (hpods : ∀ pod ∈ pods, pod.name ≠ "")
    (hkeys : ∀ name ∈ statuses, ∃ pod ∈ pods, pod.name = name) :
    (planShardLayout order cluster pods statuses).WellFormed cluster pods statuses := by
  have hsound := planShardLayout_sound order cluster pods statuses hpods
  refine ⟨?_, ?_, ?_, ?_⟩
  · intro name hname
    have hin : name ∈ layoutNames cluster pods := by
      rw [mem_layoutNames]
      rcases hname with ⟨pod, hpod, rfl⟩ | ⟨i, hi, rfl⟩
      · exact Or.inr ⟨pod, hpod, rfl⟩
      · exact Or.inl ⟨i, by omega, rfl⟩
    obtain ⟨s, hs⟩ := GoMap.mem_iff_lookup.mp
      (planShardLayout_places order cluster pods statuses hpods hin)
    refine ⟨s, hs, List.count_eq_one_of_mem (hsound.members_nodup s) (hsound.members_iff.mpr hs),
      ?_⟩
    intro t ht hmem
    have hother := hsound.members_iff.mp hmem
    rw [hs] at hother
    exact ht (Option.some.inj hother).symm
  · intro s t hp heq
    have hs := hsound.primary_placed hp
    have ht := hsound.primary_placed (heq ▸ hp)
    rw [← heq, hs] at ht
    exact Option.some.inj ht
  · intro s hp
    refine ⟨hsound.members_iff.mpr (hsound.primary_placed hp), ?_⟩
    exact doomed_planEnv_eq_false.mp (hsound.primary_survives hp)
  · intro name hserves
    obtain ⟨s, hs⟩ := planShardLayout_owner order hpods
      (mem_layoutNames_of_polled hkeys (mem_of_serves hserves)) hserves
    refine ⟨s, hsound.owner_placed hs, ?_, ?_⟩
    · intro t
      constructor
      · intro ht
        have hplaced := hsound.owner_placed ht
        rw [hsound.owner_placed hs] at hplaced
        exact (Option.some.inj hplaced).symm
      · rintro rfl
        exact hs
    · intro hlive
      exact hsound.owner_primary hs (doomed_planEnv_eq_false.mpr hlive)

/-- Three shards of one pod; `c-3` is to go and still serves the last range. -/
def drainingPods : List Pod := ["c-0", "c-1", "c-2", "c-3"].map namedPod

/-- A master that answered, with the slots it serves. -/
def answeredMaster (nodeID : String) (slots : List SlotRange) : InstanceStatus where
  role := .master
  connected := true
  nodeID := nodeID
  slotsServed := slots

/-- What a replica of another node answers. -/
def answeredReplica (nodeID primaryNodeID : String) : InstanceStatus where
  role := .slave
  connected := true
  nodeID := nodeID
  primaryNodeID := primaryNodeID

def drainingStatuses : Statuses :=
  ((((∅ : Statuses).insert "c-0" (answeredMaster "id0" [⟨0, 5461⟩])).insert
    "c-1" (answeredMaster "id1" [⟨5462, 10922⟩])).insert "c-2" (answeredMaster "id2" [])).insert
    "c-3" (answeredMaster "id3" [⟨10923, 16383⟩])

theorem drainingStatuses_keys : ∀ name ∈ drainingStatuses, ∃ pod ∈ drainingPods, pod.name = name :=
  fun name hname =>
    (by decide +kernel : ∀ name ∈ drainingStatuses.keys, ∃ pod ∈ drainingPods, pod.name = name)
      name (GoMap.mem_keys.mpr hname)

/-- The last shard is being handed over: owned by `c-3`, to be led by `c-2`. -/
theorem drainingPods_wellFormed :
    (planShardLayout .stored (shardedCluster 0) drainingPods drainingStatuses).WellFormed
      (shardedCluster 0) drainingPods drainingStatuses ∧
    (planShardLayout .stored (shardedCluster 0) drainingPods drainingStatuses).handingOver 2
      = true :=
  ⟨planShardLayout_wellFormed .stored _ _ _ (by decide +kernel) drainingStatuses_keys,
    by decide +kernel⟩

end RedisOperator
