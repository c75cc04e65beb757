/-
  RedisOperator.Cluster.ShardCoverage

  When does the planner give every shard a primary, with every pod polled?
  A shard is led when the owner seated on it survives or one of the owner's
  replicas does.  The wanted shards that are not led are filled, in order, with
  surviving pods that belong to no group; what is still open borrows surplus
  survivors, but only for shards that have an owner.
  `planShardLayout_covers_iff` says exactly when this reaches every shard.
-/

import RedisOperator.Cluster.LayoutShape

namespace RedisOperator

open Lib

/-! ## The situation: everything is polled -/

/-- How many of the ranges a pod was polled with contain the slot. -/
def servings (statuses : Statuses) (name : String) (slot : Int) : Nat :=
  ((statuses.get name).slotsServed.filter fun r => decide (r.Contains slot)).length

/-- Every data pod of a cluster-mode cluster exists and was polled, and the
    poll describes a complete Redis Cluster topology. -/
structure FullyPolled (cluster : RedisCluster) (pods : List Pod)
    (statuses : Statuses) : Prop where
  mode : cluster.spec.mode = .cluster
  shards : 3 ≤ cluster.spec.shards
  replicas : 0 ≤ cluster.spec.replicasPerShard
  no_wrap : cluster.spec.shards * (1 + cluster.spec.replicasPerShard) < 2 ^ 31
  /-- pods carry distinct ordinals, and no ordinal below the desired count is missing -/
  ordinals : ∃ ords : List Nat, ords.Nodup ∧ (∀ i ∈ ords, ValidOrdinal i) ∧
    pods.map Pod.name = ords.map (podNameForIndex cluster.name) ∧
    ∀ i < cluster.spec.desiredDataInstances.toNat, i ∈ ords
  polled : ∀ name, name ∈ statuses ↔ ∃ pod ∈ pods, pod.name = name
  connected : ∀ name st, statuses.lookup name = some st → st.connected = true ∧ st.nodeID ≠ ""
  nodeIDs : ∀ a b x y, statuses.lookup a = some x → statuses.lookup b = some y →
    x.nodeID = y.nodeID → a = b
  /-- every slot is served once -/
  served : ∀ slot, IsSlot slot → ∃ name, servings statuses name slot = 1 ∧
    ∀ name', name' ≠ name → servings statuses name' slot = 0
  ranges : ∀ name st r, statuses.lookup name = some st → r ∈ st.slotsServed →
    0 ≤ r.start ∧ r.start ≤ r.stop ∧ r.stop ≤ 16383
  masters : ∀ name st, statuses.lookup name = some st → st.slotsServed ≠ [] → st.role = .master
  slaves : ∀ name st, statuses.lookup name = some st → st.role = .slave →
    ∃ m mst, statuses.lookup m = some mst ∧ mst.role = .master ∧ mst.nodeID = st.primaryNodeID

/-! ## The groups behind the shards -/

section Groups

variable (cluster : RedisCluster) (pods : List Pod) (statuses : Statuses)

/-- The pods that serve slots, in ordinal order. -/
def slotOwners : List String :=
  (layoutNames cluster pods).filter fun name => !(statuses.get name).slotsServed.isEmpty

/-- The shard each owner ends up on: greedily by overlap, then the lowest unused one. -/
def ownerSeats : List (String × Nat) :=
  Greedy.seating
    ((rankOwnersByOverlap (slotOwners cluster pods statuses) statuses
      (calculateClusterSlotRanges (desiredShardCount cluster))).map fun m => (m.pod, m.shard))
    (slotOwners cluster pods statuses)

/-- The pod's ordinal is below the desired count. -/
def survives (name : String) : Bool :=
  decide (podIndex cluster.name name < cluster.spec.desiredDataInstances)

/-- `name` is a replica of `owner`, by the polled node ids. -/
def followsOwner (name owner : String) : Bool :=
  (statuses.get name).slotsServed.isEmpty && (statuses.get name).role == .slave &&
    (statuses.get name).primaryNodeID == (statuses.get owner).nodeID

/-- The owner's group has a pod that stays. -/
def groupSurvives (owner : String) : Bool :=
  survives cluster owner ||
    (layoutNames cluster pods).any fun name =>
      survives cluster name && followsOwner statuses name owner

/-- Some group on the shard has a pod that stays. -/
def shardLed (shard : Nat) : Bool :=
  (ownerSeats cluster pods statuses).any fun seat =>
    decide (seat.2 = shard) && groupSurvives cluster pods statuses seat.1

/-- The wanted shards no surviving group leads. -/
def openShards : List Nat :=
  (List.range (desiredShardCount cluster)).filter fun s => !shardLed cluster pods statuses s

/-- The surviving pods that neither own slots nor follow an owner. -/
def freeSurvivors : List String :=
  (layoutNames cluster pods).filter fun name =>
    survives cluster name && (statuses.get name).slotsServed.isEmpty &&
      !((slotOwners cluster pods statuses).any fun owner => followsOwner statuses name owner)

/-- The shards beyond the wanted ones that a surviving group leads. -/
def surplusLed : List Nat :=
  ((ownerSeats cluster pods statuses).map Prod.snd).filter fun s =>
    decide (desiredShardCount cluster ≤ s) && shardLed cluster pods statuses s

/-- Every wanted shard can be given a primary: those without any owner are
    reached by the free survivors, and the rest of the open ones are covered by
    free survivors or by the spares that remain once every led shard has its
    primary. -/
def Coverable : Prop :=
  (∀ s < desiredShardCount cluster, Greedy.taken (ownerSeats cluster pods statuses) s = false →
    ((openShards cluster pods statuses).filter fun t => decide (t ≤ s)).length ≤
      (freeSurvivors cluster pods statuses).length) ∧
  ((openShards cluster pods statuses).length ≤ (freeSurvivors cluster pods statuses).length ∨
    ((surplusLed cluster pods statuses).length : Int) ≤
      cluster.spec.shards * cluster.spec.replicasPerShard)

instance : Decidable (Coverable cluster pods statuses) := inferInstanceAs (Decidable (_ ∧ _))

end Groups

/-! ## Reading the situation -/

section Situation

variable {cluster : RedisCluster} {pods : List Pod} {statuses : Statuses}

variable (h : FullyPolled cluster pods statuses)
include h

theorem FullyPolled.desired :
    cluster.spec.desiredDataInstances
      = cluster.spec.shards * (1 + cluster.spec.replicasPerShard) :=
  RedisClusterSpec.desiredDataInstances_eq h.mode h.shards h.replicas h.no_wrap

theorem FullyPolled.shardCount :
    (desiredShardCount cluster : Int) = cluster.spec.shards := by
  have := h.shards
  unfold desiredShardCount
  rw [if_neg (by omega)]
  omega

variable {name : String}

theorem FullyPolled.mem_names :
    name ∈ layoutNames cluster pods ↔ name ∈ statuses := by
  rw [mem_layoutNames, h.polled]
  obtain ⟨ords, -, -, hnames, hall⟩ := h.ordinals
  constructor
  · rintro (⟨i, hi, rfl⟩ | ⟨pod, hpod, rfl⟩)
    · have : podNameForIndex cluster.name i ∈ pods.map Pod.name := by
        rw [hnames]
        exact List.mem_map_of_mem (hall i hi)
      obtain ⟨pod, hpod, heq⟩ := List.mem_map.mp this
      exact ⟨pod, hpod, heq⟩
    · exact ⟨pod, hpod, rfl⟩
  · rintro ⟨pod, hpod, rfl⟩
    exact Or.inr ⟨pod, hpod, rfl⟩

theorem FullyPolled.lookup_get
    (hn : name ∈ layoutNames cluster pods) : statuses.lookup name = some (statuses.get name) := by
  obtain ⟨st, hst⟩ := GoMap.mem_iff_lookup.mp (h.mem_names.mp hn)
  rw [hst, GoMap.get_of_lookup hst]

theorem FullyPolled.no_empty :
    "" ∉ layoutNames cluster pods := by
  rw [mem_layoutNames]
  obtain ⟨ords, -, -, hnames, -⟩ := h.ordinals
  rintro (⟨i, -, hi⟩ | ⟨pod, hpod, hp⟩)
  · exact podNameForIndex_ne_empty _ _ hi.symm
  · have : pod.name ∈ ords.map (podNameForIndex cluster.name) :=
      hnames ▸ List.mem_map_of_mem hpod
    obtain ⟨i, -, hi⟩ := List.mem_map.mp this
    exact podNameForIndex_ne_empty _ _ (hi.trans hp.symm)

theorem FullyPolled.distinctNodeIDs :
    DistinctNodeIDs statuses := fun a b x y hx hy hid _ => h.nodeIDs a b x y hx hy hid

theorem FullyPolled.knowsNodes (order : MapOrder) :
    (planEnv order cluster pods statuses).KnowsNodes :=
  h.distinctNodeIDs.knowsNodes order cluster pods

/-- Nobody is placed by label: everybody answered. -/
theorem FullyPolled.labelledShard_eq (order : MapOrder) (hn : name ∈ layoutNames cluster pods) :
    (planEnv order cluster pods statuses).labelledShard name = none := by
  have hl := h.lookup_get hn
  have hobs : (planEnv order cluster pods statuses).observable name = true := by
    show (decide (name ∈ statuses) && (statuses.get name).connected &&
      ((statuses.get name).role != .slave || (statuses.get name).primaryNodeID != "")) = true
    rw [decide_eq_true (h.mem_names.mp hn), (h.connected _ _ hl).1]
    by_cases hs : (statuses.get name).role = .slave
    · obtain ⟨m, mst, hm, -, hid⟩ := h.slaves _ _ hl hs
      have := (h.connected _ _ hm).2
      rw [hid] at this
      simp [this]
    · simp [hs]
  unfold PlanEnv.labelledShard
  cases (planEnv order cluster pods statuses).labelOf.lookup name <;> simp [hobs]

omit h

theorem doomed_eq (order : MapOrder) (name : String) :
    (planEnv order cluster pods statuses).doomed name = !survives cluster name := by
  unfold PlanEnv.doomed survives planEnv
  rw [← decide_not]
  exact decide_eq_decide.mpr (not_lt).symm

/-! ## The stages in terms of groups -/

theorem owners_eq (order : MapOrder) :
    (planEnv order cluster pods statuses).owners (layoutNames cluster pods)
      = slotOwners cluster pods statuses := rfl

/-- The claim stage seats the owners. -/
theorem claimed_lookup_iff (order : MapOrder) {s : Nat} :
    ((planEnv order cluster pods statuses).claimed (layoutNames cluster pods)).shardOf.lookup name
      = some s ↔ (name, s) ∈ ownerSeats cluster pods statuses :=
  (PlanEnv.seats_claimed (planEnv order cluster pods statuses) (layoutNames cluster pods)).placed
    name s

/-- The claim stage names an owner for the seats it gives, and for no others. -/
theorem claimed_owned_iff {order : MapOrder} (hne : "" ∉ layoutNames cluster pods) (s : Nat) :
    ((planEnv order cluster pods statuses).claimed (layoutNames cluster pods)).ownerOf.get s ≠ "" ↔
      ∃ owner, (owner, s) ∈ ownerSeats cluster pods statuses := by
  obtain ⟨hclaimed, hall⟩ := PlanEnv.claimed_sound (e := planEnv order cluster pods statuses) hne
  constructor
  · intro hget
    cases hl : ((planEnv order cluster pods statuses).claimed
        (layoutNames cluster pods)).ownerOf.lookup s with
    | none => exact absurd (by simp [GoMap.get, hl]) hget
    | some owner => exact ⟨owner, (claimed_lookup_iff order).mp (hclaimed.owner_placed hl)⟩
  · rintro ⟨owner, hseat⟩
    have hl := (claimed_lookup_iff order).mpr hseat
    rw [GoMap.get_of_lookup (hall hl)]
    exact fun hh => hne (hh ▸ hclaimed.placed_mem hl)

theorem mem_slotOwners : name ∈ slotOwners cluster pods statuses ↔
    name ∈ layoutNames cluster pods ∧ (statuses.get name).slotsServed ≠ [] := by
  simp [slotOwners]

include h

theorem FullyPolled.mem_slotOwners_of_seat {owner : String}
    {s : Nat} (hseat : (owner, s) ∈ ownerSeats cluster pods statuses) :
    owner ∈ slotOwners cluster pods statuses := by
  have hl : ((planEnv .stored cluster pods statuses).claimed
      (layoutNames cluster pods)).shardOf.lookup owner = some s :=
    (claimed_lookup_iff .stored).mpr hseat
  exact (PlanEnv.mem_claimed_shardOf h.no_empty).mp (GoMap.mem_of_lookup hl)

theorem FullyPolled.seat_of_mem_slotOwners {owner : String}
    (ho : owner ∈ slotOwners cluster pods statuses) :
    ∃ s, (owner, s) ∈ ownerSeats cluster pods statuses := by
  have hmem := (PlanEnv.mem_claimed_shardOf
    (e := planEnv MapOrder.stored cluster pods statuses) h.no_empty).mpr ho
  obtain ⟨s, hs⟩ := GoMap.mem_iff_lookup.mp hmem
  exact ⟨s, (claimed_lookup_iff MapOrder.stored).mp hs⟩

/-- The node id a replica follows tells which seat. -/
theorem FullyPolled.followee_iff (order : MapOrder)
    {q : Placement} : (planEnv order cluster pods statuses).followee
        ((planEnv order cluster pods statuses).seated (layoutNames cluster pods)) name = some q ↔
      (statuses.get name).role = .slave ∧
        q ∈ (planEnv order cluster pods statuses).seated (layoutNames cluster pods) ∧
        (statuses.get q.pod).nodeID = (statuses.get name).primaryNodeID := by
  have hlook : ∀ q ∈ (planEnv order cluster pods statuses).seated (layoutNames cluster pods),
      statuses.lookup q.pod = some (statuses.get q.pod) := fun q hq =>
    h.lookup_get (mem_slotOwners.mp ((PlanEnv.mem_seated h.no_empty _).mp ⟨q, hq, rfl⟩)).1
  unfold PlanEnv.followee
  split
  · rename_i hc
    rw [find?_eq_some_iff_of_unique, decide_eq_true_iff]
    · exact ⟨fun hq => ⟨hc.1, hq⟩, And.right⟩
    · intro a ha b hb haid hbid
      refine List.inj_on_of_nodup_map (PlanEnv.places_claimed h.no_empty).nodup ha hb ?_
      exact h.nodeIDs _ _ _ _ (hlook a ha) (hlook b hb)
        ((of_decide_eq_true haid).trans (of_decide_eq_true hbid).symm)
  · rename_i hc
    refine iff_of_false (by simp) ?_
    rintro ⟨hslave, hq, hid⟩
    refine hc ⟨hslave, ?_⟩
    show (statuses.get name).primaryNodeID ≠ ""
    exact hid ▸ (h.connected _ _ (hlook q hq)).2

/-- Idle pods belong with the owner they replicate. -/
theorem FullyPolled.place_iff (order : MapOrder)
    {p : Placement} (hn : p.pod ∈ layoutNames cluster pods)
    (hslots : (statuses.get p.pod).slotsServed = []) :
    (planEnv order cluster pods statuses).place
        ((planEnv order cluster pods statuses).seated (layoutNames cluster pods)) p.pod = some p ↔
      p.mayLead = true ∧ ∃ owner, (owner, p.shard) ∈ ownerSeats cluster pods statuses ∧
        followsOwner statuses p.pod owner = true := by
  have hplace : (planEnv order cluster pods statuses).place
      ((planEnv order cluster pods statuses).seated (layoutNames cluster pods)) p.pod =
      ((planEnv order cluster pods statuses).followee
        ((planEnv order cluster pods statuses).seated (layoutNames cluster pods)) p.pod).map
          fun q => ⟨p.pod, q.shard, true⟩ := by
    unfold PlanEnv.place
    rw [h.labelledShard_eq order hn]
    cases (planEnv order cluster pods statuses).followee _ p.pod <;> rfl
  rw [hplace, Option.map_eq_some_iff]
  simp only [h.followee_iff order, followsOwner, hslots, List.isEmpty_nil, Bool.true_and,
    Bool.and_eq_true, beq_iff_eq]
  constructor
  · rintro ⟨q, ⟨hslave, hq, hid⟩, hp⟩
    obtain ⟨seat, hseat, rfl⟩ := List.mem_map.mp hq
    have hshard : seat.2 = p.shard := congrArg Placement.shard hp
    exact ⟨(congrArg Placement.mayLead hp).symm, seat.1, hshard ▸ hseat, hslave, hid.symm⟩
  · rintro ⟨hlead, owner, hseat, hslave, hid⟩
    exact ⟨_, ⟨hslave, List.mem_map_of_mem hseat, hid.symm⟩, by rw [← hlead]⟩

/-- A replica follows a master, and that has joined nobody. -/
theorem FullyPolled.flat (order : MapOrder) {n : String}
    (hname : name ∈ layoutNames cluster pods) (hn : n ∈ layoutNames cluster pods)
    (hslave : (statuses.get name).role = .slave)
    (hid : (statuses.get n).nodeID = (statuses.get name).primaryNodeID) :
    (planEnv order cluster pods statuses).place
      ((planEnv order cluster pods statuses).seated (layoutNames cluster pods)) n = none := by
  obtain ⟨m, mst, hm, hrole, hmid⟩ := h.slaves _ _ (h.lookup_get hname) hslave
  obtain rfl : n = m := h.nodeIDs _ _ _ _ (h.lookup_get hn) hm (hid.trans hmid.symm)
  have hmaster : (statuses.get n).role = .master := by rw [GoMap.get_of_lookup hm, hrole]
  have hnone : (planEnv order cluster pods statuses).followee
      ((planEnv order cluster pods statuses).seated (layoutNames cluster pods)) n = none :=
    if_neg fun hc => absurd (hmaster.symm.trans hc.1) (by decide)
  unfold PlanEnv.place
  rw [hnone, h.labelledShard_eq order hn]
  rfl

/-- Who is in a group, and where. -/
theorem FullyPolled.mem_groups (order : MapOrder) (p : Placement) :
    p ∈ (planEnv order cluster pods statuses).groups (layoutNames cluster pods) ↔
      p.mayLead = true ∧ ((p.pod, p.shard) ∈ ownerSeats cluster pods statuses ∨
        (p.pod ∈ layoutNames cluster pods ∧ ∃ owner,
          (owner, p.shard) ∈ ownerSeats cluster pods statuses ∧
            followsOwner statuses p.pod owner = true)) := by
  rw [PlanEnv.groups_eq h.no_empty (layoutNames_nodup cluster pods)
    fun name hname n hn _ => h.flat order hname hn, List.mem_append, PlanEnv.mem_joiners,
      and_or_left]
  refine or_congr ?_ ?_
  · constructor
    · intro hp
      obtain ⟨seat, hseat, rfl⟩ := List.mem_map.mp hp
      exact ⟨rfl, hseat⟩
    · rintro ⟨hlead, hseat⟩
      exact List.mem_map.mpr ⟨_, hseat, by rw [← hlead]⟩
  · rw [owners_eq, mem_slotOwners]
    constructor
    · rintro ⟨hn, hidle, hplace⟩
      have hslots : (statuses.get p.pod).slotsServed = [] := by
        by_contra hne
        exact hidle ⟨hn, hne⟩
      obtain ⟨hlead, hfollows⟩ := (h.place_iff order hn hslots).mp hplace
      exact ⟨hlead, hn, hfollows⟩
    · rintro ⟨hlead, hn, owner, hseat, hf⟩
      have hslots : (statuses.get p.pod).slotsServed = [] := by
        simp only [followsOwner, Bool.and_eq_true, List.isEmpty_iff] at hf
        exact hf.1.1
      exact ⟨hn, fun hh => hh.2 hslots, (h.place_iff order hn hslots).mpr ⟨hlead, owner, hseat, hf⟩⟩

/-- A shard is led after the follower stage exactly when its group survives. -/
theorem FullyPolled.followed_led_iff (order : MapOrder) (s : Nat) :
    ((planEnv order cluster pods statuses).followed
        (layoutNames cluster pods)).1.primaryOf.get s ≠ "" ↔
      shardLed cluster pods statuses s = true := by
  rw [(PlanEnv.places_followed h.no_empty (h.knowsNodes order)).led]
  simp only [h.mem_groups order, doomed_eq, Bool.not_eq_false', shardLed, groupSurvives,
    List.any_eq_true, Bool.and_eq_true, decide_eq_true_eq, Bool.or_eq_true, Prod.exists]
  constructor
  · rintro ⟨p, ⟨-, hseat | ⟨hn, owner, hseat, hf⟩⟩, rfl, -, hsurv⟩
    · exact ⟨p.pod, p.shard, hseat, rfl, Or.inl hsurv⟩
    · exact ⟨owner, p.shard, hseat, rfl, Or.inr ⟨p.pod, hn, hsurv, hf⟩⟩
  · rintro ⟨owner, t, hseat, rfl, hsurv | ⟨n, hn, hsurv, hf⟩⟩
    · exact ⟨⟨owner, t, true⟩, ⟨rfl, Or.inl hseat⟩, rfl, rfl, hsurv⟩
    · exact ⟨⟨n, t, true⟩, ⟨rfl, Or.inr ⟨hn, owner, hseat, hf⟩⟩, rfl, rfl, hsurv⟩

theorem FullyPolled.vacant_eq (order : MapOrder) :
    (planEnv order cluster pods statuses).vacant (layoutNames cluster pods) =
      openShards cluster pods statuses := by
  refine List.filter_congr fun s _ => ?_
  have hled := h.followed_led_iff order s
  cases hs : shardLed cluster pods statuses s <;> simpa [hs] using hled

/-- The pods the fill stage hands out. -/
theorem FullyPolled.survivors_eq (order : MapOrder) :
    (planEnv order cluster pods statuses).survivors (layoutNames cluster pods) =
      freeSurvivors cluster pods statuses := by
  unfold PlanEnv.survivors
  rw [PlanEnv.followed_free (layoutNames_nodup cluster pods), PlanEnv.outside, List.filter_filter]
  refine List.filter_congr fun name hn => ?_
  have hplaced : name ∈ ((planEnv order cluster pods statuses).followed
      (layoutNames cluster pods)).1.shardOf ↔ (statuses.get name).slotsServed ≠ [] ∨
        ∃ owner ∈ slotOwners cluster pods statuses, followsOwner statuses name owner = true := by
    rw [(PlanEnv.places_followed h.no_empty (h.knowsNodes order)).mem_iff]
    simp only [h.mem_groups order]
    constructor
    · rintro ⟨p, ⟨-, hseat | ⟨-, owner, hseat, hf⟩⟩, rfl⟩
      · exact Or.inl (mem_slotOwners.mp (h.mem_slotOwners_of_seat hseat)).2
      · exact Or.inr ⟨owner, h.mem_slotOwners_of_seat hseat, hf⟩
    · rintro (hserves | ⟨owner, ho, hf⟩)
      · obtain ⟨s, hs⟩ := h.seat_of_mem_slotOwners (mem_slotOwners.mpr ⟨hn, hserves⟩)
        exact ⟨⟨name, s, true⟩, ⟨rfl, Or.inl hs⟩, rfl⟩
      · obtain ⟨s, hs⟩ := h.seat_of_mem_slotOwners ho
        exact ⟨⟨name, s, true⟩, ⟨rfl, Or.inr ⟨hn, owner, hs, hf⟩⟩, rfl⟩
  rw [Bool.eq_iff_iff]
  simp only [Bool.and_eq_true, Bool.not_eq_true', decide_eq_true_eq, hplaced, doomed_eq,
    Bool.not_eq_false', List.isEmpty_iff, List.any_eq_false, not_or, not_not, not_exists, not_and,
    and_assoc]

omit h

/-! ## After the fill stage -/

theorem openShards_nodup : (openShards cluster pods statuses).Nodup :=
  List.nodup_range.filter _

theorem openShards_sorted : (openShards cluster pods statuses).Pairwise (· < ·) :=
  List.pairwise_lt_range.filter _

include h

/-- In the groups and after the fill stage, a pod leads its shard or shares it with an owner. -/
theorem FullyPolled.filled_shared (order : MapOrder) :
    PlanEnv.Shared ((planEnv order cluster pods statuses).filled (layoutNames cluster pods)).1 := by
  have hnodup := layoutNames_nodup cluster pods
  obtain ⟨-, hall⟩ := PlanEnv.claimed_sound
    (e := planEnv order cluster pods statuses) h.no_empty
  rw [PlanEnv.filled_eq]
  refine (PlanEnv.fills_spec h.no_empty hnodup).shared
    (PlanEnv.followed_sound h.no_empty hnodup).1 ?_
  intro name s hl
  rw [PlanEnv.followed_ownerOf]
  obtain ⟨p, hp, rfl, rfl⟩ :=
    ((PlanEnv.places_followed h.no_empty (h.knowsNodes order)).shard name s).mp hl
  rcases ((h.mem_groups order p).mp hp).2 with hseat | ⟨-, owner, hseat, -⟩
  · exact Or.inr ⟨p.pod, hall ((claimed_lookup_iff order).mpr hseat)⟩
  · exact Or.inr ⟨owner, hall ((claimed_lookup_iff order).mpr hseat)⟩

/-- A shard is owned in the plan exactly when an owner sits on it. -/
theorem FullyPolled.filled_owned_iff (order : MapOrder) (s : Nat) :
    ((planEnv order cluster pods statuses).filled (layoutNames cluster pods)).1.ownerOf.get s ≠ "" ↔
      ∃ owner, (owner, s) ∈ ownerSeats cluster pods statuses := by
  rw [PlanEnv.filled_ownerOf]
  exact claimed_owned_iff h.no_empty s

/-- With no survivor left over, every pod that stays is placed. -/
theorem FullyPolled.filled_placed (order : MapOrder)
    (hle : (freeSurvivors cluster pods statuses).length ≤
      (openShards cluster pods statuses).length) (hn : name ∈ layoutNames cluster pods)
    (hlive : (planEnv order cluster pods statuses).doomed name = false) :
    name ∈ ((planEnv order cluster pods statuses).filled (layoutNames cluster pods)).1.shardOf := by
  rw [PlanEnv.mem_filled_shardOf, h.vacant_eq order, h.survivors_eq order,
    List.take_of_length_le hle, or_iff_not_imp_right, ← h.survivors_eq order]
  intro hout
  refine List.mem_filter.mpr ⟨?_, by simp [hlive]⟩
  rw [PlanEnv.followed_free (layoutNames_nodup cluster pods)]
  exact List.mem_filter.mpr ⟨hn, decide_eq_true hout⟩

/-- The pods that stay are the pods of the desired ordinals. -/
theorem FullyPolled.card_surviving (order : MapOrder) :
    (((layoutNames cluster pods).toFinset.filter fun p =>
      (planEnv order cluster pods statuses).doomed p = false).card : Int)
      = cluster.spec.desiredDataInstances := by
  have hnonneg : 0 ≤ cluster.spec.desiredDataInstances := by
    rw [h.desired]
    have h1 := h.shards
    have h2 := h.replicas
    exact Int.mul_nonneg (by omega) (by omega)
  have hset : ((layoutNames cluster pods).toFinset.filter fun p =>
      (planEnv order cluster pods statuses).doomed p = false)
      = (Finset.range cluster.spec.desiredDataInstances.toNat).image
          (podNameForIndex cluster.name) := by
    obtain ⟨ords, -, hvalid, hnames, hall⟩ := h.ordinals
    ext p
    rw [Finset.mem_filter, List.mem_toFinset, Finset.mem_image, doomed_eq, Bool.not_eq_false',
      survives, decide_eq_true_iff, mem_layoutNames]
    have hbound : ∀ i ∈ ords, podIndex cluster.name (podNameForIndex cluster.name i)
        < cluster.spec.desiredDataInstances ↔ i < cluster.spec.desiredDataInstances.toNat := by
      intro i hi
      rw [podIndex_podNameForIndex (hvalid i hi)]
      omega
    constructor
    · rintro ⟨⟨i, hi, rfl⟩ | ⟨pod, hpod, rfl⟩, hlt⟩
      · exact ⟨i, Finset.mem_range.mpr hi, rfl⟩
      · have : pod.name ∈ ords.map (podNameForIndex cluster.name) :=
          hnames ▸ List.mem_map_of_mem hpod
        obtain ⟨i, hi, heq⟩ := List.mem_map.mp this
        rw [← heq, hbound i hi] at hlt
        exact ⟨i, Finset.mem_range.mpr hlt, heq⟩
    · rintro ⟨i, hi, rfl⟩
      have hi' := Finset.mem_range.mp hi
      exact ⟨Or.inl ⟨i, hi', rfl⟩, (hbound i (hall i hi')).mpr hi'⟩
  rw [hset, Finset.card_image_of_injective _ (podNameForIndex_injective _), Finset.card_range]
  omega

omit h

theorem surplusLed_nodup : (surplusLed cluster pods statuses).Nodup :=
  (Greedy.nodup_seating ..).filter _

theorem mem_surplusLed {s : Nat} : s ∈ surplusLed cluster pods statuses ↔
    desiredShardCount cluster ≤ s ∧ shardLed cluster pods statuses s = true := by
  simp only [surplusLed, List.mem_filter, Bool.and_eq_true, decide_eq_true_eq]
  refine ⟨And.right, fun hs => ⟨?_, hs⟩⟩
  simp only [shardLed, List.any_eq_true, Bool.and_eq_true, decide_eq_true_eq] at hs
  obtain ⟨-, seat, hseat, rfl, -⟩ := hs
  exact List.mem_map_of_mem hseat

/-- How many spares there are once the free survivors are used up. -/
theorem FullyPolled.card_spares (h : FullyPolled cluster pods statuses) (order : MapOrder)
    (hle : (freeSurvivors cluster pods statuses).length ≤
      (openShards cluster pods statuses).length) :
    ((PlanEnv.spareSet (planEnv order cluster pods statuses) (layoutNames cluster pods)
        ((planEnv order cluster pods statuses).filled (layoutNames cluster pods)).1).card : Int)
      + (surplusLed cluster pods statuses).length
      = cluster.spec.shards * cluster.spec.replicasPerShard
        + ((openShards cluster pods statuses).length - (freeSurvivors cluster pods statuses).length)
    := by
  have hnodup := layoutNames_nodup cluster pods
  have hled := PlanEnv.filled_led_iff h.no_empty hnodup (h.knowsNodes order)
  have hunled : PlanEnv.unled _ (List.range (desiredShardCount cluster)) = _ :=
    PlanEnv.unled_filled h.no_empty hnodup (h.knowsNodes order)
  rw [h.vacant_eq order, h.survivors_eq order] at hled hunled
  -- the led shards: the wanted ones that are not open any more, and the surplus ones
  have hmem : ∀ s, s ∈ PlanEnv.ledAmong
      ((planEnv order cluster pods statuses).filled (layoutNames cluster pods)).1
      (List.range (desiredShardCount cluster)) ↔ s < desiredShardCount cluster ∧
        ((planEnv order cluster pods statuses).filled
          (layoutNames cluster pods)).1.primaryOf.get s ≠ "" := by
    intro s
    simp [PlanEnv.ledAmong]
  have hdisj : Disjoint (PlanEnv.ledAmong
      ((planEnv order cluster pods statuses).filled (layoutNames cluster pods)).1
      (List.range (desiredShardCount cluster))).toFinset
      (surplusLed cluster pods statuses).toFinset := by
    rw [Finset.disjoint_left]
    intro s hs hs'
    have h1 := ((hmem s).mp (List.mem_toFinset.mp hs)).1
    have h2 := (mem_surplusLed.mp (List.mem_toFinset.mp hs')).1
    omega
  have hledShards : PlanEnv.LedShards
      ((planEnv order cluster pods statuses).filled (layoutNames cluster pods)).1
      ((PlanEnv.ledAmong
        ((planEnv order cluster pods statuses).filled (layoutNames cluster pods)).1
        (List.range (desiredShardCount cluster))).toFinset
        ∪ (surplusLed cluster pods statuses).toFinset) := by
    intro s
    rw [Finset.mem_union, List.mem_toFinset, List.mem_toFinset, mem_surplusLed, hmem]
    by_cases hs : s < desiredShardCount cluster
    · have hns : ¬ desiredShardCount cluster ≤ s := Nat.not_le.mpr hs
      simp [hs, hns]
    · have hopen : s ∉ (openShards cluster pods statuses).take
          (freeSurvivors cluster pods statuses).length := by
        intro hin
        have hin' : s ∈ openShards cluster pods statuses := List.mem_of_mem_take hin
        exact hs (List.mem_range.mp (List.mem_filter.mp hin').1)
      rw [hled s, h.followed_led_iff order s]
      have hge : desiredShardCount cluster ≤ s := Nat.not_lt.mp hs
      simp [hs, hge, hopen]
  have hsum := PlanEnv.card_spareSet_add_card_led (PlanEnv.filled_sound h.no_empty hnodup).1
    hledShards fun _ => h.filled_placed order hle
  have hwanted := PlanEnv.length_ledAmong_add_unled
    ((planEnv order cluster pods statuses).filled (layoutNames cluster pods)).1
    (List.range (desiredShardCount cluster))
  rw [hunled, List.length_drop, List.length_range] at hwanted
  have hcard := h.card_surviving order
  rw [Finset.card_union_of_disjoint hdisj, List.toFinset_card_of_nodup
    (PlanEnv.ledAmong_nodup List.nodup_range), List.toFinset_card_of_nodup surplusLed_nodup] at hsum
  have hshards := h.shardCount
  have hdesired := h.desired
  rw [Int.mul_add, Int.mul_one] at hdesired
  omega

/-- Seatless wanted shards are among the shards the free survivors reach. -/
theorem owned_drop_iff (k : Nat) :
    (∀ s ∈ (openShards cluster pods statuses).drop k,
        ∃ owner, (owner, s) ∈ ownerSeats cluster pods statuses) ↔
      ∀ s < desiredShardCount cluster, Greedy.taken (ownerSeats cluster pods statuses) s = false →
        ((openShards cluster pods statuses).filter fun t => decide (t ≤ s)).length ≤ k := by
  have hfree : ∀ s, Greedy.taken (ownerSeats cluster pods statuses) s = false ↔
      ∀ owner, (owner, s) ∉ ownerSeats cluster pods statuses := by
    intro s
    rw [← Bool.not_eq_true, Greedy.taken_iff, not_exists]
  have hopen : ∀ s < desiredShardCount cluster,
      (∀ owner, (owner, s) ∉ ownerSeats cluster pods statuses) →
      s ∈ openShards cluster pods statuses := by
    intro s hs hnone
    refine List.mem_filter.mpr ⟨List.mem_range.mpr hs, ?_⟩
    rw [Bool.not_eq_true', shardLed, List.any_eq_false]
    rintro ⟨owner, t⟩ hseat
    simp only [Bool.and_eq_true, decide_eq_true_eq, not_and]
    rintro rfl
    exact absurd hseat (hnone owner)
  constructor
  · intro hall s hs htaken
    have hnone := (hfree s).mp htaken
    rw [← mem_take_iff_length_filter_le openShards_sorted (hopen s hs hnone)]
    by_contra hnot
    have hmem : s ∈ (openShards cluster pods statuses).drop k := by
      have := hopen s hs hnone
      rw [← List.take_append_drop k (openShards cluster pods statuses), List.mem_append] at this
      exact this.resolve_left hnot
    obtain ⟨owner, ho⟩ := hall s hmem
    exact hnone owner ho
  · intro hall s hs
    by_contra hnone
    have hnone' : ∀ owner, (owner, s) ∉ ownerSeats cluster pods statuses :=
      fun owner ho => hnone ⟨owner, ho⟩
    have hmem : s ∈ openShards cluster pods statuses := List.mem_of_mem_drop hs
    have hlt := List.mem_range.mp (List.mem_filter.mp hmem).1
    have htake := (mem_take_iff_length_filter_le openShards_sorted hmem k).mpr
      (hall s hlt ((hfree s).mpr hnone'))
    have hnodup : (openShards cluster pods statuses).Nodup := openShards_nodup
    have hdisj := List.disjoint_take_drop hnodup (Nat.le_refl k)
    exact hdisj htake hs

/-- With every pod polled, the planner gives every wanted shard a primary
    exactly when the surviving groups, the free survivors and the spares go
    round (`Coverable`). -/
theorem planShardLayout_covers_iff (order : MapOrder) (h : FullyPolled cluster pods statuses) :
    (∀ s < desiredShardCount cluster,
        (planShardLayout order cluster pods statuses).primaryOf.get s ≠ "") ↔
      Coverable cluster pods statuses := by
  have hnodup := layoutNames_nodup cluster pods
  have hunled : PlanEnv.unled _ (List.range (desiredShardCount cluster)) = _ :=
    PlanEnv.unled_filled h.no_empty hnodup (h.knowsNodes order)
  rw [h.vacant_eq order, h.survivors_eq order] at hunled
  have hcovers := PlanEnv.borrowHeirs_covers order
    (List.nodup_range (n := desiredShardCount cluster))
    (PlanEnv.filled_sound h.no_empty hnodup).1 (h.filled_shared order)
  rw [hunled] at hcovers
  have hplan : (planShardLayout order cluster pods statuses).primaryOf
      = ((planEnv order cluster pods statuses).borrowHeirs order
          ((planEnv order cluster pods statuses).filled (layoutNames cluster pods)).1
          (List.range (desiredShardCount cluster))).primaryOf :=
    PlanEnv.layout_primaryOf order _
  rw [hplan]
  simp only [List.mem_range] at hcovers
  rw [hcovers, Coverable, List.length_drop]
  refine and_congr ?_ ?_
  · rw [← owned_drop_iff]
    exact forall₂_congr fun s _ => h.filled_owned_iff order s
  · by_cases hle : (openShards cluster pods statuses).length
        ≤ (freeSurvivors cluster pods statuses).length
    · simp only [hle, true_or, iff_true]
      omega
    · have hspares := h.card_spares order (by omega)
      simp only [hle, false_or]
      omega

end Situation

/-! ## Six primaries, scaled down -/

/-- A polled slot owner. -/
def polledMaster (nodeID : String) (start stop : Int) : InstanceStatus :=
  { role := .master, connected := true, nodeID := nodeID, slotsServed := [⟨start, stop⟩],
    clusterState := .ok }

/-- A cluster of `shards` primaries without replicas. -/
def sixToShards (shards : Int) : RedisCluster :=
  { name := "test", spec := { mode := .cluster, shards := shards, replicasPerShard := 0 } }

/-- The six data pods that run. -/
def sixPods : List Pod := (List.range 6).map fun i => { name := podNameForIndex "test" i }

/-- Six owners of a sixth of the slots each. -/
def sixStatuses : Statuses :=
  ((((((∅ : Statuses).insert "test-5" (polledMaster "n5" 13654 16383)).insert
    "test-4" (polledMaster "n4" 10924 13653)).insert
    "test-3" (polledMaster "n3" 8193 10923)).insert
    "test-2" (polledMaster "n2" 5462 8192)).insert
    "test-1" (polledMaster "n1" 2731 5461)).insert
    "test-0" (polledMaster "n0" 0 2730)

theorem sixStatuses_lookup {name : String} {st : InstanceStatus} :
    sixStatuses.lookup name = some st ↔
      (name, st) ∈ [("test-0", polledMaster "n0" 0 2730), ("test-1", polledMaster "n1" 2731 5461),
        ("test-2", polledMaster "n2" 5462 8192), ("test-3", polledMaster "n3" 8193 10923),
        ("test-4", polledMaster "n4" 10924 13653), ("test-5", polledMaster "n5" 13654 16383)] := by
  rw [← GoMap.mem_pairs]
  exact Iff.rfl

theorem sixStatuses_mem {name : String} :
    name ∈ sixStatuses ↔ ∃ pod ∈ sixPods, pod.name = name := by
  have hpods : sixPods.map Pod.name = ["test-0", "test-1", "test-2", "test-3", "test-4",
      "test-5"] :=
    by decide
  have hname : (∃ pod ∈ sixPods, pod.name = name) ↔ name ∈ sixPods.map Pod.name := by
    simp [eq_comm]
  rw [hname, hpods, ← GoMap.mem_keys]
  exact Iff.rfl

theorem servings_polledMaster {statuses : Statuses} {name id : String}
    {start stop slot : Int} (h : statuses.lookup name = some (polledMaster id start stop)) :
    servings statuses name slot = if start ≤ slot ∧ slot ≤ stop then 1 else 0 := by
  rw [servings, GoMap.get_of_lookup h]
  by_cases hc : start ≤ slot ∧ slot ≤ stop <;> simp [polledMaster, SlotRange.Contains, hc]

/-- Each slot is served by one of the six, once. -/
theorem sixStatuses_served {slot : Int} (hs : IsSlot slot) : ∃ name,
    servings sixStatuses name slot = 1 ∧
      ∀ name', name' ≠ name → servings sixStatuses name' slot = 0 := by
  obtain ⟨h0, h1⟩ := hs
  -- the pod whose range the slot falls into
  obtain ⟨name, st, hl, hserved⟩ : ∃ name st, sixStatuses.lookup name = some st ∧
      servings sixStatuses name slot = 1 := by
    have hcases : slot ≤ 2730 ∨ (2731 ≤ slot ∧ slot ≤ 5461) ∨ (5462 ≤ slot ∧ slot ≤ 8192) ∨
        (8193 ≤ slot ∧ slot ≤ 10923) ∨ (10924 ≤ slot ∧ slot ≤ 13653) ∨ 13654 ≤ slot := by omega
    rcases hcases with h | h | h | h | h | h
    · exact ⟨"test-0", _, rfl, (servings_polledMaster rfl).trans (if_pos (by omega))⟩
    · exact ⟨"test-1", _, rfl, (servings_polledMaster rfl).trans (if_pos (by omega))⟩
    · exact ⟨"test-2", _, rfl, (servings_polledMaster rfl).trans (if_pos (by omega))⟩
    · exact ⟨"test-3", _, rfl, (servings_polledMaster rfl).trans (if_pos (by omega))⟩
    · exact ⟨"test-4", _, rfl, (servings_polledMaster rfl).trans (if_pos (by omega))⟩
    · exact ⟨"test-5", _, rfl, (servings_polledMaster rfl).trans (if_pos (by omega))⟩
  refine ⟨name, hserved, fun name' hne => ?_⟩
  by_cases hm : name' ∈ sixStatuses
  · obtain ⟨st', hl'⟩ := GoMap.mem_iff_lookup.mp hm
    have hlook := hl
    have hlook' := hl'
    simp only [sixStatuses_lookup, List.mem_cons, Prod.mk.injEq, List.not_mem_nil, or_false]
      at hl hl'
    rcases hl with ⟨rfl, rfl⟩ | ⟨rfl, rfl⟩ | ⟨rfl, rfl⟩ | ⟨rfl, rfl⟩ | ⟨rfl, rfl⟩ | ⟨rfl, rfl⟩ <;>
    rcases hl' with ⟨rfl, rfl⟩ | ⟨rfl, rfl⟩ | ⟨rfl, rfl⟩ | ⟨rfl, rfl⟩ | ⟨rfl, rfl⟩ | ⟨rfl, rfl⟩ <;>
    first
      | exact absurd rfl hne
      | (rw [servings_polledMaster hlook] at hserved
         rw [servings_polledMaster hlook', if_neg (by split at hserved <;> omega)])
  · rw [servings, GoMap.get_of_not_mem hm]
    rfl

/-- The six-shard topology is a legal poll for every smaller shard count. -/
theorem fullyPolled_six {shards : Int} (hlow : 3 ≤ shards) (hhigh : shards ≤ 6) :
    FullyPolled (sixToShards shards) sixPods sixStatuses := by
  have hdes : (sixToShards shards).spec.desiredDataInstances = shards * (1 + 0) :=
    RedisClusterSpec.desiredDataInstances_eq rfl hlow (Int.le_refl 0)
      (by show shards * (1 + 0) < 2 ^ 31; omega)
  have hcases : ∀ {name st}, sixStatuses.lookup name = some st →
      ∃ id start stop, st = polledMaster id start stop ∧ id ≠ "" ∧ 0 ≤ start ∧ start ≤ stop ∧
        stop ≤ 16383 := by
    intro name st hl
    simp only [sixStatuses_lookup, List.mem_cons, Prod.mk.injEq, List.not_mem_nil, or_false] at hl
    rcases hl with ⟨-, rfl⟩ | ⟨-, rfl⟩ | ⟨-, rfl⟩ | ⟨-, rfl⟩ | ⟨-, rfl⟩ | ⟨-, rfl⟩ <;>
      exact ⟨_, _, _, rfl, by decide, by decide, by decide, by decide⟩
  refine
    { mode := rfl
      shards := hlow
      replicas := Int.le_refl 0
      no_wrap := by show shards * (1 + 0) < 2 ^ 31; omega
      ordinals := ⟨List.range 6, List.nodup_range, ?_, rfl, ?_⟩
      polled := fun _ => sixStatuses_mem
      connected := ?_
      nodeIDs := ?_
      served := fun _ hs => sixStatuses_served hs
      ranges := ?_
      masters := ?_
      slaves := ?_ }
  · intro i hi
    have := List.mem_range.mp hi
    show i ≤ maxInt
    unfold maxInt
    omega
  · intro i hi
    rw [hdes] at hi
    rw [List.mem_range]
    omega
  · intro name st hl
    obtain ⟨id, start, stop, rfl, hid, -⟩ := hcases hl
    exact ⟨rfl, hid⟩
  · intro a b x y ha hb hid
    simp only [sixStatuses_lookup, List.mem_cons, Prod.mk.injEq, List.not_mem_nil, or_false]
      at ha hb
    rcases ha with ⟨rfl, rfl⟩ | ⟨rfl, rfl⟩ | ⟨rfl, rfl⟩ | ⟨rfl, rfl⟩ | ⟨rfl, rfl⟩ | ⟨rfl, rfl⟩ <;>
    rcases hb with ⟨rfl, rfl⟩ | ⟨rfl, rfl⟩ | ⟨rfl, rfl⟩ | ⟨rfl, rfl⟩ | ⟨rfl, rfl⟩ | ⟨rfl, rfl⟩ <;>
    first
      | rfl
      | exact absurd hid (by decide)
  · intro name st r hl hr
    obtain ⟨id, start, stop, rfl, -, h1, h2, h3⟩ := hcases hl
    obtain rfl := List.mem_singleton.mp hr
    exact ⟨h1, h2, h3⟩
  · intro name st hl _
    obtain ⟨id, start, stop, rfl, -⟩ := hcases hl
    rfl
  · intro name st hl hrole
    obtain ⟨id, start, stop, rfl, -⟩ := hcases hl
    cases hrole

/-- With six shards wanted, all six keep their primary. -/
theorem planShardLayout_covers_six :
    FullyPolled (sixToShards 6) sixPods sixStatuses ∧
      ∀ s < desiredShardCount (sixToShards 6),
        (planShardLayout .stored (sixToShards 6) sixPods sixStatuses).primaryOf.get s ≠ "" := by
  have hpolled : FullyPolled (sixToShards 6) sixPods sixStatuses :=
    fullyPolled_six (by decide) (by decide)
  exact ⟨hpolled, (planShardLayout_covers_iff .stored hpolled).mpr (by decide +kernel)⟩

/-- Scaled down to three shards, shard 2 gets no primary: its owner goes, and
    the survivors all lead a shard, one of them a shard nobody wants. -/
theorem planShardLayout_six_to_three_uncovered :
    FullyPolled (sixToShards 3) sixPods sixStatuses ∧
      2 < desiredShardCount (sixToShards 3) ∧
      (planShardLayout .stored (sixToShards 3) sixPods sixStatuses).primaryOf.get 2 = "" :=
  ⟨fullyPolled_six (by decide) (by decide), by decide, by decide +kernel⟩

end RedisOperator
