/-
  RedisOperator.Cluster.LayoutOrder

  Status, bootstrap, reshard and pod labelling each plan the layout for
  themselves.  Do they see the same one?  The order of the pod list does not
  matter (the names are sorted by ordinal), nor does the order in which the
  statuses are visited (node ids are distinct); the order in which the shards
  are visited does, where two of them could lend an heir equally well.
  `planShardLayout_order_iff` says exactly when every order gives one layout.
-/

import RedisOperator.Cluster.HeirChoice
import RedisOperator.Cluster.ShardCoverage

namespace RedisOperator

open Lib

/-! ## Where reports and labels put the pods -/

section Placements

variable (cluster : RedisCluster) (pods : List Pod) (statuses : Statuses)

/-- The pods that reports and labels place. -/
def placements : List Placement :=
  (planEnv .stored cluster pods statuses).groups (layoutNames cluster pods)

/-- Some pod that stays may lead the shard. -/
def groupLed (shard : Nat) : Bool :=
  (placements cluster pods statuses).any fun p =>
    decide (p.shard = shard) && p.mayLead && survives cluster p.pod

/-- The wanted shards nobody can lead. -/
def vacantShards : List Nat :=
  (List.range (desiredShardCount cluster)).filter fun s => !groupLed cluster pods statuses s

/-- The pods that stay and that nothing places. -/
def looseSurvivors : List String :=
  (layoutNames cluster pods).filter fun name => survives cluster name &&
    !(placements cluster pods statuses).any fun p => decide (p.pod = name)

/-- The members of a shard: its group, and the loose pod that fills it. -/
def groupSize (shard : Nat) : Nat :=
  (placements cluster pods statuses).countP (fun p => decide (p.shard = shard)) +
    if shard ∈ (vacantShards cluster pods statuses).take
      (looseSurvivors cluster pods statuses).length then 1 else 0

/-- The members that stay and are not needed to lead. -/
def groupSpares (shard : Nat) : Nat :=
  (placements cluster pods statuses).countP
      (fun p => decide (p.shard = shard) && survives cluster p.pod) -
    if groupLed cluster pods statuses shard = true then 1 else 0

/-- The vacant shards that no loose pod is left for, and whose owner needs an heir. -/
def heirlessShards : List Nat :=
  ((vacantShards cluster pods statuses).drop (looseSurvivors cluster pods statuses).length).filter
    fun s => Greedy.taken (ownerSeats cluster pods statuses) s

/-- No two shards are equally large whenever an heir has to be borrowed. -/
def UndisputedHeirs : Prop :=
  Undisputed (groupSize cluster pods statuses) (groupSpares cluster pods statuses)
    (heirlessShards cluster pods statuses)

end Placements

/-! ## Only lookups matter -/

namespace PlanEnv

variable {e : PlanEnv}

/-- The environment with other maps for labels and node ids. -/
def withMaps (e : PlanEnv) (labels : GoMap String Nat) (primaries : GoMap String Bool)
    (ids : GoMap String String) : PlanEnv :=
  { e with labelOf := labels, primaryLabel := primaries, podByNodeID := ids }

/-- Maps that answer the same lookups plan the same layout. -/
theorem layout_withMaps {labels : GoMap String Nat} {primaries : GoMap String Bool}
    {ids : GoMap String String} (hlabels : ∀ n, labels.lookup n = e.labelOf.lookup n)
    (hprimaries : ∀ n, primaries.lookup n = e.primaryLabel.lookup n)
    (hids : ∀ id, ids.lookup id = e.podByNodeID.lookup id) (order : MapOrder)
    (names : List String) (replicasPerShard : Int) :
    (e.withMaps labels primaries ids).layout order names replicasPerShard
      = e.layout order names replicasPerShard := by
  have hplace : (e.withMaps labels primaries ids).placeFollower = e.placeFollower := by
    funext ⟨l, free⟩ name
    have hfollowed : (e.withMaps labels primaries ids).followedShard l name
        = e.followedShard l name := by
      unfold PlanEnv.followedShard GoMap.get withMaps
      dsimp only
      rw [hids]
    have hlabelled : (e.withMaps labels primaries ids).labelledShard name
        = e.labelledShard name := by
      unfold PlanEnv.labelledShard withMaps
      dsimp only
      rw [hlabels]
      rfl
    have hprimary : (e.withMaps labels primaries ids).primaryLabel.get name
        = e.primaryLabel.get name := by
      unfold GoMap.get withMaps
      dsimp only
      rw [hprimaries]
    unfold PlanEnv.placeFollower
    dsimp only
    rw [hfollowed, hlabelled, hprimary]
    rfl
  have hfollowed : (e.withMaps labels primaries ids).followed names = e.followed names := by
    unfold PlanEnv.followed
    rw [hplace]
    rfl
  have hfilled : (e.withMaps labels primaries ids).filled names = e.filled names := by
    unfold PlanEnv.filled
    rw [hfollowed]
    rfl
  have hborrow : ∀ (l : ShardLayout) (shards : List Nat),
      (e.withMaps labels primaries ids).borrowHeirs order l shards
        = e.borrowHeirs order l shards := by
    intro l shards
    induction shards generalizing l with
    | nil => rfl
    | cons shard shards ih =>
      unfold PlanEnv.borrowHeirs
      dsimp only
      rw [ih, ih]
      rfl
  unfold PlanEnv.layout PlanEnv.spread PlanEnv.borrowed
  rw [hfilled, hfollowed, hborrow]
  rfl

end PlanEnv

section

variable {cluster : RedisCluster} {pods pods' : List Pod}
variable {statuses : Statuses}

theorem OwnOrdinals.perm (h : OwnOrdinals cluster pods) (hperm : pods'.Perm pods) :
    OwnOrdinals cluster pods' where
  named pod hpod := h.named pod (hperm.mem_iff.mp hpod)
  distinct := (hperm.map Pod.name).nodup_iff.mpr h.distinct

/-- The names come out in one order. -/
theorem OwnOrdinals.layoutNames_eq (h : OwnOrdinals cluster pods)
    (hmode : cluster.spec.mode = .cluster) (hperm : pods'.Perm pods) :
    layoutNames cluster pods' = layoutNames cluster pods := by
  have hmem : ∀ name, name ∈ layoutNames cluster pods' ↔ name ∈ layoutNames cluster pods := by
    intro name
    simp only [mem_layoutNames, hperm.mem_iff]
  refine List.Perm.eq_of_pairwise ?_ ((h.perm hperm).increasing hmode) (h.increasing hmode)
    ((List.perm_ext_iff_of_nodup (layoutNames_nodup ..) (layoutNames_nodup ..)).mpr hmem)
  intro a b _ _ hab hba
  exact absurd (Int.lt_trans hab hba) (Int.lt_irrefl _)

theorem OwnOrdinals.labelOf_lookup_eq (h : OwnOrdinals cluster pods) (hperm : pods'.Perm pods)
    (name : String) : (labelOf pods').lookup name = (labelOf pods).lookup name := by
  rw [labelOf_eq_collect, labelOf_eq_collect]
  refine GoMap.lookup_collect_perm hperm ?_ name
  intro x hx y hy k v v' hex hey
  obtain ⟨i, hi, heq⟩ := Option.map_eq_some_iff.mp hex
  obtain ⟨j, hj, heq'⟩ := Option.map_eq_some_iff.mp hey
  cases heq
  obtain ⟨hname, rfl⟩ := Prod.mk.inj heq'
  have hxy : y = x := List.inj_on_of_nodup_map (h.perm hperm).distinct hy hx hname
  rw [hxy, hi] at hj
  exact Option.some.inj hj

theorem OwnOrdinals.primaryLabel_lookup_eq (h : OwnOrdinals cluster pods) (hperm : pods'.Perm pods)
    (name : String) : (primaryLabel pods').lookup name = (primaryLabel pods).lookup name := by
  rw [primaryLabel_eq_collect, primaryLabel_eq_collect]
  refine GoMap.lookup_collect_perm hperm ?_ name
  intro x hx y hy k v v' hex hey
  cases hex
  obtain ⟨hname, rfl⟩ := Prod.mk.inj (Option.some.inj hey)
  rw [List.inj_on_of_nodup_map (h.perm hperm).distinct hy hx hname]

theorem DistinctNodeIDs.podByNodeID_lookup_eq (h : DistinctNodeIDs statuses)
    (order order' : MapOrder) (id : String) :
    (podByNodeID order statuses).lookup id = (podByNodeID order' statuses).lookup id := by
  rw [podByNodeID_eq_collect, podByNodeID_eq_collect]
  refine GoMap.lookup_collect_perm ((order.visitStatuses_perm _).trans
    (order'.visitStatuses_perm _).symm) ?_ id
  intro x hx y hy k v v' hex hey
  have hlook : ∀ p, p ∈ order.visitStatuses statuses.pairs → statuses.lookup p.1 = some p.2 :=
    fun p hp => GoMap.mem_pairs.mp ((order.visitStatuses_perm _).mem_iff.mp hp)
  split at hex
  · cases hex
  · rename_i hne
    split at hey
    · cases hey
    · cases hex
      obtain ⟨hid, rfl⟩ := Prod.mk.inj (Option.some.inj hey)
      exact h _ _ _ _ (hlook x hx) (hlook y hy) hid.symm hne

/-- The plan depends on the orders through the choice of heirs only. -/
theorem planShardLayout_eq_layout (h : OwnOrdinals cluster pods)
    (hmode : cluster.spec.mode = .cluster) (hids : DistinctNodeIDs statuses) (order : MapOrder)
    (hperm : pods'.Perm pods) :
    planShardLayout order cluster pods' statuses =
      (planEnv .stored cluster pods statuses).layout order (layoutNames cluster pods)
        cluster.spec.replicasPerShard := by
  have hcongr := PlanEnv.layout_withMaps (e := planEnv .stored cluster pods statuses)
    (h.labelOf_lookup_eq hperm) (h.primaryLabel_lookup_eq hperm)
    (hids.podByNodeID_lookup_eq order .stored) order (layoutNames cluster pods)
    cluster.spec.replicasPerShard
  rw [← hcongr, ← h.layoutNames_eq hmode hperm]
  rfl

end

/-! ## The groups the planner builds -/

namespace PlanEnv

variable {e : PlanEnv} {names : List String} {l : ShardLayout} {placed : List Placement}

/-- The members of a shard are the pods listed for it. -/
theorem Places.members_perm (h : Places e l placed) (hs : Sound e names l) (s : Nat) :
    (l.members.get s).Perm
      ((placed.filter fun p => decide (p.shard = s)).map Placement.pod) := by
  have hnodup : ((placed.filter fun p => decide (p.shard = s)).map Placement.pod).Nodup :=
    h.nodup.sublist (List.filter_sublist.map _)
  refine (List.perm_ext_iff_of_nodup (hs.members_nodup s) hnodup).mpr fun name => ?_
  rw [hs.members_iff, h.shard, List.mem_map]
  refine exists_congr fun p => ?_
  rw [List.mem_filter, decide_eq_true_iff]
  tauto

theorem Places.size_eq (h : Places e l placed) (hs : Sound e names l) (s : Nat) :
    size l s = placed.countP fun p => decide (p.shard = s) := by
  unfold size
  rw [(h.members_perm hs s).length_eq, List.length_map, List.countP_eq_length_filter]

/-- The survivors of a shard are its spares and its primary. -/
theorem Sound.spareCount_eq (hs : Sound e names l) (s : Nat) :
    spareCount e l s = (l.members.get s).countP (fun name => !e.doomed name) -
      if l.primaryOf.get s ≠ "" then 1 else 0 := by
  unfold spareCount
  by_cases hp : l.primaryOf.get s = ""
  · rw [if_neg (not_not.mpr hp), Nat.sub_zero]
    refine List.countP_congr fun name hname => ?_
    have hne : name ≠ "" := by
      rintro rfl
      exact hs.no_empty (hs.placed_mem (hs.members_iff.mp hname))
    simp [sparesAs, hp, hne]
  · have hmem := hs.members_iff.mpr (hs.primary_placed hp)
    have hlive := hs.primary_survives hp
    have herase := List.countP_erase (fun name => !e.doomed name) (l.members.get s)
      (l.primaryOf.get s)
    rw [if_pos ⟨hmem, by rw [hlive]; rfl⟩] at herase
    rw [if_pos hp, ← herase, (hs.members_nodup s).erase_eq_filter, List.countP_filter]
    exact List.countP_congr fun name _ => by simp [sparesAs, and_comm]

theorem Places.spareCount_eq (h : Places e l placed) (hs : Sound e names l) (s : Nat) :
    spareCount e l s =
      placed.countP (fun p => decide (p.shard = s) && !e.doomed p.pod) -
        if l.primaryOf.get s ≠ "" then 1 else 0 := by
  rw [hs.spareCount_eq, (h.members_perm hs s).countP_eq, List.countP_map, List.countP_filter]
  simp only [Function.comp_def, Bool.and_comm]

theorem countP_fills (hne : "" ∉ names) (hnodup : names.Nodup) (s : Nat) :
    (e.fills names).countP (fun pair => decide (pair.1 = s)) =
      if s ∈ (e.vacant names).take (e.survivors names).length then 1 else 0 := by
  have hcount := (fills_spec (e := e) hne hnodup).nodup.count (a := s)
  rw [List.count, List.countP_map, map_fst_fills] at hcount
  exact hcount

/-- A filled shard has one member more. -/
theorem size_filled (hne : "" ∉ names) (hnodup : names.Nodup) (hknows : e.KnowsNodes) (s : Nat) :
    size (e.filled names).1 s = (e.groups names).countP (fun p => decide (p.shard = s)) +
      if s ∈ (e.vacant names).take (e.survivors names).length then 1 else 0 := by
  rw [(places_filled hne hnodup hknows).size_eq (filled_sound hne hnodup).1, List.countP_append,
    List.countP_map, ← countP_fills hne hnodup]
  rfl

/-- The pod that fills a shard leads it: the spares stay as they are. -/
theorem spareCount_filled (hne : "" ∉ names) (hnodup : names.Nodup) (hknows : e.KnowsNodes)
    (s : Nat) : spareCount e (e.filled names).1 s =
      (e.groups names).countP (fun p => decide (p.shard = s) && !e.doomed p.pod) -
        if (e.followed names).1.primaryOf.get s ≠ "" then 1 else 0 := by
  have hfills : (e.fills names).countP (fun pair => decide (pair.1 = s) && !e.doomed pair.2) =
      if s ∈ (e.vacant names).take (e.survivors names).length then 1 else 0 := by
    rw [← countP_fills hne hnodup]
    refine List.countP_congr fun pair hpair => ?_
    rw [(fills_spec hne hnodup).live pair hpair]
    simp
  rw [(places_filled hne hnodup hknows).spareCount_eq (filled_sound hne hnodup).1,
    List.countP_append, List.countP_map]
  simp only [Function.comp_def, hfills, filled_led_iff hne hnodup hknows]
  by_cases hs : s ∈ (e.vacant names).take (e.survivors names).length
  · have hopen := of_decide_eq_true (List.mem_filter.mp (List.mem_of_mem_take hs)).2
    simp [hs, hopen]
  · simp [hs]

end PlanEnv

section

variable {cluster : RedisCluster} {pods : List Pod} {statuses : Statuses}

variable (hne : "" ∉ layoutNames cluster pods)
variable (hids : DistinctNodeIDs statuses)
include hne hids

variable {order : MapOrder}

theorem DistinctNodeIDs.groupLed_iff (s : Nat) :
    ((planEnv order cluster pods statuses).followed (layoutNames cluster pods)).1.primaryOf.get s
      ≠ "" ↔ groupLed cluster pods statuses s = true := by
  rw [(PlanEnv.places_followed hne (hids.knowsNodes _ _ _)).led]
  simp only [groupLed, List.any_eq_true, Bool.and_eq_true, decide_eq_true_eq, doomed_eq,
    Bool.not_eq_false', and_assoc]
  exact Iff.rfl

theorem DistinctNodeIDs.vacant_eq :
    (planEnv order cluster pods statuses).vacant (layoutNames cluster pods) =
      vacantShards cluster pods statuses := by
  refine List.filter_congr fun s _ => ?_
  have hled : ((planEnv order cluster pods statuses).followed
      (layoutNames cluster pods)).1.primaryOf.get s ≠ "" ↔ _ := hids.groupLed_iff hne s
  cases hs : groupLed cluster pods statuses s <;> simpa [hs] using hled

theorem DistinctNodeIDs.survivors_eq :
    (planEnv order cluster pods statuses).survivors (layoutNames cluster pods) =
      looseSurvivors cluster pods statuses := by
  have hgroups : (planEnv order cluster pods statuses).groups (layoutNames cluster pods) =
      placements cluster pods statuses := rfl
  unfold PlanEnv.survivors
  rw [PlanEnv.followed_free (layoutNames_nodup cluster pods), PlanEnv.outside, List.filter_filter]
  refine List.filter_congr fun name _ => ?_
  rw [Bool.eq_iff_iff]
  simp [(PlanEnv.places_followed hne (hids.knowsNodes _ _ _)).mem_iff, doomed_eq, hgroups]

/-- What the fill stage hands to the borrowing loop, in terms of the groups. -/
theorem DistinctNodeIDs.filled_counts :
    PlanEnv.size ((planEnv .stored cluster pods statuses).filled (layoutNames cluster pods)).1
        = groupSize cluster pods statuses ∧
      PlanEnv.spareCount (planEnv .stored cluster pods statuses)
        ((planEnv .stored cluster pods statuses).filled (layoutNames cluster pods)).1
        = groupSpares cluster pods statuses ∧
      PlanEnv.needy ((planEnv .stored cluster pods statuses).filled (layoutNames cluster pods)).1
        (List.range (desiredShardCount cluster)) = heirlessShards cluster pods statuses := by
  have hnodup := layoutNames_nodup cluster pods
  have hknows := hids.knowsNodes .stored cluster pods
  refine ⟨?_, ?_, ?_⟩
  · funext s
    rw [PlanEnv.size_filled hne hnodup hknows, hids.vacant_eq hne, hids.survivors_eq hne]
    rfl
  · funext s
    rw [PlanEnv.spareCount_filled hne hnodup hknows]
    simp only [hids.groupLed_iff hne s, doomed_eq, Bool.not_not]
    rfl
  · have hopen : PlanEnv.unled _ (List.range (desiredShardCount cluster)) = _ :=
      PlanEnv.unled_filled hne hnodup hknows
    rw [hids.vacant_eq hne, hids.survivors_eq hne] at hopen
    unfold heirlessShards
    rw [← hopen, PlanEnv.unled, List.filter_filter]
    refine List.filter_congr fun s _ => ?_
    have howner : ((planEnv .stored cluster pods statuses).filled
        (layoutNames cluster pods)).1.ownerOf.get s ≠ "" ↔
          Greedy.taken (ownerSeats cluster pods statuses) s = true := by
      rw [Greedy.taken_iff, PlanEnv.filled_ownerOf]
      exact claimed_owned_iff hne s
    rw [Bool.eq_iff_iff, decide_eq_true_iff, Bool.and_eq_true, decide_eq_true_iff, ← howner,
      and_comm]

end

/-! ## One layout for all orders -/

/-- Two layouts agree on shards, primaries, owners and planned moves. -/
structure ShardLayout.Agrees (l l' : ShardLayout) : Prop where
  shardOf : ∀ name, l.shardOf.lookup name = l'.shardOf.lookup name
  primaryOf : ∀ s, l.primaryOf.lookup s = l'.primaryOf.lookup s
  ownerOf : ∀ s, l.ownerOf.lookup s = l'.ownerOf.lookup s
  replicaMoves : ∀ name, l.replicaMoves.lookup name = l'.replicaMoves.lookup name

/-- **One layout.**  Whatever order the pods are listed in and the maps are
    visited in, the planner computes the same layout: exactly if no heir is
    disputed between equally large shards. -/
theorem planShardLayout_order_iff (cluster : RedisCluster) (pods : List Pod)
    (statuses : Statuses) (hmode : cluster.spec.mode = .cluster)
    (hpods : OwnOrdinals cluster pods) (hids : DistinctNodeIDs statuses) :
    (∀ (order order' : MapOrder) (pods₁ pods₂ : List Pod), pods₁.Perm pods → pods₂.Perm pods →
        (planShardLayout order cluster pods₁ statuses).Agrees
          (planShardLayout order' cluster pods₂ statuses)) ↔
      UndisputedHeirs cluster pods statuses := by
  have hne : "" ∉ layoutNames cluster pods := by
    intro hmem
    obtain ⟨i, -, hi⟩ := hpods.ordinal hmode hmem
    exact podNameForIndex_ne_empty _ _ hi.symm
  have hsound := (PlanEnv.filled_sound (e := planEnv .stored cluster pods statuses) hne
    (layoutNames_nodup cluster pods)).1
  obtain ⟨hsize, hspare, hneedy⟩ := hids.filled_counts hne
  have hheirs : UndisputedHeirs cluster pods statuses ↔ Undisputed
      (PlanEnv.size ((planEnv .stored cluster pods statuses).filled (layoutNames cluster pods)).1)
      (PlanEnv.spareCount (planEnv .stored cluster pods statuses)
        ((planEnv .stored cluster pods statuses).filled (layoutNames cluster pods)).1)
      (PlanEnv.needy ((planEnv .stored cluster pods statuses).filled (layoutNames cluster pods)).1
        (List.range (desiredShardCount cluster))) := by
    rw [hsize, hspare, hneedy]
    rfl
  rw [hheirs]
  constructor
  · intro hall
    by_contra hdispute
    obtain ⟨order, order', s, hs⟩ := hsound.exists_borrowHeirs_ne List.nodup_range hdispute
    have hagree := (hall order order' pods pods (.refl _) (.refl _)).primaryOf s
    rw [planShardLayout_eq_layout hpods hmode hids order (.refl _),
      planShardLayout_eq_layout hpods hmode hids order' (.refl _), PlanEnv.layout_primaryOf,
      PlanEnv.layout_primaryOf] at hagree
    exact hs (congrArg (Option.getD · default) hagree)
  · intro hone order order' pods₁ pods₂ hperm₁ hperm₂
    have hborrow : (planEnv .stored cluster pods statuses).borrowed order
        (layoutNames cluster pods) = (planEnv .stored cluster pods statuses).borrowed order'
          (layoutNames cluster pods) :=
      hsound.borrowHeirs_eq List.nodup_range hone order order'
    have heq : planShardLayout order cluster pods₁ statuses
        = planShardLayout order' cluster pods₂ statuses := by
      rw [planShardLayout_eq_layout hpods hmode hids order hperm₁,
        planShardLayout_eq_layout hpods hmode hids order' hperm₂]
      unfold PlanEnv.layout PlanEnv.spread
      rw [hborrow]
    rw [heq]
    exact ⟨fun _ => rfl, fun _ => rfl, fun _ => rfl, fun _ => rfl⟩

theorem distinctNodeIDs_iff {statuses : Statuses} :
    DistinctNodeIDs statuses ↔ ∀ p ∈ statuses.pairs, ∀ q ∈ statuses.pairs,
      p.2.nodeID = q.2.nodeID → p.2.nodeID ≠ "" → p.1 = q.1 := by
  constructor
  · intro h p hp q hq
    exact h _ _ _ _ (GoMap.mem_pairs.mp hp) (GoMap.mem_pairs.mp hq)
  · intro h a b x y ha hb
    exact h (a, x) (GoMap.mem_pairs.mpr ha) (b, y) (GoMap.mem_pairs.mpr hb)

/-- Three shards that want six pods and have seven: `c-6`, which has to go, owns
    the slots of the third, and `c-5` follows the master of the node given. -/
def lendingStatuses (followed : String) : Statuses :=
  (((((((∅ : Statuses).insert
    "c-0" (answeredMaster "n0" [⟨0, 5461⟩])).insert
    "c-1" (answeredMaster "n1" [⟨5462, 10922⟩])).insert
    "c-2" (answeredReplica "n2" "n0")).insert
    "c-3" (answeredReplica "n3" "n0")).insert
    "c-4" (answeredReplica "n4" "n1")).insert
    "c-5" (answeredReplica "n5" followed)).insert
    "c-6" (answeredMaster "n6" [⟨10923, 16383⟩])

def lendingPods : List Pod :=
  ["c-0", "c-1", "c-2", "c-3", "c-4", "c-5", "c-6"].map namedPod

theorem lendingPods_ordinals : OwnOrdinals (shardedCluster 1) lendingPods where
  named pod hpod := by
    have hnames : lendingPods = (List.range 7).map fun i => namedPod (podNameForIndex "c" i) := by
      decide +kernel
    rw [hnames] at hpod
    obtain ⟨i, hi, rfl⟩ := List.mem_map.mp hpod
    refine ⟨i, ?_, rfl⟩
    have := List.mem_range.mp hi
    unfold ValidOrdinal maxInt
    omega
  distinct := by decide +kernel

theorem lendingStatuses_distinct (followed : String) :
    DistinctNodeIDs (lendingStatuses followed) := by
  rw [distinctNodeIDs_iff]
  have hids : (lendingStatuses followed).pairs.map (fun p => (p.1, p.2.nodeID)) =
      [("c-6", "n6"), ("c-5", "n5"), ("c-4", "n4"), ("c-3", "n3"), ("c-2", "n2"), ("c-1", "n1"),
        ("c-0", "n0")] := rfl
  intro p hp q hq hid _
  have hp' := List.mem_map_of_mem (f := fun p : String × InstanceStatus => (p.1, p.2.nodeID)) hp
  have hq' := List.mem_map_of_mem (f := fun p : String × InstanceStatus => (p.1, p.2.nodeID)) hq
  rw [hids] at hp' hq'
  have hall : ∀ a ∈ [("c-6", "n6"), ("c-5", "n5"), ("c-4", "n4"), ("c-3", "n3"), ("c-2", "n2"),
      ("c-1", "n1"), ("c-0", "n0")], ∀ b ∈ [("c-6", "n6"), ("c-5", "n5"), ("c-4", "n4"),
      ("c-3", "n3"), ("c-2", "n2"), ("c-1", "n1"), ("c-0", "n0")], a.2 = b.2 → a.1 = b.1 := by
    decide +kernel
  exact hall _ hp' _ hq' hid

theorem lendingStatuses_undisputed :
    UndisputedHeirs (shardedCluster 1) lendingPods (lendingStatuses "n0") := by
  have hneedy : heirlessShards (shardedCluster 1) lendingPods (lendingStatuses "n0") = [2] := by
    decide +kernel
  have hlends : Lends (groupSize (shardedCluster 1) lendingPods (lendingStatuses "n0"))
      (groupSpares (shardedCluster 1) lendingPods (lendingStatuses "n0")) 0 := by
    constructor <;> decide +kernel
  -- the first shard has four members, the second two, and the third no spare
  have hfirst : ∀ s, Largest (groupSize (shardedCluster 1) lendingPods (lendingStatuses "n0"))
      (groupSpares (shardedCluster 1) lendingPods (lendingStatuses "n0")) s → s = 0 := by
    rintro s ⟨⟨-, hspare⟩, hmax⟩
    have hpos := Nat.lt_of_lt_of_le hspare (Nat.sub_le _ _)
    obtain ⟨p, hp, hshard⟩ := List.countP_pos_iff.mp hpos
    have hlt : ∀ p ∈ placements (shardedCluster 1) lendingPods (lendingStatuses "n0"),
        p.shard < 3 := by decide +kernel
    have hs : s < 3 := by
      have := hlt p hp
      simp only [Bool.and_eq_true, decide_eq_true_eq] at hshard
      omega
    match s, hs with
    | 0, _ => rfl
    | 1, _ => exact absurd (hmax 0 hlends) (by decide +kernel)
    | 2, _ => exact absurd hspare (by decide +kernel)
  unfold UndisputedHeirs
  rw [hneedy]
  intro s hs
  exact ⟨fun t ht => (hfirst t ht).trans (hfirst s hs).symm, trivial⟩

/-- With one shard alone the largest, every order borrows `c-2`. -/
theorem lendingStatuses_one_layout :
    (planShardLayout .stored (shardedCluster 1) lendingPods
        (lendingStatuses "n0")).primaryOf.lookup 2 = some "c-2" ∧
      ∀ (order order' : MapOrder) (pods₁ pods₂ : List Pod), pods₁.Perm lendingPods →
        pods₂.Perm lendingPods →
        (planShardLayout order (shardedCluster 1) pods₁ (lendingStatuses "n0")).Agrees
          (planShardLayout order' (shardedCluster 1) pods₂ (lendingStatuses "n0")) :=
  ⟨by decide +kernel, (planShardLayout_order_iff _ _ _ rfl lendingPods_ordinals
    (lendingStatuses_distinct "n0")).mpr lendingStatuses_undisputed⟩

/-- With two shards equally large, the one visited first lends the heir. -/
theorem lendingStatuses_two_layouts :
    (shardedCluster 1).spec.mode = .cluster ∧ OwnOrdinals (shardedCluster 1) lendingPods ∧
      DistinctNodeIDs (lendingStatuses "n1") ∧
      (planShardLayout (.first 0) (shardedCluster 1) lendingPods
        (lendingStatuses "n1")).primaryOf.lookup 2 = some "c-2" ∧
      (planShardLayout (.first 1) (shardedCluster 1) lendingPods
        (lendingStatuses "n1")).primaryOf.lookup 2 = some "c-4" :=
  ⟨rfl, lendingPods_ordinals, lendingStatuses_distinct "n1", by decide +kernel,
    by decide +kernel⟩

end RedisOperator
