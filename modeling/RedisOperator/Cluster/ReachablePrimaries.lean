/-
  RedisOperator.Cluster.ReachablePrimaries

  `PrimaryAvailable` of a sharded cluster counts the shards for which
  `status.shards` names a primary, and does not ask whether that pod answered.
  A shard with an owner shows the owner, which did answer.  A shard without one
  shows the pod that heads it, and that may be a pod that is there by its label
  and cannot be reached.

  Which pod heads a shard is said of what was polled and of the labels
  (`HeadsShard`): reports and labels put pods into shards, and the shards that
  nobody of these can lead go to the pods that are left.
-/

import RedisOperator.Cluster.LayoutOrder
import RedisOperator.Cluster.LostContact
import RedisOperator.Cluster.ShardStatus

namespace RedisOperator

open Lib

/-- When the status reports that every shard has an available primary, the pod
    it names for each shard is connected. -/
def PrimariesReachable (statuses : Statuses) (cluster : RedisCluster) : Prop :=
  cluster.status.Reports .primaryAvailable → ∀ s : Nat, (s : Int) < cluster.spec.shards →
    ∃ shard, cluster.status.shards.lookup (shardName s) = some shard ∧
      (statuses.get shard.primaryPod).connected = true

/-- A pod that cannot be reached reports nothing. -/
def SilentReportNothing (statuses : Statuses) : Prop :=
  ∀ name, (statuses.get name).connected = false → statuses.get name = {}

/-! ## Who heads a shard -/

section

variable (cluster : RedisCluster) (pods : List Pod) (statuses : Statuses)

/-- No pod that serves slots has its seat in the shard. -/
def ShardUnowned (s : Nat) : Prop := Greedy.taken (ownerSeats cluster pods statuses) s = false

/-- The pod stays, and may lead the shard it is put into. -/
def ableToLead (s : Nat) (p : Placement) : Bool :=
  decide (p.shard = s) && p.mayLead && survives cluster p.pod

/-- The pod heads a shard without owner: it is the first of the pods put into the
    shard that can lead it, or, if there is none, the loose pod in line for it. -/
inductive HeadsShard (s : Nat) (name : String) : Prop
  | first {p : Placement} :
      (placements cluster pods statuses).find? (ableToLead cluster s) = some p → p.pod = name →
        HeadsShard s name
  | filled : (s, name) ∈ (vacantShards cluster pods statuses).zip
      (looseSurvivors cluster pods statuses) → HeadsShard s name

/-- Some wanted shard without owner is headed by nobody who was polled, or the
    heads of all of them are connected. -/
def HeadsReachable : Prop :=
  (∃ s < desiredShardCount cluster, ShardUnowned cluster pods statuses s ∧
    ∀ name, HeadsShard cluster pods statuses s name → name ∉ statuses) ∨
  ∀ s < desiredShardCount cluster, ShardUnowned cluster pods statuses s →
    ∀ name, HeadsShard cluster pods statuses s name → (statuses.get name).connected = true

end

section

variable (order : MapOrder) {cluster : RedisCluster} {pods : List Pod}
variable {statuses : Statuses} {s : Nat}
variable (hpods : ∀ pod ∈ pods, pod.name ≠ "")
include hpods

theorem shardUnowned_iff : ShardUnowned cluster pods statuses s ↔
    (planShardLayout order cluster pods statuses).ownerOf.lookup s = none := by
  have hne := (planShardLayout_sound order cluster pods statuses hpods).no_empty
  obtain ⟨hsound, howners⟩ := PlanEnv.claimed_sound (e := planEnv order cluster pods statuses) hne
  have hseats := (PlanEnv.seats_claimed (planEnv order cluster pods statuses)
    (layoutNames cluster pods)).placed
  unfold ShardUnowned planShardLayout
  rw [PlanEnv.layout_ownerOf, ← Bool.not_eq_true, Greedy.taken_iff, not_exists,
    Option.eq_none_iff_forall_ne_some]
  refine forall_congr' fun name => not_congr ((hseats name s).symm.trans ?_)
  exact ⟨fun h => howners h, fun h => hsound.owner_placed h⟩

variable (hids : DistinctNodeIDs statuses)
include hids

/-- The planner lets the head of a shard without owner lead it. -/
theorem headsShard_iff (h : ShardUnowned cluster pods statuses s) {name : String} :
    HeadsShard cluster pods statuses s name ↔
      name ≠ "" ∧ (planShardLayout order cluster pods statuses).primaryOf.get s = name := by
  have hne := (planShardLayout_sound order cluster pods statuses hpods).no_empty
  have hspec := PlanEnv.fills_spec (e := planEnv order cluster pods statuses) hne
    (layoutNames_nodup cluster pods)
  have hfills : (planEnv order cluster pods statuses).fills (layoutNames cluster pods) =
      (vacantShards cluster pods statuses).zip (looseSurvivors cluster pods statuses) := by
    unfold PlanEnv.fills
    rw [hids.vacant_eq hne, hids.survivors_eq hne]
  have hplaces := PlanEnv.places_followed hne (hids.knowsNodes order cluster pods)
  have hfollowed := hplaces.primary s
  -- a shard without owner is not lent an heir
  have hprimary : (planShardLayout order cluster pods statuses).primaryOf.get s =
      ((planEnv order cluster pods statuses).filled (layoutNames cluster pods)).1.primaryOf.get
        s := by
    unfold planShardLayout
    rw [PlanEnv.layout_primaryOf]
    refine PlanEnv.borrowHeirs_frame order (Or.inr (Or.inr ?_))
    have hnone := (shardUnowned_iff order hpods).mp h
    unfold planShardLayout at hnone
    rw [PlanEnv.layout_ownerOf] at hnone
    rw [PlanEnv.filled_ownerOf]
    exact GoMap.get_of_not_mem (GoMap.lookup_eq_none.mp hnone)
  have hable : (fun p : Placement => decide (p.shard = s) && p.mayLead &&
      !(planEnv order cluster pods statuses).doomed p.pod) = ableToLead cluster s := by
    funext p
    rw [doomed_eq, Bool.not_not]
    rfl
  obtain ⟨hin, hout⟩ := PlanEnv.foldl_fill_primaryOf_get (s := s)
    (l := ((planEnv order cluster pods statuses).followed (layoutNames cluster pods)).1) hspec.nodup
  rw [hprimary, PlanEnv.filled_eq]
  dsimp only
  rw [PlanEnv.leader, hable] at hfollowed
  cases hfirst : (placements cluster pods statuses).find? (ableToLead cluster s) with
  | some p =>
    have hp : p.pod ≠ "" := hplaces.named p (List.mem_of_find?_eq_some hfirst)
    replace hfollowed := hfollowed.trans (congrArg
      (fun found : Option Placement => (found.map Placement.pod).getD "") hfirst)
    have hnot : ∀ n, (s, n) ∉ (planEnv order cluster pods statuses).fills
        (layoutNames cluster pods) := fun n hn => hp (hfollowed.symm.trans (hspec.unled _ hn))
    rw [hout (by simpa using hnot), hfollowed]
    constructor
    · rintro (⟨hfind, rfl⟩ | hmem)
      · obtain rfl := Option.some.inj (hfirst.symm.trans hfind)
        exact ⟨hp, rfl⟩
      · exact absurd (hfills ▸ hmem) (hnot name)
    · exact fun hname => .first hfirst hname.2
  | none =>
    replace hfollowed := hfollowed.trans (congrArg
      (fun found : Option Placement => (found.map Placement.pod).getD "") hfirst)
    constructor
    · rintro (⟨hfind, -⟩ | hmem)
      · rw [hfirst] at hfind
        cases hfind
      · rw [← hfills] at hmem
        have hlive := hspec.unplaced.mem name (List.mem_map.mpr ⟨_, hmem, rfl⟩)
        exact ⟨fun hno => hne (hno ▸ hlive), hin name hmem⟩
    · rintro ⟨hname, hled⟩
      by_contra hnot
      have hother : ∀ n, (s, n) ∉ (planEnv order cluster pods statuses).fills
          (layoutNames cluster pods) := by
        intro n hn
        obtain rfl := (hin n hn).symm.trans hled
        exact hnot (.filled (hfills ▸ hn))
      rw [hout (by simpa using hother), hfollowed] at hled
      exact hname hled.symm

end

/-! ## The pod that is shown -/

section

variable {order : MapOrder} {cluster : RedisCluster} {pods : List Pod}
variable {statuses : Statuses} {s : Nat} {shard : ShardStatus}

/-- The primary that is shown for a shard was polled and leads it. -/
theorem primaryPod_leads (hpods : ∀ pod ∈ pods, pod.name ≠ "")
    (hshard : (deriveClusterStatus order cluster pods statuses).2.2.lookup (shardName s) =
      some shard) (hprimary : shard.primaryPod ≠ "") : shard.primaryPod ∈ statuses ∧
      ((planShardLayout order cluster pods statuses).ownerOf.lookup s = some shard.primaryPod ∨
        ((planShardLayout order cluster pods statuses).ownerOf.lookup s = none ∧
          (planShardLayout order cluster pods statuses).primaryOf.get s = shard.primaryPod)) := by
  have hsound := planShardLayout_sound order cluster pods statuses hpods
  have hshown := shown_deriveClusterStatus order cluster pods statuses hpods
  have hget : ((statuses.pairs.foldl (addToShard (planShardLayout order cluster pods statuses))
      ∅).get (shardName s)).primaryPod = shard.primaryPod := by
    rw [← GoMap.get_of_lookup hshard, deriveClusterStatus_get]
  rcases hshown.primary s with hnone | ⟨p, hp, hpod, hplaced, hleads⟩
  · exact absurd (hget.symm.trans hnone) hprimary
  · have heq : shard.primaryPod = p.1 := hget.symm.trans hpod
    rw [heq]
    exact ⟨GoMap.mem_of_lookup (GoMap.mem_pairs.mp hp), (hsound.leads_iff hplaced).mp hleads⟩

/-- The leader of a shard is shown if it was polled. -/
theorem leader_shown (hpods : ∀ pod ∈ pods, pod.name ≠ "") {name : String}
    (hplaced : (planShardLayout order cluster pods statuses).shardOf.lookup name = some s)
    (hleads : (planShardLayout order cluster pods statuses).leads s name = true)
    (hpolled : name ∈ statuses) :
    shardName s ∈ ledNames (deriveClusterStatus order cluster pods statuses).2.2 := by
  have hsound := planShardLayout_sound order cluster pods statuses hpods
  have hshown := shown_deriveClusterStatus order cluster pods statuses hpods
  obtain ⟨st, hst⟩ := GoMap.mem_iff_lookup.mp hpolled
  have hpair := GoMap.mem_pairs.mpr hst
  have hmem := (mem_deriveClusterStatus order cluster pods statuses).mpr
    ((hshown.keys _).mpr ⟨s, rfl, _, hpair, hplaced⟩)
  obtain ⟨shard, hshard⟩ := GoMap.mem_iff_lookup.mp hmem
  refine mem_ledNames.mpr ⟨shard, hshard, ?_⟩
  have hpod := (hshown.leader s _ hpair hplaced hleads).1
  rw [← GoMap.get_of_lookup hshard, deriveClusterStatus_get]
  exact hpod.trans_ne (hsound.placed_ne_empty hplaced)

/-- Every wanted shard is counted exactly if every one is shown with a primary. -/
theorem primaryCount_iff (hpods : ∀ pod ∈ pods, pod.name ≠ "") :
    desiredShardCount cluster ≤
        primaryCount (deriveClusterStatus order cluster pods statuses).2.2 ↔
      ∀ s < desiredShardCount cluster,
        shardName s ∈ ledNames (deriveClusterStatus order cluster pods statuses).2.2 := by
  refine ⟨fun hcount s hs => primaries_complete hpods hcount hs, fun hled => ?_⟩
  have hsub : (List.range (desiredShardCount cluster)).map shardName ⊆
      ledNames (deriveClusterStatus order cluster pods statuses).2.2 := by
    intro key hkey
    obtain ⟨s, hs, rfl⟩ := List.mem_map.mp hkey
    exact hled s (List.mem_range.mp hs)
  have hle := ((List.nodup_range.map shardName_injective).subperm hsub).length_le
  rwa [List.length_map, List.length_range, length_ledNames] at hle

end

/-! ## Heads and what is shown -/

section

variable {order : MapOrder} {cluster : RedisCluster} {pods : List Pod}
variable {statuses : Statuses} {s : Nat}
variable (hpods : ∀ pod ∈ pods, pod.name ≠ "")
include hpods

variable (hids : DistinctNodeIDs statuses)
include hids

/-- A shard with an owner is shown, and so is one whose head was polled. -/
theorem shown_of_head (h : ShardUnowned cluster pods statuses s →
      ∃ name ∈ statuses, HeadsShard cluster pods statuses s name) :
    shardName s ∈ ledNames (deriveClusterStatus order cluster pods statuses).2.2 := by
  have hsound := planShardLayout_sound order cluster pods statuses hpods
  cases howner : (planShardLayout order cluster pods statuses).ownerOf.lookup s with
  | some owner =>
    have hplaced := hsound.owner_placed howner
    exact leader_shown hpods hplaced ((hsound.leads_iff hplaced).mpr (Or.inl howner))
      (mem_of_serves (hsound.owner_serves howner))
  | none =>
    have hnone := (shardUnowned_iff order hpods).mpr howner
    obtain ⟨name, hpolled, hhead⟩ := h hnone
    obtain ⟨hne, rfl⟩ := (headsShard_iff order hpods hids hnone).mp hhead
    have hplaced := hsound.primary_placed hne
    exact leader_shown hpods hplaced ((hsound.leads_iff hplaced).mpr (Or.inr ⟨howner, rfl⟩)) hpolled

variable (hsilent : SilentReportNothing statuses)
include hsilent

/-- The pod that is shown for a shard is its head, or else it is connected. -/
theorem exists_shown (hled : shardName s ∈
      ledNames (deriveClusterStatus order cluster pods statuses).2.2) :
    ∃ shard, (deriveClusterStatus order cluster pods statuses).2.2.lookup (shardName s) =
        some shard ∧ shard.primaryPod ∈ statuses ∧
      (ShardUnowned cluster pods statuses s →
        HeadsShard cluster pods statuses s shard.primaryPod) ∧
      (¬ ShardUnowned cluster pods statuses s →
        (statuses.get shard.primaryPod).connected = true) := by
  obtain ⟨shard, hshard, hprimary⟩ := mem_ledNames.mp hled
  obtain ⟨hpolled, hleads⟩ := primaryPod_leads hpods hshard hprimary
  refine ⟨shard, hshard, hpolled, fun hnone => ?_, fun howned => ?_⟩
  · refine (headsShard_iff order hpods hids hnone).mpr ⟨hprimary, ?_⟩
    rcases hleads with howner | ⟨-, hlead⟩
    · rw [(shardUnowned_iff order hpods).mp hnone] at howner
      cases howner
    · exact hlead
  · rcases hleads with howner | ⟨hnone, -⟩
    · -- an owner serves slots, which a silent pod does not report
      by_contra hlost
      refine (planShardLayout_sound order cluster pods statuses hpods).owner_serves howner ?_
      show (statuses.get shard.primaryPod).slotsServed = []
      rw [hsilent _ (by simpa using hlost)]
    · exact absurd ((shardUnowned_iff order hpods).mpr hnone) howned

/-- The shown pods are connected whenever every wanted shard shows one. -/
theorem headsReachable_iff : HeadsReachable cluster pods statuses ↔
    ((∀ s < desiredShardCount cluster, shardName s ∈
        ledNames (deriveClusterStatus order cluster pods statuses).2.2) →
      ∀ s < desiredShardCount cluster, ∃ shard, (deriveClusterStatus order cluster pods
        statuses).2.2.lookup (shardName s) = some shard ∧
          (statuses.get shard.primaryPod).connected = true) := by
  constructor
  · rintro (⟨t, ht, hnone, hlost⟩ | hall) hled s hs
    · obtain ⟨shard, -, hpolled, hhead, -⟩ := exists_shown hpods hids hsilent (hled t ht)
      exact absurd hpolled (hlost _ (hhead hnone))
    · obtain ⟨shard, hshard, -, hhead, howned⟩ := exists_shown hpods hids hsilent (hled s hs)
      refine ⟨shard, hshard, ?_⟩
      by_cases hnone : ShardUnowned cluster pods statuses s
      · exact hall s hs hnone _ (hhead hnone)
      · exact howned hnone
  · intro hreachable
    refine or_iff_not_imp_left.mpr fun hnot s hs hnone name hname => ?_
    have hled : ∀ s < desiredShardCount cluster, shardName s ∈
        ledNames (deriveClusterStatus order cluster pods statuses).2.2 := by
      refine fun s hs => shown_of_head hpods hids fun hnone => ?_
      by_contra hlost
      exact hnot ⟨s, hs, hnone, fun name hhead hpolled => hlost ⟨name, hpolled, hhead⟩⟩
    obtain ⟨shard, hshard, hconnected⟩ := hreachable hled s hs
    obtain ⟨shard', hshard', -, hhead, -⟩ := exists_shown hpods hids hsilent (hled s hs)
    obtain rfl := Option.some.inj (hshard.symm.trans hshard')
    -- a shard has one head
    rw [← ((headsShard_iff order hpods hids hnone).mp hname).2,
      ((headsShard_iff order hpods hids hnone).mp (hhead hnone)).2]
    exact hconnected

end

/-- One status update, with the maps visited in the given order. -/
theorem primariesReachable_iff {order : MapOrder} {w : World}
    {statuses : Statuses} (hmode : w.cluster.spec.mode = .cluster)
    (hshards : 3 ≤ w.cluster.spec.shards) (hpods : ∀ pod ∈ w.dataPods, pod.name ≠ "")
    (hids : DistinctNodeIDs statuses) (hsilent : SilentReportNothing statuses) :
    PrimariesReachable statuses
        { w.cluster with status := refreshedStatus order w.cluster w statuses } ↔
      HeadsReachable w.cluster w.dataPods statuses := by
  have hcount : (desiredShardCount w.cluster : Int) = w.cluster.spec.shards := by
    unfold desiredShardCount
    rw [if_neg (by omega)]
    omega
  have hreports : (refreshedStatus order w.cluster w statuses).Reports .primaryAvailable ↔
      ∀ s < desiredShardCount w.cluster, shardName s ∈
        ledNames (deriveClusterStatus order w.cluster w.dataPods statuses).2.2 := by
    rw [reports_primaryAvailable hmode, ← primaryCount_iff hpods]
    omega
  rw [headsReachable_iff hpods hids hsilent, ← hreports, ← refreshedStatus_shards hmode]
  refine imp_congr_right fun _ => forall_congr' fun s => ?_
  refine imp_congr_left ?_
  show (s : Int) < w.cluster.spec.shards ↔ _
  omega

/-- **`PrimaryAvailable` and reachable primaries.**  A completed status update
    that reports an available primary for every shard names connected pods,
    exactly if some shard without owner is headed by nobody who was polled or the
    heads of all such shards are connected. -/
theorem primaryAvailable_reachable (faulty : Cmd → Prop) (w : World)
    (statuses : Statuses) (hmode : w.cluster.spec.mode = .cluster)
    (hshards : 3 ≤ w.cluster.spec.shards) (hpods : ∀ pod ∈ w.dataPods, pod.name ≠ "")
    (hids : DistinctNodeIDs statuses) (hsilent : SilentReportNothing statuses) :
    (∀ l' w', Prog.Returns (Handles faulty) (updateStatus statuses w.cluster) w
        (.ok ((), l')) w' → PrimariesReachable statuses l') ↔
      HeadsReachable w.cluster w.dataPods statuses := by
  constructor
  · intro hall
    obtain ⟨w', hreturns⟩ := returns_updateStatus faulty .stored w statuses
    exact (primariesReachable_iff hmode hshards hpods hids hsilent).mp (hall _ w' hreturns)
  · intro hheads l' w' hreturns
    obtain ⟨order, rfl⟩ := updateStatus_returns hreturns
    exact (primariesReachable_iff hmode hshards hpods hids hsilent).mpr hheads

/-- The six pods of three shards. -/
def crossedWorld : World where
  cluster := shardedCluster 1
  pods := crossedPods

theorem crossedStatuses_ids : DistinctNodeIDs (crossedStatuses.insert "c-4" {}) :=
  distinctNodeIDs_iff.mpr (by decide +kernel)

theorem crossedStatuses_silent (lost : String) :
    SilentReportNothing (crossedStatuses.insert lost {}) := by
  have hall : ∀ name ∈ crossedStatuses.keys, (crossedStatuses.get name).connected = true := by
    decide +kernel
  intro name hname
  rw [GoMap.get_insert] at hname ⊢
  split at hname
  next heq => rw [if_pos heq]
  next hne =>
    rw [if_neg hne]
    by_cases hmem : name ∈ crossedStatuses
    · rw [hall name (GoMap.mem_keys.mpr hmem)] at hname
      cases hname
    · exact GoMap.get_of_not_mem hmem

/-- With a replica lost, the report is right: there is an owner for every shard. -/
theorem crossedWorld_reachable :
    ∃ l' w', Prog.Returns (Handles fun _ => False)
        (updateStatus (crossedStatuses.insert "c-4" {}) crossedWorld.cluster) crossedWorld
          (.ok ((), l')) w' ∧
      l'.status.Reports .primaryAvailable ∧
      ∃ shard, l'.status.shards.lookup (shardName 0) = some shard ∧
        ((crossedStatuses.insert "c-4" {}).get shard.primaryPod).connected = true := by
  obtain ⟨w', hreturns⟩ := returns_updateStatus (fun _ => False) .stored crossedWorld
    (crossedStatuses.insert "c-4" {})
  have hreports : (refreshedStatus .stored crossedWorld.cluster crossedWorld
      (crossedStatuses.insert "c-4" {})).Reports .primaryAvailable :=
    (reports_primaryAvailable rfl).mpr (by decide +kernel)
  have hheads : HeadsReachable crossedWorld.cluster crossedWorld.dataPods
      (crossedStatuses.insert "c-4" {}) := by
    have hseats : ∀ s < 3, Greedy.taken (ownerSeats crossedWorld.cluster crossedWorld.dataPods
        (crossedStatuses.insert "c-4" {})) s = true := by
      decide +kernel
    refine Or.inr fun s hs hnone => ?_
    rw [ShardUnowned, hseats s hs] at hnone
    cases hnone
  have hreachable := (primaryAvailable_reachable _ _ _ rfl (by decide) (by decide +kernel)
    crossedStatuses_ids (crossedStatuses_silent "c-4")).mpr hheads _ _ hreturns
  exact ⟨_, w', hreturns, hreports, hreachable hreports 0 (by decide)⟩

/-- With a primary lost, it is still reported as available. -/
theorem crossedWorld_unreachable :
    SilentReportNothing (crossedStatuses.insert "c-0" {}) ∧
      ∃ l' w', Prog.Returns (Handles fun _ => False)
          (updateStatus (crossedStatuses.insert "c-0" {}) crossedWorld.cluster) crossedWorld
            (.ok ((), l')) w' ∧
        l'.status.Reports .primaryAvailable ∧
        (l'.status.shards.get (shardName 0)).primaryPod = "c-0" ∧
        ((crossedStatuses.insert "c-0" {}).get "c-0").connected = false := by
  obtain ⟨w', hreturns⟩ := returns_updateStatus (fun _ => False) .stored crossedWorld
    (crossedStatuses.insert "c-0" {})
  have hreports : (refreshedStatus .stored crossedWorld.cluster crossedWorld
      (crossedStatuses.insert "c-0" {})).Reports .primaryAvailable :=
    (reports_primaryAvailable rfl).mpr (by decide +kernel)
  refine ⟨crossedStatuses_silent "c-0", _, w', hreturns, hreports, ?_, by decide +kernel⟩
  show ((refreshedStatus .stored crossedWorld.cluster crossedWorld
    (crossedStatuses.insert "c-0" {})).shards.get (shardName 0)).primaryPod = "c-0"
  rw [refreshedStatus_shards rfl]
  decide +kernel

end RedisOperator
