/-
  RedisOperator.Cluster.Disruption

  `pdb.go`: the PodDisruptionBudget, and what it lets an eviction do.  The
  budget counts the healthy pods of its selector, and its selector is the
  cluster's label, which sentinel pods carry as well; in cluster mode the
  budget is computed from the shards and not from the pods.

  `reconcilePDB` talks to the API server about one object, so it gets requests
  of its own.
-/

import RedisOperator.Cluster.Simulation

namespace RedisOperator

open Lib Act

/-! ## The budget and its requests -/

/-- `policyv1.PodDisruptionBudget`: `minAvailable` and the labels it selects by. -/
structure PodDisruptionBudget where
  labels : GoMap String String
  minAvailable : Option Int
  matchLabels : GoMap String String

/-- Requests about `<name>-pdb`. -/
inductive PdbCmd
  | get
  | create (pdb : PodDisruptionBudget)
  | patch (before after : PodDisruptionBudget)
  | delete

/-- Their answers. -/
abbrev PdbReply : PdbCmd → Type
  | .get => Api PodDisruptionBudget
  | _ => Api Unit

/-- An action over them, for one cluster. -/
abbrev PdbOp (α : Type) : Type := Act RedisCluster String PdbCmd PdbReply α

/-- Issue a request. -/
def askPdb (c : PdbCmd) : PdbOp (PdbReply c) := Act.request c

/-- Return the error of an answer. -/
def pdbDone : Api Unit → PdbOp Unit
  | .ok _ => pure ()
  | .error err => Act.fail err.message

/-- `pdbMinAvailable`: `max(1, instances-1)`, in `int32`. -/
def pdbMinAvailable (instances : Int) : Int :=
  let min := wrap32 (instances - 1)
  if min < 1 then 1 else min

/-- The `minAvailable` of a cluster. -/
def desiredMinAvailable (spec : RedisClusterSpec) : Int :=
  if spec.mode = .cluster then pdbMinAvailable spec.shards
  else pdbMinAvailable spec.desiredDataInstances

/-- The budget `reconcilePDB` creates. -/
def desiredPDB (cluster : RedisCluster) : PodDisruptionBudget where
  labels := (∅ : GoMap String String).insert labelCluster cluster.name
  minAvailable := some (desiredMinAvailable cluster.spec)
  matchLabels := (∅ : GoMap String String).insert labelCluster cluster.name

/-- `deletePDB`. -/
def deletePDB : PdbOp Unit := do
  match ← askPdb .get with
  | .error err => if err.reason = .notFound then pure () else Act.fail err.message
  | .ok _ => pdbDone (← askPdb .delete)

/-- `reconcilePDB`. -/
def reconcilePDB : PdbOp Unit := do
  let cluster ← Act.get
  if isMaintenanceInProgress cluster = true then deletePDB
  else if cluster.spec.enablePodDisruptionBudget = some false then deletePDB
  else do
    match ← askPdb .get with
    | .error err =>
      if err.reason = .notFound then pdbDone (← askPdb (.create (desiredPDB cluster)))
      else Act.fail ("getting PDB: " ++ err.message)
    | .ok existing =>
      -- an existing budget keeps its selector
      if existing.minAvailable ≠ some (desiredMinAvailable cluster.spec) then
        pdbDone (← askPdb (.patch existing
          { existing with minAvailable := some (desiredMinAvailable cluster.spec) }))
      else pure ()

/-- How the API server answers them. -/
def PdbAnswers (stored : Option PodDisruptionBudget) :
    (c : PdbCmd) → PdbReply c → Option PodDisruptionBudget → Prop
  | .get, r, stored' => r = found "poddisruptionbudgets" "pdb" stored ∧ stored' = stored
  | .create pdb, r, stored' =>
    match stored with
    | some _ => r = .error (alreadyThere "poddisruptionbudgets" "pdb") ∧ stored' = stored
    | none => r = .ok () ∧ stored' = some pdb
  | .patch _ after, r, stored' =>
    match stored with
    | none => r = found "poddisruptionbudgets" "pdb" none ∧ stored' = none
    | some pdb => r = .ok () ∧ stored' = some { pdb with minAvailable := after.minAvailable }
  | .delete, r, stored' =>
    match stored with
    | none => r = found "poddisruptionbudgets" "pdb" none ∧ stored' = none
    | some _ => r = .ok () ∧ stored' = none

/-- A request may also fail, carried out or not. -/
def PdbHandles : Prog.Handler PdbCmd PdbReply (Option PodDisruptionBudget) :=
  fun stored c r stored' => PdbAnswers stored c r stored' ∨
    ((match c, r with
      | .get, r => ∃ message, r = .error ⟨.other, message⟩
      | .create _, r | .patch .., r | .delete, r => ∃ message, r = .error ⟨.other, message⟩) ∧
      (stored' = stored ∨ ∃ answer, PdbAnswers stored c answer stored'))

/-! ## What is stored -/

/-- The budget selects the pods of the cluster. -/
def SelectsCluster (clusterName : String) (stored : Option PodDisruptionBudget) : Prop :=
  ∀ pdb ∈ stored, pdb.matchLabels = (∅ : GoMap String String).insert labelCluster clusterName

/-- Requests that create no budget with another selector. -/
def PdbCmd.Selects (clusterName : String) : PdbCmd → Prop
  | .create pdb => pdb.matchLabels = (∅ : GoMap String String).insert labelCluster clusterName
  | _ => True

section

variable {cluster : RedisCluster} {stored stored' : Option PodDisruptionBudget}

theorem SelectsCluster.step {clusterName : String} {c : PdbCmd} {r : PdbReply c}
    (h : SelectsCluster clusterName stored) (hc : c.Selects clusterName)
    (hr : PdbHandles stored c r stored') : SelectsCluster clusterName stored' := by
  have hanswers : ∀ answer, PdbAnswers stored c answer stored' →
      SelectsCluster clusterName stored' := by
    intro answer ha
    cases c with
    | get => rw [ha.2]; exact h
    | create pdb =>
      cases stored with
      | none =>
        rintro _ hpdb
        rw [ha.2] at hpdb
        cases hpdb
        exact hc
      | some old => rw [ha.2]; exact h
    | patch before after =>
      cases stored with
      | none => rw [ha.2]; exact h
      | some old =>
        rintro _ hpdb
        rw [ha.2] at hpdb
        cases hpdb
        exact h old rfl
    | delete =>
      cases stored with
      | none => rw [ha.2]; exact h
      | some old =>
        rintro _ hpdb
        rw [ha.2] at hpdb
        cases hpdb
  rcases hr with ha | ⟨-, rfl | ⟨answer, ha⟩⟩
  · exact hanswers r ha
  · exact h
  · exact hanswers answer ha

/-- The last request of a call. -/
theorem wp_pdbDone {P : Option PodDisruptionBudget → PdbCmd → Prop} {answer : Api Unit}
    {Q : Unit → RedisCluster → Option PodDisruptionBudget → Prop}
    (h : answer = .ok () → Q () cluster stored) :
    wp PdbHandles P (pdbDone answer) Q (fun _ _ => True) cluster stored := by
  cases answer with
  | error err => trivial
  | ok done => exact h rfl

theorem wp_deletePDB {P : Option PodDisruptionBudget → PdbCmd → Prop}
    (hget : ∀ s, P s .get) (hdelete : ∀ s, P s .delete) :
    wp PdbHandles P deletePDB (fun _ _ _ => True) (fun _ _ => True) cluster stored := by
  unfold deletePDB
  rw [wp_bind]
  refine ⟨hget _, fun answer s₁ _ => ?_⟩
  cases answer with
  | error err => exact wp_ite.mpr ⟨fun _ => trivial, fun _ => trivial⟩
  | ok pdb =>
    show wp _ _ (askPdb .delete >>= pdbDone) _ _ cluster s₁
    rw [wp_bind]
    exact ⟨hdelete _, fun answer s₂ _ => wp_pdbDone fun _ => trivial⟩

/-- A call only ever creates a budget for its cluster. -/
theorem wp_reconcilePDB_selects :
    wp PdbHandles (fun _ => PdbCmd.Selects cluster.name) reconcilePDB (fun _ _ _ => True)
      (fun _ _ => True) cluster stored := by
  unfold reconcilePDB
  rw [wp_bind, wp_get]
  refine wp_ite.mpr ⟨fun _ => wp_deletePDB (fun _ => trivial) fun _ => trivial, fun _ =>
    wp_ite.mpr ⟨fun _ => wp_deletePDB (fun _ => trivial) fun _ => trivial, fun _ => ?_⟩⟩
  rw [wp_bind]
  refine ⟨trivial, fun answer s₁ _ => ?_⟩
  cases answer with
  | error err =>
    refine wp_ite.mpr ⟨fun _ => ?_, fun _ => trivial⟩
    rw [wp_bind]
    exact ⟨rfl, fun answer s₂ _ => wp_pdbDone fun _ => trivial⟩
  | ok existing =>
    refine wp_ite.mpr ⟨fun _ => ?_, fun _ => trivial⟩
    rw [wp_bind]
    exact ⟨trivial, fun answer s₂ _ => wp_pdbDone fun _ => trivial⟩

/-- A call that returns without an error has stored what its spec asks for. -/
theorem wp_reconcilePDB_stored (hmaintenance : isMaintenanceInProgress cluster = false)
    (henabled : cluster.spec.enablePodDisruptionBudget ≠ some false) :
    wp PdbHandles (fun _ _ => True) reconcilePDB
      (fun _ _ stored' => ∃ pdb, stored' = some pdb ∧
        pdb.minAvailable = some (desiredMinAvailable cluster.spec))
      (fun _ _ => True) cluster stored := by
  have hok : ∀ {answer : Api Unit}, answer = .ok () → ∀ {φ : Prop},
      (∃ message, answer = .error ⟨.other, message⟩) → φ := by
    rintro _ rfl φ ⟨message, hno⟩
    cases hno
  unfold reconcilePDB
  rw [wp_bind, wp_get, if_neg (by rw [hmaintenance]; decide), if_neg henabled, wp_bind]
  refine ⟨trivial, fun answer s₁ hr => ?_⟩
  cases answer with
  | error err =>
    refine wp_ite.mpr ⟨fun hnone => ?_, fun _ => trivial⟩
    -- not found, so there is none
    have hs₁ : s₁ = none := by
      rcases hr with ⟨hfound, rfl⟩ | ⟨⟨message, hother⟩, -⟩
      · cases s₁ with
        | none => rfl
        | some pdb => cases hfound
      · cases hother
        exact absurd hnone (by decide : ApiReason.other ≠ ApiReason.notFound)
    subst hs₁
    rw [wp_bind]
    refine ⟨trivial, fun answer s₂ hcreate => wp_pdbDone fun hdone => ?_⟩
    rcases hcreate with ⟨-, rfl⟩ | ⟨hfails, -⟩
    · exact ⟨_, rfl, rfl⟩
    · exact hok hdone hfails
  | ok existing =>
    have hs₁ : s₁ = some existing := by
      rcases hr with ⟨hfound, rfl⟩ | ⟨⟨message, hother⟩, -⟩
      · cases s₁ with
        | none => cases hfound
        | some pdb =>
          cases hfound
          rfl
      · cases hother
    subst hs₁
    refine wp_ite.mpr ⟨fun _ => ?_, fun hsame => ⟨existing, rfl, not_not.mp hsame⟩⟩
    rw [wp_bind]
    refine ⟨trivial, fun answer s₂ hpatch => wp_pdbDone fun hdone => ?_⟩
    rcases hpatch with ⟨-, rfl⟩ | ⟨hfails, -⟩
    · exact ⟨_, rfl, rfl⟩
    · exact hok hdone hfails

end

/-- A call for the cluster may leave `stored'`, whether it fails or not. -/
def PdbLeads (cluster : RedisCluster) (stored stored' : Option PodDisruptionBudget) : Prop :=
  ∃ result, Prog.Returns PdbHandles (reconcilePDB cluster) stored result stored'

/-- Calls for clusters of one name, from a namespace without a budget. -/
def PdbReached (clusterName : String) : Option PodDisruptionBudget → Prop :=
  Relation.ReflTransGen
    (fun stored stored' => ∃ cluster, cluster.name = clusterName ∧ PdbLeads cluster stored stored')
    none

theorem PdbReached.selects {clusterName : String} {stored : Option PodDisruptionBudget}
    (h : PdbReached clusterName stored) : SelectsCluster clusterName stored := by
  induction h with
  | refl =>
    rintro _ hnone
    cases hnone
  | tail _ hstep ih =>
    obtain ⟨cluster, rfl, result, hreturns⟩ := hstep
    have hkeeps := wp_invariant (fun _ _ _ _ hs hc hr => hs.step hc hr)
      wp_reconcilePDB_selects ih
    have hend := (Prog.wp_iff.mp hkeeps).2 result _ hreturns
    cases result <;> exact hend

/-! ## Evictions -/

/-- The budget counts the pod. -/
def PodDisruptionBudget.selects (pdb : PodDisruptionBudget) (pod : Pod) : Bool :=
  pdb.matchLabels.pairs.all fun label => decide (pod.labels.lookup label.1 = some label.2)

/-- Of the healthy pods, `evicted` may be evicted together: enough of those the
    budget counts are left. -/
def PodDisruptionBudget.grants (pdb : PodDisruptionBudget) (healthy evicted : List Pod) : Prop :=
  pdb.minAvailable.getD 0 ≤
    ((healthy.filter pdb.selects).length : Int) - (evicted.filter pdb.selects).length

instance (pdb : PodDisruptionBudget) (healthy evicted : List Pod) :
    Decidable (pdb.grants healthy evicted) := inferInstanceAs (Decidable (_ ≤ _))

/-- The data pods of a cluster, as `reconcilePods` makes them. -/
def madeDataPods (r : ClusterReconciler) (cluster : RedisCluster) (layout : ShardLayout) :
    List Pod :=
  (List.range cluster.spec.desiredDataInstances.toNat).map fun index =>
    newDataPod r cluster (podNameForIndex cluster.name index) index
      (dataPodLabels cluster layout index) none

/-- A sentinel pod, as `createSentinelPod` makes it. -/
def madeSentinelPod (cluster : RedisCluster) (podName : String) : Pod where
  name := podName
  labels := podLabels cluster.name podName labelRoleSentinel
  controlled := true

/-- Whatever happens to the sentinel pods, no two data pods are evicted together. -/
def OneDataPod (pdb : PodDisruptionBudget) (data sentinels : List Pod) : Prop :=
  ∀ evicted, evicted.Sublist data → 2 ≤ evicted.length →
    ∀ up, up.Sublist sentinels → ¬ pdb.grants (data ++ up) evicted

section

variable {r : ClusterReconciler} {cluster : RedisCluster} {layout : ShardLayout}
variable {pdb : PodDisruptionBudget}

theorem selects_iff
    (h : pdb.matchLabels = (∅ : GoMap String String).insert labelCluster cluster.name)
    (pod : Pod) : pdb.selects pod = true ↔ pod.labels.lookup labelCluster = some cluster.name := by
  unfold PodDisruptionBudget.selects
  rw [h]
  show ([(labelCluster, cluster.name)].all _) = true ↔ _
  simp

/-- The budget counts every data pod. -/
theorem selects_madeDataPod
    (h : pdb.matchLabels = (∅ : GoMap String String).insert labelCluster cluster.name) :
    ∀ pod ∈ madeDataPods r cluster layout, pdb.selects pod = true := by
  intro pod hpod
  obtain ⟨index, -, rfl⟩ := List.mem_map.mp hpod
  rw [selects_iff h]
  exact dataPodLabels_lookup (by decide) (by decide)

/-- It counts every sentinel pod. -/
theorem selects_madeSentinelPod
    (h : pdb.matchLabels = (∅ : GoMap String String).insert labelCluster cluster.name)
    (names : List String) :
    ∀ pod ∈ names.map (madeSentinelPod cluster), pdb.selects pod = true := by
  intro pod hpod
  obtain ⟨name, -, rfl⟩ := List.mem_map.mp hpod
  rw [selects_iff h]
  rfl

/-- With every pod counted it is numbers that decide, and two data pods are the
    fewest. -/
theorem oneDataPod_iff {data sentinels : List Pod} (hdata : ∀ pod ∈ data, pdb.selects pod = true)
    (hsentinels : ∀ pod ∈ sentinels, pdb.selects pod = true) :
    OneDataPod pdb data sentinels ↔
      data.length < 2 ∨ (data.length : Int) + sentinels.length < pdb.minAvailable.getD 0 + 2 := by
  have hcount : ∀ evicted up : List Pod, evicted.Sublist data → up.Sublist sentinels →
      (pdb.grants (data ++ up) evicted ↔
        pdb.minAvailable.getD 0 ≤ (data.length : Int) + up.length - evicted.length) := by
    intro evicted up hevicted hup
    unfold PodDisruptionBudget.grants
    rw [List.filter_eq_self.mpr (fun pod hpod => hdata pod (hevicted.subset hpod)),
      List.filter_append, List.filter_eq_self.mpr hdata,
      List.filter_eq_self.mpr (fun pod hpod => hsentinels pod (hup.subset hpod)),
      List.length_append, Int.natCast_add]
  constructor
  · intro h
    by_cases hfew : data.length < 2
    · exact Or.inl hfew
    · have htwo : (data.take 2).length = 2 := by
        rw [List.length_take]
        omega
      have hno := h (data.take 2) (List.take_sublist _ _) (by omega) sentinels (List.Sublist.refl _)
      rw [hcount _ _ (List.take_sublist _ _) (List.Sublist.refl _), htwo] at hno
      exact Or.inr (by omega)
  · rintro h evicted hevicted htwo up hup hgrants
    rw [hcount evicted up hevicted hup] at hgrants
    have hsub := hevicted.length_le
    have hsub' := hup.length_le
    omega

/-- The numbers, mode by mode. -/
theorem desiredMinAvailable_bound {spec : RedisClusterSpec} (hschema : spec.instances < 2 ^ 31)
    (hshards : spec.mode = .cluster → 3 ≤ spec.shards ∧ spec.shards < 2 ^ 31) (s : Nat) :
    (spec.desiredDataInstances.toNat < 2 ∨
        (spec.desiredDataInstances.toNat : Int) + s < desiredMinAvailable spec + 2) ↔
      spec.desiredDataInstances < 2 ∨
        if spec.mode = .cluster then spec.desiredDataInstances + s ≤ spec.shards else s = 0 := by
  have hmin : ∀ k : Int, 2 ≤ k → k < 2 ^ 31 → pdbMinAvailable k = k - 1 := by
    intro k hk hlt
    unfold pdbMinAvailable
    dsimp only
    rw [wrap32_of_lt (by omega) (by omega), if_neg (by omega)]
  by_cases hmode : spec.mode = .cluster
  · obtain ⟨h3, hlt⟩ := hshards hmode
    have hm : desiredMinAvailable spec = spec.shards - 1 := by
      unfold desiredMinAvailable
      rw [if_pos hmode, hmin _ (by omega) hlt]
    rw [hm, if_pos hmode]
    omega
  · have hd : spec.desiredDataInstances = spec.instances := by
      unfold RedisClusterSpec.desiredDataInstances
      rw [if_pos hmode]
    rw [if_neg hmode, hd]
    by_cases hfew : spec.instances < 2
    · omega
    · have hm : desiredMinAvailable spec = spec.instances - 1 := by
        unfold desiredMinAvailable
        rw [if_neg hmode, hd, hmin _ (by omega) hschema]
      rw [hm]
      omega

end

/-- **The disruption budget.**  Under the budget that an error-free call of
    `reconcilePDB` leaves, no two data pods can be evicted together: exactly if
    there are fewer than two, or if the cluster has no sentinel pods and, in
    cluster mode, no more data pods than shards. -/
theorem budget_one_data_pod_iff (r : ClusterReconciler) (layout : ShardLayout)
    (cluster : RedisCluster) (sentinels : List String)
    (before after : Option PodDisruptionBudget) (done : Unit × RedisCluster)
    (hinstances : cluster.spec.instances < 2 ^ 31)
    (hshards : cluster.spec.mode = .cluster → 3 ≤ cluster.spec.shards ∧
      cluster.spec.shards < 2 ^ 31)
    (hmaintenance : isMaintenanceInProgress cluster = false)
    (henabled : cluster.spec.enablePodDisruptionBudget ≠ some false)
    (hbefore : PdbReached cluster.name before)
    (hcall : Prog.Returns PdbHandles (reconcilePDB cluster) before (.ok done) after) :
    ∃ pdb, after = some pdb ∧
      (OneDataPod pdb (madeDataPods r cluster layout) (sentinels.map (madeSentinelPod cluster)) ↔
        cluster.spec.desiredDataInstances < 2 ∨
          if cluster.spec.mode = .cluster then
            cluster.spec.desiredDataInstances + sentinels.length ≤ cluster.spec.shards
          else sentinels = []) := by
  have hstored := (Prog.wp_iff.mp (wp_reconcilePDB_stored hmaintenance henabled)).2 _ _ hcall
  obtain ⟨pdb, rfl, hmin⟩ := hstored
  have hreached : PdbReached cluster.name (some pdb) := hbefore.tail ⟨cluster, rfl, _, hcall⟩
  have hselects := hreached.selects pdb rfl
  refine ⟨pdb, rfl, ?_⟩
  rw [oneDataPod_iff (selects_madeDataPod hselects) (selects_madeSentinelPod hselects _), hmin]
  have hbound := desiredMinAvailable_bound hinstances hshards sentinels.length
  rw [List.length_eq_zero_iff] at hbound
  rw [← hbound]
  simp [madeDataPods]

/-- Where there is no budget yet, a call creates the one of its spec. -/
theorem reconcilePDB_creates {cluster : RedisCluster}
    (hmaintenance : isMaintenanceInProgress cluster = false)
    (henabled : cluster.spec.enablePodDisruptionBudget ≠ some false) :
    Prog.Returns PdbHandles (reconcilePDB cluster) none (.ok ((), cluster))
      (some (desiredPDB cluster)) := by
  unfold reconcilePDB
  show Prog.Returns _ ((if _ then _ else _ : PdbOp Unit) cluster) _ _ _
  rw [if_neg (by rw [hmaintenance]; decide), if_neg henabled]
  have hget : PdbHandles none .get (found "poddisruptionbudgets" "pdb" none) none :=
    Or.inl ⟨rfl, rfl⟩
  have hcreate : PdbHandles none (.create (desiredPDB cluster)) (.ok ())
      (some (desiredPDB cluster)) :=
    Or.inl ⟨rfl, rfl⟩
  exact .call hget (.call hcreate .pure)

/-- Three instances without sentinels are safe. -/
theorem budget_one_data_pod_standalone :
    ∃ pdb, some (desiredPDB { name := "c", spec := { instances := 3 } }) = some pdb ∧
      OneDataPod pdb (madeDataPods anyTemplate { name := "c", spec := { instances := 3 } } {})
        [] := by
  obtain ⟨pdb, hpdb, hiff⟩ := budget_one_data_pod_iff anyTemplate {}
    { name := "c", spec := { instances := 3 } } [] none _ _ (by decide) (fun h => (nomatch h)) rfl
    (by decide) .refl (reconcilePDB_creates rfl (by decide))
  exact ⟨pdb, hpdb, hiff.mpr (Or.inr rfl)⟩

/-- Cluster `c` in sentinel mode. -/
def sentinelModeCluster : RedisCluster :=
  { name := "c", spec := { mode := .sentinel, instances := 3 } }

/-- Cluster `c` with three shards of a primary and a replica. -/
def threeShards : RedisCluster :=
  { name := "c", spec := { mode := .cluster, shards := 3, replicasPerShard := 1 } }

/-- With three sentinel pods beside them, two of three data pods may be evicted
    together; and of three shards with a replica each, all pods of a shard. -/
theorem budget_two_data_pods :
    (Prog.Returns PdbHandles (reconcilePDB sentinelModeCluster) none (.ok ((), sentinelModeCluster))
        (some (desiredPDB sentinelModeCluster)) ∧
      (desiredPDB sentinelModeCluster).grants
        (madeDataPods anyTemplate sentinelModeCluster {} ++
          ["c-sentinel-0", "c-sentinel-1", "c-sentinel-2"].map
          (madeSentinelPod sentinelModeCluster))
        ((madeDataPods anyTemplate sentinelModeCluster {}).take 2) ∧
      ((madeDataPods anyTemplate sentinelModeCluster {}).take 2).map Pod.name = ["c-0", "c-1"]) ∧
    Prog.Returns PdbHandles (reconcilePDB threeShards) none (.ok ((), threeShards))
        (some (desiredPDB threeShards)) ∧
      (desiredPDB threeShards).grants (madeDataPods anyTemplate threeShards {})
        ((madeDataPods anyTemplate threeShards {}).take 4) ∧
      ((madeDataPods anyTemplate threeShards {}).take 4).map Pod.name =
        ["c-0", "c-1", "c-2", "c-3"] :=
  ⟨⟨reconcilePDB_creates rfl (by decide), by decide +kernel, by decide +kernel⟩,
    reconcilePDB_creates rfl (by decide), by decide +kernel, by decide +kernel⟩

end RedisOperator
