/-
  RedisOperator.Cluster.PodCount

  How many pods a sharded cluster is given.  Schema and webhook bound shards
  and replicas from below only, and the product of the two is one of `int32`s:
  where it does not fit, the operator works with another number than the one
  the spec asks for, and scales down to it.
-/

import RedisOperator.Cluster.LayoutFacts
import RedisOperator.Cluster.Simulation
import RedisOperator.Cluster.WorkloadSpecs
import RedisOperator.Webhook.Validator

namespace RedisOperator

open Lib Act

/-! ## What is scaled away -/

/-- The pods carry ordinals of the cluster, each once. -/
structure OwnOrdinals (cluster : RedisCluster) (pods : List Pod) : Prop where
  named : ∀ pod ∈ pods, ∃ index, ValidOrdinal index ∧ pod.name = podNameForIndex cluster.name index
  distinct : (pods.map Pod.name).Nodup

/-- The request deletes no pod with an ordinal below `bound`. -/
def SparesOrdinals (clusterName : String) (bound : Int) : Cmd → Prop
  | .deletePod name _ => bound ≤ podIndex clusterName name
  | _ => True

section

variable {cluster : RedisCluster} {pods : List Pod}

/-- Highest ordinal first: the ordinals decrease. -/
theorem OwnOrdinals.decreasing (h : OwnOrdinals cluster pods) :
    ((pods.insertionSort fun a b : Pod =>
      podIndex cluster.name b.name ≤ podIndex cluster.name a.name).map fun pod =>
        (podIndex cluster.name pod.name).toNat).Pairwise (· > ·) := by
  have htotal : Std.Total fun a b : Pod =>
      podIndex cluster.name b.name ≤ podIndex cluster.name a.name :=
    ⟨fun a b => Int.le_total _ _⟩
  have htrans : IsTrans Pod fun a b =>
      podIndex cluster.name b.name ≤ podIndex cluster.name a.name :=
    ⟨fun a b c hab hbc => Int.le_trans hbc hab⟩
  have hsorted := List.pairwise_insertionSort
    (fun a b : Pod => podIndex cluster.name b.name ≤ podIndex cluster.name a.name) pods
  have hperm := List.perm_insertionSort
    (fun a b : Pod => podIndex cluster.name b.name ≤ podIndex cluster.name a.name) pods
  have hnodup := ((hperm.map Pod.name).nodup_iff.mpr h.distinct)
  rw [List.pairwise_map]
  refine ((List.pairwise_map.mp hnodup).and hsorted).imp_of_mem ?_
  rintro a b ha hb ⟨hne, hle⟩
  obtain ⟨i, hi, hai⟩ := h.named a (hperm.mem_iff.mp ha)
  obtain ⟨j, hj, hbj⟩ := h.named b (hperm.mem_iff.mp hb)
  rw [hai, hbj] at hle hne ⊢
  rw [podIndex_podNameForIndex hi, podIndex_podNameForIndex hj] at hle ⊢
  have hij : i ≠ j := fun heq => hne (by rw [heq])
  omega

/-- The pods above the desired count have the ordinals above it. -/
theorem OwnOrdinals.scaleDownPods (h : OwnOrdinals cluster pods)
    (hdesired : 0 ≤ cluster.spec.desiredDataInstances) {pod : Pod}
    (hpod : pod ∈ scaleDownPods cluster pods) :
    cluster.spec.desiredDataInstances ≤ podIndex cluster.name pod.name := by
  obtain ⟨d, hd⟩ := Int.eq_ofNat_of_zero_le hdesired
  unfold RedisOperator.scaleDownPods at hpod
  have hmem : (podIndex cluster.name pod.name).toNat ∈
      ((pods.insertionSort fun a b : Pod =>
        podIndex cluster.name b.name ≤ podIndex cluster.name a.name).map fun pod =>
          (podIndex cluster.name pod.name).toNat).take (pods.length - d) := by
    rw [← List.map_take]
    refine List.mem_map_of_mem ?_
    rwa [hd, show ((pods.length : Int) - (d : Int)).toNat = pods.length - d by omega] at hpod
  have hlength : pods.length = ((pods.insertionSort fun a b : Pod =>
      podIndex cluster.name b.name ≤ podIndex cluster.name a.name).map fun pod =>
        (podIndex cluster.name pod.name).toNat).length := by simp
  rw [hlength] at hmem
  have hle := le_of_mem_take_decreasing h.decreasing hmem
  obtain ⟨index, hindex, hname⟩ :=
    h.named pod ((List.perm_insertionSort _ pods).mem_iff.mp (List.mem_of_mem_take hpod))
  rw [hname, podIndex_podNameForIndex hindex] at hle ⊢
  omega

end

section

variable {faulty : Cmd → Prop} {w : World} {l : RedisCluster} {r : ClusterReconciler}
variable {statuses : Statuses}

/-- Pods with an ordinal below the desired count are not deleted. -/
theorem safe_reconcilePods_sparesOrdinals (h : OwnOrdinals l w.dataPods)
    (hdesired : 0 ≤ l.spec.desiredDataInstances) :
    Safe faulty (fun _ => SparesOrdinals l.name l.spec.desiredDataInstances)
      (reconcilePods r statuses) (fun _ _ _ => True) l w := by
  have hlocal : ∀ {α : Type} {x : Op α} {Q : Outcome α} {w' : World},
      KeepsLocal (SparesOrdinals l.name l.spec.desiredDataInstances) x →
      (∀ a w', Q a l w') → Safe faulty
        (fun _ => SparesOrdinals l.name l.spec.desiredDataInstances) x Q l w' :=
    fun hx hQ => hx.wp (J := fun _ => True) (fun _ _ _ hc => hc) (fun _ _ _ _ _ _ _ => trivial)
      trivial (fun a w' _ => hQ a w') fun _ _ _ => trivial
  have hinitial : Only (SparesOrdinals l.name l.spec.desiredDataInstances)
      setInitialPrimary :=
    Only.get.bind fun _ => only_doWhen fun _ => only_wrap (only_patchStatus fun _ _ => trivial)
  have hdown : ∀ w', Safe faulty
      (fun _ => SparesOrdinals l.name l.spec.desiredDataInstances)
      (scaleDown w.dataPods) (fun _ _ _ => True) l w' := by
    intro w'
    unfold scaleDown
    rw [safe_bind, safe_get, safe_bind]
    refine wp_post (wp_forEach (fun l' _ => l' = l) ?_ rfl) ?_
    · rintro pod hpod _ w'' rfl
      unfold scaleDownPod
      rw [wp_bind, wp_get]
      refine wp_ite.mpr ⟨fun _ => wp_context.mpr ?_, fun _ => rfl⟩
      exact safe_deletePod (h.scaleDownPods hdesired hpod) fun _ => rfl
    · rintro _ _ w'' rfl
      exact wp_ite.mpr ⟨fun _ => trivial, fun _ => trivial⟩
  unfold reconcilePods
  rw [safe_bind, safe_wrap, safe_listDataPods]
  refine ⟨trivial, ?_⟩
  rw [safe_bind, safe_get, safe_bind]
  refine hlocal (local_podLayout trivial _ _ _) fun layout w₁ => ?_
  rw [safe_bind]
  refine hlocal (KeepsLocal.forEach fun index => local_ensurePod (fun _ => trivial)
    (fun _ => trivial) (fun _ _ => trivial) (fun _ => trivial) r layout index) fun _ w₂ => ?_
  rw [safe_bind, safe_doWhen]
  refine ⟨fun _ => safe_mono (hdown w₂) ?_, fun _ => ?_⟩
  · exact fun _ _ _ _ => safe_of_only hinitial fun _ _ hc => hc
  · exact safe_of_only hinitial fun _ _ hc => hc

end

/-! ## The count of an admitted spec -/

/-- What `DesiredDataInstances` computes is an `int32`. -/
theorem desiredDataInstances_lt {spec : RedisClusterSpec} (hmode : spec.mode = .cluster) :
    spec.desiredDataInstances < 2 ^ 31 := by
  unfold RedisClusterSpec.desiredDataInstances wrap32
  rw [hmode]
  exact Int.lt_of_lt_of_le (Int.bmod_lt (by decide)) (by decide)

theorem validOrdinal_of_lt {spec : RedisClusterSpec} (hmode : spec.mode = .cluster) {i : Nat}
    (hi : i < spec.desiredDataInstances.toNat) : ValidOrdinal i := by
  have hfits := desiredDataInstances_lt hmode
  unfold ValidOrdinal maxInt
  omega

theorem OwnOrdinals.ordinal {cluster : RedisCluster} {pods : List Pod}
    (h : OwnOrdinals cluster pods) (hmode : cluster.spec.mode = .cluster) {name : String}
    (hname : name ∈ layoutNames cluster pods) :
    ∃ i, ValidOrdinal i ∧ name = podNameForIndex cluster.name i := by
  rcases mem_layoutNames.mp hname with ⟨i, hi, rfl⟩ | ⟨pod, hpod, rfl⟩
  · exact ⟨i, validOrdinal_of_lt hmode hi, rfl⟩
  · exact h.named pod hpod

/-- Lowest ordinal first: the planner's names are in strict ordinal order. -/
theorem OwnOrdinals.increasing {cluster : RedisCluster} {pods : List Pod}
    (h : OwnOrdinals cluster pods) (hmode : cluster.spec.mode = .cluster) :
    (layoutNames cluster pods).Pairwise fun a b =>
      podIndex cluster.name a < podIndex cluster.name b := by
  have htotal : Std.Total fun a b : String =>
      podIndex cluster.name a ≤ podIndex cluster.name b := ⟨fun a b => Int.le_total _ _⟩
  have htrans : IsTrans String fun a b =>
      podIndex cluster.name a ≤ podIndex cluster.name b :=
    ⟨fun a b c hab hbc => Int.le_trans hab hbc⟩
  have hsorted : (layoutNames cluster pods).Pairwise fun a b =>
      podIndex cluster.name a ≤ podIndex cluster.name b :=
    List.pairwise_insertionSort (fun a b : String =>
      podIndex cluster.name a ≤ podIndex cluster.name b) _
  refine ((layoutNames_nodup cluster pods).and hsorted).imp_of_mem ?_
  rintro a b ha hb ⟨hne, hle⟩
  obtain ⟨i, hi, rfl⟩ := h.ordinal hmode ha
  obtain ⟨j, hj, rfl⟩ := h.ordinal hmode hb
  rw [podIndex_podNameForIndex hi, podIndex_podNameForIndex hj] at hle ⊢
  have hij : i ≠ j := fun heq => hne (by rw [heq])
  omega

/-- **The pod count.**  For an admitted spec in cluster mode the operator works
    with the number of pods that the spec asks for, and `reconcilePods` deletes
    none of them: exactly if that number fits an `int32`. -/
theorem podCount_iff (v : RedisClusterValidator) (cluster : RedisCluster)
    (hadmitted : Admitted v cluster) (hmode : cluster.spec.mode = .cluster) :
    (cluster.spec.desiredDataInstances =
        cluster.spec.shards * (1 + cluster.spec.replicasPerShard) ∧
      cluster.spec.shards ≤ cluster.spec.desiredDataInstances ∧
      ∀ (faulty : Cmd → Prop) (r : ClusterReconciler) (statuses : Statuses)
        (w w' : World) (c : Cmd), OwnOrdinals cluster w.dataPods →
        Prog.Issues (Handles faulty) (reconcilePods r statuses cluster) w w' c →
        SparesOrdinals cluster.name (cluster.spec.shards * (1 + cluster.spec.replicasPerShard)) c) ↔
      cluster.spec.shards * (1 + cluster.spec.replicasPerShard) < 2 ^ 31 := by
  constructor
  · rintro ⟨hcount, -, -⟩
    rw [← hcount]
    exact desiredDataInstances_lt hmode
  · intro hfits
    have hshards := (hadmitted.cluster_mode hmode).1
    have hreplicas := hadmitted.schema.replicasPerShard.1
    have hle : cluster.spec.shards * 1 ≤
        cluster.spec.shards * (1 + cluster.spec.replicasPerShard) :=
      Int.mul_le_mul_of_nonneg_left (by omega) (by omega)
    have hcount := RedisClusterSpec.desiredDataInstances_eq hmode (by omega) hreplicas hfits
    refine ⟨hcount, by omega, fun faulty r statuses w w' c hown hissued => ?_⟩
    rw [← hcount]
    exact (Prog.wp_iff.mp (safe_reconcilePods_sparesOrdinals hown (by omega))).1 _ _ hissued

/-- Cluster `c` with three shards of `1 + replicas` pods. -/
def shardedCluster (replicas : Int) : RedisCluster where
  name := "c"
  spec :=
    { mode := .cluster, instances := 0, shards := 3, replicasPerShard := replicas,
      storageType := .emptyDir }

/-- One replica per shard makes six pods. -/
theorem podCount_six :
    Admitted bareWebhook (shardedCluster 1) ∧ (shardedCluster 1).spec.desiredDataInstances = 6 := by
  have hadmitted : Admitted bareWebhook (shardedCluster 1) := ⟨by decide, by decide +kernel⟩
  exact ⟨hadmitted, ((podCount_iff bareWebhook _ hadmitted rfl).mpr (by decide)).1⟩

/-- A data pod with nothing but its name. -/
def namedPod (name : String) : Pod where
  name := name
  labels := (∅ : GoMap String String).insert labelWorkload labelWorkloadData

/-- Three pods of a cluster that asks for `3 * 1431655766` of them. -/
def wrappingWorld : World where
  cluster := shardedCluster 1431655765
  pods := [namedPod "c-0", namedPod "c-1", namedPod "c-2"]

/-- The request deletes `c-2`. -/
def deletesThird : World × Cmd → Bool
  | (_, .deletePod name why) => name == "c-2" && why == .scaleDown
  | _ => false

theorem eq_of_deletesThird {w : World} {c : Cmd} (h : deletesThird (w, c) = true) :
    c = .deletePod "c-2" .scaleDown := by
  unfold deletesThird at h
  split at h
  next heq =>
    obtain ⟨-, rfl⟩ := Prod.mk.inj heq
    simp only [Bool.and_eq_true, beq_iff_eq] at h
    rw [h.1, h.2]
  · cases h

/-- The product is `2 ^ 32 + 2`: the spec is admitted, the operator wants two
    pods, fewer than there are shards, and deletes the third. -/
theorem podCount_wraps :
    Admitted bareWebhook wrappingWorld.cluster ∧
      OwnOrdinals wrappingWorld.cluster wrappingWorld.dataPods ∧
      wrappingWorld.cluster.spec.desiredDataInstances = 2 ∧
      ∃ w, Prog.Issues (Handles fun _ => False)
        (reconcilePods anyTemplate ∅ wrappingWorld.cluster)
        wrappingWorld w (.deletePod "c-2" .scaleDown) := by
  refine ⟨⟨by decide, by decide +kernel⟩, ⟨?_, by decide +kernel⟩, by decide, ?_⟩
  · have hdata : wrappingWorld.dataPods =
      [0, 1, 2].map fun i => namedPod (podNameForIndex "c" i) := by
      decide +kernel
    rw [hdata]
    rintro _ hpod
    obtain ⟨i, hi, rfl⟩ := List.mem_map.mp hpod
    exact ⟨i, (by decide : ∀ i ∈ [0, 1, 2], ValidOrdinal i) i hi, rfl⟩
  · have hany : (Prog.trace World.answer (reconcilePods anyTemplate ∅ wrappingWorld.cluster)
        wrappingWorld).any deletesThird = true := by decide +kernel
    obtain ⟨⟨w, c⟩, hmem, hthird⟩ := List.any_eq_true.mp hany
    obtain rfl := eq_of_deletesThird hthird
    exact ⟨w, Prog.issues_of_mem_trace (World.handles_answer _) hmem⟩

end RedisOperator
