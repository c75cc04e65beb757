/-
  RedisOperator.Cluster.HealthyPhase

  What the phase `Healthy` tells about the expected pods.

  `determinePhase` compares how many pods were polled with how many are wanted.
  A surplus pod counts like any other, so it makes up for an expected pod that
  is missing; and in cluster mode nobody asks whether the polled pods were
  connected.  `healthy_connected_iff` says when the phase can be trusted, in
  terms of the expected pods that are missing and the surplus pods polled.
-/

import RedisOperator.Cluster.ShardStatus

namespace RedisOperator

open Lib

/-! ## Expected, missing and surplus pods -/

section

variable (cluster : RedisCluster) (statuses : Statuses)

/-- The expected pods that were not polled. -/
def missingNames : List String :=
  (expectedNames cluster).filter fun name => decide (name ∉ statuses)

/-- The polled pods that are not expected. -/
def surplusNames : List String :=
  statuses.keys.filter fun name => decide (name ∉ expectedNames cluster)

/-- Every expected pod exists and was polled as connected. -/
def ExpectedConnected (pods : List Pod) : Prop :=
  ∀ name ∈ expectedNames cluster,
    (∃ pod ∈ pods, pod.name = name) ∧ (statuses.get name).connected = true

/-- The surplus pods make up for the missing ones, in the `int32` of the comparison. -/
def SurplusCovers : Prop :=
  cluster.spec.desiredDataInstances ≤
    wrap32 (cluster.spec.desiredDataInstances.toNat - (missingNames cluster statuses).length +
      (surplusNames cluster statuses).length)

variable {cluster statuses}

theorem expectedNames_nodup : (expectedNames cluster).Nodup :=
  List.nodup_range.map (podNameForIndex_injective _)

/-- Polled and missing pods against surplus and expected ones. -/
theorem len_add_missing (cluster : RedisCluster) (statuses : Statuses) :
    statuses.len + (missingNames cluster statuses).length =
      (surplusNames cluster statuses).length + cluster.spec.desiredDataInstances.toNat := by
  have hexpected : (expectedNames cluster).length = cluster.spec.desiredDataInstances.toNat := by
    simp [expectedNames]
  -- the pods that are polled and expected, listed in two ways
  have hboth : (statuses.keys.filter fun name => !decide (name ∉ expectedNames cluster)).length =
      ((expectedNames cluster).filter fun name => !decide (name ∉ statuses)).length := by
    refine List.Perm.length_eq ((List.perm_ext_iff_of_nodup (statuses.keys_nodup.filter _)
      (expectedNames_nodup.filter _)).mpr fun name => ?_)
    simp [GoMap.mem_keys, and_comm]
  have hkeys := List.length_eq_length_filter_add (l := statuses.keys)
    fun name => decide (name ∉ expectedNames cluster)
  have hnames := List.length_eq_length_filter_add (l := expectedNames cluster)
    fun name => decide (name ∉ statuses)
  have hlen : statuses.len = statuses.keys.length := by
    rw [← GoMap.length_pairs, ← GoMap.map_fst_pairs, List.length_map]
  unfold surplusNames missingNames
  omega

theorem enoughInstances_iff :
    enoughInstances cluster statuses = true ↔ SurplusCovers cluster statuses := by
  have hcount := len_add_missing cluster statuses
  have hlen : (statuses.len : Int) = cluster.spec.desiredDataInstances.toNat -
      (missingNames cluster statuses).length + (surplusNames cluster statuses).length := by
    omega
  unfold enoughInstances SurplusCovers
  rw [decide_eq_true_iff, hlen]

end

/-! ## When the phase is `Healthy` -/

/-- Nothing that was polled speaks against a healthy cluster: in cluster mode
    nobody reports a bad state and every slot is served; otherwise everybody is
    connected and somebody is a master. -/
def NothingAmiss (cluster : RedisCluster) (statuses : Statuses) : Prop :=
  if cluster.spec.mode = .cluster then
    (∀ name st, statuses.lookup name = some st → st.clusterState = .unset ∨ st.clusterState = .ok) ∧
      ∀ slot, IsSlot slot → calculateSlotCoverage statuses slot = true
  else
    (∀ name st, statuses.lookup name = some st → st.connected = true) ∧
      ∃ name st, statuses.lookup name = some st ∧ st.role = .master

section

variable {cluster : RedisCluster} {statuses : Statuses}

/-- A bad state is never taken back. -/
theorem foldl_clusterState (pairs : List (String × InstanceStatus)) (start : ClusterState) :
    pairs.foldl (fun state p =>
        if p.2.clusterState ≠ .unset ∧ p.2.clusterState ≠ .ok then p.2.clusterState else state)
      start = .ok ↔
      start = .ok ∧ ∀ p ∈ pairs, p.2.clusterState = .unset ∨ p.2.clusterState = .ok := by
  induction pairs generalizing start with
  | nil => simp
  | cons p pairs ih =>
    rw [List.foldl_cons, ih]
    by_cases hbad : p.2.clusterState ≠ .unset ∧ p.2.clusterState ≠ .ok
    · rw [if_pos hbad]
      refine iff_of_false (fun h => hbad.2 h.1) fun h => ?_
      rcases h.2 p (List.mem_cons_self ..) with hp | hp
      · exact hbad.1 hp
      · exact hbad.2 hp
    · rw [if_neg hbad]
      have hgood : p.2.clusterState = .unset ∨ p.2.clusterState = .ok := by
        by_contra hnot
        rw [not_or] at hnot
        exact hbad hnot
      simp [hgood]

theorem deriveClusterState_ok_iff :
    deriveClusterState statuses = .ok ↔ statuses.len ≠ 0 ∧
      ∀ name st, statuses.lookup name = some st →
        st.clusterState = .unset ∨ st.clusterState = .ok := by
  unfold deriveClusterState
  rw [foldl_clusterState]
  refine and_congr ?_ ?_
  · by_cases hlen : 0 < statuses.len
    · rw [if_pos hlen]
      simp only [ne_eq, true_iff]
      omega
    · rw [if_neg hlen]
      simp only [reduceCtorEq, ne_eq, false_iff, not_not]
      omega
  · simp only [Prod.forall, GoMap.mem_pairs]

/-- A served slot has been polled from somebody. -/
theorem len_ne_zero_of_lookup {name : String} {st : InstanceStatus}
    (h : statuses.lookup name = some st) : statuses.len ≠ 0 :=
  Nat.ne_of_gt (GoMap.len_pos_iff.mpr ⟨name, GoMap.mem_of_lookup h⟩)

theorem determinePhase_cluster (status : RedisClusterStatus)
    (hmode : cluster.spec.mode = .cluster) :
    determinePhase { cluster with status := status } statuses = .healthy ↔ statuses.len ≠ 0 ∧
      status.clusterState = .ok ∧ status.slotsAssigned = 16384 ∧
        enoughInstances cluster statuses = true := by
  have henough : enoughInstances { cluster with status := status } statuses
      = enoughInstances cluster statuses := rfl
  unfold determinePhase
  dsimp only
  rw [henough]
  by_cases hlen : statuses.len = 0
  · simp [hlen]
  · rw [if_neg hlen, if_pos hmode]
    split
    · rename_i hall
      simp [hlen, hall]
    · rename_i hnot
      split <;> simp [hnot]

theorem determinePhase_standalone (status : RedisClusterStatus)
    (hmode : cluster.spec.mode ≠ .cluster) (hreplica : isReplicaModeEnabled cluster = false) :
    determinePhase { cluster with status := status } statuses = .healthy ↔
      (∃ name st, statuses.lookup name = some st ∧ st.role = .master) ∧
      (∀ name st, statuses.lookup name = some st → st.connected = true) ∧
        enoughInstances cluster statuses = true := by
  have hmaster : (statuses.pairs.any fun p => p.2.role == .master) = true ↔
      ∃ name st, statuses.lookup name = some st ∧ st.role = .master := by
    simp [List.any_eq_true, GoMap.mem_pairs]
  have hconnected : (statuses.pairs.all fun p => p.2.connected) = true ↔
      ∀ name st, statuses.lookup name = some st → st.connected = true := by
    simp [List.all_eq_true, GoMap.mem_pairs]
  have henough : enoughInstances { cluster with status := status } statuses
      = enoughInstances cluster statuses := rfl
  have hoff : isReplicaModeEnabled { cluster with status := status } = false := hreplica
  unfold determinePhase
  dsimp only
  rw [← hmaster, ← hconnected, if_neg hmode, hoff, henough]
  by_cases hlen : statuses.len = 0
  · have hnil : statuses.pairs = [] := List.eq_nil_of_length_eq_zero
      ((GoMap.length_pairs statuses).trans hlen)
    simp [hlen, hnil]
  · rw [if_neg hlen, if_neg (by decide)]
    by_cases hany : (statuses.pairs.any fun p => p.2.role == .master) = true
    · rw [if_neg (by simpa using hany)]
      split
      · rename_i hall
        simp [hany, hall]
      · rename_i hnot
        simp only [reduceCtorEq, false_iff]
        exact fun h => hnot h.2
    · rw [if_pos (by simpa using hany)]
      refine iff_of_false ?_ fun h => hany h.1
      split <;> decide

/-- The phase a completed status update leaves. -/
theorem refreshedStatus_healthy_iff {order : MapOrder} {w : World}
    (hreplica : isReplicaModeEnabled cluster = false)
    (hpods : ∀ pod ∈ w.dataPods, pod.name ≠ "")
    (hkeys : ∀ name ∈ statuses, ∃ pod ∈ w.dataPods, pod.name = name) :
    (refreshedStatus order cluster w statuses).phase = .healthy ↔
      NothingAmiss cluster statuses ∧ SurplusCovers cluster statuses := by
  unfold NothingAmiss
  by_cases hmode : cluster.spec.mode = .cluster
  · rw [refreshedStatus_sharded hmode, if_pos hmode]
    have hphase : (withSummary cluster (shardedStatus order cluster w statuses) statuses
        w.clock).phase = determinePhase
          { cluster with status := shardedStatus order cluster w statuses } statuses := rfl
    have hslots : (shardedStatus order cluster w statuses).slotsAssigned = 16384 ↔
        ∀ slot, IsSlot slot → calculateSlotCoverage statuses slot = true := by
      rw [← coveredSlots_eq_iff, ← deriveSlotsAssigned_eq order cluster hpods hkeys]
      exact Nat.cast_inj
    have hstate : (shardedStatus order cluster w statuses).clusterState = .ok ↔
        statuses.len ≠ 0 ∧ ∀ name st, statuses.lookup name = some st →
          st.clusterState = .unset ∨ st.clusterState = .ok := deriveClusterState_ok_iff
    rw [hphase, determinePhase_cluster _ hmode, hstate, hslots, ← enoughInstances_iff]
    constructor
    · rintro ⟨-, ⟨-, hgood⟩, hcovered, henough⟩
      exact ⟨⟨hgood, hcovered⟩, henough⟩
    · rintro ⟨⟨hgood, hcovered⟩, henough⟩
      -- some pod serves slot 0, so the poll was not empty
      obtain ⟨-, name, st, hst, -⟩ := calculateSlotCoverage_iff.mp (hcovered 0 (by decide))
      have hlen := len_ne_zero_of_lookup hst
      exact ⟨hlen, ⟨hlen, hgood⟩, hcovered, henough⟩
  · rw [if_neg hmode]
    have hphase : ∃ status, (refreshedStatus order cluster w statuses).phase =
        determinePhase { cluster with status := status } statuses := ⟨_, rfl⟩
    obtain ⟨status, hphase⟩ := hphase
    rw [hphase, determinePhase_standalone _ hmode hreplica, ← enoughInstances_iff]
    constructor
    · rintro ⟨hmaster, hconnected, henough⟩
      exact ⟨⟨hconnected, hmaster⟩, henough⟩
    · rintro ⟨⟨hconnected, hmaster⟩, henough⟩
      exact ⟨hmaster, hconnected, henough⟩

end

/-! ## When the phase can be trusted -/

/-- An expected pod is missing from the poll, or was polled as not connected. -/
def ExpectedLost (cluster : RedisCluster) (statuses : Statuses) : Prop :=
  missingNames cluster statuses ≠ [] ∨
    ∃ name ∈ expectedNames cluster, ∃ st, statuses.lookup name = some st ∧ st.connected = false

theorem expectedConnected_iff {cluster : RedisCluster} {statuses : Statuses}
    {pods : List Pod} (hkeys : ∀ name ∈ statuses, ∃ pod ∈ pods, pod.name = name) :
    ExpectedConnected cluster statuses pods ↔ ¬ ExpectedLost cluster statuses := by
  constructor
  · rintro hall (hmissing | ⟨name, hname, st, hst, hlost⟩)
    · obtain ⟨name, hname⟩ := List.exists_mem_of_ne_nil _ hmissing
      obtain ⟨hexpected, hnot⟩ := List.mem_filter.mp hname
      have hconnected := (hall name hexpected).2
      rw [GoMap.get_of_not_mem (of_decide_eq_true hnot)] at hconnected
      cases hconnected
    · have hconnected := (hall name hname).2
      rw [GoMap.get_of_lookup hst, hlost] at hconnected
      cases hconnected
  · intro hnot name hname
    have hpolled : name ∈ statuses := by
      by_contra habsent
      refine hnot (Or.inl (List.ne_nil_of_mem (a := name) ?_))
      exact List.mem_filter.mpr ⟨hname, decide_eq_true habsent⟩
    obtain ⟨st, hst⟩ := GoMap.mem_iff_lookup.mp hpolled
    refine ⟨hkeys name hpolled, ?_⟩
    rw [GoMap.get_of_lookup hst]
    by_contra hlost
    exact hnot (Or.inr ⟨name, hname, st, hst, by simpa using hlost⟩)

/-- **Healthy means all instances are connected**: a status update that reports
    `Healthy` can be trusted, exactly if it is not the case that an expected pod
    is lost while nothing polled speaks against it and the surplus pods make up
    for the missing ones. -/
theorem healthy_connected_iff (faulty : Cmd → Prop) (w : World)
    (statuses : Statuses) (hreplica : isReplicaModeEnabled w.cluster = false)
    (hpods : ∀ pod ∈ w.dataPods, pod.name ≠ "")
    (hkeys : ∀ name ∈ statuses, ∃ pod ∈ w.dataPods, pod.name = name) :
    (∀ l' w', Prog.Returns (Handles faulty) (updateStatus statuses w.cluster) w (.ok ((), l')) w' →
        l'.status.phase = .healthy → ExpectedConnected w.cluster statuses w.dataPods) ↔
      ¬ (ExpectedLost w.cluster statuses ∧ NothingAmiss w.cluster statuses ∧
        SurplusCovers w.cluster statuses) := by
  rw [expectedConnected_iff hkeys]
  constructor
  · rintro h ⟨hlost, hfine⟩
    obtain ⟨w', hreturns⟩ := returns_updateStatus faulty .stored w statuses
    exact h _ w' hreturns ((refreshedStatus_healthy_iff hreplica hpods hkeys).mpr hfine) hlost
  · intro h l' w' hreturns hphase hlost
    obtain ⟨order, rfl⟩ := updateStatus_returns hreturns
    exact h ⟨hlost, (refreshedStatus_healthy_iff hreplica hpods hkeys).mp hphase⟩

/-- A replicated cluster of three with the pods of the given ordinals. -/
def trioWorld (ordinals : List Nat) : World where
  cluster := { name := "c", spec := { instances := 3 } }
  pods := ordinals.map fun i => namedPod (podNameForIndex "c" i)

/-- `c-0` is the master, everybody is connected. -/
def trioStatuses (ordinals : List Nat) : Statuses :=
  ordinals.foldl (fun m i => m.insert (podNameForIndex "c" i)
    { role := if i = 0 then .master else .slave, connected := true }) ∅

theorem trioStatuses_keys {ordinals : List Nat}
    (h : ∀ name ∈ (trioStatuses ordinals).keys,
      ∃ pod ∈ (trioWorld ordinals).dataPods, pod.name = name) :
    ∀ name ∈ trioStatuses ordinals, ∃ pod ∈ (trioWorld ordinals).dataPods, pod.name = name :=
  fun name hname => h name (GoMap.mem_keys.mpr hname)

/-- With the three pods that are wanted, `Healthy` is what it says. -/
theorem trioWorld_connected :
    ∃ l' w', Prog.Returns (Handles fun _ => False)
        (updateStatus (trioStatuses [0, 1, 2]) (trioWorld [0, 1, 2]).cluster) (trioWorld [0, 1, 2])
        (.ok ((), l')) w' ∧
      l'.status.phase = .healthy ∧
      ExpectedConnected (trioWorld [0, 1, 2]).cluster (trioStatuses [0, 1, 2])
        (trioWorld [0, 1, 2]).dataPods := by
  obtain ⟨w', hreturns⟩ := returns_updateStatus (fun _ => False) .stored (trioWorld [0, 1, 2])
    (trioStatuses [0, 1, 2])
  have hphase : (refreshedStatus .stored (trioWorld [0, 1, 2]).cluster (trioWorld [0, 1, 2])
      (trioStatuses [0, 1, 2])).phase = .healthy := by decide +kernel
  have hnone : missingNames (trioWorld [0, 1, 2]).cluster (trioStatuses [0, 1, 2]) = [] := by
    decide +kernel
  have hconnected : ∀ p ∈ (trioStatuses [0, 1, 2]).pairs, p.2.connected = true := by decide +kernel
  refine ⟨_, w', hreturns, hphase, (healthy_connected_iff _ _ _ rfl (by decide +kernel)
    (trioStatuses_keys (by decide +kernel))).mpr ?_ _ w' hreturns hphase⟩
  rintro ⟨hmissing | ⟨name, -, st, hst, hlost⟩, -⟩
  · exact hmissing hnone
  · rw [hconnected (name, st) (GoMap.mem_pairs.mpr hst)] at hlost
    cases hlost

/-- `c-3` is left from a larger cluster and stands in for `c-2`, which is gone. -/
theorem trioWorld_gap :
    ∃ l' w', Prog.Returns (Handles fun _ => False)
        (updateStatus (trioStatuses [0, 1, 3]) (trioWorld [0, 1, 3]).cluster) (trioWorld [0, 1, 3])
        (.ok ((), l')) w' ∧
      l'.status.phase = .healthy ∧
      "c-2" ∈ expectedNames (trioWorld [0, 1, 3]).cluster ∧
      ∀ pod ∈ (trioWorld [0, 1, 3]).dataPods, pod.name ≠ "c-2" := by
  obtain ⟨w', hreturns⟩ := returns_updateStatus (fun _ => False) .stored (trioWorld [0, 1, 3])
    (trioStatuses [0, 1, 3])
  exact ⟨_, w', hreturns, by decide +kernel, by decide +kernel, by decide +kernel⟩

end RedisOperator
