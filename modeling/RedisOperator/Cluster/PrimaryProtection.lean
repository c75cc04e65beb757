/-
  RedisOperator.Cluster.PrimaryProtection

  When a restart of pods reaches a primary: the rolling update of a cluster
  whose primary updates wait for approval, and the restart for a volume
  resize.  Both look at the pods of a sharded cluster in their own way.  In a
  rolling update it is the turn of the highest shard with an outdated pod
  (`HasTurn`), and what is done there depends on its members (`dueUpdate`).
-/

import RedisOperator.Cluster.Footprints
import RedisOperator.Cluster.Simulation

namespace RedisOperator

open Lib

/-! ## Whose turn it is -/

/-- The pod is not made from the desired template. -/
def Outdated (desiredHash : String) (pod : Pod) : Prop := getPodSpecHash pod ≠ desiredHash

/-- A pod that the shard's status names, as it is listed. -/
def Listed (pods : List Pod) (shard : ShardStatus) (pod : Pod) : Prop :=
  ∃ name ∈ shard.primaryPod :: shard.replicaPods, (podsByName pods).lookup name = some pod

/-- Some pod of the shard is outdated. -/
def ShardOutdated (pods : List Pod) (desiredHash : String) (shard : ShardStatus) : Prop :=
  ∃ pod, Listed pods shard pod ∧ Outdated desiredHash pod

/-- Of the shards below the bound that have an outdated pod, the one of the
    highest index. -/
structure HasTurn (cluster : RedisCluster) (pods : List Pod) (desiredHash : String) (bound : Nat)
    (index : Nat) (shard : ShardStatus) : Prop where
  index_lt : index < bound
  status : cluster.status.shards.lookup (shardName index) = some shard
  outdated : ShardOutdated pods desiredHash shard
  above : ∀ j other, index < j → j < bound →
    cluster.status.shards.lookup (shardName j) = some other → ¬ ShardOutdated pods desiredHash other

/-- The listed replicas of a shard, highest ordinal first. -/
def shardReplicas (cluster : RedisCluster) (pods : List Pod) (shard : ShardStatus) : List Pod :=
  (shardMembers cluster.name (podsByName pods) shard).2

/-- What is done in a shard with an outdated pod. -/
def dueUpdate (cluster : RedisCluster) (pods : List Pod) (desiredHash : String)
    (shard : ShardStatus) : Op Unit :=
  match (shardReplicas cluster pods shard).find? fun pod => getPodSpecHash pod != desiredHash with
  | some replica =>
    wrap ("deleting shard replica " ++ replica.name ++ " for update")
      (deletePod replica.name .rollingUpdate)
  | none =>
    match (shardMembers cluster.name (podsByName pods) shard).1 with
    | none => pure ()
    | some primary => updateShardPrimary primary (shardReplicas cluster pods shard)

section

variable {pods : List Pod} {desiredHash : String} {shard : ShardStatus}

/-- The primary among a shard's members is the pod the status names. -/
theorem shardMembers_primary {clusterName : String} {byName : GoMap String Pod} {primary : Pod}
    (h : (shardMembers clusterName byName shard).1 = some primary) :
    primary.name = shard.primaryPod := by
  have hmem := List.mem_of_getLast? h
  simpa using (List.mem_filter.mp hmem).2

theorem listed_iff (cluster : RedisCluster) {pod : Pod} :
    Listed pods shard pod ↔ pod ∈ shardReplicas cluster pods shard ∨
      (shardMembers cluster.name (podsByName pods) shard).1 = some pod := by
  have hlisted : ∀ {p}, p ∈ (shard.primaryPod :: shard.replicaPods).filterMap
      (podsByName pods).lookup ↔ Listed pods shard p := List.mem_filterMap
  have hreplica : pod ∈ shardReplicas cluster pods shard ↔
      Listed pods shard pod ∧ pod.name ≠ shard.primaryPod := by
    simp only [shardReplicas, shardMembers, sortDescending, List.mem_insertionSort,
      List.mem_filter, hlisted, bne_iff_ne]
  constructor
  · intro h
    by_cases hname : pod.name = shard.primaryPod
    · right
      -- the primary's name finds one pod
      have hfound : ∀ {p}, Listed pods shard p → (podsByName pods).lookup p.name = some p := by
        rintro p ⟨name, -, hname⟩
        rw [(podsByName_lookup hname).2, hname]
      have hmem : pod ∈ ((shard.primaryPod :: shard.replicaPods).filterMap
          (podsByName pods).lookup).filter fun p => p.name == shard.primaryPod :=
        List.mem_filter.mpr ⟨hlisted.mpr h, beq_iff_eq.mpr hname⟩
      obtain ⟨primary, hlast⟩ : ∃ primary,
          (shardMembers cluster.name (podsByName pods) shard).1 = some primary :=
        ⟨_, List.getLast?_eq_some_getLast (List.ne_nil_of_mem hmem)⟩
      have hsame := hfound (hlisted.mp (List.mem_filter.mp (List.mem_of_getLast? hlast)).1)
      rw [shardMembers_primary hlast, ← hname, hfound h] at hsame
      exact hlast.trans hsame.symm
    · exact Or.inl (hreplica.mpr ⟨h, hname⟩)
  · rintro (h | h)
    · exact (hreplica.mp h).1
    · exact hlisted.mp (List.mem_filter.mp (List.mem_of_getLast? h)).1

theorem find?_outdated_eq_none {replicas : List Pod} :
    replicas.find? (fun pod => getPodSpecHash pod != desiredHash) = none ↔
      ∀ pod ∈ replicas, ¬ Outdated desiredHash pod := by
  simp only [List.find?_eq_none, bne_iff_ne, Outdated]

/-- A replica is outdated, or else the primary. -/
theorem shardOutdated_iff (cluster : RedisCluster) : ShardOutdated pods desiredHash shard ↔
    (shardReplicas cluster pods shard).find? (fun pod => getPodSpecHash pod != desiredHash) ≠ none ∨
      ∃ primary, (shardMembers cluster.name (podsByName pods) shard).1 = some primary ∧
        Outdated desiredHash primary := by
  simp only [ShardOutdated, listed_iff cluster, or_and_right, exists_or, ne_eq,
    find?_outdated_eq_none, not_forall, not_not, exists_prop]

variable {faulty : Cmd → Prop} {P : World → Cmd → Prop} {l : RedisCluster} {w : World}

/-- One index of the loop. -/
theorem safe_updateShard {u : Unit} {index : Nat} {Q : Outcome (Unit ⊕ Bool)}
    (hshard : l.status.shards.lookup (shardName index) = some shard) :
    Safe faulty P (updateShard (podsByName pods) desiredHash u index) Q l w ↔
      (ShardOutdated pods desiredHash shard →
        Safe faulty P (dueUpdate l pods desiredHash shard) (fun _ => Q (.inr true)) l w) ∧
      (¬ ShardOutdated pods desiredHash shard → Q (.inl ()) l w) := by
  unfold updateShard dueUpdate
  rw [safe_bind, safe_get, hshard, shardOutdated_iff l]
  unfold shardReplicas
  dsimp only
  cases (shardMembers l.name (podsByName pods) shard).2.find? fun pod =>
      getPodSpecHash pod != desiredHash with
  | some replica =>
    simp only [ne_eq, reduceCtorEq, not_false_eq_true, true_or, true_implies, not_true_eq_false,
      false_implies, and_true]
    exact safe_bind
  | none =>
    cases (shardMembers l.name (podsByName pods) shard).1 with
    | none => simp [safe_pure]
    | some primary =>
      by_cases hhash : getPodSpecHash primary = desiredHash
      · simp [hhash, Outdated, safe_pure]
      · simp [hhash, Outdated, safe_bind, safe_pure]

/-- The loop does what is due in the shard whose turn it is. -/
theorem safe_updateShards (bound : Nat) :
    Safe faulty P (Act.loop (updateShard (podsByName pods) desiredHash) ()
        (List.range bound).reverse) (fun _ _ _ => True) l w ↔
      ∀ index shard, HasTurn l pods desiredHash bound index shard →
        Safe faulty P (dueUpdate l pods desiredHash shard) (fun _ _ _ => True) l w := by
  induction bound with
  | zero => exact iff_of_true (Act.wp_loop_nil.mpr trivial) fun index _ h =>
      absurd h.index_lt (by omega)
  | succ n ih =>
    rw [List.range_succ, List.reverse_append, List.reverse_singleton, List.singleton_append,
      safe_loop_cons]
    by_cases hturn : ∃ shard, l.status.shards.lookup (shardName n) = some shard ∧
        ShardOutdated pods desiredHash shard
    · obtain ⟨shard, hshard, hold⟩ := hturn
      rw [safe_updateShard hshard, and_iff_left fun hno => absurd hold hno, imp_iff_right hold]
      constructor
      · intro hsafe index other h
        obtain rfl : index = n := by
          by_contra hne
          have := h.index_lt
          exact h.above n shard (by omega) (by omega) hshard hold
        obtain rfl := Option.some.inj (h.status.symm.trans hshard)
        exact hsafe
      · intro hall
        refine hall n shard ⟨n.lt_succ_self, hshard, hold, fun j _ hj hlt => ?_⟩
        omega
    · have hsame : ∀ index shard, HasTurn l pods desiredHash (n + 1) index shard ↔
          HasTurn l pods desiredHash n index shard := by
        refine fun index shard => ⟨fun h => ?_, fun h => ?_⟩
        · have hne : index ≠ n := fun hno => hturn ⟨shard, hno ▸ h.status, h.outdated⟩
          have := h.index_lt
          exact ⟨by omega, h.status, h.outdated,
            fun j other hj hlt => h.above j other hj (by omega)⟩
        · have := h.index_lt
          refine ⟨by omega, h.status, h.outdated, fun j other hj hlt hother hold => ?_⟩
          rcases (by omega : j < n ∨ j = n) with hlt | rfl
          · exact h.above j other hj hlt hother hold
          · exact hturn ⟨other, hother, hold⟩
      simp only [hsame]
      rw [← ih]
      cases hshard : l.status.shards.lookup (shardName n) with
      | none =>
        unfold updateShard
        rw [safe_bind, safe_get, hshard]
        exact safe_pure
      | some shard =>
        have hno : ¬ ShardOutdated pods desiredHash shard := fun hold => hturn ⟨shard, hshard, hold⟩
        rw [safe_updateShard hshard, and_iff_right fun hold => absurd hold hno, imp_iff_right hno]
        exact Iff.rfl

/-- `rollingUpdateClusterMode` does what is due in the shard whose turn it is. -/
theorem safe_rollingUpdateClusterMode (hlist : P w .listPods) :
    Safe faulty P (rollingUpdateClusterMode desiredHash) (fun _ _ _ => True) l w ↔
      ∀ index shard, HasTurn l w.dataPods desiredHash l.spec.shards.toNat index shard →
        Safe faulty P (dueUpdate l w.dataPods desiredHash shard) (fun _ _ _ => True) l w := by
  rw [← safe_updateShards]
  unfold rollingUpdateClusterMode
  simp only [safe_bind, safe_get, safe_wrap, safe_listDataPods, and_iff_right hlist]
  refine ⟨fun h => safe_mono h fun _ _ _ _ => trivial, fun h => safe_mono h fun r _ _ _ => ?_⟩
  cases r <;> exact trivial

end

/-! ## Supervised updates -/

/-- The pod is the current primary or, in cluster mode, the primary of a shard. -/
def IsPrimary (cluster : RedisCluster) (name : String) : Prop :=
  name = cluster.status.currentPrimary ∨
    (cluster.spec.mode = .cluster ∧
      ∃ key shard, cluster.status.shards.lookup key = some shard ∧ shard.primaryPod = name)

/-- The request deletes no primary, fences none and asks no other instance to
    take a primary's place. -/
def SparesPrimaries (cluster : RedisCluster) : Cmd → Prop
  | .deletePod name _ => ¬ IsPrimary cluster name
  | .patchCluster before after _ =>
    ∀ name, IsPrimary cluster name → name ∈ getFencedPods after → name ∈ getFencedPods before
  | .post _ .promote => False
  | _ => True

section

variable {faulty : Cmd → Prop} {l : RedisCluster} {w : World} {desiredHash : String}

/-- A fence can always be set. -/
theorem canReturn_setFence (podName : String) :
    CanReturn faulty (setFence podName) (fun _ _ _ => True) l w := by
  have hset : ∀ l w, CanReturn faulty
      (Act.get >>= fun current : RedisCluster =>
        doWhen (podName ∉ getFencedPods current)
          (setFencedPods (getFencedPods current ++ [podName])))
      (fun _ _ _ => True) l w := by
    intro l w
    rw [canReturn_bind, canReturn_get, canReturn_doWhen]
    by_cases hfenced : podName ∈ getFencedPods l
    · exact Or.inr ⟨not_not.mpr hfenced, trivial⟩
    · refine Or.inl ⟨hfenced, ?_⟩
      unfold setFencedPods
      rw [canReturn_bind, canReturn_get]
      exact canReturn_patchCluster trivial
  unfold setFence
  rw [canReturn_bind, canReturn_get, canReturn_bind, canReturn_doWhen]
  by_cases howner : (clusterHandoverPods l).1 = podName
  · refine Or.inl ⟨howner, ?_⟩
    rw [canReturn_wrap]
    exact canReturn_patchCluster (hset _ _)
  · exact Or.inr ⟨howner, hset _ _⟩

/-- Outside cluster mode the approval is waited for. -/
theorem safe_rollingUpdateReplicated (hmode : l.spec.mode ≠ .cluster)
    (hsupervised : l.spec.primaryUpdateStrategy = .supervised)
    (hpending : isPrimaryUpdateApproved l = false) :
    Safe faulty (fun _ => SparesPrimaries l) (rollingUpdateReplicated desiredHash)
      (fun _ _ _ => True) l w := by
  unfold rollingUpdateReplicated
  rw [safe_bind, safe_get, safe_bind, safe_wrap, safe_listDataPods]
  refine ⟨trivial, ?_⟩
  dsimp only
  cases hfind : (splitPrimary l w.dataPods).2.find? fun replica =>
      getPodSpecHash replica != desiredHash with
  | some replica =>
    -- the replicas are the pods with another name
    have hmem : replica ∈ w.dataPods.filter fun pod => pod.name != l.status.currentPrimary :=
      (List.perm_insertionSort _ _).mem_iff.mp (List.mem_of_find?_eq_some hfind)
    have hname : replica.name ≠ l.status.currentPrimary := by
      simpa using (List.mem_filter.mp hmem).2
    simp only [safe_bind, safe_wrap]
    refine safe_deletePod ?_ fun _ => trivial
    rintro (heq | ⟨hcluster, -⟩)
    · exact hname heq
    · exact hmode hcluster
  | none =>
    cases (splitPrimary l w.dataPods).1 with
    | none => trivial
    | some primary =>
      simp only [safe_ite, safe_pure, implies_true, true_and]
      intro _
      unfold updatePrimary
      rw [safe_bind, safe_get, safe_ite]
      refine ⟨fun _ => ?_, fun hgo => absurd ⟨by simp [hsupervised], hpending⟩ hgo⟩
      exact safe_of_only (only_pauseForPrimaryApproval trivial fun _ _ => trivial)
        fun _ _ h => h

/-- No primary is touched by what is due in the shard: its outdated replica of
    the highest ordinal is nobody's primary, and if only the primary is outdated,
    the replica that would take over has no address yet. -/
structure LeavesPrimaries (cluster : RedisCluster) (pods : List Pod) (desiredHash : String)
    (shard : ShardStatus) : Prop where
  replica : ∀ pod, (shardReplicas cluster pods shard).find?
    (fun pod => getPodSpecHash pod != desiredHash) = some pod → ¬ IsPrimary cluster pod.name
  candidate : (∀ pod ∈ shardReplicas cluster pods shard, ¬ Outdated desiredHash pod) →
    ∃ pod, (shardReplicas cluster pods shard).head? = some pod ∧ pod.podIP = ""

/-- What is due is harmless exactly when it touches no primary. -/
theorem safe_dueUpdate_iff {pods : List Pod} {shard : ShardStatus} {key : String}
    (hmode : l.spec.mode = .cluster) (hshard : l.status.shards.lookup key = some shard)
    (hold : ShardOutdated pods desiredHash shard) :
    Safe faulty (fun _ => SparesPrimaries l) (dueUpdate l pods desiredHash shard)
      (fun _ _ _ => True) l w ↔ LeavesPrimaries l pods desiredHash shard := by
  rw [shardOutdated_iff l] at hold
  unfold dueUpdate
  cases hfind : (shardReplicas l pods shard).find? fun pod => getPodSpecHash pod != desiredHash with
  | some replica =>
    dsimp only
    rw [safe_wrap]
    constructor
    · refine fun hsafe => ⟨fun pod hpod => ?_, fun hall => ?_⟩
      · obtain rfl := Option.some.inj (hfind.symm.trans hpod)
        exact hsafe.1
      · rw [find?_outdated_eq_none.mpr hall] at hfind
        cases hfind
    · exact fun hleaves => safe_deletePod (hleaves.replica replica hfind) fun _ => trivial
  | none =>
    obtain ⟨primary, hprimary, -⟩ := hold.resolve_left fun hno => hno hfind
    have hleaves : LeavesPrimaries l pods desiredHash shard ↔
        ∃ pod, (shardReplicas l pods shard).head? = some pod ∧ pod.podIP = "" := by
      refine ⟨fun h => h.candidate (find?_outdated_eq_none.mp hfind), fun h => ⟨?_, fun _ => h⟩⟩
      intro pod hpod
      rw [hfind] at hpod
      cases hpod
    rw [hleaves, hprimary]
    dsimp only
    cases shardReplicas l pods shard with
    | nil =>
      rw [updateShardPrimary, safe_wrap]
      refine iff_of_false (fun hsafe => hsafe.1 (Or.inr ⟨hmode, key, shard, hshard, ?_⟩)) (by simp)
      exact (shardMembers_primary hprimary).symm
    | cons candidate _ =>
      rw [updateShardPrimary, safe_ite]
      by_cases haddress : candidate.podIP = ""
      · exact iff_of_true ⟨fun _ => trivial, fun hno => absurd haddress hno⟩ ⟨_, rfl, haddress⟩
      · refine iff_of_false (fun hsafe => ?_) (by simp [haddress])
        have hfailover := hsafe.2 haddress
        rw [shardFailover, safe_bind, safe_wrap] at hfailover
        -- whatever the fence does, the promotion comes next
        obtain ⟨_, _, _, -, hpromote⟩ :=
          Act.exists_return (canReturn_setFence primary.name) hfailover
        rw [safe_bind, safe_wrap] at hpromote
        exact hpromote.1

/-- The strategy is supervised, and the update of a primary is not approved. -/
structure Unapproved (cluster : RedisCluster) : Prop where
  supervised : cluster.spec.primaryUpdateStrategy = .supervised
  pending : isPrimaryUpdateApproved cluster = false

/-- One call without approval. -/
theorem safe_rollingUpdate_iff (h : Unapproved l) :
    Safe faulty (fun _ => SparesPrimaries l) (rollingUpdate desiredHash) (fun _ _ _ => True) l w ↔
      l.spec.mode ≠ .cluster ∨ ∀ index shard,
        HasTurn l w.dataPods desiredHash l.spec.shards.toNat index shard →
          LeavesPrimaries l w.dataPods desiredHash shard := by
  unfold rollingUpdate
  rw [safe_bind, safe_get, safe_ite]
  by_cases hmode : l.spec.mode = .cluster
  · rw [or_iff_right (not_not.mpr hmode), and_iff_left fun hno => absurd hmode hno,
      imp_iff_right hmode, safe_rollingUpdateClusterMode trivial]
    exact forall₃_congr fun index shard hturn =>
      safe_dueUpdate_iff hmode hturn.status hturn.outdated
  · refine ⟨fun _ => Or.inl hmode, fun _ => ⟨fun h => absurd h hmode, fun _ => ?_⟩⟩
    exact safe_rollingUpdateReplicated hmode h.supervised h.pending

end

/-! ### Runs -/

/-- A call of the rolling update: the copy of the object, the environment and the
    hash it finds. -/
structure UpdateCall where
  copy : RedisCluster
  world : World
  desiredHash : String

/-- The call touches no primary. -/
def UpdateCall.Spares (faulty : Cmd → Prop) (call : UpdateCall) : Prop :=
  Safe faulty (fun _ => SparesPrimaries call.copy) (rollingUpdate call.desiredHash)
    (fun _ _ _ => True) call.copy call.world

/-- A run in which no update is ever approved, with its calls of the rolling
    update, latest first.  Between the calls the rest of the passes, users and
    Kubernetes do what they like. -/
inductive UnapprovedRun (faulty : Cmd → Prop) : List UpdateCall → RedisCluster → World → Prop
  | start {l w} : Unapproved l → UnapprovedRun faulty [] l w
  | change {calls l w l' w'} : UnapprovedRun faulty calls l w → Unapproved l' →
      UnapprovedRun faulty calls l' w'
  | call {calls l w l' w'} (desiredHash : String) (result : Except String (Bool × RedisCluster)) :
      UnapprovedRun faulty calls l w →
      Prog.Returns (Handles faulty) (rollingUpdate desiredHash l) w result w' → Unapproved l' →
      UnapprovedRun faulty (⟨l, w, desiredHash⟩ :: calls) l' w'

theorem UnapprovedRun.unapproved {faulty : Cmd → Prop} {calls : List UpdateCall}
    {l : RedisCluster} {w : World} (h : UnapprovedRun faulty calls l w) :
    Unapproved l ∧ ∀ call ∈ calls, Unapproved call.copy := by
  induction h with
  | start hl => exact ⟨hl, fun _ hno => (List.not_mem_nil hno).elim⟩
  | change _ hl ih => exact ⟨hl, ih.2⟩
  | call _ _ _ _ hl ih => exact ⟨hl, List.forall_mem_cons.mpr ih⟩

/-- A run of supervised updates without approval spares the primaries exactly
    when at each call the cluster is not sharded, or what is due in the highest
    shard with an outdated pod touches none. -/
theorem supervised_rollingUpdate_spares_iff (faulty : Cmd → Prop) (calls : List UpdateCall)
    (l : RedisCluster) (w : World) (hrun : UnapprovedRun faulty calls l w) :
    (∀ call ∈ calls, call.Spares faulty) ↔
      ∀ call ∈ calls, call.copy.spec.mode ≠ .cluster ∨
        ∀ index shard, HasTurn call.copy call.world.dataPods call.desiredHash
            call.copy.spec.shards.toNat index shard →
          LeavesPrimaries call.copy call.world.dataPods call.desiredHash shard :=
  forall₂_congr fun call hcall => safe_rollingUpdate_iff (hrun.unapproved.2 call hcall)

/-- A sharded cluster with supervised updates; the status has shard `s2` with
    primary `c-2` and these replicas. -/
def supervisedCluster (replicaPods : List String) : RedisCluster where
  name := "c"
  spec := { mode := .cluster, shards := 3, primaryUpdateStrategy := .supervised }
  status :=
    { shards :=
        (∅ : GoMap String ShardStatus).insert "s2"
        { primaryPod := "c-2", replicaPods := replicaPods } }

/-- Its pods, made from an older template. -/
def supervisedWorld (replicaPods : List String) : World where
  cluster := supervisedCluster replicaPods
  pods := { name := "c-2" } :: replicaPods.map fun name => { name := name }

theorem supervisedCluster_shard {replicaPods : List String} {key : String} {shard : ShardStatus}
    (h : (supervisedCluster replicaPods).status.shards.lookup key = some shard) :
    key = "s2" ∧ shard = { primaryPod := "c-2", replicaPods := replicaPods } := by
  simp only [supervisedCluster, GoMap.lookup_insert] at h
  split at h
  next hkey => exact ⟨hkey, (Option.some.inj h).symm⟩
  next => cases h

/-- With a replica the update begins there, and the primary is left alone. -/
theorem supervisedCluster_replica_first :
    UpdateCall.Spares (fun _ => False) ⟨supervisedCluster ["c-5"], supervisedWorld ["c-5"],
      "new"⟩ := by
  have hrun : UnapprovedRun (fun _ => False)
      [⟨supervisedCluster ["c-5"], supervisedWorld ["c-5"], "new"⟩] (supervisedCluster ["c-5"]) _ :=
    .call "new" _ (.start ⟨rfl, rfl⟩) (Prog.returns_run (World.handles_answer _) _ _) ⟨rfl, rfl⟩
  refine (supervised_rollingUpdate_spares_iff _ _ _ _ hrun).mpr ?_ _ (List.mem_singleton_self _)
  refine List.forall_mem_singleton.mpr (Or.inr fun index shard hturn => ?_)
  obtain ⟨-, rfl⟩ := supervisedCluster_shard hturn.status
  have hreplicas : shardReplicas (supervisedCluster ["c-5"]) (supervisedWorld ["c-5"]).dataPods
      { primaryPod := "c-2", replicaPods := ["c-5"] } = [{ name := "c-5" }] := by rfl
  refine ⟨fun pod hpod => ?_, fun hall => ?_⟩
  · dsimp only at hpod
    rw [hreplicas] at hpod
    obtain rfl := List.mem_singleton.mp (List.mem_of_find?_eq_some hpod)
    rintro (hno | ⟨-, key, shard, hshard, hno⟩)
    · exact absurd hno (by decide : "c-5" ≠ "")
    · obtain ⟨-, rfl⟩ := supervisedCluster_shard hshard
      exact absurd hno (by decide : "c-2" ≠ "c-5")
  · dsimp only at hall
    rw [hreplicas] at hall
    exact absurd (by decide : "" ≠ "new") (hall _ (List.mem_singleton_self _))

/-- The primary is deleted although nobody approved. -/
theorem supervisedCluster_primary_deleted :
    Unapproved (supervisedCluster []) ∧
      ¬ UpdateCall.Spares (fun _ => False) ⟨supervisedCluster [], supervisedWorld [], "new"⟩ := by
  refine ⟨⟨rfl, rfl⟩, fun hsafe => ?_⟩
  have hturn : HasTurn (supervisedCluster []) (supervisedWorld []).dataPods "new" 3 2
      { primaryPod := "c-2" } := by
    refine ⟨by decide, rfl, ⟨{ name := "c-2" }, ⟨"c-2", List.mem_cons_self, rfl⟩, ?_⟩, ?_⟩
    · exact (by decide : "" ≠ "new")
    · intro j _ hj hlt
      exact absurd hlt (Nat.not_lt.mpr hj)
  rcases (safe_rollingUpdate_iff ⟨rfl, rfl⟩).mp hsafe with hno | hall
  · exact hno rfl
  · obtain ⟨pod, hpod, -⟩ := (hall _ _ hturn).candidate nofun
    cases hpod

/-! ## Restart for a volume resize -/

/-- By the polled statuses the pod serves hash slots. -/
def OwnsSlots (statuses : Statuses) (name : String) : Prop :=
  (statuses.get name).slotsServed ≠ []

/-- By the polled statuses one of the pods replicates the named one. -/
def HasShardReplica (statuses : Statuses) (pods : List Pod) (name : String) : Prop :=
  ∃ pod ∈ pods, pod.name ≠ name ∧ (statuses.get pod.name).role = .slave ∧
    (statuses.get pod.name).primaryNodeID = (statuses.get name).nodeID

/-- The pod is a serving primary, and a replica could take its place. -/
def ReplaceablePrimary (cluster : RedisCluster) (statuses : Statuses)
    (pods : List Pod) (name : String) : Prop :=
  if cluster.spec.mode = .cluster then
    (name = cluster.status.currentPrimary ∨ OwnsSlots statuses name) ∧
      HasShardReplica statuses pods name
  else name = cluster.status.currentPrimary ∧ ∃ pod ∈ pods, pod.name ≠ name

/-- The request deletes no primary that could be replaced. -/
def SparesReplaceable (cluster : RedisCluster) (statuses : Statuses)
    (pods : List Pod) : Cmd → Prop
  | .deletePod name _ => ¬ ReplaceablePrimary cluster statuses pods name
  | _ => True

/-- The replica whose turn it is: the highest ordinal that is ready. -/
def restartedReplica (cluster : RedisCluster) (pods : List Pod) (pendingPVCs : List String) :
    Option Pod :=
  ((splitPrimary cluster pods).2.filter (podHasPendingResizePVC pendingPVCs)).find?
    isPodRunningAndReady

section

variable {faulty : Cmd → Prop} {l : RedisCluster} {w : World}
  {statuses : Statuses} {pods : List Pod} {pendingPVCs : List String}

theorem mem_replicas {pod : Pod} :
    pod ∈ (splitPrimary l pods).2 ↔ pod ∈ pods ∧ pod.name ≠ l.status.currentPrimary := by
  have hperm := (List.perm_insertionSort (fun a b : Pod =>
    podIndex l.name b.name ≤ podIndex l.name a.name)
    (pods.filter fun pod => pod.name != l.status.currentPrimary)).mem_iff (a := pod)
  exact hperm.trans (by simp)

/-- A primary without other pods beside it cannot be replaced. -/
theorem not_replaceable_alone {primary : Pod} (hprimary : (splitPrimary l pods).1 = some primary)
    (halone : (splitPrimary l pods).2 = []) :
    ¬ ReplaceablePrimary l statuses pods primary.name := by
  have hname : primary.name = l.status.currentPrimary := by
    simpa using (List.mem_filter.mp (List.mem_of_getLast? hprimary)).2
  have hothers : ∀ pod ∈ pods, pod.name = primary.name := by
    intro pod hpod
    by_contra hne
    have hmem := mem_replicas.mpr ⟨hpod, hname ▸ hne⟩
    rw [halone] at hmem
    cases hmem
  unfold ReplaceablePrimary
  split
  · rintro ⟨-, pod, hpod, hne, -⟩
    exact hne (hothers pod hpod)
  · rintro ⟨-, pod, hpod, hne⟩
    exact hne (hothers pod hpod)

/-- A replica counts as a primary only by the slots it serves. -/
theorem replaceable_replica_iff {pod : Pod} (hpod : pod ∈ (splitPrimary l pods).2) :
    ReplaceablePrimary l statuses pods pod.name ↔
      l.spec.mode = .cluster ∧ OwnsSlots statuses pod.name ∧
        HasShardReplica statuses pods pod.name := by
  have hname := (mem_replicas.mp hpod).2
  unfold ReplaceablePrimary
  split
  next hmode => simp [hmode, hname]
  next hmode => simp [hmode, hname]

/-- A replica whose turn it is gets deleted. -/
theorem safe_restart_replica {replica : Pod}
    (hfind : restartedReplica l w.dataPods pendingPVCs = some replica) :
    Safe faulty (fun _ => SparesReplaceable l statuses w.dataPods)
        (restartPodsForPendingResize pendingPVCs) (fun _ _ _ => True) l w ↔
      ¬ ReplaceablePrimary l statuses w.dataPods replica.name := by
  unfold restartPodsForPendingResize
  rw [safe_bind, safe_get, safe_bind, safe_wrap, safe_listDataPods]
  unfold restartedReplica at hfind
  simp only [hfind, safe_bind, safe_wrap]
  constructor
  · rintro ⟨-, hsafe⟩
    exact hsafe.1
  · intro hspared
    exact ⟨trivial, safe_deletePod hspared fun _ => trivial⟩

/-- Without such a replica it is the primary's turn, which is deleted only if
    it is alone. -/
theorem safe_restart_primary (hfind : restartedReplica l w.dataPods pendingPVCs = none) :
    Safe faulty (fun _ => SparesReplaceable l statuses w.dataPods)
      (restartPodsForPendingResize pendingPVCs) (fun _ _ _ => True) l w := by
  unfold restartPodsForPendingResize
  rw [safe_bind, safe_get, safe_bind, safe_wrap, safe_listDataPods]
  refine ⟨trivial, ?_⟩
  unfold restartedReplica at hfind
  simp only [hfind]
  rw [safe_ite]
  refine ⟨fun _ => trivial, fun _ => ?_⟩
  cases hprimary : (splitPrimary l w.dataPods).1.filter (podHasPendingResizePVC pendingPVCs) with
  | none => trivial
  | some primary =>
    have hsplit := (Option.filter_eq_some_iff.mp hprimary).1
    dsimp only
    unfold restartPrimary
    simp only [safe_ite, safe_pure, safe_bind, safe_wrap, implies_true, true_and]
    refine fun _ => ⟨fun halone => ?_, fun _ _ => ?_⟩
    · exact safe_deletePod (not_replaceable_alone hsplit halone) fun _ => trivial
    · refine safe_of_only only_switchover fun _ c hc => ?_
      cases c with
      | deletePod name reason => exact hc.elim
      | _ => exact trivial

/-- A resize restart spares the primaries that could be replaced exactly when
    the cluster is not sharded, or when the ready pod of highest ordinal with a
    pending volume does not serve slots, or has no replica. -/
theorem restartPodsForPendingResize_spares_iff (faulty : Cmd → Prop) (l : RedisCluster) (w : World)
    (statuses : Statuses) (pendingPVCs : List String) :
    Safe faulty (fun _ => SparesReplaceable l statuses w.dataPods)
        (restartPodsForPendingResize pendingPVCs) (fun _ _ _ => True) l w ↔
      l.spec.mode ≠ .cluster ∨ ∀ pod ∈ restartedReplica l w.dataPods pendingPVCs,
        ¬ (OwnsSlots statuses pod.name ∧ HasShardReplica statuses w.dataPods pod.name) := by
  cases hfind : restartedReplica l w.dataPods pendingPVCs with
  | none => exact iff_of_true (safe_restart_primary hfind) (Or.inr fun pod hpod => nomatch hpod)
  | some replica =>
    have hmem := (List.mem_filter.mp (List.mem_of_find?_eq_some hfind)).1
    rw [safe_restart_replica hfind, replaceable_replica_iff hmem]
    simp only [Option.mem_def, Option.some.injEq, forall_eq']
    tauto

end

/-- A sharded cluster; pod `c-1` serves slots and `c-0` replicates it. -/
def resizeStatuses : Statuses :=
  ((∅ : Statuses).insert "c-0"
    { role := .slave, connected := true, nodeID := "n0", primaryNodeID := "n1" }).insert "c-1"
    { role := .master, connected := true, nodeID := "n1", slotsServed := [⟨0, 5460⟩] }

/-- The replica is ready. -/
def resizeReplica : Pod where
  name := "c-0"
  phase := .running
  conditions := [⟨"Ready", true⟩]

/-- So is the owner, whose volume waits for its resize. -/
def resizeOwner : Pod where
  name := "c-1"
  phase := .running
  conditions := [⟨"Ready", true⟩]
  claims := ["c-data-1"]

def resizeWorld : World where
  cluster := { name := "c", spec := { mode := .cluster, shards := 3 } }
  pods := [resizeReplica, resizeOwner]

/-- The owner of the slots is deleted, its replica was not promoted. -/
theorem resizeWorld_owner_deleted :
    ¬ Safe (fun _ => False) (fun _ => SparesReplaceable resizeWorld.cluster resizeStatuses
      resizeWorld.dataPods) (restartPodsForPendingResize ["c-data-1"]) (fun _ _ _ => True)
      resizeWorld.cluster resizeWorld := by
  have hturn : restartedReplica resizeWorld.cluster resizeWorld.dataPods ["c-data-1"] =
      some resizeOwner := by rfl
  rw [safe_restart_replica hturn]
  have howns : OwnsSlots resizeStatuses "c-1" := List.cons_ne_nil _ _
  have hreplica : resizeReplica ∈ resizeWorld.dataPods :=
    List.mem_filter.mpr ⟨List.mem_cons_self, rfl⟩
  exact not_not.mpr ⟨Or.inr howns, resizeReplica, hreplica, by decide, rfl, rfl⟩

end RedisOperator
