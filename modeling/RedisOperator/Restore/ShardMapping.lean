/-
  RedisOperator.Restore.ShardMapping

  Two programs decide which shard a pod of a new cluster-mode cluster belongs
  to.  The controller plans the layout and gives the planned primaries the
  restore init container; the restore binary reads the shard off the pod's
  ordinal.  The planner numbers the primaries first (pod `k` leads shard `k`),
  the binary numbers each shard's pods together, so the two agree exactly when
  there are no replicas.
-/

import RedisOperator.Cluster.LayoutCounting
import RedisOperator.Cluster.PodSpec
import RedisOperator.Restore.Run

namespace RedisOperator

open Lib

/-! ## The planner on a cluster without pods -/

namespace PlanEnv

variable {e : PlanEnv} {names : List String}

theorem claimed_of_no_statuses (hst : e.statuses = ∅) : e.claimed names = {} := by
  have howners : e.owners names = [] := by
    simp only [PlanEnv.owners, hst, List.filter_eq_nil_iff]
    intro name _
    rw [GoMap.get_of_not_mem GoMap.not_mem_empty]
    decide
  simp [PlanEnv.claimed, howners, rankOwnersByOverlap]

/-- Nothing polled and nothing labelled: every pod is free. -/
theorem followed_of_no_statuses (hst : e.statuses = ∅) (hlabel : e.labelOf = ∅) :
    e.followed names = ({}, names) := by
  have hfold : ∀ (rest free : List String),
      rest.foldl e.placeFollower (({} : ShardLayout), free) =
        (({} : ShardLayout), free ++ rest) := by
    intro rest
    induction rest with
    | nil => simp
    | cons name rest ih =>
      intro free
      have hstep : e.placeFollower (({} : ShardLayout), free) name
          = (({} : ShardLayout), free ++ [name]) := by
        simp [PlanEnv.placeFollower, PlanEnv.followedShard, PlanEnv.labelledShard, hst, hlabel,
          GoMap.get, GoMap.lookup_empty, GoMap.not_mem_empty]
      rw [List.foldl_cons, hstep, ih, List.append_assoc, List.singleton_append]
  rw [PlanEnv.followed, claimed_of_no_statuses hst, hfold, List.nil_append]

end PlanEnv

section Fresh

variable {cluster : RedisCluster}

theorem layoutNames_nil (hD : cluster.spec.desiredDataInstances ≤ maxInt) :
    layoutNames cluster [] = (List.range cluster.spec.desiredDataInstances.toNat).map
      (podNameForIndex cluster.name) := by
  unfold layoutNames sortByIndex
  refine List.Pairwise.insertionSort_eq ?_
  rw [List.foldl_nil, List.pairwise_map]
  refine List.pairwise_lt_range.imp_of_mem ?_
  intro i j hi hj hij
  rw [List.mem_range] at hi hj
  have hvalid : ∀ {k : Nat}, k < cluster.spec.desiredDataInstances.toNat → ValidOrdinal k := by
    intro k hk
    unfold ValidOrdinal
    omega
  rw [podIndex_podNameForIndex (hvalid hi), podIndex_podNameForIndex (hvalid hj)]
  omega

/-- In a new cluster, pod `k` leads shard `k`. -/
theorem planShardLayout_fresh (order : MapOrder) (hD : cluster.spec.desiredDataInstances ≤ maxInt)
    {k : Nat} (hk : k < desiredShardCount cluster)
    (hcount : (desiredShardCount cluster : Int) ≤ cluster.spec.desiredDataInstances) :
    (planShardLayout order cluster [] ∅).primaryOf.get k = podNameForIndex cluster.name k := by
  have hnames := layoutNames_nil hD
  have hsurvive : (planEnv order cluster [] ∅).survivors (layoutNames cluster [])
      = layoutNames cluster [] := by
    unfold PlanEnv.survivors
    rw [PlanEnv.followed_of_no_statuses rfl rfl, List.filter_eq_self]
    intro name hname
    rw [hnames, List.mem_map] at hname
    obtain ⟨i, hi, rfl⟩ := hname
    rw [List.mem_range] at hi
    have hvalid : ValidOrdinal i := by
      unfold ValidOrdinal
      omega
    have hlt : ¬ cluster.spec.desiredDataInstances ≤ (i : Int) := by omega
    simp [PlanEnv.doomed, planEnv, podIndex_podNameForIndex hvalid, hlt]
  have hfilled : ((planEnv order cluster [] ∅).filled (layoutNames cluster [])).1.primaryOf.get k
      = podNameForIndex cluster.name k := by
    have hkD : k < cluster.spec.desiredDataInstances.toNat := by omega
    have hvacant : (planEnv order cluster [] ∅).vacant (layoutNames cluster []) =
        List.range (desiredShardCount cluster) := by
      unfold PlanEnv.vacant
      rw [PlanEnv.followed_of_no_statuses rfl rfl]
      exact List.filter_eq_self.mpr fun s _ => decide_eq_true GoMap.get_empty_string
    have hpair : (k, podNameForIndex cluster.name k) ∈
        (planEnv order cluster [] ∅).fills (layoutNames cluster []) := by
      unfold PlanEnv.fills
      rw [hvacant, hsurvive, hnames, List.mem_iff_getElem?]
      exact ⟨k, by simp [hk, hkD]⟩
    rw [PlanEnv.filled_eq]
    exact (PlanEnv.foldl_fill_primaryOf_get
      (PlanEnv.map_fst_fills ▸ PlanEnv.vacant_nodup.sublist (List.take_sublist ..))).1 _ hpair
  unfold planShardLayout
  rw [PlanEnv.layout_primaryOf, PlanEnv.borrowed, PlanEnv.borrowHeirs_frame order
    (Or.inr (Or.inl (by rw [hfilled]; exact podNameForIndex_ne_empty _ _)))]
  exact hfilled

/-- A planned primary is created with the restore init container. -/
theorem mem_restorePods (order : MapOrder) (hmode : cluster.spec.mode = .cluster)
    {bootstrap : BootstrapSpec} (hboot : cluster.spec.bootstrap = some bootstrap)
    (hbackup : bootstrap.backupName ≠ "") (hnew : cluster.status.bootstrapCompleted = false)
    {k i : Nat} (hi : i < cluster.spec.desiredDataInstances.toNat)
    (hprimary : (planShardLayout order cluster [] ∅).primaryOf.get k
      = podNameForIndex cluster.name i) :
    podNameForIndex cluster.name i ∈ restorePods cluster (planShardLayout order cluster [] ∅) := by
  have hsound := planShardLayout_sound order cluster [] ∅ (by simp)
  have hplaced := hsound.primary_placed (s := k)
    (by rw [hprimary]; exact podNameForIndex_ne_empty _ _)
  rw [hprimary] at hplaced
  have hisPrimary : (planShardLayout order cluster [] ∅).isPrimary
      (podNameForIndex cluster.name i) = true := by
    simp [ShardLayout.isPrimary, hplaced, hprimary]
  unfold restorePods
  refine List.mem_map_of_mem (List.mem_filter.mpr ⟨List.mem_range.mpr hi, ?_⟩)
  simp [shouldRestoreFromBackup, dataPodRole, hboot, hbackup, hmode, hnew, hisPrimary]

theorem exists_of_mem_restorePods {layout : ShardLayout} {name : String}
    (h : name ∈ restorePods cluster layout) :
    ∃ i < cluster.spec.desiredDataInstances.toNat, name = podNameForIndex cluster.name i := by
  unfold restorePods at h
  rw [List.mem_map] at h
  obtain ⟨i, hi, rfl⟩ := h
  exact ⟨i, List.mem_range.mp (List.mem_filter.mp hi).1, rfl⟩

end Fresh

namespace Restore

/-! ## The restore binary -/

/-- What `clusterShardFromPod` makes of a data pod's name. -/
theorem clusterShardFromPod_podNameForIndex {clusterName : String} (hname : clusterName ≠ "")
    (replicas : Nat) (hrep : replicas + 1 < 2 ^ 31) {i : Nat} (hi : ValidOrdinal i) :
    clusterShardFromPod clusterName replicas (podNameForIndex clusterName i)
      = .ok (shardName (i / (1 + replicas)), decide (i % (1 + replicas) = 0)) := by
  have hwrap : wrap32 (1 + (replicas : Int)) = 1 + replicas := wrap32_of_lt (by omega) (by omega)
  have hlead : (clusterName ++ "-").toList = clusterName.toList ++ ['-'] := by
    simp [String.toList_append]
  have hpod : (podNameForIndex clusterName i).toList
      = (clusterName ++ "-").toList ++ Nat.toDigits 10 i := by
    rw [toList_podNameForIndex, hlead, List.append_assoc, List.singleton_append]
  have hdiv : (i : Int).tdiv (1 + replicas) = ((i / (1 + replicas) : Nat) : Int) := by
    rw [Int.tdiv_eq_ediv_of_nonneg (by omega)]
    push_cast
    rfl
  have hmod : (i : Int).tmod (1 + replicas) = ((i % (1 + replicas) : Nat) : Int) := by
    rw [Int.tmod_eq_emod_of_nonneg (by omega)]
    push_cast
    rfl
  unfold clusterShardFromPod
  rw [if_neg (by simp [hname, podNameForIndex_ne_empty])]
  dsimp only
  rw [hpod, if_neg (by simp [List.isPrefixOf_iff_prefix]), List.drop_left, atoi_toDigits hi]
  dsimp only
  rw [hwrap, if_neg (by omega), hdiv, hmod]
  simp only [Int.natCast_eq_zero]
  rfl

/-- The artifact of a shard, as `Run` fetches it. -/
def shardArtifactJob (artifact : ShardBackupArtifact) (artifactType : BackupArtifactType) : Job :=
  ⟨artifact.backupPath,
    if artifact.artifactType = .unset then artifactType else artifact.artifactType⟩

/-- `Run`, in the init container of `podName`, fetches the artifact of shard `k`. -/
def Receives (backup : RedisBackup) (cluster : RedisCluster) (label podName : String) (k : Nat) :
    Prop :=
  clusterShardFromPod cluster.name cluster.spec.replicasPerShard podName = .ok (shardName k, true) ∧
    ∃ artifact artifactType, backup.shardArtifacts.lookup (shardName k) = some artifact ∧
      selectJob backup cluster label podName
        = .ok (some (shardArtifactJob artifact artifactType))

/-- Each shard's artifact is fetched by its planned primary and by no other pod. -/
def EachShardOnce (order : MapOrder) (backup : RedisBackup) (cluster : RedisCluster)
    (label : String) : Prop :=
  ∀ k < desiredShardCount cluster,
    let layout := planShardLayout order cluster [] ∅
    layout.primaryOf.get k ∈ restorePods cluster layout ∧
      Receives backup cluster label (layout.primaryOf.get k) k ∧
      ∀ podName ∈ restorePods cluster layout, Receives backup cluster label podName k →
        podName = layout.primaryOf.get k

/-- A new cluster-mode cluster that is bootstrapped from a completed backup
    with an artifact for every shard. -/
structure FreshFromBackup (cluster : RedisCluster) (backup : RedisBackup) : Prop where
  mode : cluster.spec.mode = .cluster
  shards : 3 ≤ cluster.spec.shards
  replicas : 0 ≤ cluster.spec.replicasPerShard
  no_wrap : cluster.spec.shards * (1 + cluster.spec.replicasPerShard) < 2 ^ 31
  bootstrap : ∃ b, cluster.spec.bootstrap = some b ∧ b.backupName ≠ ""
  fresh : cluster.status.bootstrapCompleted = false
  artifactType : ∃ t, resolveArtifactType backup = .ok t
  artifacts : ∀ k < desiredShardCount cluster, ∃ artifact,
    backup.shardArtifacts.lookup (shardName k) = some artifact ∧ artifact.backupPath ≠ ""

section Mapping

variable {cluster : RedisCluster} {backup : RedisBackup}

variable (h : FreshFromBackup cluster backup)
include h

theorem FreshFromBackup.desired :
    cluster.spec.desiredDataInstances
      = cluster.spec.shards * (1 + cluster.spec.replicasPerShard) :=
  RedisClusterSpec.desiredDataInstances_eq h.mode h.shards h.replicas h.no_wrap

theorem FreshFromBackup.shardCount :
    (desiredShardCount cluster : Int) = cluster.spec.shards := by
  have := h.shards
  unfold desiredShardCount
  rw [if_neg (by omega)]
  omega

/-- There are at least as many pods as shards, and their ordinals are small. -/
theorem FreshFromBackup.bounds :
    (desiredShardCount cluster : Int) ≤ cluster.spec.desiredDataInstances ∧
      cluster.spec.desiredDataInstances < 2 ^ 31 ∧ cluster.spec.replicasPerShard + 1 < 2 ^ 31 := by
  have hs := h.shards
  have hr := h.replicas
  have hw := h.no_wrap
  have hgroup : cluster.spec.shards * 1 ≤
      cluster.spec.shards * (1 + cluster.spec.replicasPerShard) :=
    Int.mul_le_mul_of_nonneg_left (by omega) (by omega)
  have hrow : 1 * (1 + cluster.spec.replicasPerShard)
      ≤ cluster.spec.shards * (1 + cluster.spec.replicasPerShard) :=
    Int.mul_le_mul_of_nonneg_right (by omega) (by omega)
  rw [h.shardCount, h.desired]
  omega

theorem FreshFromBackup.primaryOf (order : MapOrder) {k : Nat}
    (hk : k < desiredShardCount cluster) :
    (planShardLayout order cluster [] ∅).primaryOf.get k = podNameForIndex cluster.name k := by
  obtain ⟨hcount, hsmall, -⟩ := h.bounds
  refine planShardLayout_fresh order ?_ hk hcount
  simp only [maxInt]
  omega

/-- What the restore binary reads off the name of pod `i`. -/
theorem FreshFromBackup.shardFromPod
    (hname : cluster.name ≠ "") {i : Nat} (hi : i < cluster.spec.desiredDataInstances.toNat) :
    clusterShardFromPod cluster.name cluster.spec.replicasPerShard (podNameForIndex cluster.name i)
      = .ok (shardName (i / (1 + cluster.spec.replicasPerShard.toNat)),
          decide (i % (1 + cluster.spec.replicasPerShard.toNat) = 0)) := by
  obtain ⟨-, hsmall, hrep⟩ := h.bounds
  have hr := h.replicas
  have hcast : ((cluster.spec.replicasPerShard.toNat : Nat) : Int)
      = cluster.spec.replicasPerShard := Int.toNat_of_nonneg hr
  have hvalid : ValidOrdinal i := by
    simp only [ValidOrdinal, maxInt]
    omega
  have := clusterShardFromPod_podNameForIndex hname
    cluster.spec.replicasPerShard.toNat (by omega) hvalid
  rwa [hcast] at this

/-- A pod the binary takes for the primary of shard `k` fetches that shard's artifact. -/
theorem FreshFromBackup.receives (label : String)
    {podName : String} {k : Nat} (hk : k < desiredShardCount cluster) (hpod : podName ≠ "")
    (hshard : clusterShardFromPod cluster.name cluster.spec.replicasPerShard podName
      = .ok (shardName k, true)) : Receives backup cluster label podName k := by
  obtain ⟨artifactType, htype⟩ := h.artifactType
  obtain ⟨artifact, hlookup, hpath⟩ := h.artifacts k hk
  have hlen : backup.shardArtifacts.len ≠ 0 := by
    intro hzero
    have hmem := GoMap.mem_pairs.mpr hlookup
    rw [List.length_eq_zero_iff.mp ((GoMap.length_pairs _).trans hzero)] at hmem
    cases hmem
  refine ⟨hshard, artifact, artifactType, hlookup, ?_⟩
  simp [selectJob, htype, h.mode, hlen, shardJob, hpod, hshard, hlookup, hpath, shardArtifactJob]

omit h

/-- The planner and the restore binary put every shard's data on that shard's
    primary exactly when shards have no replicas (and the cluster has a name). -/
theorem eachShardOnce_iff (order : MapOrder) (label : String)
    (h : FreshFromBackup cluster backup) :
    EachShardOnce order backup cluster label ↔
      cluster.spec.replicasPerShard = 0 ∧ cluster.name ≠ "" := by
  obtain ⟨hcount, hsmall, -⟩ := h.bounds
  have hshards := h.shards
  have hr := h.replicas
  have hsc := h.shardCount
  constructor
  · intro honce
    -- shard 1 already tells: its planned primary is pod 1
    obtain ⟨-, ⟨hshard, -⟩, -⟩ := honce 1 (by omega)
    rw [h.primaryOf order (by omega)] at hshard
    have hname : cluster.name ≠ "" := by
      intro hempty
      unfold clusterShardFromPod at hshard
      rw [if_pos (Or.inl hempty)] at hshard
      cases hshard
    refine ⟨?_, hname⟩
    rw [h.shardFromPod hname (by omega)] at hshard
    have hmod : 1 % (1 + cluster.spec.replicasPerShard.toNat) = 0 := by
      simpa using congrArg Prod.snd (Except.ok.inj hshard)
    by_contra hne
    rw [Nat.mod_eq_of_lt (by omega)] at hmod
    omega
  · rintro ⟨hrep, hname⟩ k hk
    obtain ⟨b, hb, hbackup⟩ := h.bootstrap
    have hprimary := h.primaryOf order hk
    have hkD : k < cluster.spec.desiredDataInstances.toNat := by omega
    have hshard : ∀ {i : Nat}, i < cluster.spec.desiredDataInstances.toNat →
        clusterShardFromPod cluster.name cluster.spec.replicasPerShard
          (podNameForIndex cluster.name i) = .ok (shardName i, true) := by
      intro i hi
      rw [h.shardFromPod hname hi, hrep]
      simp [Nat.mod_one]
    dsimp only
    rw [hprimary]
    refine ⟨mem_restorePods order h.mode hb hbackup h.fresh hkD hprimary,
      h.receives label hk (podNameForIndex_ne_empty _ _) (hshard hkD), ?_⟩
    intro podName hmem hrec
    obtain ⟨i, hi, rfl⟩ := exists_of_mem_restorePods hmem
    have hsame := hrec.1
    rw [hshard hi] at hsame
    rw [shardName_injective (congrArg Prod.fst (Except.ok.inj hsame))]

end Mapping

/-! ## Three shards -/

/-- An AOF archive at a path. -/
def archiveAt (path : String) : ShardBackupArtifact :=
  { backupPath := path, artifactType := .aofArchive }

/-- A completed backup of three shards. -/
def threeShardBackup : RedisBackup :=
  { name := "nightly", method := .aof, phase := .completed,
    destination := some { s3 := some { bucket := "backups" } },
    backupPath := "s3://backups/s0", artifactType := .aofArchive,
    shardArtifacts :=
      (((∅ : GoMap String ShardBackupArtifact).insert "s2" (archiveAt "s3://backups/s2")).insert
        "s1" (archiveAt "s3://backups/s1")).insert "s0" (archiveAt "s3://backups/s0") }

/-- A new cluster of three shards bootstrapped from it. -/
def threeShards (replicasPerShard : Int) : RedisCluster :=
  { name := "test",
    spec := { mode := .cluster, shards := 3, replicasPerShard := replicasPerShard,
              bootstrap := some ⟨"nightly"⟩ } }

theorem freshFromBackup_threeShards {r : Int} (h0 : 0 ≤ r) (h : r ≤ 1) :
    FreshFromBackup (threeShards r) threeShardBackup where
  mode := rfl
  shards := Int.le_refl 3
  replicas := h0
  no_wrap := by
    show (3 : Int) * (1 + r) < 2 ^ 31
    omega
  bootstrap := ⟨⟨"nightly"⟩, rfl, by decide⟩
  fresh := rfl
  artifactType := ⟨.aofArchive, rfl⟩
  artifacts k hk := by
    have hk3 : k < 3 := hk
    match k, hk3 with
    | 0, _ => exact ⟨archiveAt "s3://backups/s0", by decide +kernel, by decide⟩
    | 1, _ => exact ⟨archiveAt "s3://backups/s1", by decide +kernel, by decide⟩
    | 2, _ => exact ⟨archiveAt "s3://backups/s2", by decide +kernel, by decide⟩

/-- Without replicas the three primaries get their own data. -/
theorem eachShardOnce_three :
    EachShardOnce .stored threeShardBackup (threeShards 0) "RedisBackup default/nightly" :=
  (eachShardOnce_iff .stored _ (freshFromBackup_threeShards (by decide) (by decide))).mpr
    ⟨rfl, by decide⟩

/-- With one replica per shard, the primary of shard 1 fetches nothing and the
    primary of shard 2 fetches the data of shard 1. -/
theorem three_shards_with_replicas_mixed_up :
    FreshFromBackup (threeShards 1) threeShardBackup ∧
      (planShardLayout .stored (threeShards 1) [] ∅).primaryOf.get 1 = "test-1" ∧
      selectJob threeShardBackup (threeShards 1) "RedisBackup default/nightly" "test-1" = .ok none ∧
      (planShardLayout .stored (threeShards 1) [] ∅).primaryOf.get 2 = "test-2" ∧
      Receives threeShardBackup (threeShards 1) "RedisBackup default/nightly" "test-2" 1 := by
  have hfresh := freshFromBackup_threeShards (r := 1) (by decide) (by decide)
  have hshard : clusterShardFromPod "test" 1 "test-2" = .ok (shardName 1, true) := rfl
  refine ⟨hfresh, by decide +kernel, rfl, by decide +kernel, ?_⟩
  exact hfresh.receives _ (by decide) (by decide) hshard

end Restore

end RedisOperator
