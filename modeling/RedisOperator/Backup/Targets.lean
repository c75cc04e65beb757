/-
  RedisOperator.Backup.Targets

  Which pods a backup is taken on.

  A sharded cluster: `selectClusterBackupTargets` passes over a shard whose
  primary is missing or has no address yet, so a backup completes without that
  shard.  It covers the cluster exactly where every primary is listed with an
  address (`completed_covers_iff`).

  Any other cluster: `selectTargetPod` takes the first listed pod that is not the
  primary, a sentinel pod or a replica without a link included
  (`selectTargetPod_hasData_iff`).
-/

import RedisOperator.Backup.Course

namespace RedisOperator.Backup

open Lib

/-! ## Targets of the shards -/

/-- A pod of this name is listed with an address. -/
def Listed (pods : List Pod) (name : String) : Prop :=
  ∃ pod ∈ pods, pod.name = name ∧ pod.podIP ≠ ""

/-- The target the status yields for a shard. -/
def shardTarget (pods : List Pod) (shard : ShardStatus) : Option ClusterBackupTarget :=
  if shard.primaryPod = "" then none
  else
    match (podsByName pods).lookup shard.primaryPod with
    | none => none
    | some pod => if pod.podIP = "" then none else some ⟨pod.name, pod.podIP⟩

/-- The labels make the pod the primary of a shard, and it has an address. -/
def LabelledPrimary (pod : Pod) : Prop :=
  pod.labels.get labelRole ≠ labelRoleSentinel ∧ pod.labels.get labelShardRole = labelRolePrimary ∧
    pod.labels.get labelShard ≠ "" ∧ pod.podIP ≠ ""

instance (pod : Pod) : Decidable (LabelledPrimary pod) :=
  inferInstanceAs (Decidable (_ ∧ _ ∧ _ ∧ _))

theorem statusTargets_eq (cluster : RedisCluster) (pods : List Pod) :
    statusTargets cluster pods = GoMap.collect
      (fun shard => (shardTarget pods shard.2).map (Prod.mk shard.1))
      cluster.status.shards.pairs := by
  unfold statusTargets GoMap.collect
  congr 1
  funext targets shard
  unfold shardTarget
  by_cases hnone : shard.2.primaryPod = ""
  · simp only [if_pos hnone, Option.map_none]
  · simp only [if_neg hnone]
    cases (podsByName pods).lookup shard.2.primaryPod with
    | none => rfl
    | some pod =>
      by_cases hip : pod.podIP = ""
      · simp only [if_pos hip, Option.map_none]
      · simp only [if_neg hip, Option.map_some]

theorem labelTargets_eq (pods : List Pod) :
    labelTargets pods = GoMap.collect
      (fun pod => if LabelledPrimary pod then
        some (pod.labels.get labelShard, (⟨pod.name, pod.podIP⟩ : ClusterBackupTarget)) else none)
      pods := by
  unfold labelTargets GoMap.collect
  congr 1
  funext targets pod
  by_cases hlabelled : LabelledPrimary pod
  · obtain ⟨hrole, hprimary, hshard, hip⟩ := hlabelled
    simp only [if_neg hrole, if_neg (not_not.mpr hprimary), if_neg (not_or.mpr ⟨hshard, hip⟩),
      if_pos (show LabelledPrimary pod from ⟨hrole, hprimary, hshard, hip⟩)]
  · simp only [if_neg hlabelled]
    by_cases hrole : pod.labels.get labelRole = labelRoleSentinel
    · rw [if_pos hrole]
    · rw [if_neg hrole]
      by_cases hprimary : pod.labels.get labelShardRole = labelRolePrimary
      · rw [if_neg (not_not.mpr hprimary), if_pos]
        by_contra hnone
        exact hlabelled ⟨hrole, hprimary, fun h => hnone (Or.inl h), fun h => hnone (Or.inr h)⟩
      · rw [if_pos hprimary]

section

variable {cluster : RedisCluster} {pods : List Pod} {shard : String} {st : ShardStatus}
variable {target : ClusterBackupTarget}

theorem shardTarget_listed (h : shardTarget pods st = some target) :
    target.podName = st.primaryPod ∧ Listed pods target.podName := by
  unfold shardTarget at h
  by_cases hnone : st.primaryPod = ""
  · rw [if_pos hnone] at h
    cases h
  · rw [if_neg hnone] at h
    cases hpod : (podsByName pods).lookup st.primaryPod with
    | none =>
      rw [hpod] at h
      cases h
    | some pod =>
      obtain ⟨hmem, hname⟩ := podsByName_lookup hpod
      rw [hpod] at h
      by_cases hip : pod.podIP = ""
      · simp only [if_pos hip] at h
        cases h
      · simp only [if_neg hip, Option.some.injEq] at h
        subst h
        exact ⟨hname, pod, hmem, rfl, hip⟩

/-- A primary that is listed is the target of its shard. -/
theorem shardTarget_of_listed (hdistinct : (pods.map (·.name)).Nodup)
    (hnamed : ∀ pod ∈ pods, pod.name ≠ "") (h : Listed pods st.primaryPod) :
    ∃ target, shardTarget pods st = some target ∧ target.podName = st.primaryPod := by
  obtain ⟨pod, hmem, hname, hip⟩ := h
  have hne : st.primaryPod ≠ "" := hname ▸ hnamed pod hmem
  have hpod : (podsByName pods).lookup st.primaryPod = some pod :=
    hname ▸ podsByName_of_mem hdistinct hmem
  refine ⟨⟨pod.name, pod.podIP⟩, ?_, hname⟩
  simp only [shardTarget, if_neg hne, hpod, if_neg hip]

/-- The status yields the target of each of its shards. -/
theorem statusTargets_lookup (hshard : cluster.status.shards.lookup shard = some st)
    (htarget : shardTarget pods st = some target) :
    (statusTargets cluster pods).lookup shard = some target := by
  rw [statusTargets_eq]
  refine GoMap.lookup_collect (GoMap.mem_pairs.mpr hshard) (by rw [htarget]; rfl) ?_
  rintro ⟨shard', st'⟩ hmem target' hentry
  obtain ⟨t, ht, heq⟩ := Option.map_eq_some_iff.mp hentry
  obtain ⟨rfl, rfl⟩ := Prod.mk.inj heq
  obtain rfl : st' = st := Option.some.inj ((GoMap.mem_pairs.mp hmem).symm.trans hshard)
  exact Option.some.inj (ht.symm.trans htarget)

theorem of_statusTargets_lookup (h : (statusTargets cluster pods).lookup shard = some target) :
    ∃ st, cluster.status.shards.lookup shard = some st ∧ shardTarget pods st = some target := by
  rw [statusTargets_eq] at h
  obtain ⟨⟨shard', st⟩, hmem, hentry⟩ := GoMap.of_lookup_collect h
  obtain ⟨t, ht, heq⟩ := Option.map_eq_some_iff.mp hentry
  obtain ⟨rfl, rfl⟩ := Prod.mk.inj heq
  exact ⟨st, GoMap.mem_pairs.mp hmem, ht⟩

theorem of_labelTargets_lookup (h : (labelTargets pods).lookup shard = some target) :
    ∃ pod ∈ pods, LabelledPrimary pod ∧ target = ⟨pod.name, pod.podIP⟩ := by
  rw [labelTargets_eq] at h
  obtain ⟨pod, hmem, hentry⟩ := GoMap.of_lookup_collect h
  by_cases hlabelled : LabelledPrimary pod
  · rw [if_pos hlabelled] at hentry
    obtain ⟨-, rfl⟩ := Prod.mk.inj (Option.some.inj hentry)
    exact ⟨pod, hmem, hlabelled, rfl⟩
  · rw [if_neg hlabelled] at hentry
    cases hentry

/-- Either way a target is a pod that is listed with an address. -/
theorem listed_of_target (h : (clusterTargetsAmong cluster pods).lookup shard = some target) :
    Listed pods target.podName := by
  unfold clusterTargetsAmong at h
  split at h
  · obtain ⟨st, -, ht⟩ := of_statusTargets_lookup h
    exact (shardTarget_listed ht).2
  · obtain ⟨pod, hmem, hlabelled, rfl⟩ := of_labelTargets_lookup h
    exact ⟨pod, hmem, rfl, hlabelled.2.2.2⟩

/-- Some pod is a target: by the status, or by its labels. -/
def SomeTarget (cluster : RedisCluster) (pods : List Pod) : Prop :=
  (∃ shard st, cluster.status.shards.lookup shard = some st ∧ Listed pods st.primaryPod) ∨
    ∃ pod ∈ pods, LabelledPrimary pod

theorem clusterTargets_nonempty_iff (hdistinct : (pods.map (·.name)).Nodup)
    (hnamed : ∀ pod ∈ pods, pod.name ≠ "") :
    (clusterTargetsAmong cluster pods).len ≠ 0 ↔ SomeTarget cluster pods := by
  rw [← Nat.pos_iff_ne_zero, GoMap.len_pos_iff]
  constructor
  · rintro ⟨shard, hshard⟩
    obtain ⟨target, htarget⟩ := GoMap.mem_iff_lookup.mp hshard
    unfold clusterTargetsAmong at htarget
    split at htarget
    · obtain ⟨st, hst, ht⟩ := of_statusTargets_lookup htarget
      obtain ⟨hname, hlisted⟩ := shardTarget_listed ht
      exact Or.inl ⟨shard, st, hst, hname ▸ hlisted⟩
    · obtain ⟨pod, hmem, hlabelled, -⟩ := of_labelTargets_lookup htarget
      exact Or.inr ⟨pod, hmem, hlabelled⟩
  · intro h
    unfold clusterTargetsAmong
    by_cases hpos : 0 < (statusTargets cluster pods).len
    · rw [if_pos hpos]
      exact GoMap.len_pos_iff.mp hpos
    · rw [if_neg hpos]
      rcases h with ⟨shard, st, hst, hlisted⟩ | ⟨pod, hmem, hlabelled⟩
      · obtain ⟨target, ht, -⟩ := shardTarget_of_listed hdistinct hnamed hlisted
        have hlookup := statusTargets_lookup hst ht
        exact absurd (GoMap.len_pos_iff.mpr ⟨shard, GoMap.mem_of_lookup hlookup⟩) hpos
      · rw [labelTargets_eq]
        exact ⟨_, GoMap.mem_collect_of_mem hmem (if_pos hlabelled)⟩

/-- A shard's target is its primary exactly where the primary is listed. -/
theorem target_primary_iff (hdistinct : (pods.map (·.name)).Nodup)
    (hnamed : ∀ pod ∈ pods, pod.name ≠ "")
    (hshard : cluster.status.shards.lookup shard = some st) :
    ((clusterTargetsAmong cluster pods).lookup shard).map (·.podName) = some st.primaryPod ↔
      Listed pods st.primaryPod := by
  constructor
  · intro h
    obtain ⟨target, htarget, hname⟩ := Option.map_eq_some_iff.mp h
    exact hname ▸ listed_of_target htarget
  · intro h
    obtain ⟨target, ht, hname⟩ := shardTarget_of_listed hdistinct hnamed h
    have hlookup := statusTargets_lookup hshard ht
    have hpos : 0 < (statusTargets cluster pods).len :=
      GoMap.len_pos_iff.mpr ⟨shard, GoMap.mem_of_lookup hlookup⟩
    rw [clusterTargetsAmong, if_pos hpos, hlookup, Option.map_some, hname]

end

/-! ## A completed backup of a sharded cluster -/

/-- The shards of the spec, and those that serve slots by the status. -/
def Required (cluster : RedisCluster) (shard : String) : Prop :=
  (∃ index : Nat, (index : Int) < cluster.spec.shards ∧ shard = shardName index) ∨
    ∃ st, cluster.status.shards.lookup shard = some st ∧ st.slotRanges ≠ []

/-- Every required shard has an artifact that was taken on its primary. -/
def CoversShards (cluster : RedisCluster) (artifacts : GoMap String ShardBackupArtifact) : Prop :=
  ∀ shard, Required cluster shard → ∃ st artifact, cluster.status.shards.lookup shard = some st ∧
    artifacts.lookup shard = some artifact ∧ artifact.targetPod = st.primaryPod

/-- Every required shard has a primary that is listed with an address. -/
def PrimariesListed (cluster : RedisCluster) (pods : List Pod) : Prop :=
  ∀ shard, Required cluster shard → ∃ st, cluster.status.shards.lookup shard = some st ∧
    Listed pods st.primaryPod

theorem Taken.lookup {targets : GoMap String ClusterBackupTarget}
    {artifacts : GoMap String ShardBackupArtifact}
    (h : Taken targets (shardOrder targets) artifacts) (shard : String) :
    (artifacts.lookup shard).map (·.targetPod) = (targets.lookup shard).map (·.podName) := by
  have hmem : shard ∈ shardOrder targets ↔ shard ∈ targets := by
    rw [shardOrder, List.mem_insertionSort, GoMap.mem_keys]
  rw [h shard]
  cases hlookup : targets.lookup shard with
  | none => rw [if_neg (mt hmem.mp (GoMap.lookup_eq_none.mp hlookup)), Option.map_none]
  | some target =>
    rw [if_pos (hmem.mpr (GoMap.mem_of_lookup hlookup)), GoMap.get_of_lookup hlookup,
      Option.map_some]

theorem Taken.covers_iff {site : Site} {cluster : RedisCluster}
    {artifacts : GoMap String ShardBackupArtifact}
    (h : Taken (clusterTargetsAmong cluster site.pods)
      (shardOrder (clusterTargetsAmong cluster site.pods)) artifacts) :
    CoversShards cluster artifacts ↔ PrimariesListed cluster site.pods := by
  refine forall₂_congr fun shard _ => exists_congr fun st => ?_
  rw [exists_and_left]
  refine and_congr_right fun hst => ?_
  rw [← Option.map_eq_some_iff, h.lookup,
    target_primary_iff site.distinct site.named hst]

section

variable {site : Site} {cluster : RedisCluster} {backup : RedisBackup}

/-- Patches that end a backup well cover the cluster if the primaries are listed. -/
theorem covers_of_issued (hcluster : site.cluster = some cluster)
    (hmode : cluster.spec.mode = .cluster) {log₀ log : Log} {object before after : RedisBackup}
    (hlisted : NotStarted backup.phase → cluster.status.phase = .healthy →
      validateDestination backup.destination = none → SomeTarget cluster site.pods →
      PrimariesListed cluster site.pods)
    (h : Issued site.admits (some backup) log₀ (some object) log (.patchStatus before after))
    (hdone : (mergeBackup before after object).phase = .completed) :
    CoversShards cluster (mergeBackup before after object).shardArtifacts := by
  have hphase := h.merged_phase.symm.trans hdone
  cases h with
  | complete h hlog htaken =>
    cases h.read
    cases Option.some.inj ((Site.cluster_of_admits h.found).symm.trans hcluster)
    cases Site.pods_of_admits h.listed
    obtain ⟨rfl, hall⟩ := htaken hmode
    have hsome : SomeTarget cluster site.pods := by
      rw [← clusterTargets_nonempty_iff site.distinct site.named]
      intro hlen
      have hplan := h.target
      rw [planOf, if_pos hmode, if_pos hlen] at hplan
      cases hplan
    rw [mergeBackup_shardArtifacts_self, completedStatus_shardArtifacts, hall.covers_iff]
    exact hlisted h.new h.healthy h.destination hsome
  | _ => exact nomatch hphase

/-- A backup that may start and has a target can complete. -/
theorem exists_completed (backup l₀ : RedisBackup) (hcluster : site.cluster = some cluster)
    (hmode : cluster.spec.mode = .cluster) (hnew : NotStarted backup.phase)
    (hhealthy : cluster.status.phase = .healthy)
    (hdestination : validateDestination backup.destination = none)
    (hsome : SomeTarget cluster site.pods) :
    ∃ result object, Prog.Returns (Handles site.admits) (reconcileBackup l₀) (some backup) result
        (some object) ∧ object.phase = .completed ∧
      Taken (clusterTargetsAmong cluster site.pods)
        (shardOrder (clusterTargetsAmong cluster site.pods)) object.shardArtifacts := by
  obtain ⟨result, object, hreturns, hsettled⟩ := exists_settled l₀ backup hcluster hhealthy
  have hadmitted : Prog.Returns (Handles site.admits) (reconcileBackup l₀) (some backup) result
      (some object) :=
    hreturns.mono fun _ _ _ _ h => ⟨Site.admits_of_succeeds h.1, h.2⟩
  have hplan : planOf cluster backup site.pods ≠ none := by
    have hlen := (clusterTargets_nonempty_iff site.distinct site.named).mpr hsome
    rw [planOf, if_pos hmode, if_neg hlen]
    exact Option.some_ne_none _
  cases hsettled with
  | ended hended => exact absurd hended (not_ended_of_notStarted hnew)
  | running hrunning => exact absurd hrunning (ne_running_of_notStarted hnew)
  | failed hlive hfailed hcause => exact absurd hdestination (hcause.resolve_right hplan)
  | completed hnew hdone htaken => exact ⟨result, object, hadmitted, hdone, htaken hmode⟩

/-- Whatever happens in one reconcile: if it leaves the backup `Completed`, the
    backup covers the cluster. -/
def CompletesCovered (site : Site) (cluster : RedisCluster) (backup l₀ : RedisBackup) : Prop :=
  ∀ result object, Prog.Returns (Handles site.admits) (reconcileBackup l₀) (some backup) result
      (some object) → object.phase = .completed → CoversShards cluster object.shardArtifacts

/-- A backup that covers less is never recorded as completed exactly if the
    primaries are all listed whenever the reconcile may start it. -/
theorem completed_covers_iff (hcluster : site.cluster = some cluster)
    (hmode : cluster.spec.mode = .cluster) (hphase : backup.phase ≠ .completed) (l₀ : RedisBackup) :
    CompletesCovered site cluster backup l₀ ↔
      (NotStarted backup.phase → cluster.status.phase = .healthy →
        validateDestination backup.destination = none → SomeTarget cluster site.pods →
        PrimariesListed cluster site.pods) := by
  constructor
  · intro hcovers hnew hhealthy hdestination hsome
    obtain ⟨result, object, hreturns, hdone, htaken⟩ :=
      exists_completed backup l₀ hcluster hmode hnew hhealthy hdestination hsome
    exact htaken.covers_iff.mp (hcovers result object hreturns hdone)
  · intro hlisted result object hreturns
    have hcovers := reconcile_invariant (I := fun stored => ∀ object, stored = some object →
      object.phase = .completed → CoversShards cluster object.shardArtifacts) ?_ ?_ hreturns
    · exact hcovers object rfl
    · rintro object log before after hissued - _ ⟨⟩
      exact covers_of_issued hcluster hmode hlisted hissued
    · rintro _ ⟨⟩ hdone
      exact absurd hdone hphase

end

/-- Three shards that share the slots. -/
def threeShards : RedisCluster where
  name := "c"
  spec := { mode := .cluster, shards := 3 }
  status :=
    { phase := .healthy
      shards := ((∅ : GoMap String ShardStatus).insert "s0"
        { primaryPod := "c-0", slotRanges := [⟨0, 5460⟩] }).insert "s1"
        { primaryPod := "c-1", slotRanges := [⟨5461, 10922⟩] } |>.insert "s2"
        { primaryPod := "c-2", slotRanges := [⟨10923, 16383⟩] } }

/-- Its pods, the last with this address. -/
def threeShardsSite (lastIP : String) : Site where
  cluster := some threeShards
  pods := [{ name := "c-0", podIP := "10.0.0.1" }, { name := "c-1", podIP := "10.0.0.2" },
    { name := "c-2", podIP := lastIP }]
  distinct := show ["c-0", "c-1", "c-2"].Nodup by decide
  named := by simp

/-- A backup that was just created. -/
def newBackup : RedisBackup where
  name := "b"
  clusterName := "c"
  destination := some { s3 := some { bucket := "backups" } }

theorem threeShards_required {shard : String} (h : Required threeShards shard) :
    shard = "s0" ∨ shard = "s1" ∨ shard = "s2" := by
  rcases h with ⟨index, hindex, rfl⟩ | ⟨st, hst, -⟩
  · have hshards : threeShards.spec.shards = 3 := rfl
    obtain rfl | rfl | rfl : index = 0 ∨ index = 1 ∨ index = 2 := by omega
    · exact Or.inl rfl
    · exact Or.inr (Or.inl rfl)
    · exact Or.inr (Or.inr rfl)
  · have hkey : shard ∈ threeShards.status.shards.keys :=
      GoMap.mem_keys.mpr (GoMap.mem_of_lookup hst)
    have hkeys : threeShards.status.shards.keys = ["s2", "s1", "s0"] := rfl
    rw [hkeys] at hkey
    simp only [List.mem_cons, List.not_mem_nil, or_false] at hkey
    rcases hkey with rfl | rfl | rfl
    · exact Or.inr (Or.inr rfl)
    · exact Or.inr (Or.inl rfl)
    · exact Or.inl rfl

/-- With all three addresses known, completed backups are complete. -/
theorem completed_covers_threeShards :
    CompletesCovered (threeShardsSite "10.0.0.3") threeShards newBackup newBackup := by
  refine (completed_covers_iff rfl rfl (by decide) newBackup).mpr fun _ _ _ _ shard hshard => ?_
  rcases threeShards_required hshard with rfl | rfl | rfl
  · exact ⟨_, rfl, { name := "c-0", podIP := "10.0.0.1" }, by decide, rfl, by decide⟩
  · exact ⟨_, rfl, { name := "c-1", podIP := "10.0.0.2" }, by decide, rfl, by decide⟩
  · exact ⟨_, rfl, { name := "c-2", podIP := "10.0.0.3" }, by decide, rfl, by decide⟩

/-- While the third primary waits for its address, a backup completes without its shard. -/
theorem threeShards_completes_without_s2 :
    ∃ result object, Prog.Returns (Handles (threeShardsSite "").admits) (reconcileBackup newBackup)
        (some newBackup) result (some object) ∧ object.phase = .completed ∧
      Required threeShards "s2" ∧ ¬ CoversShards threeShards object.shardArtifacts := by
  have hcluster : (threeShardsSite "").cluster = some threeShards := rfl
  have hsome : SomeTarget threeShards (threeShardsSite "").pods :=
    Or.inl ⟨"s0", _, rfl, { name := "c-0", podIP := "10.0.0.1" }, by decide, rfl, by decide⟩
  have hrequired : Required threeShards "s2" := Or.inl ⟨2, by decide, rfl⟩
  obtain ⟨result, object, hreturns, hdone, htaken⟩ :=
    exists_completed newBackup newBackup hcluster rfl (Or.inl rfl) rfl rfl hsome
  refine ⟨result, object, hreturns, hdone, hrequired, fun hcovers => ?_⟩
  obtain ⟨st, hst, pod, hpod, hname, hip⟩ := htaken.covers_iff.mp hcovers "s2" hrequired
  cases hst
  simp only [threeShardsSite, List.mem_cons, List.not_mem_nil, or_false] at hpod
  rcases hpod with rfl | rfl | rfl
  · exact absurd hname (by decide)
  · exact absurd hname (by decide)
  · exact hip rfl

/-! ## The pod of any other backup -/

/-- The pod holds the cluster's data: it is the primary, or a replica in sync by its last poll. -/
def HasData (cluster : RedisCluster) (pod : Pod) : Prop :=
  pod.isData = true ∧ (pod.name = cluster.status.currentPrimary ∨
    ∃ st, cluster.status.instancesStatus.lookup pod.name = some st ∧ st.connected = true ∧
      st.role = .slave ∧ st.masterLinkStatus = .up)

/-- Listings of these pods, in any order, or errors. -/
def AnyOrder (pods : List Pod) : Surroundings
  | _, .listPods _, r => (∃ listed, listed.Perm pods ∧ r = .ok listed) ∨ Transient r
  | _, _, _ => True

section

variable {cluster : RedisCluster} {target : BackupTarget} {pods : List Pod} {pod : Pod}

/-- A pod the first loop may take. -/
def preferred (cluster : RedisCluster) (pod : Pod) : Bool :=
  pod.name != cluster.status.currentPrimary && pod.podIP != ""

/-- A pod the second loop may take. -/
def leads (cluster : RedisCluster) (pod : Pod) : Bool :=
  pod.name == cluster.status.currentPrimary && pod.podIP != ""

theorem targetPodAmong_eq (cluster : RedisCluster) (target : BackupTarget) (pods : List Pod) :
    targetPodAmong cluster target pods =
      (if target = .preferReplica then pods.find? (preferred cluster) else none).or
        (pods.find? (leads cluster)) := rfl

/-- Over all orders, either loop may return any of its pods. -/
theorem exists_targetPod_iff :
    (∃ listed, listed.Perm pods ∧ targetPodAmong cluster target listed = some pod) ↔
      pod ∈ pods ∧ ((target = .preferReplica ∧ preferred cluster pod = true) ∨
        ((target = .preferReplica → ∀ other ∈ pods, preferred cluster other = false) ∧
          leads cluster pod = true)) := by
  simp only [targetPodAmong_eq, Option.or_eq_some_iff]
  constructor
  · rintro ⟨listed, hperm, hfirst | ⟨hnone, hsecond⟩⟩
    · by_cases htarget : target = .preferReplica
      · rw [if_pos htarget] at hfirst
        exact ⟨hperm.mem_iff.mp (List.mem_of_find?_eq_some hfirst),
          Or.inl ⟨htarget, List.find?_some hfirst⟩⟩
      · rw [if_neg htarget] at hfirst
        cases hfirst
    · refine ⟨hperm.mem_iff.mp (List.mem_of_find?_eq_some hsecond),
        Or.inr ⟨fun htarget other hother => ?_, List.find?_some hsecond⟩⟩
      rw [if_pos htarget, List.find?_eq_none] at hnone
      exact Bool.eq_false_iff.mpr (hnone other (hperm.mem_iff.mpr hother))
  · rintro ⟨hmem, h⟩
    have hperm : (pod :: pods.erase pod).Perm pods := (List.perm_cons_erase hmem).symm
    -- the order that lists this pod first
    refine ⟨pod :: pods.erase pod, hperm, ?_⟩
    rcases h with ⟨htarget, hpref⟩ | ⟨hnone, hlead⟩
    · left
      rw [if_pos htarget, List.find?_cons_of_pos hpref]
    · right
      refine ⟨?_, List.find?_cons_of_pos hlead⟩
      by_cases htarget : target = .preferReplica
      · rw [if_pos htarget, List.find?_eq_none]
        intro other hother
        exact Bool.eq_false_iff.mp (hnone htarget other (hperm.mem_iff.mp hother))
      · rw [if_neg htarget]

/-- What `selectTargetPod` makes of an answer. -/
def readListing (cluster : RedisCluster) (target : BackupTarget) :
    Api (List Pod) → Except String Pod
  | .error err => .error ("listing pods: " ++ err.message)
  | .ok pods =>
    match targetPodAmong cluster target pods with
    | some pod => .ok pod
    | none => .error "no suitable pod found for backup"

theorem readListing_eq_ok {r : Api (List Pod)} :
    readListing cluster target r = .ok pod ↔
      ∃ listed, r = .ok listed ∧ targetPodAmong cluster target listed = some pod := by
  cases r with
  | error err => exact ⟨fun h => (nomatch h), fun ⟨_, h, _⟩ => (nomatch h)⟩
  | ok listed =>
    cases htarget : targetPodAmong cluster target listed with
    | none =>
      simp only [readListing, htarget]
      refine ⟨fun h => (nomatch h), ?_⟩
      rintro ⟨_, ⟨⟩, hsome⟩
      exact nomatch htarget.symm.trans hsome
    | some found =>
      simp only [readListing, htarget, Except.ok.injEq]
      constructor
      · rintro rfl
        exact ⟨listed, rfl, htarget⟩
      · rintro ⟨_, rfl, hsome⟩
        exact Option.some.inj (htarget.symm.trans hsome)

theorem selectTargetPod_eq (l : RedisBackup) :
    selectTargetPod cluster target l =
      .call (.listPods cluster.name) fun r => .pure (.ok (readListing cluster target r, l)) := by
  refine congrArg (Prog.call (BackupCmd.listPods cluster.name)) ?_
  funext r
  cases r with
  | error err => rfl
  | ok pods =>
    show (match targetPodAmong cluster target pods with
      | some pod => (pure (.ok pod) : BackupOp (Except String Pod))
      | none => pure (.error "no suitable pod found for backup")) l = _
    unfold readListing
    cases htarget : targetPodAmong cluster target pods with
    | none => simp only [htarget]; rfl
    | some pod => simp only [htarget]; rfl

/-- The pods `selectTargetPod` can return, over all orders of the listing. -/
theorem returns_selectTargetPod_iff {l : RedisBackup} {stored : Option RedisBackup} :
    (∃ l' stored', Prog.Returns (Handles (AnyOrder pods)) (selectTargetPod cluster target l) stored
        (.ok (.ok pod, l')) stored') ↔
      ∃ listed, listed.Perm pods ∧ targetPodAmong cluster target listed = some pod := by
  rw [selectTargetPod_eq]
  constructor
  · rintro ⟨l', stored', h⟩
    generalize hout : (Except.ok (Except.ok pod, l') :
      Except String (Except String Pod × RedisBackup)) = out at h
    cases h with
    | call hr h =>
      cases h
      obtain ⟨hpod, -⟩ := Prod.mk.inj (Except.ok.inj hout)
      obtain ⟨listed, rfl, htarget⟩ := readListing_eq_ok.mp hpod.symm
      obtain ⟨listed', hperm, hsame⟩ | ⟨_, herror⟩ := hr.1
      · cases hsame
        exact ⟨listed, hperm, htarget⟩
      · cases herror
  · rintro ⟨listed, hperm, htarget⟩
    have hread : readListing cluster target (.ok listed) = .ok pod :=
      readListing_eq_ok.mpr ⟨listed, rfl, htarget⟩
    have hanswer : Handles (AnyOrder pods) stored (.listPods cluster.name) (.ok listed) stored :=
      ⟨Or.inl ⟨listed, hperm, rfl⟩, rfl⟩
    refine ⟨l, stored, .call hanswer ?_⟩
    rw [hread]
    exact .pure

/-- In every order of the listing the backup is taken from a pod with the data,
    exactly if every pod that can come up is one: each pod with an address that
    is not the primary, where a replica is preferred and there is such a pod, and
    the primary otherwise. -/
theorem selectTargetPod_hasData_iff (cluster : RedisCluster) (target : BackupTarget)
    (pods : List Pod) (l : RedisBackup) (stored : Option RedisBackup) :
    (∀ pod l' stored', Prog.Returns (Handles (AnyOrder pods)) (selectTargetPod cluster target l)
        stored (.ok (.ok pod, l')) stored' → HasData cluster pod) ↔
    (target = .preferReplica → ∀ pod ∈ pods, preferred cluster pod = true → HasData cluster pod) ∧
    ((target = .preferReplica → ∀ pod ∈ pods, preferred cluster pod = false) →
      ∀ pod ∈ pods, leads cluster pod = true → pod.isData = true) := by
  have hreturned : ∀ pod, (∃ l' stored', Prog.Returns (Handles (AnyOrder pods))
      (selectTargetPod cluster target l) stored (.ok (.ok pod, l')) stored') ↔ _ := fun pod =>
    returns_selectTargetPod_iff.trans exists_targetPod_iff
  constructor
  · intro h
    refine ⟨fun htarget pod hmem hpref => ?_, fun hnone pod hmem hlead => ?_⟩
    · obtain ⟨l', stored', hret⟩ := (hreturned pod).mpr ⟨hmem, Or.inl ⟨htarget, hpref⟩⟩
      exact h pod l' stored' hret
    · obtain ⟨l', stored', hret⟩ := (hreturned pod).mpr ⟨hmem, Or.inr ⟨hnone, hlead⟩⟩
      exact (h pod l' stored' hret).1
  · rintro ⟨hfirst, hsecond⟩ pod l' stored' hret
    obtain ⟨hmem, ⟨htarget, hpref⟩ | ⟨hnone, hlead⟩⟩ := (hreturned pod).mp ⟨l', stored', hret⟩
    · exact hfirst htarget pod hmem hpref
    · refine ⟨hsecond hnone pod hmem hlead, Or.inl ?_⟩
      exact beq_iff_eq.mp (Bool.and_eq_true_iff.mp hlead).1

end

/-- A sentinel cluster whose data pods all answer. -/
def watchedCluster : RedisCluster where
  name := "c"
  spec := { mode := .sentinel, instances := 3 }
  status :=
    let replica : InstanceStatus := { role := .slave, connected := true, masterLinkStatus := .up }
    { phase := .healthy
      currentPrimary := "c-0"
      instancesStatus := (((∅ : Statuses).insert "c-0"
        { role := .master, connected := true }).insert "c-1" replica).insert "c-2" replica }

/-- One of its sentinel pods. -/
def sentinelPod : Pod where
  name := "c-sentinel-0"
  podIP := "10.0.0.9"
  labels := (∅ : GoMap String String).insert labelRole labelRoleSentinel

/-- Its pods. -/
def watchedPods : List Pod :=
  [{ name := "c-0", podIP := "10.0.0.1" }, { name := "c-1", podIP := "10.0.0.2" },
    { name := "c-2", podIP := "10.0.0.3" }, sentinelPod]

/-- The cluster is healthy, and the backup can go to a sentinel pod. -/
theorem watchedCluster_backs_up_sentinel :
    determinePhase watchedCluster watchedCluster.status.instancesStatus = .healthy ∧
      (∃ l' stored', Prog.Returns (Handles (AnyOrder watchedPods))
        (selectTargetPod watchedCluster .preferReplica newBackup) (some newBackup)
        (.ok (.ok sentinelPod, l')) stored') ∧
      ¬ HasData watchedCluster sentinelPod := by
  refine ⟨by decide, ?_, fun hdata => absurd hdata.1 (by decide)⟩
  rw [returns_selectTargetPod_iff, exists_targetPod_iff]
  exact ⟨by decide, Or.inl ⟨rfl, by decide⟩⟩

end RedisOperator.Backup
