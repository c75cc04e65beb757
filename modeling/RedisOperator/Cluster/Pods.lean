/-
  RedisOperator.Cluster.Pods

  `pods.go`: the data pods of a cluster are created, adopted and scaled down
  by ordinal.  Of a pod's spec the model keeps the claims it mounts and the
  restore init container.
-/

import RedisOperator.Cluster.Topology

namespace RedisOperator

open Lib

/-- `ClusterReconciler`, by what its methods read. -/
structure ClusterReconciler where
  /-- `computeSpecHash`, the hash of the pod template -/
  computeSpecHash : RedisCluster → String
  /-- the namespace of the cluster's objects -/
  objectNamespace : String

/-! ## The bootstrap backup -/

/-- `getBootstrapBackup`. -/
def getBootstrapBackup (cluster : RedisCluster) : Op RedisBackup :=
  match cluster.spec.bootstrap with
  | none => Act.fail "spec.bootstrap.backupName is required"
  | some bootstrap =>
    if bootstrap.backupName = "" then Act.fail "spec.bootstrap.backupName is required"
    else do ofApi (← ask (.getBackup bootstrap.backupName))

/-- The name of a cluster's bootstrap backup. -/
def bootstrapBackupName (cluster : RedisCluster) : String :=
  match cluster.spec.bootstrap with
  | none => ""
  | some bootstrap => bootstrap.backupName

/-- Why a backup cannot be restored from, if so; `label` is `namespace/name`. -/
def bootstrapBackupError (label : String) (backup : RedisBackup) : Option String :=
  let lead := "bootstrap backup " ++ label
  if backup.phase ≠ .completed then
    some (lead ++ " is not completed (phase=" ++ backup.phase.text ++ ")")
  else
    match validateDestination backup.destination with
    | some err => some (lead ++ " has invalid destination: " ++ err)
    | none =>
      if backup.backupPath = "" then some (lead ++ " has empty status.backupPath")
      else
        match backup.method with
        | .other text => some (lead ++ " uses unsupported method " ++ quote text.toList)
        | _ => none

section

variable (r : ClusterReconciler)

/-- The restore init container of a new pod, if it gets one. -/
def restoreContainer (cluster : RedisCluster) (podName : String) (index : Nat) (role : String) :
    Op (Option RestoreArgs) :=
  if shouldRestoreFromBackup cluster podName index role = false then pure none
  else do
    let backup ← wrap ("getting bootstrap backup " ++ quote (bootstrapBackupName cluster).toList)
      (getBootstrapBackup cluster)
    match bootstrapBackupError (r.objectNamespace ++ "/" ++ backup.name) backup with
    | some err => Act.fail err
    | none =>
      pure (some { clusterName := cluster.name, backupName := backup.name, podName := podName })

/-! ## One pod -/

/-- The pod `createPodWithLabels` creates. -/
def newDataPod (cluster : RedisCluster) (podName : String) (index : Nat)
    (labels : GoMap String String) (restore : Option RestoreArgs) : Pod where
  name := podName
  labels := labels
  annotations := (∅ : GoMap String String).insert specHashAnnotation (r.computeSpecHash cluster)
  -- `dataVolumeSource`
  claims := if cluster.spec.isEphemeral then [] else [pvcNameForIndex cluster.name index]
  controlled := true
  restoreInit := restore

/-- The labels an existing pod is brought to. -/
def mergeLabels (existing labels : GoMap String String) : GoMap String String :=
  labels.pairs.foldl (fun m kv => if m.get kv.1 = kv.2 then m else m.insert kv.1 kv.2) existing

/-- A merged pod reads the new labels. -/
theorem mergeLabels_get {existing labels : GoMap String String} {key value : String}
    (h : labels.lookup key = some value) : (mergeLabels existing labels).get key = value := by
  have hstep : ∀ (m : GoMap String String) (e : String × String) k, k ≠ e.1 →
      (if m.get e.1 = e.2 then m else m.insert e.1 e.2).lookup k = m.lookup k := by
    intro m e k hk
    split
    · rfl
    · exact GoMap.lookup_insert_ne hk
  refine GoMap.lookup_foldl_of_mem (p := fun v => v.getD default = value) hstep
    (labels.map_fst_pairs ▸ labels.keys_nodup) (GoMap.mem_pairs.mpr h) (fun m => ?_) existing
  dsimp only
  split
  · assumption
  · rw [GoMap.lookup_insert_self]
    rfl

/-- Labels and owner reference of a pod that exists already. -/
def adoptPod (existing : Pod) (labels : GoMap String String) : Op Unit :=
  let after := { existing with labels := mergeLabels existing.labels labels, controlled := true }
  if after = existing then pure ()
  else wrap ("patching pod " ++ existing.name ++ " metadata")
    (do ofApi (← ask (.patchPod existing after)))

/-- `createPodWithLabels`. -/
def createPodWithLabels (podName : String) (index : Nat) (role : String)
    (labels : GoMap String String) : Op Unit := do
  let cluster ← Act.get
  match ← ask (.getPod podName) with
  | .ok existing => adoptPod existing labels
  -- any error counts as absence
  | .error _ => do
      let restore ← restoreContainer r cluster podName index role
      wrap "creating pod"
        (do ofApi (← ask (.createPod (newDataPod r cluster podName index labels restore))))

/-! ## All pods -/

/-- The labels of the data pod of an ordinal. -/
def dataPodLabels (cluster : RedisCluster) (layout : ShardLayout) (index : Nat) :
    GoMap String String :=
  let podName := podNameForIndex cluster.name index
  (layout.labels podName).pairs.foldl (fun m kv => m.insert kv.1 kv.2)
    (podLabels cluster.name podName (dataPodRole cluster layout index))

/-- The layout adds labels about shards only. -/
theorem dataPodLabels_lookup {cluster : RedisCluster} {layout : ShardLayout} {index : Nat}
    {key : String} (hshard : key ≠ labelShard) (hrole : key ≠ labelShardRole) :
    (dataPodLabels cluster layout index).lookup key =
      (podLabels cluster.name (podNameForIndex cluster.name index)
        (dataPodRole cluster layout index)).lookup key := by
  refine GoMap.lookup_foldl_of_not_mem (fun m e k hk => GoMap.lookup_insert_ne hk) ?_ _
  rw [GoMap.map_fst_pairs, GoMap.mem_keys]
  unfold ShardLayout.labels
  split
  · exact GoMap.not_mem_empty
  · simp [hshard, hrole]

theorem dataPodLabels_instance (cluster : RedisCluster) (layout : ShardLayout) (index : Nat) :
    (dataPodLabels cluster layout index).lookup labelInstance =
      some (podNameForIndex cluster.name index) := by
  rw [dataPodLabels_lookup (by decide) (by decide)]
  rfl

theorem dataPodLabels_role (cluster : RedisCluster) (layout : ShardLayout) (index : Nat) :
    (dataPodLabels cluster layout index).lookup labelRole =
      some (dataPodRole cluster layout index) := by
  rw [dataPodLabels_lookup (by decide) (by decide)]
  rfl

/-- One ordinal of the creation loop. -/
def ensurePod (layout : ShardLayout) (index : Nat) : Op Unit := do
  let cluster ← Act.get
  let podName := podNameForIndex cluster.name index
  wrap ("creating pod " ++ podName)
    (createPodWithLabels r podName index (dataPodRole cluster layout index)
      (dataPodLabels cluster layout index))

/-- The pods above the desired count, highest ordinal first. -/
def scaleDownPods (cluster : RedisCluster) (pods : List Pod) : List Pod :=
  (pods.insertionSort fun a b =>
      podIndex cluster.name b.name ≤ podIndex cluster.name a.name).take
    ((pods.length : Int) - cluster.spec.desiredDataInstances).toNat

/-- One pod of the scale-down loop; the primary is skipped. -/
def scaleDownPod (pod : Pod) : Op Unit := do
  let cluster ← Act.get
  doWhen (pod.name ≠ cluster.status.currentPrimary)
    (wrap ("deleting pod " ++ pod.name) (deletePod pod.name .scaleDown))

/-- The scale-down loop; with a negative desired count it runs past the list. -/
def scaleDown (pods : List Pod) : Op Unit := do
  let cluster ← Act.get
  Act.forEach scaleDownPod (scaleDownPods cluster pods)
  if cluster.spec.desiredDataInstances < 0 then Act.fail "runtime error: index out of range"
  else pure ()

/-- The layout pods are labelled by; only a sharded cluster has one. -/
def podLayout (cluster : RedisCluster) (pods : List Pod) (statuses : Statuses) : Op ShardLayout :=
  if cluster.spec.mode = .cluster then do
    let order ← ask .mapOrder
    pure (planShardLayout order cluster pods statuses)
  else pure {}

/-- The first pod becomes the primary of a cluster that has none. -/
def setInitialPrimary : Op Unit := do
  let cluster ← Act.get
  doWhen (cluster.spec.mode ≠ .cluster ∧ cluster.status.currentPrimary = "" ∧
      0 < cluster.spec.desiredDataInstances)
    (wrap "setting initial primary"
      (patchStatus
        { cluster.status with
          currentPrimary := podNameForIndex cluster.name 0
          phase := .creating }))

/-- `reconcilePods`. -/
def reconcilePods (statuses : Statuses) : Op Unit := do
  let existingPods ← wrap "listing pods" listDataPods
  let cluster ← Act.get
  let desired := cluster.spec.desiredDataInstances
  let layout ← podLayout cluster existingPods statuses
  Act.forEach (ensurePod r layout) (List.range desired.toNat)
  doWhen (desired < (existingPods.length : Int)) (scaleDown existingPods)
  setInitialPrimary

end

end RedisOperator
