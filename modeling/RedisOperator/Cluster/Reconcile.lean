/-
  RedisOperator.Cluster.Reconcile

  `reconciler.go`, with `hibernate.go`, `replica_mode.go` and `sentinel.go`:
  one pass of the cluster controller, its sub-steps in the order of the source.
-/

import RedisOperator.Cluster.RollingUpdate

namespace RedisOperator

open Lib

/-! ## Hibernation -/

/-- `isHibernationEnabled`. -/
def isHibernationEnabled (cluster : RedisCluster) : Bool :=
  match cluster.annotations.hibernation with
  | none => false
  | some value =>
    let v := (trimSpace value.toList).map Char.toLower
    v == "on".toList || v == "true".toList

/-- The condition of a hibernated cluster. -/
def hibernatedCondition (hibernated : Bool) (now : Nat) : Condition :=
  conditionOf .hibernated now hibernated
    ("HibernationEnabled", "Cluster is hibernated, all pods deleted")
    ("HibernationDisabled", "Cluster is resuming from hibernation")

/-- `clearLeaderServiceSelector`. -/
def clearLeaderServiceSelector : Op Unit := do
  let cluster ← Act.get
  match ← ask (.getService (leaderServiceName cluster.name)) with
  | .error err =>
    if err.reason = .notFound then pure ()
    else Act.fail ("getting leader service: " ++ err.message)
  | .ok svc => do
      let selector := instanceSelector cluster.name "none"
      ofApi (← ask (.patchService svc { svc with selector := selector }))

/-- Put the cluster to sleep. -/
def hibernate : Op Unit := do
  let pods ← wrap "listing pods for hibernation" listClusterPods
  Act.forEach (fun pod => wrap ("deleting pod " ++ pod.name ++ " for hibernation")
    (deletePod pod.name .hibernation)) pods
  wrap "clearing leader service selector" clearLeaderServiceSelector
  let cluster ← Act.get
  let time ← now
  wrap "patching status for hibernation"
    (patchStatus
      { cluster.status with
        phase := .hibernating
        readyInstances := 0
        instances := 0
        instancesStatus := ∅
        conditions := setCondition cluster.status.conditions (hibernatedCondition true time) })

/-- Leave hibernation. -/
def resumeFromHibernation : Op Unit := do
  let cluster ← Act.get
  let time ← now
  wrap "patching status for resume"
    (patchStatus
      { cluster.status with
        phase := .creating
        conditions := setCondition cluster.status.conditions (hibernatedCondition false time) })

/-- `reconcileHibernation`: is the cluster hibernating? -/
def reconcileHibernation : Op Bool := do
  let cluster ← Act.get
  if isHibernationEnabled cluster then do
    hibernate
    pure true
  else do
    doWhen (cluster.status.phase = .hibernating) resumeFromHibernation
    pure false

/-! ## Replica mode -/

/-- `replicaModePromotedConditionSet`. -/
def replicaModePromotedConditionSet (cluster : RedisCluster) : Bool :=
  cluster.status.conditions.any fun c =>
    c.type == .replicaMode && c.status == false && c.reason == "ReplicaClusterPromoted"

/-- `replicaModePromotionFinalizationPending`. -/
def replicaModePromotionFinalizationPending (cluster : RedisCluster) : Bool :=
  match cluster.spec.replicaMode with
  | none => false
  | some mode => !mode.enabled && !replicaModePromotedConditionSet cluster

/-- `promotionRequested`. -/
def promotionRequested (cluster : RedisCluster) : Bool :=
  match cluster.spec.replicaMode with
  | none => false
  | some mode => mode.enabled && mode.promote

/-- Switch replica mode off in the spec and read the object back. -/
def disableReplicaMode : Op Unit := do
  let cluster ← Act.get
  let mode := cluster.spec.replicaMode.map fun mode =>
    { mode with enabled := false, promote := false }
  wrap "disabling replicaMode after promotion"
    (patchCluster { cluster with spec := { cluster.spec with replicaMode := mode } } false)
  let stored ← wrap "refetching cluster after replicaMode promotion patch"
    (do ofApi (← ask .getCluster))
  Act.set stored

/-- Record that the replica cluster was promoted. -/
def recordPromotion : Op Unit := do
  let cluster ← Act.get
  let time ← now
  let condition : Condition :=
    { type := .replicaMode
      status := false
      lastTransitionTime := time
      reason := "ReplicaClusterPromoted"
      message := "Replica mode disabled after promoting " ++ cluster.status.currentPrimary ++
        " to standalone primary" }
  wrap "patching replica mode promotion condition"
    (patchStatus
      { cluster.status with conditions := setCondition cluster.status.conditions condition })

/-- `reconcileReplicaModePromotion`: was a promotion finalised? -/
def reconcileReplicaModePromotion (statuses : Statuses) : Op Bool := do
  let cluster ← Act.get
  let primary := statuses.get cluster.status.currentPrimary
  if promotionRequested cluster = false ∧
      replicaModePromotionFinalizationPending cluster = false then pure false
  else if cluster.status.currentPrimary = "" then pure false
  else if primary.connected = false ∨ primary.role ≠ .master then pure false
  else do
    doWhen (promotionRequested cluster = true) disableReplicaMode
    let current ← Act.get
    doWhen (replicaModePromotedConditionSet current = false) recordPromotion
    pure true

/-! ## Sentinel -/

/-- `findPrimaryPodBySentinelHost`. -/
def findPrimaryPodBySentinelHost (dataPods : List Pod) (objectNamespace host : String) : String :=
  match dataPods.find? fun pod => pod.podIP == host ||
      pod.name ++ "." ++ objectNamespace ++ ".svc.cluster.local" == host with
  | none => ""
  | some pod => pod.name

/-- The role label a data pod should carry after a change of primary. -/
def roleLabelAfter (oldPrimary newPrimary : String) (pod : Pod) : String :=
  let currentRole := pod.labels.get labelRole
  if pod.name = newPrimary then labelRolePrimary
  else if pod.name = oldPrimary ∨ currentRole = labelRolePrimary then labelRoleReplica
  else currentRole

/-- `updateDataPodRoleLabels`. -/
def updateDataPodRoleLabels (oldPrimary newPrimary : String) : Op Unit := do
  let pods ← wrap "listing data pods for role label update" listDataPods
  Act.forEach (fun pod =>
    let role := roleLabelAfter oldPrimary newPrimary pod
    doWhen (role ≠ pod.labels.get labelRole)
      (wrap ("patching role label for pod " ++ pod.name)
        (do ofApi (← ask (.patchPod pod { pod with labels := pod.labels.insert labelRole role })))))
    pods

/-- Ask the sentinels in turn: how many were asked, the errors, and the first answer. -/
def querySentinels : List Pod → Op (Nat × List String × String)
  | [] => pure (0, [], "")
  | pod :: pods =>
    if pod.podIP = "" then querySentinels pods
    else do
      match ← ask (.querySentinelMaster pod.podIP) with
      | .ok host => pure (1, [], host)
      | .error err => do
          let later ← querySentinels pods
          pure (later.1 + 1, (pod.podIP ++ ":26379: " ++ err) :: later.2.1, later.2.2)

/-- Make the pod Sentinel elected the current primary. -/
def adoptSentinelMaster (objectNamespace masterHost : String) : Op Unit := do
  let dataPods ← wrap "listing data pods" listDataPods
  let cluster ← Act.get
  let oldPrimary := cluster.status.currentPrimary
  let newPrimary := findPrimaryPodBySentinelHost dataPods objectNamespace masterHost
  if newPrimary = "" then
    Act.fail ("sentinel reported master " ++ quote masterHost.toList ++
      " but no matching data pod found")
  else if newPrimary = oldPrimary then pure ()
  else do
    wrap "patching currentPrimary from sentinel"
      (patchStatus { cluster.status with currentPrimary := newPrimary })
    wrap "updating leader service selector from sentinel" updateLeaderServiceSelector
    wrap "updating pod role labels from sentinel" (updateDataPodRoleLabels oldPrimary newPrimary)

/-- `reconcileSentinelMaster`. -/
def reconcileSentinelMaster (objectNamespace : String) : Op Unit := do
  let sentinelPods ← wrap "listing sentinel pods" listSentinelPods
  wrap "building sentinel client TLS config" (runSubstep .sentinelTLS)
  let answer ← querySentinels sentinelPods
  if answer.1 = 0 then pure ()
  else if answer.2.2 = "" then
    Act.fail ("failed querying sentinel master from " ++ answer.1.repr ++ " endpoints: " ++
      "; ".intercalate answer.2.1)
  else adoptSentinelMaster objectNamespace answer.2.2

/-! ## The pass -/

section

variable (r : ClusterReconciler)

/-- `reconcileGlobalResources`. -/
def reconcileGlobalResources : Op Unit := do
  wrap "service account" (runSubstep .serviceAccount)
  wrap "RBAC" (runSubstep .rbac)
  wrap "ConfigMap" (runSubstep .configMap)
  wrap "PDB" (runSubstep .pdb)

/-- Step 4: a failed poll is logged, and the pass goes on without statuses. -/
def pollOrNone : Op (Statuses) := do
  match ← Act.attempt pollInstanceStatuses with
  | .ok statuses => pure statuses
  | .error _ => pure ∅

/-- Bootstrap, then reshard. -/
def reconcileTopology (statuses : Statuses) : Op Bool := do
  let ready ← wrap "reconciling cluster bootstrap" (reconcileClusterBootstrap statuses)
  if ready = false then pure false
  else wrap "reconciling cluster reshard" (reconcileClusterReshard statuses)

/-- Step 5.2, cluster mode only: may the pass go on? -/
def topologyReady (maintenance : Bool) (statuses : Statuses) : Op Bool := do
  let cluster ← Act.get
  if maintenance = false ∧ cluster.spec.mode = .cluster then reconcileTopology statuses
  else pure true

/-- The restart for a resize, if a claim waits for one: should the pass stop? -/
def resizeRestart (pendingResizePVCs : List String) : Op Bool :=
  if pendingResizePVCs = [] then pure false
  else wrap "rolling restart for PVC resize" (restartPodsForPendingResize pendingResizePVCs)

/-- Step 9, sentinel mode only. -/
def reconcileSentinel : Op Unit := do
  let cluster ← Act.get
  doWhen (cluster.spec.mode = .sentinel) (do
    wrap "reconciling sentinel pods" (runSubstep .sentinelPods)
    wrap "reconciling sentinel master" (reconcileSentinelMaster r.objectNamespace))

/-- The end of step 8: moves of pods that are otherwise in place. -/
def plannedMoves (pendingResizePVCs : List String) : Op Unit := do
  let stop ← resizeRestart pendingResizePVCs
  if stop = true then pure ()
  else do
    let cluster ← Act.get
    let _stop ← wrap "rolling update" (rollingUpdate (r.computeSpecHash cluster))
    -- the stop of the rolling update does not skip step 9
    reconcileSentinel r

/-- Step 7, with the recycling before it: claims that wait for a restart. -/
def reconcileStorage (maintenanceReplace : Bool) : Op (List String) := do
  let cluster ← Act.get
  if cluster.spec.isEphemeral then pure []
  else do
    doWhen (maintenanceReplace = true)
      (wrap "recycling PVCs during maintenance replacement" recyclePVCsForMissingPods)
    wrap "reconciling PVCs" reconcilePVCs

/-- Steps 7 to 9. -/
def reconcileWorkload (maintenance : Bool) (statuses : Statuses) : Op Unit := do
  let cluster ← Act.get
  let maintenanceReplace : Bool := maintenance && !maintenanceReusePVC cluster
  let pendingResizePVCs ← reconcileStorage maintenanceReplace
  doWhen (maintenance = false ∨ maintenanceReplace = true)
    (wrap "reconciling pods" (reconcilePods r statuses))
  doWhen (maintenance = false) (plannedMoves r pendingResizePVCs)

/-- Steps 5.3 to 9. -/
def reconcileInstances (maintenance : Bool) (statuses : Statuses) : Op Unit := do
  let promoted ← wrap "reconciling replica mode promotion" (reconcileReplicaModePromotion statuses)
  if promoted = true then pure ()
  else do
    let cluster ← Act.get
    if maintenance = false ∧ shouldTriggerFailover cluster statuses = true then
      wrap "automatic failover" failover
    else if checkReachability cluster statuses = true then pure ()
    else reconcileWorkload r maintenance statuses

/-- Steps 2 to 9; `services` is step 3. -/
def reconcileAwakeWith (services : Op Unit) (maintenance : Bool) : Op Unit := do
  wrap "reconciling secrets" (runSubstep .secrets)
  wrap "reconciling services" services
  wrap "reconciling connection secret" (runSubstep .connectionSecret)
  let statuses ← pollOrNone
  wrap "updating status" (updateStatus statuses)
  let ready ← topologyReady maintenance statuses
  if ready = false then pure () else reconcileInstances r maintenance statuses

/-- `reconcile`; `services` is step 3. -/
def reconcileWith (services : Op Unit) : Op Unit := do
  wrap "reconciling global resources" reconcileGlobalResources
  let hibernating ← wrap "reconciling hibernation" reconcileHibernation
  if hibernating = true then pure ()
  else do
    let maintenance ← wrap "reconciling maintenance" reconcileMaintenance
    reconcileAwakeWith r services maintenance

/-- Steps 2 to 9, with the Services left outside the model. -/
def reconcileAwake (maintenance : Bool) : Op Unit :=
  reconcileAwakeWith r (runSubstep .services) maintenance

/-- `reconcile`, with the Services left outside the model; `Cluster.Services`
    has the pass with them. -/
def reconcile : Op Unit := reconcileWith r (runSubstep .services)

end

end RedisOperator
