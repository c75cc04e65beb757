/-
  RedisOperator.Cluster.Pvcs

  `pvcs.go` and `maintenance.go`: one claim per ordinal, grown in place when
  the spec asks for more, and recycled during a maintenance window that does
  not reuse claims.
-/

import RedisOperator.Cluster.Pods

namespace RedisOperator

open Lib

/-! ## Maintenance window -/

/-- `isMaintenanceInProgress`. -/
def isMaintenanceInProgress (cluster : RedisCluster) : Bool :=
  match cluster.spec.nodeMaintenanceWindow with
  | none => false
  | some window => window.inProgress

/-- `maintenanceReusePVC`. -/
def maintenanceReusePVC (cluster : RedisCluster) : Bool :=
  match cluster.spec.nodeMaintenanceWindow with
  | none => true
  | some window => window.reusePVC.getD true

/-- The condition of a maintenance window. -/
def maintenanceCondition (inProgress : Bool) (now : Nat) : Condition :=
  conditionOf .maintenanceInProgress now inProgress
    ("MaintenanceEnabled", "Node maintenance window is in progress")
    ("MaintenanceDisabled", "Node maintenance window is not in progress")

/-- Write the condition of the maintenance window. -/
def recordMaintenance (inProgress : Bool) (what : String) : Op Unit := do
  let time ← now
  let cluster ← Act.get
  wrap what
    (patchStatus
      { cluster.status with
        conditions := setCondition cluster.status.conditions
          (maintenanceCondition inProgress time) })

/-- Is the window recorded as open? -/
def maintenanceRecorded (cluster : RedisCluster) : Bool :=
  match findCondition cluster.status.conditions .maintenanceInProgress with
  | none => false
  | some condition => condition.status

/-- `reconcileMaintenance`: is a maintenance window in progress? -/
def reconcileMaintenance : Op Bool := do
  let cluster ← Act.get
  if isMaintenanceInProgress cluster = false then do
    doWhen (maintenanceRecorded cluster = true)
      (recordMaintenance false "patching status after maintenance end")
    pure false
  else do
    wrap "deleting PDB during maintenance" (runSubstep .deletePDB)
    doWhen (maintenanceRecorded cluster = false)
      (recordMaintenance true "patching status for maintenance start")
    pure true

/-- One ordinal of `recyclePVCsForMissingPods`. -/
def recyclePVC (existingPods : List Pod) (index : Nat) : Op Unit := do
  let cluster ← Act.get
  let pvcName := pvcNameForIndex cluster.name index
  if podNameForIndex cluster.name index ∈ existingPods.map Pod.name then pure ()
  else do
    match ← ask (.getPVC pvcName) with
    | .error err =>
      if err.reason = .notFound then pure ()
      else Act.fail ("getting PVC " ++ pvcName ++ " for maintenance recycle: " ++ err.message)
    | .ok pvc =>
      if pvc.terminating then pure ()
      else
        wrap ("deleting PVC " ++ pvcName ++ " for maintenance recycle")
          (do ignoreNotFound (← ask (.deletePVC pvcName)))

/-- `recyclePVCsForMissingPods`. -/
def recyclePVCsForMissingPods : Op Unit := do
  let cluster ← Act.get
  if isMaintenanceInProgress cluster = false ∨ maintenanceReusePVC cluster = true then pure ()
  else do
    let pods ← wrap "listing data pods for maintenance PVC recycle" listDataPods
    Act.forEach (recyclePVC pods) (List.range cluster.spec.desiredDataInstances.toNat)

/-! ## Claims -/

/-- The storage size a claim should have: `1Gi` if the spec leaves it out. -/
def desiredStorage (cluster : RedisCluster) : Int :=
  if cluster.spec.storageSize = 0 then 1073741824 else cluster.spec.storageSize

/-- The claim `createPVC` creates; its uid is the API server's to choose. -/
def newPVC (cluster : RedisCluster) (pvcName : String) : PVC where
  name := pvcName
  request := desiredStorage cluster
  storageClassName := cluster.spec.storageClassName

/-- The storage class that decides about a claim's growth; `""` if unknown. -/
def effectiveStorageClass (cluster : RedisCluster) (pvc : PVC) : String :=
  let own := pvc.storageClassName.getD ""
  if own = "" then cluster.spec.storageClassName.getD "" else own

/-- `canExpandPVC`. -/
def canExpandPVC (cluster : RedisCluster) (pvc : PVC) : Op Bool :=
  let className := effectiveStorageClass cluster pvc
  -- the default class is unknown here; admission decides
  if className = "" then pure true
  else do
    match ← ask (.getStorageClass className) with
    | .ok storageClass => pure (storageClass.allowVolumeExpansion == some true)
    | .error err => if err.reason = .notFound then pure false else Act.fail err.message

/-- Grow a claim that is smaller than the spec asks for. -/
def growPVC (cluster : RedisCluster) (pvc : PVC) : Op Unit := do
  let expandable ← wrap ("checking PVC " ++ pvc.name ++ " expansion support")
    (canExpandPVC cluster pvc)
  doWhen (expandable = true)
    (wrap ("patching PVC " ++ pvc.name ++ " storage request")
      (do ofApi (← ask (.patchPVC pvc { pvc with request := desiredStorage cluster }))))

/-- What the loop of `reconcilePVCs` collects. -/
structure PVCProgress where
  healthyPVC : Int := 0
  pendingResizePVCs : List String := []
  resizeInProgress : Bool := false

/-- One ordinal of the loop of `reconcilePVCs`. -/
def ensurePVC (cluster : RedisCluster) (acc : PVCProgress) (index : Nat) : Op PVCProgress := do
  let pvcName := pvcNameForIndex cluster.name index
  match ← ask (.getPVC pvcName) with
  | .error err =>
    if err.reason ≠ .notFound then
      Act.fail ("getting PVC " ++ pvcName ++ ": " ++ err.message)
    else do
      wrap ("creating PVC " ++ pvcName)
        (do ofApi (← ask (.createPVC (newPVC cluster pvcName))))
      pure { acc with healthyPVC := acc.healthyPVC + 1 }
  | .ok existing => do
      let grows : Bool := decide (existing.request < desiredStorage cluster)
      doWhen (grows = true) (growPVC cluster existing)
      pure
        { healthyPVC := acc.healthyPVC + 1
          pendingResizePVCs :=
            if existing.resizePending then acc.pendingResizePVCs ++ [pvcName]
            else acc.pendingResizePVCs
          resizeInProgress := acc.resizeInProgress || grows || existing.resizePending }

/-- The condition of a volume resize. -/
def resizeCondition (inProgress : Bool) (now : Nat) : Condition :=
  conditionOf .pvcResizeInProgress now inProgress
    ("PVCResizePending", "One or more PVCs are being resized or waiting for filesystem expansion")
    ("PVCResizeComplete", "All PVCs are at the requested storage size")

/-- The conditions after the claims were looked at. -/
def withResizeCondition (conditions : List Condition) (inProgress : Bool) (now : Nat) :
    List Condition :=
  let wasInProgress : Bool :=
    match findCondition conditions .pvcResizeInProgress with
    | none => false
    | some condition => condition.status
  if inProgress then setCondition conditions (resizeCondition true now)
  else if wasInProgress then setCondition conditions (resizeCondition false now)
  else conditions

/-- The claims no pod mounts. -/
def danglingPVCs (pvcs : List PVC) (pods : List Pod) : List String :=
  (pvcs.filter fun pvc => !(pods.any fun pod => decide (pvc.name ∈ pod.claims))).map PVC.name

/-- `reconcilePVCs`: the claims that wait for a restart of their pod. -/
def reconcilePVCs : Op (List String) := do
  let cluster ← Act.get
  let progress ← (List.range cluster.spec.desiredDataInstances.toNat).foldlM (ensurePVC cluster) {}
  let allPVCs ← wrap "listing PVCs" (do ofApi (← ask .listPVCs))
  let existingPods ← wrap "listing pods for PVC check" listClusterPods
  let time ← now
  wrap "patching PVC status"
    (patchStatus
      { cluster.status with
        healthyPVC := wrap32 progress.healthyPVC
        danglingPVC := danglingPVCs allPVCs existingPods
        conditions :=
          withResizeCondition cluster.status.conditions progress.resizeInProgress time })
  pure progress.pendingResizePVCs

end RedisOperator
