/-
  RedisOperator.Cluster.PodSpec

  The decisions `pods.go` takes about one data pod: its role, its labels and
  whether it gets the restore init container.
-/

import RedisOperator.Cluster.Layout

namespace RedisOperator

open Lib

/-- `podLabels`. -/
def podLabels (clusterName podName role : String) : GoMap String String :=
  let workload := if role = labelRoleSentinel then labelWorkloadSentinel else labelWorkloadData
  ((((∅ : GoMap String String).insert labelCluster clusterName).insert labelInstance podName).insert
    labelRole role).insert labelWorkload workload

/-- The role `reconcilePods` gives the pod of an ordinal. -/
def dataPodRole (cluster : RedisCluster) (layout : ShardLayout) (index : Nat) : String :=
  let podName := podNameForIndex cluster.name index
  if cluster.spec.mode = .cluster then
    if layout.isPrimary podName then labelRolePrimary else labelRoleReplica
  else if podName = cluster.status.currentPrimary ∨
      (cluster.status.currentPrimary = "" ∧ index = 0) then labelRolePrimary
  else labelRoleReplica

/-- `shouldRestoreFromBackup`. -/
def shouldRestoreFromBackup (cluster : RedisCluster) (podName : String) (index : Nat)
    (role : String) : Bool :=
  match cluster.spec.bootstrap with
  | none => false
  | some bootstrap =>
    if bootstrap.backupName = "" then false
    else if cluster.spec.mode = .cluster then
      !cluster.status.bootstrapCompleted && role == labelRolePrimary
    else
      cluster.status.currentPrimary == "" && index == 0 &&
        podName == podNameForIndex cluster.name 0

/-- The data pods `reconcilePods` creates with the restore init container, when
    none exists yet. -/
def restorePods (cluster : RedisCluster) (layout : ShardLayout) : List String :=
  ((List.range cluster.spec.desiredDataInstances.toNat).filter fun i =>
      shouldRestoreFromBackup cluster (podNameForIndex cluster.name i) i
        (dataPodRole cluster layout i)).map
    (podNameForIndex cluster.name)

end RedisOperator
