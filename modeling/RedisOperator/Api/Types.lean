/-
  RedisOperator.Api.Types

  The part of `api/v1` (and of the Kubernetes core types) that the modelled
  controllers read or write.  Fields keep the source's names; enumerations of
  strings are inductive types; an annotation or label nobody decodes stays a
  string.  `int32` quantities are `Int`s, with `wrap32` at the places where
  the source's arithmetic can leave the range.
-/

import RedisOperator.Lib.GoMap

namespace RedisOperator

open Lib

/-- Two's-complement `int32` truncation. -/
def wrap32 (n : Int) : Int := Int.bmod n (2 ^ 32)

/-! ## Redis-side vocabulary -/

/-- `role` as `INFO replication` reports it; `unset` is the empty string of a
    pod that was not reached. -/
inductive Role
  | unset | master | slave
  deriving DecidableEq, Repr, Inhabited

/-- `master_link_status`. -/
inductive LinkStatus
  | unset | up | down
  deriving DecidableEq, Repr, Inhabited

/-- `cluster_state` of `CLUSTER INFO`. -/
inductive ClusterState
  | unset | ok | fail
  deriving DecidableEq, Repr, Inhabited

/-- `SlotRange`: an inclusive range of hash slots. -/
structure SlotRange where
  start : Int
  stop : Int
  deriving DecidableEq, Repr, Inhabited

/-- `InstanceStatus`: what one instance manager reported. -/
structure InstanceStatus where
  role : Role := .unset
  connected : Bool := false
  replicationOffset : Int := 0
  connectedReplicas : Int := 0
  masterLinkStatus : LinkStatus := .unset
  nodeID : String := ""
  primaryNodeID : String := ""
  slotsServed : List SlotRange := []
  clusterState : ClusterState := .unset
  currentEpoch : Int := 0
  lastSeenAt : Option Nat := none
  deriving DecidableEq, Repr, Inhabited

/-- What the instance managers reported, by pod name. -/
abbrev Statuses := GoMap String InstanceStatus

/-- `podStatusResponse`: the body of `GET /v1/status`. -/
structure PodStatusResponse where
  role : Role := .unset
  replicationOffset : Int := 0
  connectedReplicas : Int := 0
  masterLinkStatus : LinkStatus := .unset
  connected : Bool := false
  nodeID : String := ""
  primaryNodeID : String := ""
  clusterState : ClusterState := .unset
  slotsServed : List SlotRange := []
  epoch : Int := 0
  deriving DecidableEq, Repr, Inhabited

/-! ## RedisCluster -/

/-- `ClusterMode`. -/
inductive ClusterMode
  | standalone | sentinel | cluster
  deriving DecidableEq, Repr, Inhabited

/-- `StorageType`. -/
inductive StorageType
  | pvc | emptyDir
  deriving DecidableEq, Repr, Inhabited

/-- `PrimaryUpdateStrategy`. -/
inductive PrimaryUpdateStrategy
  | unsupervised | supervised
  deriving DecidableEq, Repr, Inhabited

/-- `ClusterPhase`; `unset` is the empty string of a new object. -/
inductive ClusterPhase
  | unset | creating | healthy | degraded | replicating | failingOver | scaling | updating
  | waitingForUser | deleting | hibernating
  deriving DecidableEq, Repr, Inhabited

/-- The condition types of a RedisCluster. -/
inductive ConditionType
  | ready | primaryAvailable | replicationHealthy | replicaMode | primaryUpdateWaiting
  | lastBackupSucceeded | hibernated | maintenanceInProgress | pvcResizeInProgress
  deriving DecidableEq, Repr, Inhabited

/-- `metav1.Condition`, with the status as a truth value (the controllers only
    ever write `True` and `False`). -/
structure Condition where
  type : ConditionType
  status : Bool
  lastTransitionTime : Nat
  reason : String
  message : String
  deriving DecidableEq, Repr, Inhabited

/-- `BootstrapSpec`. -/
structure BootstrapSpec where
  backupName : String
  deriving DecidableEq, Repr, Inhabited

/-- `NodeMaintenanceWindow`. -/
structure NodeMaintenanceWindow where
  inProgress : Bool
  reusePVC : Option Bool := none
  deriving DecidableEq, Repr, Inhabited

/-- `ReplicaSourceSpec`. -/
structure ReplicaSource where
  host : String := ""
  port : Int := 0
  /-- name of the secret with the source's password -/
  authSecretName : String := ""
  deriving DecidableEq, Repr, Inhabited

/-- `ReplicaModeSpec`. -/
structure ReplicaModeSpec where
  enabled : Bool := false
  promote : Bool := false
  source : Option ReplicaSource := none
  deriving DecidableEq, Repr, Inhabited

/-- `MemorySpec`, quantities in bytes. -/
structure MemorySpec where
  maxMemory : Option Int := none
  maxMemoryPercent : Option Int := none
  maxMemoryPolicy : String := ""
  deriving DecidableEq, Repr, Inhabited

/-- `corev1.ResourceRequirements`, each quantity by its canonical text.  Nobody
    looks into a claim. -/
structure ResourceRequirements where
  limits : GoMap String String := ∅
  requests : GoMap String String := ∅
  claims : List String := []
  deriving DecidableEq, Inhabited

/-- `PrimaryIsolationSpec`, its timeouts in nanoseconds. -/
structure PrimaryIsolationSpec where
  apiServerTimeout : Option Int := none
  peerTimeout : Option Int := none
  deriving DecidableEq, Repr, Inhabited

/-- `RedisClusterSpec`. -/
structure RedisClusterSpec where
  instances : Int := 0
  mode : ClusterMode := .standalone
  shards : Int := 0
  replicasPerShard : Int := 0
  primaryUpdateStrategy : PrimaryUpdateStrategy := .unsupervised
  storageType : StorageType := .pvc
  /-- requested storage in bytes; `0` is the unset quantity -/
  storageSize : Int := 0
  storageClassName : Option String := none
  redis : GoMap String String := ∅
  bootstrap : Option BootstrapSpec := none
  nodeMaintenanceWindow : Option NodeMaintenanceWindow := none
  replicaMode : Option ReplicaModeSpec := none
  /-- name of the secret with the object-store credentials -/
  backupCredentialsSecret : Option String := none
  tlsSecret : Option String := none
  caSecret : Option String := none
  aclConfigSecret : Option String := none
  memory : Option MemorySpec := none
  /-- the memory limit of the Redis container, in bytes -/
  memoryLimit : Option Int := none
  imageName : String := ""
  resources : ResourceRequirements := {}
  minSyncReplicas : Int := 0
  maxSyncReplicas : Int := 0
  enablePodDisruptionBudget : Option Bool := none
  /-- name of the secret with the password -/
  authSecret : Option String := none
  primaryIsolation : Option PrimaryIsolationSpec := none
  nodeSelector : GoMap String String := ∅
  /-- handed to the pods as they are; nobody looks into them -/
  affinity : Option String := none
  tolerations : List String := []
  topologySpreadConstraints : List String := []
  /-- name of the connection secret to publish -/
  connectionSecret : Option String := none
  deriving DecidableEq, Inhabited

/-- `ShardStatus`. -/
structure ShardStatus where
  primaryPod : String := ""
  replicaPods : List String := []
  slotRanges : List SlotRange := []
  primaryNodeID : String := ""
  epoch : Int := 0
  deriving DecidableEq, Repr, Inhabited

/-- `RedisClusterStatus`. -/
structure RedisClusterStatus where
  phase : ClusterPhase := .unset
  currentPrimary : String := ""
  readyInstances : Int := 0
  sentinelReadyInstances : Int := 0
  instances : Int := 0
  instancesStatus : Statuses := ∅
  clusterState : ClusterState := .unset
  slotsAssigned : Int := 0
  bootstrapCompleted : Bool := false
  shards : GoMap String ShardStatus := ∅
  healthyPVC : Int := 0
  danglingPVC : List String := []
  conditions : List Condition := []
  deriving DecidableEq, Inhabited

/-- The value of `redis.io/fencedInstances`, by what `json.Unmarshal` into a
    `[]string` makes of it.  Texts that decode to the same names differ in
    their `spelling`; `0` is the one `json.Marshal` writes. -/
inductive FencedInstances
  | pods (names : List String) (spelling : Nat := 0)
  | malformed (raw : String)
  deriving DecidableEq, Repr, Inhabited

/-- The annotations the controllers look at. -/
structure Annotations where
  fencedInstances : Option FencedInstances := none
  clusterHandover : String := ""
  hibernation : Option String := none
  approvePrimaryUpdate : Option String := none
  deriving DecidableEq, Repr, Inhabited

/-- `RedisCluster`. -/
structure RedisCluster where
  name : String
  annotations : Annotations := {}
  spec : RedisClusterSpec := {}
  status : RedisClusterStatus := {}
  deriving DecidableEq, Inhabited

/-- `RedisClusterSpec.DesiredDataInstances`, in `int32` arithmetic. -/
def RedisClusterSpec.desiredDataInstances (s : RedisClusterSpec) : Int :=
  if s.mode ≠ .cluster then s.instances
  else
    let shards := if s.shards < 3 then 3 else s.shards
    let replicasPerShard := if s.replicasPerShard < 0 then 0 else s.replicasPerShard
    wrap32 (shards * wrap32 (1 + replicasPerShard))

theorem wrap32_of_lt {n : Int} (h0 : 0 ≤ n) (h : n < 2 ^ 31) : wrap32 n = n := by
  unfold wrap32
  rw [Int.bmod_def]
  omega

/-- Without overflow, `DesiredDataInstances` is the product it looks like. -/
theorem RedisClusterSpec.desiredDataInstances_eq {s : RedisClusterSpec} (hmode : s.mode = .cluster)
    (hshards : 3 ≤ s.shards) (hrep : 0 ≤ s.replicasPerShard)
    (hwrap : s.shards * (1 + s.replicasPerShard) < 2 ^ 31) :
    s.desiredDataInstances = s.shards * (1 + s.replicasPerShard) := by
  have hr : 1 * (1 + s.replicasPerShard) ≤ s.shards * (1 + s.replicasPerShard) :=
    Int.mul_le_mul_of_nonneg_right (by omega) (by omega)
  unfold RedisClusterSpec.desiredDataInstances
  rw [if_neg (by simp [hmode]), if_neg (by omega), if_neg (by omega)]
  dsimp only
  rw [wrap32_of_lt (n := 1 + s.replicasPerShard) (by omega) (by omega),
    wrap32_of_lt (by omega) hwrap]

/-- `ResolveMaxMemoryBytes`; the product is taken in `int64`. -/
def RedisClusterSpec.resolveMaxMemoryBytes (s : RedisClusterSpec) : Option Int :=
  match s.memory with
  | none => none
  | some memory =>
    match memory.maxMemory, memory.maxMemoryPercent with
    | some v, _ => if 0 < v then some v else none
    | none, none => none
    | none, some pct =>
      let limit := s.memoryLimit.getD 0
      if pct ≤ 0 ∨ limit ≤ 0 then none
      else
        let bytes := (Int.bmod (limit * pct) (2 ^ 64)).tdiv 100
        if 0 < bytes then some bytes else none

/-- `EffectiveMaxMemoryPolicy`. -/
def RedisClusterSpec.effectiveMaxMemoryPolicy (s : RedisClusterSpec) : String :=
  match s.memory with
  | none => ""
  | some memory => memory.maxMemoryPolicy

/-- `isTLSEnabled`. -/
def RedisClusterSpec.isTLSEnabled (s : RedisClusterSpec) : Bool :=
  s.tlsSecret.isSome && s.caSecret.isSome

/-- `StorageSpec.IsEphemeral`. -/
def RedisClusterSpec.isEphemeral (s : RedisClusterSpec) : Bool := s.storageType = .emptyDir

/-- `isReplicaModeEnabled`. -/
def isReplicaModeEnabled (cluster : RedisCluster) : Bool :=
  match cluster.spec.replicaMode with
  | none => false
  | some m => m.enabled

/-! ## Pods and volume claims -/

/-- `Pod.Status.Phase`. -/
inductive PodPhase
  | pending | running | succeeded | failed | unknown
  deriving DecidableEq, Repr, Inhabited

/-- A pod condition, reduced to what the controllers test. -/
structure PodCondition where
  type : String
  isTrue : Bool
  deriving DecidableEq, Repr, Inhabited

/-- The arguments of the `restore-data` init container. -/
structure RestoreArgs where
  clusterName : String
  backupName : String
  podName : String
  deriving DecidableEq, Repr, Inhabited

/-- `corev1.Pod`. -/
structure Pod where
  name : String
  podIP : String := ""
  labels : GoMap String String := ∅
  annotations : GoMap String String := ∅
  /-- claim names of its persistent-volume-claim volumes -/
  claims : List String := []
  phase : PodPhase := .pending
  conditions : List PodCondition := []
  /-- has a controller owner reference -/
  controlled : Bool := false
  /-- the `restore-data` init container, if it has one -/
  restoreInit : Option RestoreArgs := none
  deriving DecidableEq, Inhabited

/-- `corev1.PersistentVolumeClaim`. -/
structure PVC where
  name : String
  /-- `metadata.uid`: a claim made anew under an old name has another one -/
  uid : Nat := 0
  /-- `DeletionTimestamp` is set -/
  terminating : Bool := false
  /-- requested storage in bytes -/
  request : Int := 0
  storageClassName : Option String := none
  /-- has the condition `FileSystemResizePending=True` -/
  resizePending : Bool := false
  deriving DecidableEq, Repr, Inhabited

/-- `storagev1.StorageClass`. -/
structure StorageClass where
  allowVolumeExpansion : Option Bool := none
  deriving DecidableEq, Repr, Inhabited

/-- `corev1.ServicePort`. -/
structure ServicePort where
  name : String
  port : Nat
  targetPort : Nat
  protocol : String
  deriving DecidableEq, Repr, Inhabited

/-- `corev1.Service`. -/
structure Service where
  name : String
  selector : GoMap String String := ∅
  ports : List ServicePort := []
  /-- `None` for a headless Service, and set by the API server for others -/
  clusterIP : String := ""
  annotations : GoMap String String := ∅
  deriving DecidableEq, Inhabited

/-- Label keys and values (`redis.io/...`). -/
def labelCluster : String := "redis.io/cluster"
def labelInstance : String := "redis.io/instance"
def labelRole : String := "redis.io/role"
def labelShard : String := "redis.io/shard"
def labelShardRole : String := "redis.io/shard-role"
def labelRolePrimary : String := "primary"
def labelRoleReplica : String := "replica"
def labelRoleSentinel : String := "sentinel"
def labelWorkload : String := "redis.io/workload"
def labelWorkloadData : String := "data"
def labelWorkloadSentinel : String := "sentinel"

/-- `specHashAnnotation`. -/
def specHashAnnotation : String := "redis.io/spec-hash"

/-- `getPodSpecHash`: the annotation, or the label of pods from before it. -/
def getPodSpecHash (pod : Pod) : String :=
  match pod.annotations.lookup specHashAnnotation with
  | some hash => hash
  | none => pod.labels.get specHashAnnotation

/-- `isPodRunningAndReady`. -/
def isPodRunningAndReady (pod : Pod) : Bool :=
  if pod.phase ≠ .running then false
  else pod.conditions.any fun c => c.type = "Ready" && c.isTrue

end RedisOperator
