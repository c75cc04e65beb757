/-
  RedisOperator.Cluster.Status

  `status.go`: the poll of the instance managers, what the controller derives
  from it (shards, phase, conditions), and the two tests a pass bases its
  course on, `checkReachability` and `shouldTriggerFailover`.
-/

import RedisOperator.Cluster.Requests

namespace RedisOperator

open Lib

/-! ## The poll -/

/-- The entry of a pod that answered. -/
def instanceStatusOf (response : PodStatusResponse) (seen : Nat) : InstanceStatus where
  role := response.role
  connected := response.connected
  replicationOffset := response.replicationOffset
  connectedReplicas := wrap32 response.connectedReplicas
  masterLinkStatus := response.masterLinkStatus
  nodeID := response.nodeID
  primaryNodeID := response.primaryNodeID
  slotsServed := response.slotsServed
  clusterState := response.clusterState
  currentEpoch := response.epoch
  lastSeenAt := some seen

/-- One pod of the loop of `pollInstanceStatuses`. -/
def pollPod (statuses : Statuses) (pod : Pod) : Op (Statuses) :=
  if pod.podIP = "" then pure statuses
  else do
    match ← ask (.getStatus pod.podIP) with
    -- no answer: the pod is entered as not connected, with nothing else known
    | .error _ => pure (statuses.insert pod.name {})
    | .ok response => do
        let seen ← now
        pure (statuses.insert pod.name (instanceStatusOf response seen))

/-- `pollInstanceStatuses`. -/
def pollInstanceStatuses : Op (Statuses) := do
  let pods ← wrap "listing pods for status poll" listDataPods
  pods.foldlM pollPod ∅

/-- The number of polled pods that are connected. -/
def connectedCount (statuses : Statuses) : Nat :=
  (statuses.pairs.filter fun p => p.2.connected).length

/-! ## Shards -/

/-- `clusterState` of `deriveClusterStatus`: `ok` unless some pod says otherwise. -/
def deriveClusterState (statuses : Statuses) : ClusterState :=
  statuses.pairs.foldl (fun state p =>
    if p.2.clusterState ≠ .unset ∧ p.2.clusterState ≠ .ok then p.2.clusterState else state)
    (if 0 < statuses.len then .ok else .unset)

/-- One polled pod of the loop that fills `shards`. -/
def addToShard (layout : ShardLayout) (shards : GoMap String ShardStatus)
    (p : String × InstanceStatus) : GoMap String ShardStatus :=
  match layout.shardOf.lookup p.1 with
  | none => shards
  | some shardIndex =>
    let old := shards.get (shardName shardIndex)
    let known := { old with epoch := max old.epoch p.2.currentEpoch }
    let leads : Bool := (layout.isPrimary p.1 && !layout.handingOver shardIndex) ||
      layout.ownerOf.get shardIndex == p.1
    shards.insert (shardName shardIndex)
      (if leads then
        { known with
          primaryPod := p.1
          primaryNodeID := p.2.nodeID
          slotRanges := p.2.slotsServed }
      else { known with replicaPods := known.replicaPods ++ [p.1] })

/-- `slotsAssigned` of `deriveClusterStatus`: the slots that placed pods serve. -/
def deriveSlotsAssigned (layout : ShardLayout) (statuses : Statuses) : Nat :=
  ((List.range 16384).filter fun slot : Nat =>
    statuses.pairs.any fun p => decide (p.1 ∈ layout.shardOf) &&
      p.2.slotsServed.any fun r =>
        decide (max r.start 0 ≤ (slot : Int) ∧ (slot : Int) ≤ min r.stop 16383)).length

/-- `deriveClusterStatus`. -/
def deriveClusterStatus (order : MapOrder) (cluster : RedisCluster) (pods : List Pod)
    (statuses : Statuses) : ClusterState × Int × GoMap String ShardStatus :=
  let layout := planShardLayout order cluster pods statuses
  let shards := statuses.pairs.foldl (addToShard layout) ∅
  (deriveClusterState statuses, deriveSlotsAssigned layout statuses,
    shards.mapValues fun shard =>
      { shard with replicaPods := shard.replicaPods.insertionSort (· ≤ ·) })

/-! ## Phase -/

/-- `int32(len(statuses)) >= cluster.Spec.DesiredDataInstances()`. -/
def enoughInstances (cluster : RedisCluster) (statuses : Statuses) : Bool :=
  decide (cluster.spec.desiredDataInstances ≤ wrap32 statuses.len)

/-- `determinePhase`. -/
def determinePhase (cluster : RedisCluster) (statuses : Statuses) : ClusterPhase :=
  let all := fun (test : InstanceStatus → Bool) => statuses.pairs.all fun p => test p.2
  if statuses.len = 0 then .creating
  else if cluster.spec.mode = .cluster then
    if cluster.status.clusterState = .ok ∧ cluster.status.slotsAssigned = 16384 ∧
        enoughInstances cluster statuses = true then .healthy
    else if cluster.status.slotsAssigned = 0 ∨ cluster.status.clusterState = .unset then .creating
    else .degraded
  else if isReplicaModeEnabled cluster then
    if all (fun s => s.connected && s.role == .slave && s.masterLinkStatus == .up) = true ∧
        enoughInstances cluster statuses = true then .replicating
    else .degraded
  else if (statuses.pairs.any fun p => p.2.role == .master) = false then
    if cluster.spec.mode = .sentinel then .degraded else .failingOver
  else if all (·.connected) = true ∧ enoughInstances cluster statuses = true then .healthy
  else .degraded

/-! ## Conditions -/

/-- A condition whose reason and message depend on its status. -/
def conditionOf (type : ConditionType) (now : Nat) (status : Bool)
    (whenTrue whenFalse : String × String) : Condition :=
  let text := if status then whenTrue else whenFalse
  { type := type, status := status, lastTransitionTime := now, reason := text.1, message := text.2 }

/-- The conditions of a sharded cluster. -/
def clusterConditions (cluster : RedisCluster) (statuses : Statuses) (now : Nat) : List Condition :=
  let shards := cluster.status.shards.pairs.map (·.2)
  let primaryCount : Int := (shards.filter fun shard => shard.primaryPod != "").length
  let enoughPrimaries : Bool := decide (cluster.spec.shards ≤ primaryCount)
  let replicasHealthy : Bool := shards.all fun shard =>
    decide (cluster.spec.replicasPerShard ≤ 0) ||
      (decide (cluster.spec.replicasPerShard ≤ (shard.replicaPods.length : Int)) &&
        shard.replicaPods.all fun pod => (statuses.get pod).connected)
  [ conditionOf .ready now
      (cluster.status.clusterState == .ok && cluster.status.slotsAssigned == 16384 &&
        enoughPrimaries)
      ("ClusterSlotsCovered", "Redis Cluster is healthy with complete slot coverage")
      ("ClusterNotReady", "Redis Cluster is not healthy or slot coverage is incomplete"),
    conditionOf .primaryAvailable now enoughPrimaries
      ("ShardsAvailable", "Every shard has an available primary")
      ("ShardsUnavailable", "One or more shards do not have an available primary"),
    conditionOf .replicationHealthy now replicasHealthy
      ("ClusterReplicasHealthy", "Shard replicas are connected")
      ("ClusterReplicasDegraded", "One or more shard replicas are unavailable") ]

/-- The conditions of a cluster that replicates from an external source. -/
def replicaModeConditions (cluster : RedisCluster) (statuses : Statuses)
    (now : Nat) : List Condition :=
  let leaderConnected := (statuses.get cluster.status.currentPrimary).connected
  let replicating : Bool :=
    (statuses.pairs.all fun p =>
      p.2.connected && p.2.role == .slave && p.2.masterLinkStatus == .up) &&
    decide (0 < statuses.len)
  [ conditionOf .ready now leaderConnected
      ("ReplicaModeReady", "Replica-mode leader is reachable")
      ("ReplicaModeLeaderUnavailable", "Replica-mode leader is not reachable"),
    conditionOf .primaryAvailable now leaderConnected
      ("ReplicaLeaderAvailable",
        "Replica leader " ++ cluster.status.currentPrimary ++ " is connected")
      ("ReplicaLeaderUnavailable", "Replica leader is not available"),
    conditionOf .replicationHealthy now replicating
      ("ExternalReplicationHealthy", "All instances are replicating from the external source")
      ("ExternalReplicationDegraded",
        "One or more instances are not replicating from the external source"),
    conditionOf .replicaMode now replicating
      ("ReplicatingFromExternal", "Replica mode is enabled and external replication is healthy")
      ("ExternalReplicationUnhealthy",
        "Replica mode is enabled but external replication is unhealthy") ]

/-- The conditions of a standalone or sentinel cluster. -/
def standaloneConditions (cluster : RedisCluster) (statuses : Statuses)
    (now : Nat) : List Condition :=
  let ready : Bool := statuses.pairs.any fun p => p.2.role == .master && p.2.connected
  let replicasConnected : Bool := statuses.pairs.all fun p =>
    p.1 == cluster.status.currentPrimary || (p.2.connected && p.2.masterLinkStatus == .up)
  [ conditionOf .ready now ready
      ("ClusterReady", "Cluster has a reachable primary")
      ("NoPrimaryAvailable", "No reachable primary instance found"),
    conditionOf .primaryAvailable now ready
      ("PrimaryRunning", "Primary " ++ cluster.status.currentPrimary ++ " is running")
      ("PrimaryUnavailable", "Primary is not available"),
    conditionOf .replicationHealthy now (replicasConnected && decide (1 < statuses.len))
      ("ReplicasConnected", "All replicas are connected and replicating")
      ("ReplicasNotHealthy", "One or more replicas are not connected") ]

/-- `determineConditions`. -/
def determineConditions (cluster : RedisCluster) (statuses : Statuses)
    (now : Nat) : List Condition :=
  if cluster.spec.mode = .cluster then clusterConditions cluster statuses now
  else if isReplicaModeEnabled cluster then replicaModeConditions cluster statuses now
  else standaloneConditions cluster statuses now

/-- `meta.FindStatusCondition`. -/
def findCondition (conditions : List Condition) (type : ConditionType) : Option Condition :=
  conditions.find? fun c => c.type == type

/-- `setCondition`. -/
def setCondition : List Condition → Condition → List Condition
  | [], condition => [condition]
  | c :: conditions, condition =>
    if c.type = condition.type then condition :: conditions
    else c :: setCondition conditions condition

/-- `preserveConditions`. -/
def preserveConditions (existing current : List Condition) (types : List ConditionType) :
    List Condition :=
  types.foldl (fun current type =>
    if current.any fun c => c.type == type then current
    else
      match findCondition existing type with
      | none => current
      | some condition => current ++ [condition]) current

/-- `carryTransitionTimes`. -/
def carryTransitionTimes (existing current : List Condition) : List Condition :=
  current.map fun condition =>
    match findCondition existing condition.type with
    | none => condition
    | some old =>
      if old.status = condition.status then
        { condition with lastTransitionTime := old.lastTransitionTime }
      else condition

/-- The conditions `updateStatus` takes over when it did not compute them anew. -/
def preservedConditions : List ConditionType :=
  [.hibernated, .maintenanceInProgress, .primaryUpdateWaiting, .pvcResizeInProgress, .replicaMode]

/-! ## The status update -/

/-- `countReadySentinelPods`. -/
def countReadySentinelPods : Op Int := do
  let cluster ← Act.get
  if cluster.spec.mode ≠ .sentinel then pure 0
  else do
    let pods ← listSentinelPods
    pure (pods.filter fun pod => pod.conditions.any fun c => c.type = "Ready" && c.isTrue).length

/-- The status after the poll's counters are entered. -/
def withCounters (status : RedisClusterStatus) (statuses : Statuses) : RedisClusterStatus :=
  { status with
    instancesStatus := statuses
    readyInstances := wrap32 (connectedCount statuses)
    instances := wrap32 statuses.len }

theorem withCounters_currentPrimary (status : RedisClusterStatus)
    (statuses : Statuses) :
    (withCounters status statuses).currentPrimary = status.currentPrimary := by
  cases status
  rfl

/-- The status of a sharded cluster; `bootstrapCompleted` only ever becomes true. -/
def withShards (status : RedisClusterStatus)
    (derived : ClusterState × Int × GoMap String ShardStatus) : RedisClusterStatus :=
  { status with
    clusterState := derived.1
    slotsAssigned := derived.2.1
    shards := derived.2.2
    currentPrimary := ""
    bootstrapCompleted :=
      status.bootstrapCompleted || (derived.1 == .ok && derived.2.1 == 16384) }

/-- The status of a cluster that is not sharded. -/
def withoutShards (status : RedisClusterStatus) : RedisClusterStatus :=
  { status with
    clusterState := .unset
    slotsAssigned := 0
    bootstrapCompleted := false
    shards := ∅ }

theorem withoutShards_currentPrimary (status : RedisClusterStatus) :
    (withoutShards status).currentPrimary = status.currentPrimary := rfl

/-- The part of `updateStatus` that depends on the mode. -/
def deriveStatus (statuses : Statuses) : Op RedisClusterStatus := do
  let cluster ← Act.get
  let counted := withCounters cluster.status statuses
  if cluster.spec.mode = .cluster then do
    let pods ← wrap "listing data pods for shard status" listDataPods
    let order ← ask .mapOrder
    pure (withShards counted
      (deriveClusterStatus order { cluster with status := counted } pods statuses))
  else pure (withoutShards counted)

/-- Phase and conditions, computed last. -/
def withSummary (before : RedisCluster) (status : RedisClusterStatus)
    (statuses : Statuses) (now : Nat) : RedisClusterStatus :=
  let phased := { status with phase := determinePhase { before with status := status } statuses }
  let fresh := determineConditions { before with status := phased } statuses now
  let existing := before.status.conditions
  { phased with
    conditions := carryTransitionTimes existing
      (preserveConditions existing fresh preservedConditions) }

/-- `updateStatus`. -/
def updateStatus (statuses : Statuses) : Op Unit := do
  let before ← Act.get
  let derived ← deriveStatus statuses
  let sentinelReady ← wrap "counting ready sentinel pods" countReadySentinelPods
  let time ← now
  let status := withSummary before { derived with sentinelReadyInstances := sentinelReady }
    statuses time
  -- no write when nothing moved
  if before.status = status then pure () else patchStatus status

/-! ## Tests on the polled statuses -/

/-- `checkReachability`: should the pass stop because an expected pod is unreachable? -/
def checkReachability (cluster : RedisCluster) (statuses : Statuses) : Bool :=
  let expected := cluster.spec.desiredDataInstances
  if (statuses.len : Int) < expected then false
  else decide ((connectedCount statuses : Int) < expected)

/-- `shouldTriggerFailover`. -/
def shouldTriggerFailover (cluster : RedisCluster) (statuses : Statuses) : Bool :=
  let currentPrimary := cluster.status.currentPrimary
  if isReplicaModeEnabled cluster then false
  else if cluster.spec.mode = .sentinel then false
  else if cluster.spec.mode = .cluster then false
  else if currentPrimary = "" then false
  else if (statuses.get currentPrimary).connected then false
  else statuses.pairs.any fun p => p.1 != currentPrimary && p.2.connected

end RedisOperator
