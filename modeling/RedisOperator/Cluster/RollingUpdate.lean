/-
  RedisOperator.Cluster.RollingUpdate

  `rolling_update.go`: pods whose template changed are deleted one at a time,
  replicas first; the primary is moved away from before it is touched.  The
  restart for a pending volume resize follows the same plan.
-/

import RedisOperator.Cluster.Pvcs

namespace RedisOperator

open Lib

/-- Highest ordinal first. -/
def sortDescending (clusterName : String) (pods : List Pod) : List Pod :=
  pods.insertionSort fun a b => podIndex clusterName b.name ≤ podIndex clusterName a.name

/-! ## Switchover -/

/-- `switchover`. -/
def switchover : Op Unit := do
  let cluster ← Act.get
  let formerPrimary := cluster.status.currentPrimary
  if formerPrimary = "" then Act.fail "current primary is empty"
  else do
    -- the former primary is fenced before the promotion to avoid split brain
    wrap ("fencing former primary " ++ formerPrimary) (setFence formerPrimary)
    let fenced ← Act.get
    let order ← ask .mapOrder
    let candidate := selectFailoverCandidate order fenced
    if candidate = "" then Act.fail "no suitable replica found for switchover"
    else do
      let pods ← wrap "listing pods for switchover" listClusterPods
      let promoted ← promoteListed pods candidate
      if promoted = false then
        Act.fail ("candidate " ++ candidate ++ " has no reachable pod IP")
      else do
        let current ← Act.get
        wrap "updating status after switchover"
          (patchStatus { current.status with currentPrimary := candidate })
        wrap "updating leader service after switchover" updateLeaderServiceSelector
        wrap ("clearing fence on " ++ formerPrimary ++ " after switchover")
          (clearFence formerPrimary)

/-! ## Approval of a supervised update -/

/-- `primaryUpdateApprovalMessage`. -/
def primaryUpdateApprovalMessage : String :=
  "Replicas are updated. Set annotation redis.io/approve-primary-update=\"true\" to continue."

/-- `isPrimaryUpdateApproved`. -/
def isPrimaryUpdateApproved (cluster : RedisCluster) : Bool :=
  cluster.annotations.approvePrimaryUpdate == some "true"

/-- `isPrimaryUpdateWaiting`. -/
def isPrimaryUpdateWaiting (cluster : RedisCluster) : Bool :=
  cluster.status.conditions.any fun c => c.type == .primaryUpdateWaiting && c.status

/-- The condition of a supervised update. -/
def primaryUpdateCondition (waiting : Bool) (now : Nat) : Condition :=
  conditionOf .primaryUpdateWaiting now waiting
    ("AwaitingApproval", primaryUpdateApprovalMessage)
    ("ApprovalConsumed", "Primary update approval consumed; rolling update resumed.")

/-- `pauseForPrimaryApproval`. -/
def pauseForPrimaryApproval : Op Bool := do
  let cluster ← Act.get
  let waiting := isPrimaryUpdateWaiting cluster
  if waiting = true ∧ cluster.status.phase = .waitingForUser then pure true
  else do
    let time ← now
    let conditions := cluster.status.conditions
    wrap "patching waiting-for-user status"
      (patchStatus
        { cluster.status with
          phase := .waitingForUser
          conditions :=
            if waiting then conditions
            else setCondition conditions (primaryUpdateCondition true time) })
    pure true

/-- `clearPrimaryUpdateApproval`. -/
def clearPrimaryUpdateApproval : Op Unit := do
  let cluster ← Act.get
  doWhen (cluster.annotations.approvePrimaryUpdate ≠ none)
    (wrap "patching cluster annotations"
      (patchCluster
        { cluster with annotations := { cluster.annotations with approvePrimaryUpdate := none } }
        false))
  let current ← Act.get
  let time ← now
  wrap "patching status after approval"
    (patchStatus
      { current.status with
        phase := if current.status.phase = .waitingForUser then .updating else current.status.phase
        conditions := setCondition current.status.conditions (primaryUpdateCondition false time) })

/-! ## Rolling update -/

/-- Split the data pods into the primary and the replicas, highest ordinal first. -/
def splitPrimary (cluster : RedisCluster) (pods : List Pod) : Option Pod × List Pod :=
  ((pods.filter fun pod => pod.name == cluster.status.currentPrimary).getLast?,
    sortDescending cluster.name
      (pods.filter fun pod => pod.name != cluster.status.currentPrimary))

/-- Consume the approval of a supervised update. -/
def consumeApproval (supervised : Bool) : Op Unit :=
  doWhen (supervised = true) (wrap "clearing primary update approval" clearPrimaryUpdateApproval)

/-- The primary's turn: its replicas, if any, are up to date. -/
def updatePrimary (primary : Pod) (replicas : List Pod) : Op Bool := do
  let cluster ← Act.get
  let supervised : Bool := cluster.spec.primaryUpdateStrategy == .supervised
  if supervised = true ∧ isPrimaryUpdateApproved cluster = false then pauseForPrimaryApproval
  else if replicas = [] then do
    wrap ("deleting primary " ++ primary.name ++ " for update")
      (deletePod primary.name .rollingUpdate)
    consumeApproval supervised
    pure true
  else do
    wrap "switchover during rolling update" switchover
    consumeApproval supervised
    pure true

/-- `rollingUpdate` of a standalone or sentinel cluster. -/
def rollingUpdateReplicated (desiredHash : String) : Op Bool := do
  let cluster ← Act.get
  let pods ← wrap "listing pods for rolling update" listDataPods
  let replicas := (splitPrimary cluster pods).2
  match replicas.find? fun replica => getPodSpecHash replica != desiredHash with
  | some replica => do
      wrap ("deleting replica " ++ replica.name ++ " for update")
        (deletePod replica.name .rollingUpdate)
      pure true
  | none =>
    match (splitPrimary cluster pods).1 with
    | none => pure false
    | some primary =>
      if getPodSpecHash primary = desiredHash then pure false
      else updatePrimary primary replicas

/-- The members of a shard that exist: primary and replicas, highest ordinal first. -/
def shardMembers (clusterName : String) (byName : GoMap String Pod) (shard : ShardStatus) :
    Option Pod × List Pod :=
  let members := (shard.primaryPod :: shard.replicaPods).filterMap byName.lookup
  ((members.filter fun pod => pod.name == shard.primaryPod).getLast?,
    sortDescending clusterName (members.filter fun pod => pod.name != shard.primaryPod))

/-- Move a shard's primary role to the first replica. -/
def shardFailover (primary candidate : Pod) : Op Unit := do
  wrap ("fencing shard primary " ++ primary.name) (setFence primary.name)
  wrap ("promoting shard failover candidate " ++ candidate.name) (promoteInstance candidate.podIP)
  wrap ("clearing fence on shard primary " ++ primary.name) (clearFence primary.name)

/-- The shard's primary has its turn. -/
def updateShardPrimary (primary : Pod) : List Pod → Op Unit
  | [] =>
    wrap ("deleting shard primary " ++ primary.name ++ " for update")
      (deletePod primary.name .rollingUpdate)
  | candidate :: _ =>
    if candidate.podIP = "" then pure () else shardFailover primary candidate

/-- One shard of the loop of `rollingUpdateClusterMode`; the first shard with
    something to do ends it. -/
def updateShard (byName : GoMap String Pod) (desiredHash : String) (_ : Unit) (shardIndex : Nat) :
    Op (Unit ⊕ Bool) := do
  let cluster ← Act.get
  match cluster.status.shards.lookup (shardName shardIndex) with
  | none => pure (.inl ())
  | some shard =>
    let replicas := (shardMembers cluster.name byName shard).2
    match replicas.find? fun replica => getPodSpecHash replica != desiredHash with
    | some replica => do
        wrap ("deleting shard replica " ++ replica.name ++ " for update")
          (deletePod replica.name .rollingUpdate)
        pure (.inr true)
    | none =>
      match (shardMembers cluster.name byName shard).1 with
      | none => pure (.inl ())
      | some primary =>
        if getPodSpecHash primary = desiredHash then pure (.inl ())
        else do
          updateShardPrimary primary replicas
          pure (.inr true)

/-- `rollingUpdateClusterMode`: shards from the highest index down. -/
def rollingUpdateClusterMode (desiredHash : String) : Op Bool := do
  let cluster ← Act.get
  let pods ← wrap "listing pods for cluster rolling update" listDataPods
  let shards := (List.range cluster.spec.shards.toNat).reverse
  match ← Act.loop (updateShard (podsByName pods) desiredHash) () shards with
  | .inr stop => pure stop
  | .inl _ => pure false

/-- `rollingUpdate`: should the pass stop here? -/
def rollingUpdate (desiredHash : String) : Op Bool := do
  let cluster ← Act.get
  if cluster.spec.mode = .cluster then rollingUpdateClusterMode desiredHash
  else rollingUpdateReplicated desiredHash

/-! ## Restart for a volume resize -/

/-- `podHasPendingResizePVC`. -/
def podHasPendingResizePVC (pendingPVCs : List String) (pod : Pod) : Bool :=
  pod.claims.any fun claim => decide (claim ∈ pendingPVCs)

/-- The primary's turn in a resize restart. -/
def restartPrimary (primary : Pod) (replicas : List Pod) : Op Bool :=
  if isPodRunningAndReady primary = false then pure true
  else if replicas = [] then do
    wrap ("deleting primary " ++ primary.name ++ " for PVC resize restart")
      (deletePod primary.name .resizeRestart)
    pure true
  else if replicas.any isPodRunningAndReady = false then pure true
  else do
    wrap "switchover for PVC resize restart" switchover
    pure true

/-- `restartPodsForPendingResize`: should the pass stop here? -/
def restartPodsForPendingResize (pendingPVCs : List String) : Op Bool := do
  let cluster ← Act.get
  let pods ← wrap "listing pods for PVC resize restart" listDataPods
  let replicas := (splitPrimary cluster pods).2
  let pendingReplicas := replicas.filter (podHasPendingResizePVC pendingPVCs)
  match pendingReplicas.find? isPodRunningAndReady with
  | some replica => do
      wrap ("deleting replica " ++ replica.name ++ " for PVC resize restart")
        (deletePod replica.name .resizeRestart)
      pure true
  | none =>
    if pendingReplicas ≠ [] then pure true
    else
      match (splitPrimary cluster pods).1.filter (podHasPendingResizePVC pendingPVCs) with
      | none => pure false
      | some primary => restartPrimary primary replicas

end RedisOperator
