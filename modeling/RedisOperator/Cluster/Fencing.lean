/-
  RedisOperator.Cluster.Fencing

  `fencing.go` and `cluster_handover.go`: who is fenced, the fencing-first
  failover of a standalone cluster, and the coordinated handover of a shard
  before its owner is scaled away.
-/

import RedisOperator.Cluster.Status

namespace RedisOperator

open Lib

/-! ## The fencing annotation -/

/-- `getFencedPods`: a value that does not decode fences nobody. -/
def getFencedPods (cluster : RedisCluster) : List String :=
  match cluster.annotations.fencedInstances with
  | some (.pods names _) => names
  | _ => []

/-- The annotation that names these pods; an empty list is no annotation. -/
def fencedValue (pods : List String) : Option FencedInstances :=
  if pods = [] then none else some (.pods pods)

/-- `ClusterHandoverPods`: owner and heir of a planned handover. -/
def clusterHandoverPods (cluster : RedisCluster) : String × String :=
  if cluster.spec.mode ≠ .cluster then ("", "")
  else
    match cut '/' cluster.annotations.clusterHandover.toList with
    | (owner, replica, found) =>
      if found = false ∨ owner = [] ∨ replica = [] ∨ owner = replica ∨ '/' ∈ replica then ("", "")
      else (String.ofList owner, String.ofList replica)

/-- `setFencedPods`. -/
def setFencedPods (pods : List String) : Op Unit := do
  let cluster ← Act.get
  let annotations := { cluster.annotations with fencedInstances := fencedValue pods }
  patchCluster { cluster with annotations := annotations } false

/-- `setFence`. -/
def setFence (podName : String) : Op Unit := do
  let cluster ← Act.get
  -- a planned fence becomes a hard one
  doWhen ((clusterHandoverPods cluster).1 = podName) (wrap "escalating planned fence"
    (patchCluster
      { cluster with annotations := { cluster.annotations with clusterHandover := "" } } false))
  let current ← Act.get
  let fenced := getFencedPods current
  doWhen (podName ∉ fenced) (setFencedPods (fenced ++ [podName]))

/-- `clearFence`. -/
def clearFence (podName : String) : Op Unit := do
  let cluster ← Act.get
  setFencedPods ((getFencedPods cluster).filter fun p => p != podName)

/-! ## Failover -/

/-- One visit of the loop of `selectFailoverCandidate`. -/
def betterCandidate (currentPrimary : String) (best : String × Int)
    (p : String × InstanceStatus) : String × Int :=
  if p.1 = currentPrimary ∨ p.2.connected = false then best
  else if best.2 < p.2.replicationOffset then (p.1, p.2.replicationOffset)
  else best

/-- `selectFailoverCandidate`: the connected pod with the largest offset, the
    one visited first on a tie. -/
def selectFailoverCandidate (order : MapOrder) (cluster : RedisCluster) : String :=
  ((order.visitStatuses cluster.status.instancesStatus.pairs).foldl
    (betterCandidate cluster.status.currentPrimary) ("", -1)).1

/-- `promoteInstance`. -/
def promoteInstance (podIP : String) : Op Unit := do
  match ← ask (.post podIP .promote) with
  | .ok _ => pure ()
  | .error (.status code _) =>
    Act.fail ("POST " ++ instanceURL podIP "/v1/promote" ++ " returned " ++ code.repr)
  | .error (.transport message) =>
    Act.fail ("POST " ++ instanceURL podIP "/v1/promote" ++ ": " ++ message)

/-- The pod the promotion loops of failover and switchover stop at. -/
def promotablePod (pods : List Pod) (candidate : String) : Option Pod :=
  pods.find? fun pod => pod.name == candidate && pod.podIP != ""

/-- The promotion loop: was a listed pod with an address asked? -/
def promoteListed (pods : List Pod) (candidate : String) : Op Bool :=
  match promotablePod pods candidate with
  | none => pure false
  | some pod => do
      wrap ("promoting " ++ candidate) (promoteInstance pod.podIP)
      pure true

/-- `leaderServiceName`. -/
def leaderServiceName (clusterName : String) : String := clusterName ++ "-leader"

/-- The selector of a leader Service that points at one instance. -/
def instanceSelector (clusterName podName : String) : GoMap String String :=
  ((∅ : GoMap String String).insert labelCluster clusterName).insert labelInstance podName

/-- `updateLeaderServiceSelector`. -/
def updateLeaderServiceSelector : Op Unit := do
  let cluster ← Act.get
  let svc ← wrap "getting leader service"
    (do ofApi (← ask (.getService (leaderServiceName cluster.name))))
  if svc.selector.get labelInstance = cluster.status.currentPrimary then pure ()
  else do
    let selector := instanceSelector cluster.name cluster.status.currentPrimary
    ofApi (← ask (.patchService svc { svc with selector := selector }))

/-- `failover`. -/
def failover : Op Unit := do
  let cluster ← Act.get
  let formerPrimary := cluster.status.currentPrimary
  -- step 1: fence the former primary first
  wrap ("fencing former primary " ++ formerPrimary) (setFence formerPrimary)
  -- step 2: the replica with the smallest lag
  let fenced ← Act.get
  let order ← ask .mapOrder
  let candidate := selectFailoverCandidate order fenced
  if candidate = "" then Act.fail "no suitable failover candidate found"
  else do
    -- step 3: promote it, if it is listed with an address
    let pods ← wrap "listing pods for failover" listClusterPods
    let _promoted ← promoteListed pods candidate
    -- step 4: make it the current primary
    let current ← Act.get
    wrap "updating status after failover"
      (patchStatus { current.status with currentPrimary := candidate, phase := .failingOver })
    -- step 5: the leader Service
    wrap "updating leader service after failover" updateLeaderServiceSelector
    -- step 6: lift the fence
    wrap ("clearing fence on " ++ formerPrimary) (clearFence formerPrimary)

/-! ## Coordinated handover -/

/-- `beginClusterHandover`. -/
def beginClusterHandover (owner heir : String) : Op Unit := do
  let cluster ← Act.get
  let fenced := getFencedPods cluster
  if cluster.annotations.clusterHandover ≠ "" then
    Act.fail "another cluster handover is pending"
  else if owner ∈ fenced ∨ heir ∈ fenced then
    Act.fail ("cannot hand over between hard-fenced participants " ++ owner ++ " and " ++ heir)
  else
    wrap ("fencing handover primary " ++ owner)
      (patchCluster
        { cluster with annotations :=
          { cluster.annotations with
            fencedInstances := some (.pods (fenced ++ [owner]))
            clusterHandover := owner ++ "/" ++ heir } } true)

/-- `finishClusterHandover`. -/
def finishClusterHandover (owner : String) : Op Unit := do
  let cluster ← Act.get
  let remaining := (getFencedPods cluster).filter fun name => name != owner
  wrap "clearing handover fence"
    (patchCluster
      { cluster with annotations :=
        { cluster.annotations with
          fencedInstances := fencedValue remaining
          clusterHandover := "" } } true)

/-- The handover has happened: the heir serves slots, the owner follows it. -/
def handedOver (source target : InstanceStatus) : Prop :=
  target.role = .master ∧ target.slotsServed ≠ [] ∧ source.role = .slave ∧
    source.primaryNodeID = target.nodeID ∧ source.slotsServed = []

instance (source target : InstanceStatus) : Decidable (handedOver source target) :=
  inferInstanceAs (Decidable (_ ∧ _))

/-- The heir follows the owner closely enough to be promoted. -/
def promotableHeir (source target : InstanceStatus) (heirPod : Pod) : Prop :=
  source.role = .master ∧ target.role = .slave ∧ target.primaryNodeID = source.nodeID ∧
    target.masterLinkStatus = .up ∧ heirPod.podIP ≠ ""

instance (source target : InstanceStatus) (heirPod : Pod) :
    Decidable (promotableHeir source target heirPod) := inferInstanceAs (Decidable (_ ∧ _))

/-- The steps of `resumeClusterHandover` when both pods exist. -/
def advanceHandover (statuses : Statuses) (fenced : List String)
    (owner heir : String) (ownerPod heirPod : Pod) : Op Unit :=
  let source := statuses.get owner
  let target := statuses.get heir
  -- a stale handover is cancelled; an emergency fence on the heir stays
  if owner ∉ fenced ∨ heir ∈ fenced then finishClusterHandover owner
  else if source.connected = false ∨ target.connected = false then pure ()
  else if handedOver source target then finishClusterHandover owner
  else if ¬ promotableHeir source target heirPod then pure ()
  -- the readiness probe has not seen the fence yet
  else if isPodRunningAndReady ownerPod then pure ()
  else
    wrap ("promoting " ++ heir ++ " over fenced primary " ++ owner)
      (postOrFail heirPod.podIP .promote)

/-- `resumeClusterHandover`; whatever it does, the pass ends here. -/
def resumeClusterHandover (pods : List Pod) (statuses : Statuses) : Op Bool := do
  let cluster ← Act.get
  let owner := (clusterHandoverPods cluster).1
  let heir := (clusterHandoverPods cluster).2
  if owner = "" then Act.fail "invalid cluster handover annotation"
  else
    match (podsByName pods).lookup owner, (podsByName pods).lookup heir with
    | some ownerPod, some heirPod => do
        advanceHandover statuses (getFencedPods cluster) owner heir ownerPod heirPod
        pure false
    | _, _ => do
        finishClusterHandover owner
        pure false

end RedisOperator
