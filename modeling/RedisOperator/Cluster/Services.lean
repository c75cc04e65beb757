/-
  RedisOperator.Cluster.Services

  `services.go`: the Services of a cluster, by mode, and the pass that
  reconciles them.  Of a Service the model keeps what the controller compares
  and writes: selector, ports, cluster IP and annotations.
-/

import RedisOperator.Cluster.Reconcile

namespace RedisOperator

open Lib

/-! ## Names, selectors and ports -/

/-- `replicaServiceName`. -/
def replicaServiceName (clusterName : String) : String := clusterName ++ "-replica"

/-- `anyServiceName`. -/
def anyServiceName (clusterName : String) : String := clusterName ++ "-any"

/-- `sentinelServiceName`. -/
def sentinelServiceName (clusterName : String) : String := clusterName ++ "-sentinel"

/-- `clusterHeadlessServiceName`. -/
def clusterHeadlessServiceName (clusterName : String) : String := clusterName ++ "-cluster"

/-- `leaderServiceReplicaModeAnnotation`. -/
def leaderServiceReplicaModeAnnotation : String := "redis.io/replica-mode"

/-- `SentinelPort`. -/
def sentinelPort : Nat := 26379

/-- The pods of a role. -/
def roleSelector (clusterName role : String) : GoMap String String :=
  ((∅ : GoMap String String).insert labelCluster clusterName).insert labelRole role

/-- The data pods. -/
def dataSelector (clusterName : String) : GoMap String String :=
  ((∅ : GoMap String String).insert labelCluster clusterName).insert labelWorkload
    labelWorkloadData

/-- A TCP port that is forwarded to the same port of a pod. -/
def tcpPort (name : String) (port : Nat) : ServicePort where
  name := name
  port := port
  targetPort := port
  protocol := "TCP"

/-! ## One Service -/

/-- `ensureService`. -/
def ensureService (name : String) (selector : GoMap String String) (port : Nat) : Op Unit := do
  let desiredPorts := [tcpPort "redis" port]
  match ← ask (.getService name) with
  | .ok existing =>
    if existing.selector.deepEqual selector = true ∧ existing.ports = desiredPorts then pure ()
    else do
      let after := { existing with selector := selector, ports := desiredPorts }
      ofApi (← ask (.patchService existing after))
  | .error err =>
    if err.reason ≠ .notFound then Act.fail err.message
    else do
      let svc : Service := { name := name, selector := selector, ports := desiredPorts }
      ofApi (← ask (.createService svc))

/-- `ensureClusterHeadlessService`. -/
def ensureClusterHeadlessService : Op Unit := do
  let cluster ← Act.get
  let name := clusterHeadlessServiceName cluster.name
  let selector := dataSelector cluster.name
  let desiredPorts := [tcpPort "redis" 6379, tcpPort "cluster-bus" 16379]
  match ← ask (.getService name) with
  | .ok existing =>
    if existing.selector.deepEqual selector = true ∧ existing.ports = desiredPorts ∧
        existing.clusterIP = "None" then pure ()
    else do
      let after :=
        { existing with selector := selector, ports := desiredPorts, clusterIP := "None" }
      ofApi (← ask (.patchService existing after))
  | .error err =>
    if err.reason ≠ .notFound then Act.fail err.message
    else do
      let svc : Service :=
        { name := name, selector := selector, ports := desiredPorts, clusterIP := "None" }
      ofApi (← ask (.createService svc))

/-- `deleteServiceIfExists`. -/
def deleteServiceIfExists (name : String) : Op Unit := do
  match ← ask (.getService name) with
  | .error err => if err.reason = .notFound then pure () else Act.fail err.message
  | .ok _ => ofApi (← ask (.deleteService name))

/-- The annotations the leader Service should have. -/
def withReplicaMode (annotations : GoMap String String) (desiredValue : String) :
    GoMap String String :=
  if desiredValue = "" then annotations.erase leaderServiceReplicaModeAnnotation
  else annotations.insert leaderServiceReplicaModeAnnotation desiredValue

/-- `reconcileLeaderServiceAnnotations`. -/
def reconcileLeaderServiceAnnotations : Op Unit := do
  let cluster ← Act.get
  match ← ask (.getService (leaderServiceName cluster.name)) with
  | .error err =>
    if err.reason = .notFound then pure ()
    else Act.fail ("getting leader service: " ++ err.message)
  | .ok svc =>
    let desiredValue := if isReplicaModeEnabled cluster then "true" else ""
    let currentValue := svc.annotations.get leaderServiceReplicaModeAnnotation
    if currentValue = desiredValue ∧ (desiredValue ≠ "" ∨ currentValue = "") then pure ()
    else do
      let after := { svc with annotations := withReplicaMode svc.annotations desiredValue }
      ofApi (← ask (.patchService svc after))

/-! ## All Services -/

/-- `reconcileServices` of a sharded cluster; the Services of other modes go. -/
def reconcileClusterServices : Op Unit := do
  let cluster ← Act.get
  wrap "cluster headless service" ensureClusterHeadlessService
  wrap "any service" (ensureService (anyServiceName cluster.name) (dataSelector cluster.name) 6379)
  wrap "deleting legacy leader service" (deleteServiceIfExists (leaderServiceName cluster.name))
  wrap "deleting legacy replica service" (deleteServiceIfExists (replicaServiceName cluster.name))
  wrap "deleting legacy sentinel service" (deleteServiceIfExists (sentinelServiceName cluster.name))

/-- `reconcileServices` of a standalone or sentinel cluster: the leader Service
    selects by role first, and by instance once a primary is known. -/
def reconcileReplicatedServices : Op Unit := do
  let cluster ← Act.get
  let name := cluster.name
  wrap "leader service"
    (ensureService (leaderServiceName name) (roleSelector name labelRolePrimary) 6379)
  wrap "replica service"
    (ensureService (replicaServiceName name) (roleSelector name labelRoleReplica) 6379)
  wrap "any service" (ensureService (anyServiceName name) (dataSelector name) 6379)
  doWhen (cluster.spec.mode = .sentinel)
    (wrap "sentinel service"
      (ensureService (sentinelServiceName name) (roleSelector name labelRoleSentinel) sentinelPort))
  wrap "leader service annotations" reconcileLeaderServiceAnnotations
  doWhen (cluster.status.currentPrimary ≠ "") updateLeaderServiceSelector

/-- `reconcileServices`. -/
def reconcileServices : Op Unit := do
  let cluster ← Act.get
  if cluster.spec.mode = .cluster then reconcileClusterServices else reconcileReplicatedServices

/-- `reconcile`, with its Services. -/
def reconcileWithServices (r : ClusterReconciler) : Op Unit := reconcileWith r reconcileServices

end RedisOperator
