/-
  RedisOperator.Instance.RoleManager

  `reconciler.go` of the instance manager: in every pod a loop reads the
  `RedisCluster` object and brings the local Redis to the role that the object
  gives it, or stops it while the pod is fenced.  A reconcile acts on the copy
  it has read; what it may order Redis to do is a function of that copy alone
  (`RoleOrder`), whatever `INFO` and the API server answer afterwards.

  Configuration, secrets, certificates and the status report are sub-steps:
  none of them orders a role.
-/

import RedisOperator.Cluster.World

namespace RedisOperator

open Lib Act

/-! ## Requests -/

/-- What `reconcileRole` reads of `INFO replication`. -/
structure ReplicationInfo where
  role : Role := .unset
  masterHost : String := ""
  masterPort : Int := 0
  deriving DecidableEq, Repr, Inhabited

/-- Sub-steps of a reconcile. -/
inductive ManagerStep
  | config | secrets | tlsCerts | reportStatus
  deriving DecidableEq, Repr

/-- The error of a sub-step. -/
structure StepError where
  /-- `errFallbackAuthSecretUnavailable` -/
  fallbackUnavailable : Bool := false
  message : String
  deriving DecidableEq, Repr

/-- A request of the instance manager. -/
inductive ManagerCmd
  | getCluster
  | stopRedis
  | info
  | getPod (name : String)
  | replicaOf (host : String) (port : Int)
  | replicaOfNoOne
  | substep (step : ManagerStep)

/-- The type of the answer. -/
@[reducible] def ManagerReply : ManagerCmd → Type
  | .getCluster => Api RedisCluster
  | .stopRedis => Unit
  | .info => Except String ReplicationInfo
  | .getPod _ => Api Pod
  | .replicaOf .. => Except String Unit
  | .replicaOfNoOne => Except String Unit
  | .substep _ => Except StepError Unit

/-- A function of the instance manager. -/
abbrev Manage (α : Type) : Type := Act Unit String ManagerCmd ManagerReply α

namespace Manage

/-- Issue a request. -/
def ask (c : ManagerCmd) : Manage (ManagerReply c) := Act.request c

/-- `fmt.Errorf("what: %w", err)`. -/
def wrap {α : Type} (what : String) (x : Manage α) : Manage α :=
  Act.context (fun err => what ++ ": " ++ err) x

/-- Go on with a value, or return its error. -/
def orFail {α : Type} : Except String α → Manage α
  | .ok a => pure a
  | .error err => Act.fail err

end Manage

/-- `InstanceReconciler`: whose Redis it is, and where its objects live. -/
structure InstanceReconciler where
  podName : String
  objectNamespace : String := ""

/-! ## Fences -/

/-- `isFenced`. -/
def isFenced (podName : String) (cluster : RedisCluster) : Bool :=
  decide (podName ∈ getFencedPods cluster)

/-- `requiresHardFence`. -/
def requiresHardFence (podName : String) (cluster : RedisCluster) : Bool :=
  isFenced podName cluster && (clusterHandoverPods cluster).1 != podName

/-! ## Role -/

/-- `defaultReplicaModePort`. -/
def defaultReplicaModePort : Int := 6379

/-- `replicaModeSourceEndpoint`. -/
def replicaModeSourceEndpoint (cluster : RedisCluster) : Except String (String × Int) :=
  match cluster.spec.replicaMode.bind ReplicaModeSpec.source with
  | none => .error "replica mode source is not configured"
  | some source =>
    let host := String.ofList (trimSpace source.host.toList)
    if host = "" then .error "replica mode source host is empty"
    else .ok (host, if source.port ≤ 0 then defaultReplicaModePort else source.port)

/-- `replication.Promote`: `REPLICAOF NO ONE`. -/
def promoteSelf : Manage Unit := do
  let r ← Manage.ask .replicaOfNoOne
  Manage.orFail r

/-- `replication.SetReplicaOf`. -/
def setReplicaOf (host : String) (port : Int) : Manage Unit := do
  let r ← Manage.ask (.replicaOf host port)
  Manage.orFail r

namespace InstanceReconciler

variable (m : InstanceReconciler)

/-- `getPodIP`. -/
def getPodIP (podName : String) : Manage String := do
  match ← Manage.ask (.getPod podName) with
  | .error err =>
    Act.fail ("getting pod " ++ m.objectNamespace ++ "/" ++ podName ++ " for IP resolution: " ++
      err.message)
  | .ok pod =>
    if pod.podIP = "" then
      Act.fail ("pod " ++ m.objectNamespace ++ "/" ++ podName ++ " has no IP assigned yet")
    else pure pod.podIP

/-- Replica mode: follow the external source, unless promotion is asked for. -/
def reconcileReplicaRole (cluster : RedisCluster) (info : ReplicationInfo) : Manage Unit := do
  let source ← Manage.orFail (replicaModeSourceEndpoint cluster)
  let promote : Bool := (cluster.spec.replicaMode.map ReplicaModeSpec.promote).getD false
  if promote = true ∧ cluster.status.currentPrimary = m.podName then
    if info.role = .slave then promoteSelf else pure ()
  else if info.role ≠ .slave ∨ info.masterHost ≠ source.1 ∨ info.masterPort ≠ source.2 then
    setReplicaOf source.1 source.2
  else pure ()

/-- Follow the pod the object names as primary. -/
def followPrimary (cluster : RedisCluster) (info : ReplicationInfo) : Manage Unit := do
  if info.role = .master then do
    let primaryIP ← Manage.wrap "resolving primary IP" (m.getPodIP cluster.status.currentPrimary)
    setReplicaOf primaryIP defaultReplicaModePort
  else if info.role = .slave then do
    let primaryIP ← Manage.wrap "resolving primary IP" (m.getPodIP cluster.status.currentPrimary)
    if info.masterHost ≠ primaryIP ∨ info.masterPort ≠ defaultReplicaModePort then
      setReplicaOf primaryIP defaultReplicaModePort
    else pure ()
  else pure ()

/-- `reconcileRole`. -/
def reconcileRole (cluster : RedisCluster) : Manage Unit := do
  if cluster.spec.mode = .cluster then pure ()
  else do
    let info ← Manage.wrap "getting replication info"
      (do
        let r ← Manage.ask .info
        Manage.orFail r)
    if isReplicaModeEnabled cluster = true then m.reconcileReplicaRole cluster info
    else if cluster.status.currentPrimary = m.podName then
      if info.role = .slave then promoteSelf else pure ()
    else m.followPrimary cluster info

/-- Of the errors of the secrets only a missing fallback password ends a reconcile. -/
def afterSecrets : Except StepError Unit → Manage Unit
  | .error err => if err.fallbackUnavailable = true then Act.fail err.message else pure ()
  | .ok _ => pure ()

/-- An error of the status report is returned. -/
def afterReport : Except StepError Unit → Manage Unit
  | .error err => Act.fail err.message
  | .ok _ => pure ()

/-- The sub-steps after the role. -/
def reconcileRest : Manage Unit := do
  -- errors of configuration and certificates are logged
  let _ ← Manage.ask (.substep .config)
  let secrets ← Manage.ask (.substep .secrets)
  afterSecrets secrets
  let _ ← Manage.ask (.substep .tlsCerts)
  let report ← Manage.ask (.substep .reportStatus)
  afterReport report

/-- `Reconcile`, once the object has been read. -/
def reconcileFetched (cluster : RedisCluster) : Manage Unit := do
  if requiresHardFence m.podName cluster = true then Manage.ask .stopRedis
  else do
    m.reconcileRole cluster
    reconcileRest

/-- `Reconcile`. -/
def reconcile : Manage Unit := do
  match ← Manage.ask .getCluster with
  | .error err => Act.fail ("fetching RedisCluster: " ++ err.message)
  | .ok cluster => m.reconcileFetched cluster

end InstanceReconciler

/-! ## Answers -/

/-- What a Redis says of itself once it has carried out a request. -/
def ManagerCmd.effect : ManagerCmd → ReplicationInfo → ReplicationInfo
  | .replicaOf host port, _ => { role := .slave, masterHost := host, masterPort := port }
  | .replicaOfNoOne, _ => { role := .master }
  | _, redis => redis

/-- What a request after the fetch may be answered, and what the pod's Redis is
    afterwards.  Every read may fail; an order that is reported to have failed
    may have been carried out. -/
def ManagerAnswers (pods : List Pod) (info : ReplicationInfo) :
    (c : ManagerCmd) → ManagerReply c → ReplicationInfo → Prop
  | .info, r, info' => (r = .ok info ∨ ∃ err, r = .error err) ∧ info' = info
  | .getPod name, r, info' =>
    (r = found "pods" name (pods.find? fun pod => pod.name == name) ∨ ∃ err, r = .error err) ∧
      info' = info
  | .replicaOf host port, r, info' =>
    info' = (ManagerCmd.replicaOf host port).effect info ∨ ((∃ err, r = .error err) ∧ info' = info)
  | .replicaOfNoOne, r, info' =>
    info' = ManagerCmd.replicaOfNoOne.effect info ∨ ((∃ err, r = .error err) ∧ info' = info)
  | _, _, info' => info' = info

/-! ## What a copy of the object makes a manager do -/

/-- The orders that a reconcile acting on this copy may give its Redis. -/
def RoleOrder (podName : String) (view : RedisCluster) : ManagerCmd → Prop
  | .stopRedis => requiresHardFence podName view = true
  | .replicaOfNoOne =>
    requiresHardFence podName view = false ∧ view.status.currentPrimary = podName
  | .replicaOf .. =>
    requiresHardFence podName view = false ∧
      (isReplicaModeEnabled view = true ∨ view.status.currentPrimary ≠ podName)
  | _ => True

section

variable {P : ManagerCmd → Prop} {α : Type} {m : InstanceReconciler} {view : RedisCluster}

theorem Manage.only_orFail {a : Except String α} : Only P (Manage.orFail a) := by
  cases a with
  | ok a => exact .pure a
  | error err => exact .fail err

theorem only_promoteSelf (h : P .replicaOfNoOne) : Only P promoteSelf :=
  (Only.request h).bind fun _ => Manage.only_orFail

theorem only_setReplicaOf {host : String} {port : Int} (h : P (.replicaOf host port)) :
    Only P (setReplicaOf host port) :=
  (Only.request h).bind fun _ => Manage.only_orFail

theorem only_getPodIP {podName : String} (h : P (.getPod podName)) :
    Only P (m.getPodIP podName) := by
  refine (Only.request h).bind fun r => ?_
  cases r with
  | error err => exact .fail _
  | ok pod => exact .ite (fun _ => .fail _) fun _ => .pure _

theorem only_reconcileReplicaRole (info : ReplicationInfo)
    (hfence : requiresHardFence m.podName view = false) (hmode : isReplicaModeEnabled view = true) :
    Only (RoleOrder m.podName view) (m.reconcileReplicaRole view info) := by
  refine Manage.only_orFail.bind fun source => ?_
  refine .ite (fun hpromote => ?_) fun _ => .ite (fun _ => ?_) fun _ => .pure _
  · exact .ite (fun _ => only_promoteSelf ⟨hfence, hpromote.2⟩) fun _ => .pure _
  · exact only_setReplicaOf ⟨hfence, Or.inl hmode⟩

theorem only_followPrimary (info : ReplicationInfo)
    (hfence : requiresHardFence m.podName view = false)
    (hother : view.status.currentPrimary ≠ m.podName) :
    Only (RoleOrder m.podName view) (m.followPrimary view info) := by
  have hip : Only (RoleOrder m.podName view)
      (Manage.wrap "resolving primary IP" (m.getPodIP view.status.currentPrimary)) :=
    Only.context _ (only_getPodIP trivial)
  have hset : ∀ host port, Only (RoleOrder m.podName view) (setReplicaOf host port) :=
    fun host port => only_setReplicaOf ⟨hfence, Or.inr hother⟩
  refine .ite (fun _ => hip.bind fun primaryIP => hset _ _) fun _ =>
    .ite (fun _ => hip.bind fun primaryIP => ?_) fun _ => .pure _
  exact .ite (fun _ => hset _ _) fun _ => .pure _

theorem only_reconcileRole (hfence : requiresHardFence m.podName view = false) :
    Only (RoleOrder m.podName view) (m.reconcileRole view) := by
  refine .ite (fun _ => .pure _) fun _ => ?_
  refine (Only.context _ ((Only.request trivial).bind fun _ => Manage.only_orFail)).bind
    fun info => ?_
  refine .ite (fun hmode => only_reconcileReplicaRole info hfence hmode) fun _ => ?_
  refine .ite (fun hprimary => ?_) fun hother => only_followPrimary info hfence hother
  exact .ite (fun _ => only_promoteSelf ⟨hfence, hprimary⟩) fun _ => .pure _

theorem only_reconcileRest : Only (RoleOrder m.podName view) InstanceReconciler.reconcileRest := by
  refine (Only.request trivial).bind fun _ => (Only.request trivial).bind fun secrets => ?_
  have hsecrets : Only (RoleOrder m.podName view) (InstanceReconciler.afterSecrets secrets) := by
    cases secrets with
    | error err => exact .ite (fun _ => .fail _) fun _ => .pure _
    | ok _ => exact .pure ()
  refine hsecrets.bind fun _ => (Only.request trivial).bind fun _ =>
    (Only.request trivial).bind fun report => ?_
  cases report with
  | error err => exact .fail _
  | ok _ => exact .pure ()

/-- A reconcile orders what the copy it acts on says. -/
theorem only_reconcileFetched (m : InstanceReconciler) (view : RedisCluster) :
    Only (RoleOrder m.podName view) (m.reconcileFetched view) := by
  refine .ite (fun hfenced => .request hfenced) fun hfree => ?_
  exact (only_reconcileRole (Bool.eq_false_iff.mpr hfree)).bind fun _ => only_reconcileRest

end

end RedisOperator
