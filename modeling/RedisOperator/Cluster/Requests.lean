/-
  RedisOperator.Cluster.Requests

  What the cluster controller asks of its surroundings: the API server, the
  HTTP endpoints of the instance managers, the clock, and the order in which
  the runtime visits a map.  A controller function is an `Op`: an action
  (`Lib.Act`) over these requests whose local variable is the
  `*redisv1.RedisCluster` the functions of the package hand to each other.

  Objects live in one namespace, so a name is a key.  Log lines and events are
  left out; a pod's deletion carries the reason its event would name.
-/

import RedisOperator.Api.Backup
import RedisOperator.Cluster.PodSpec
import RedisOperator.Lib.Act

namespace RedisOperator

open Lib

/-! ## Requests and answers -/

/-- What the controller distinguishes in an API error. -/
inductive ApiReason
  | notFound | alreadyExists | conflict | other
  deriving DecidableEq, Repr

/-- An error of the API server. -/
structure ApiError where
  reason : ApiReason
  message : String
  deriving DecidableEq, Repr

/-- The outcome of a request to the API server. -/
abbrev Api (α : Type) : Type := Except ApiError α

/-- `clusterMigrateRangePayload`. -/
structure MigrateRange where
  targetIP : String
  targetPort : Nat
  targetNodeID : String
  sourceNodeID : String
  range : SlotRange
  batchSize : Nat
  timeoutMS : Nat
  deriving DecidableEq, Repr

/-- A POST to an instance manager. -/
inductive Post
  | meet (ip : String) (port : Nat)
  | addSlots (range : SlotRange)
  | replicate (nodeID : String)
  | migrateRange (payload : MigrateRange)
  | promote
  deriving DecidableEq, Repr

/-- The path of a POST. -/
def Post.endpoint : Post → String
  | .meet .. => "/v1/cluster/meet"
  | .addSlots _ => "/v1/cluster/addslots"
  | .replicate _ => "/v1/cluster/replicate"
  | .migrateRange _ => "/v1/cluster/migrate-range"
  | .promote => "/v1/promote"

/-- Why a POST did not succeed: a status other than 200, or no answer at all. -/
inductive PostError
  | status (code : Nat) (body : String)
  | transport (message : String)
  deriving DecidableEq, Repr

/-- Why a pod is deleted. -/
inductive DeleteReason
  | hibernation | scaleDown | rollingUpdate | resizeRestart
  deriving DecidableEq, Repr

/-- Sub-steps of a pass that only touch objects outside the model. -/
inductive Substep
  | serviceAccount | rbac | configMap | pdb | deletePDB | secrets | services | connectionSecret
  | sentinelPods | sentinelTLS
  deriving DecidableEq, Repr

/-- A request of the controller.  A patch carries the object it was computed
    from and the object it aims at. -/
inductive Cmd
  | now
  | mapOrder
  | substep (step : Substep)
  | getCluster
  | patchCluster (before after : RedisCluster) (optimisticLock : Bool)
  | patchStatus (before after : RedisCluster)
  | listPods
  | getPod (name : String)
  | createPod (pod : Pod)
  | patchPod (before after : Pod)
  | deletePod (name : String) (reason : DeleteReason)
  | listPVCs
  | getPVC (name : String)
  | createPVC (pvc : PVC)
  | patchPVC (before after : PVC)
  | deletePVC (name : String)
  | getStorageClass (name : String)
  | getBackup (name : String)
  | getService (name : String)
  | createService (service : Service)
  | patchService (before after : Service)
  | deleteService (name : String)
  | getStatus (podIP : String)
  | post (podIP : String) (request : Post)
  | querySentinelMaster (podIP : String)

/-- The type of the answer to a request. -/
@[reducible] def Reply : Cmd → Type
  | .now => Nat
  | .mapOrder => MapOrder
  | .substep _ => Except String Unit
  | .getCluster => Api RedisCluster
  | .patchCluster .. => Api RedisCluster
  | .patchStatus .. => Api RedisCluster
  | .listPods => Api (List Pod)
  | .getPod _ => Api Pod
  | .createPod _ => Api Unit
  | .patchPod .. => Api Unit
  | .deletePod .. => Api Unit
  | .listPVCs => Api (List PVC)
  | .getPVC _ => Api PVC
  | .createPVC _ => Api Unit
  | .patchPVC .. => Api Unit
  | .deletePVC _ => Api Unit
  | .getStorageClass _ => Api StorageClass
  | .getBackup _ => Api RedisBackup
  | .getService _ => Api Service
  | .createService _ => Api Unit
  | .patchService .. => Api Unit
  | .deleteService _ => Api Unit
  | .getStatus _ => Except String PodStatusResponse
  | .post .. => Except PostError Unit
  | .querySentinelMaster _ => Except String String

/-- Requests that write no modelled object and reach no instance with an order. -/
def Cmd.Quiet : Cmd → Prop
  | .patchCluster .. | .patchStatus .. | .createPod _ | .patchPod .. | .deletePod ..
  | .createPVC _ | .patchPVC .. | .deletePVC _ | .createService _ | .patchService ..
  | .deleteService _ | .post .. => False
  | _ => True

/-! ## Actions of the controller -/

/-- A function of the controller. -/
abbrev Op (α : Type) : Type := Act RedisCluster String Cmd Reply α

/-- Issue a request. -/
def ask (c : Cmd) : Op (Reply c) := Act.request c

/-- `fmt.Errorf("what: %w", err)`. -/
def wrap {α : Type} (what : String) (x : Op α) : Op α :=
  Act.context (fun err => what ++ ": " ++ err) x

/-- Go on with the value of an answer, or return its error. -/
def ofApi {α : Type} : Api α → Op α
  | .ok a => pure a
  | .error err => Act.fail err.message

/-- `err != nil && !errors.IsNotFound(err)` for a deletion. -/
def ignoreNotFound : Api Unit → Op Unit
  | .ok _ => pure ()
  | .error err => if err.reason = .notFound then pure () else Act.fail err.message

/-- Run an action only if a condition holds. -/
def doWhen (c : Prop) [Decidable c] (x : Op Unit) : Op Unit := if c then x else pure ()

/-- A sub-step that is not modelled further. -/
def runSubstep (step : Substep) : Op Unit := do
  match ← ask (.substep step) with
  | .ok _ => pure ()
  | .error err => Act.fail err

/-- `metav1.Now()`. -/
def now : Op Nat := ask Cmd.now

/-- `r.Patch(ctx, cluster, patch)`: the answer replaces the local copy. -/
def patchCluster (after : RedisCluster) (optimisticLock : Bool) : Op Unit := do
  let before ← Act.get
  let stored ← ofApi (← ask (.patchCluster before after optimisticLock))
  Act.set stored

/-- `r.Status().Patch(ctx, cluster, patch)`. -/
def patchStatus (status : RedisClusterStatus) : Op Unit := do
  let before ← Act.get
  let stored ← ofApi (← ask (.patchStatus before { before with status := status }))
  Act.set stored

/-- `listClusterPods`. -/
def listClusterPods : Op (List Pod) := do
  ofApi (← ask .listPods)

/-- Does `listDataPods` keep the pod? -/
def Pod.isData (pod : Pod) : Bool := pod.labels.get labelRole != labelRoleSentinel

/-- `listDataPods`. -/
def listDataPods : Op (List Pod) := do
  let allPods ← listClusterPods
  pure (allPods.filter Pod.isData)

/-- `listSentinelPods`. -/
def listSentinelPods : Op (List Pod) := do
  let allPods ← listClusterPods
  pure (allPods.filter fun pod => !pod.isData)

/-- `r.Delete(ctx, &pod)`, with a missing pod forgiven. -/
def deletePod (name : String) (reason : DeleteReason) : Op Unit := do
  ignoreNotFound (← ask (.deletePod name reason))

/-- The URL of an instance manager's endpoint. -/
def instanceURL (podIP endpoint : String) : String := "http://" ++ podIP ++ ":8080" ++ endpoint

/-- The text of a failed POST (`clusterHTTPError.Error` for a status). -/
def PostError.message (podIP endpoint : String) : PostError → String
  | .status code body =>
    let lead := "POST " ++ instanceURL podIP endpoint ++ " returned status " ++ code.repr
    if body = "" then lead else lead ++ ": " ++ body
  | .transport message => "POST " ++ instanceURL podIP endpoint ++ ": " ++ message

/-- The error `postClusterJSON` reports for a pod that has no address yet. -/
def noPodIP : PostError := .transport "pod IP is empty"

/-- `postClusterJSON`; the caller looks at the error. -/
def postClusterJSON (podIP : String) (request : Post) : Op (Except PostError Unit) :=
  if podIP = "" then pure (.error noPodIP) else ask (.post podIP request)

/-- The text of an error of `postClusterJSON`. -/
def postErrorText (podIP : String) (request : Post) (err : PostError) : String :=
  if podIP = "" then "pod IP is empty" else err.message podIP request.endpoint

/-- `postClusterJSON` where every error is returned. -/
def postOrFail (podIP : String) (request : Post) : Op Unit := do
  match ← postClusterJSON podIP request with
  | .ok _ => pure ()
  | .error err => Act.fail (postErrorText podIP request err)

/-- `podsByName`: the map from names to pods that several functions build. -/
def podsByName (pods : List Pod) : GoMap String Pod :=
  pods.foldl (fun byName pod => byName.insert pod.name pod) ∅

theorem podsByName_eq (pods : List Pod) :
    podsByName pods = GoMap.collect (fun pod => some (pod.name, pod)) pods := rfl

/-- A pod found by its name. -/
theorem podsByName_lookup {pods : List Pod} {name : String} {pod : Pod}
    (h : (podsByName pods).lookup name = some pod) : pod ∈ pods ∧ pod.name = name := by
  rw [podsByName_eq] at h
  obtain ⟨p, hp, he⟩ := GoMap.of_lookup_collect h
  obtain ⟨rfl, rfl⟩ := Prod.mk.inj (Option.some.inj he)
  exact ⟨hp, rfl⟩

/-- Where names are distinct, every pod is found by its name. -/
theorem podsByName_of_mem {pods : List Pod} (hnames : (pods.map (·.name)).Nodup) {pod : Pod}
    (hpod : pod ∈ pods) : (podsByName pods).lookup pod.name = some pod := by
  rw [podsByName_eq]
  refine GoMap.lookup_collect hpod rfl fun other hother v hv => ?_
  obtain ⟨hname, rfl⟩ := Prod.mk.inj (Option.some.inj hv)
  exact List.inj_on_of_nodup_map hnames hother hpod hname

end RedisOperator
