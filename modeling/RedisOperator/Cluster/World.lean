/-
  RedisOperator.Cluster.World

  The surroundings of one pass: the objects the API server stores, what each
  instance manager would answer to a poll, and how requests are answered.

  A pass has the stored objects to itself.  `Answers` says what a request may
  be answered when nothing goes wrong; `Handles faulty` adds that any request
  in `faulty` may also come back with an error, with or without having taken
  effect.  Posts and the sub-steps outside the model may end either way.
-/

import RedisOperator.Cluster.Reconcile

namespace RedisOperator

open Lib

/-- What surrounds the controller. -/
structure World where
  cluster : RedisCluster
  pods : List Pod := []
  pvcs : List PVC := []
  /-- the uid the next claim will get -/
  nextUID : Nat := 0
  backups : GoMap String RedisBackup := ∅
  storageClasses : GoMap String StorageClass := ∅
  services : GoMap String Service := ∅
  /-- what `GET /v1/status` at an address answers; `none` if nothing does -/
  answers : String → Option PodStatusResponse := fun _ => none
  clock : Nat := 0

namespace World

/-- The pods `listDataPods` returns. -/
def dataPods (w : World) : List Pod := w.pods.filter Pod.isData

/-- The pod of a name. -/
def findPod (w : World) (name : String) : Option Pod := w.pods.find? fun pod => pod.name == name

/-- The claim of a name. -/
def findPVC (w : World) (name : String) : Option PVC := w.pvcs.find? fun pvc => pvc.name == name

end World

/-! ## Merge patches -/

/-- One field under a merge patch: only a change is sent. -/
def pick {α : Type} [DecidableEq α] (before after stored : α) : α :=
  if before = after then stored else after

@[simp] theorem pick_self {α : Type} [DecidableEq α] (before after : α) :
    pick before after before = after := by
  unfold pick
  split
  · assumption
  · rfl

@[simp] theorem pick_same {α : Type} [DecidableEq α] (before stored : α) :
    pick before before stored = stored := if_pos rfl

/-- A patch of the object: annotations and spec. -/
def mergeCluster (before after stored : RedisCluster) : RedisCluster :=
  { stored with
    annotations :=
      { fencedInstances := pick before.annotations.fencedInstances
          after.annotations.fencedInstances stored.annotations.fencedInstances
        clusterHandover := pick before.annotations.clusterHandover
          after.annotations.clusterHandover stored.annotations.clusterHandover
        hibernation := pick before.annotations.hibernation
          after.annotations.hibernation stored.annotations.hibernation
        approvePrimaryUpdate := pick before.annotations.approvePrimaryUpdate
          after.annotations.approvePrimaryUpdate stored.annotations.approvePrimaryUpdate }
    spec := pick before.spec after.spec stored.spec }

/-- A patch of the status. -/
def mergeStatus (before after stored : RedisClusterStatus) : RedisClusterStatus where
  phase := pick before.phase after.phase stored.phase
  currentPrimary := pick before.currentPrimary after.currentPrimary stored.currentPrimary
  readyInstances := pick before.readyInstances after.readyInstances stored.readyInstances
  sentinelReadyInstances := pick before.sentinelReadyInstances after.sentinelReadyInstances
    stored.sentinelReadyInstances
  instances := pick before.instances after.instances stored.instances
  instancesStatus := pick before.instancesStatus after.instancesStatus stored.instancesStatus
  clusterState := pick before.clusterState after.clusterState stored.clusterState
  slotsAssigned := pick before.slotsAssigned after.slotsAssigned stored.slotsAssigned
  bootstrapCompleted := pick before.bootstrapCompleted after.bootstrapCompleted
    stored.bootstrapCompleted
  shards := pick before.shards after.shards stored.shards
  healthyPVC := pick before.healthyPVC after.healthyPVC stored.healthyPVC
  danglingPVC := pick before.danglingPVC after.danglingPVC stored.danglingPVC
  conditions := pick before.conditions after.conditions stored.conditions

/-- A patch computed from the stored object writes what it aims at. -/
@[simp] theorem mergeCluster_self (before after : RedisCluster) :
    mergeCluster before after before =
      { before with annotations := after.annotations, spec := after.spec } := by
  simp [mergeCluster]

@[simp] theorem mergeStatus_self (before after : RedisClusterStatus) :
    mergeStatus before after before = after := by
  simp [mergeStatus]

/-! ## Answers -/

/-- The answer to a request for an object by name. -/
def found {α : Type} (kind name : String) : Option α → Api α
  | some a => .ok a
  | none => .error ⟨.notFound, kind ++ " " ++ quote name.toList ++ " not found"⟩

theorem found_eq_ok {α : Type} {kind name : String} {object : Option α} {a : α} :
    found kind name object = .ok a ↔ object = some a := by
  cases object <;> simp [found]

theorem eq_none_of_found {α : Type} {kind name : String} {object : Option α} {err : ApiError}
    (h : found kind name object = .error err) : object = none := by
  cases object with
  | none => rfl
  | some a => cases h

/-- The refusal to create an object twice. -/
def alreadyThere (kind name : String) : ApiError :=
  ⟨.alreadyExists, kind ++ " " ++ quote name.toList ++ " already exists"⟩

/-- What a request may be answered, and what it leaves behind. -/
def Answers (w : World) : (c : Cmd) → Reply c → World → Prop
  | .now, time, w' => time = w.clock ∧ w' = w
  | .mapOrder, _, w' => w' = w
  | .substep _, _, w' => w' = w
  | .getCluster, r, w' => r = .ok w.cluster ∧ w' = w
  | .patchCluster before after optimisticLock, r, w' =>
    -- the lock: someone else wrote the object since it was read
    if optimisticLock = true ∧ before ≠ w.cluster then
      (∃ message, r = .error ⟨.conflict, message⟩) ∧ w' = w
    else
      r = .ok (mergeCluster before after w.cluster) ∧
        w' = { w with cluster := mergeCluster before after w.cluster }
  | .patchStatus before after, r, w' =>
    let stored := { w.cluster with
      status := mergeStatus before.status after.status w.cluster.status }
    r = .ok stored ∧ w' = { w with cluster := stored }
  | .listPods, r, w' => r = .ok w.pods ∧ w' = w
  | .getPod name, r, w' => r = found "pods" name (w.findPod name) ∧ w' = w
  | .createPod pod, r, w' =>
    match w.findPod pod.name with
    | some _ => r = .error (alreadyThere "pods" pod.name) ∧ w' = w
    | none => r = .ok () ∧ w' = { w with pods := w.pods ++ [pod] }
  | .patchPod before after, r, w' =>
    match w.findPod before.name with
    | none => r = found "pods" before.name none ∧ w' = w
    | some _ =>
      r = .ok () ∧
        w' = { w with pods := w.pods.map fun pod =>
          if pod.name = before.name then
            { pod with labels := after.labels, controlled := after.controlled }
          else pod }
  | .deletePod name _, r, w' =>
    match w.findPod name with
    | none => r = found "pods" name none ∧ w' = w
    -- gone at once, or listed until it has terminated
    | some _ =>
      r = .ok () ∧ (w' = w ∨ w' = { w with pods := w.pods.filter fun pod => pod.name != name })
  | .listPVCs, r, w' => r = .ok w.pvcs ∧ w' = w
  | .getPVC name, r, w' => r = found "persistentvolumeclaims" name (w.findPVC name) ∧ w' = w
  | .createPVC pvc, r, w' =>
    match w.findPVC pvc.name with
    | some _ => r = .error (alreadyThere "persistentvolumeclaims" pvc.name) ∧ w' = w
    | none =>
      r = .ok () ∧
        w' = { w with
          pvcs := w.pvcs ++ [{ pvc with uid := w.nextUID }]
          nextUID := w.nextUID + 1 }
  | .patchPVC before after, r, w' =>
    match w.findPVC before.name with
    | none => r = found "persistentvolumeclaims" before.name none ∧ w' = w
    | some _ =>
      r = .ok () ∧
        w' = { w with pvcs := w.pvcs.map fun pvc =>
          if pvc.name = before.name then { pvc with request := after.request } else pvc }
  | .deletePVC name, r, w' =>
    match w.findPVC name with
    | none => r = found "persistentvolumeclaims" name none ∧ w' = w
    -- kept as terminating while a pod mounts it
    | some _ =>
      r = .ok () ∧
        (w' = { w with pvcs := w.pvcs.map fun pvc =>
            if pvc.name = name then { pvc with terminating := true } else pvc } ∨
          w' = { w with pvcs := w.pvcs.filter fun pvc => pvc.name != name })
  | .getStorageClass name, r, w' =>
    r = found "storageclasses" name (w.storageClasses.lookup name) ∧ w' = w
  | .getBackup name, r, w' => r = found "redisbackups" name (w.backups.lookup name) ∧ w' = w
  | .getService name, r, w' => r = found "services" name (w.services.lookup name) ∧ w' = w
  | .createService service, r, w' =>
    match w.services.lookup service.name with
    | some _ => r = .error (alreadyThere "services" service.name) ∧ w' = w
    | none => r = .ok () ∧ w' = { w with services := w.services.insert service.name service }
  | .patchService before after, r, w' =>
    match w.services.lookup before.name with
    | none => r = found "services" before.name none ∧ w' = w
    | some _ => r = .ok () ∧ w' = { w with services := w.services.insert before.name after }
  | .deleteService name, r, w' =>
    match w.services.lookup name with
    | none => r = found "services" name none ∧ w' = w
    | some _ => r = .ok () ∧ w' = { w with services := w.services.erase name }
  | .getStatus podIP, r, w' =>
    (match w.answers podIP with
      | some response => r = .ok response
      | none => ∃ message, r = .error message) ∧ w' = w
  | .post .., _, w' => w' = w
  | .querySentinelMaster _, _, w' => w' = w

/-- The request came back with an error the API server did not have to give. -/
def Fails : (c : Cmd) → Reply c → Prop
  | .now, _ | .mapOrder, _ | .substep _, _ | .getStatus _, _ | .post .., _
  | .querySentinelMaster _, _ => False
  | .getCluster, r | .patchCluster .., r | .patchStatus .., r =>
    ∃ message, r = .error ⟨.other, message⟩
  | .listPods, r => ∃ message, r = .error ⟨.other, message⟩
  | .getPod _, r => ∃ message, r = .error ⟨.other, message⟩
  | .createPod _, r | .patchPod .., r | .deletePod .., r | .createPVC _, r | .patchPVC .., r
  | .deletePVC _, r | .createService _, r | .patchService .., r
  | .deleteService _, r => ∃ message, r = .error ⟨.other, message⟩
  | .listPVCs, r => ∃ message, r = .error ⟨.other, message⟩
  | .getPVC _, r => ∃ message, r = .error ⟨.other, message⟩
  | .getStorageClass _, r => ∃ message, r = .error ⟨.other, message⟩
  | .getBackup _, r => ∃ message, r = .error ⟨.other, message⟩
  | .getService _, r => ∃ message, r = .error ⟨.other, message⟩

/-- Requests are answered, and those in `faulty` may fail. -/
def Handles (faulty : Cmd → Prop) : Prog.Handler Cmd Reply World := fun w c r w' =>
  Answers w c r w' ∨ (faulty c ∧ Fails c r ∧ (w' = w ∨ ∃ answer, Answers w c answer w'))

/-- Answered or not, a request was carried out or has left the world alone. -/
theorem handles_cases {faulty : Cmd → Prop} {w w' : World} {c : Cmd} {r : Reply c}
    (h : Handles faulty w c r w') : w' = w ∨ ∃ answer, Answers w c answer w' := by
  rcases h with h | ⟨-, -, h⟩
  · exact Or.inr ⟨r, h⟩
  · exact h

/-! ## Effects -/

/-- The worlds a request that is carried out may leave, other than the one it found. -/
def Cmd.effects (w : World) : Cmd → List World
  | .patchCluster before after _ => [{ w with cluster := mergeCluster before after w.cluster }]
  | .patchStatus before after =>
    [{ w with cluster := { w.cluster with
        status := mergeStatus before.status after.status w.cluster.status } }]
  | .createPod pod => [{ w with pods := w.pods ++ [pod] }]
  | .patchPod before after =>
    [{ w with pods := w.pods.map fun pod =>
        if pod.name = before.name then
          { pod with labels := after.labels, controlled := after.controlled }
        else pod }]
  | .deletePod name _ => [{ w with pods := w.pods.filter fun pod => pod.name != name }]
  | .createPVC pvc =>
    [{ w with pvcs := w.pvcs ++ [{ pvc with uid := w.nextUID }], nextUID := w.nextUID + 1 }]
  | .patchPVC before after =>
    [{ w with pvcs := w.pvcs.map fun pvc =>
        if pvc.name = before.name then { pvc with request := after.request } else pvc }]
  | .deletePVC name =>
    [{ w with pvcs := w.pvcs.map fun pvc =>
        if pvc.name = name then { pvc with terminating := true } else pvc },
      { w with pvcs := w.pvcs.filter fun pvc => pvc.name != name }]
  | .createService service => [{ w with services := w.services.insert service.name service }]
  | .patchService before after => [{ w with services := w.services.insert before.name after }]
  | .deleteService name => [{ w with services := w.services.erase name }]
  | _ => []

theorem answers_effects {w w' : World} {c : Cmd} {r : Reply c} (h : Answers w c r w') :
    w' = w ∨ w' ∈ c.effects w := by
  cases c with
  | mapOrder | substep _ | post _ _ | querySentinelMaster _ => exact Or.inl h
  | patchStatus before after => exact Or.inr (List.mem_singleton.mpr h.2)
  | patchCluster | createPod | patchPod | createPVC | patchPVC | createService | patchService
  | deleteService =>
    simp only [Answers] at h
    split at h
    · exact Or.inl h.2
    · exact Or.inr (List.mem_singleton.mpr h.2)
  | deletePod name reason =>
    simp only [Answers] at h
    split at h
    · exact Or.inl h.2
    · exact h.2.imp_right List.mem_singleton.mpr
  | deletePVC name =>
    simp only [Answers] at h
    split at h
    · exact Or.inl h.2
    · exact Or.inr (List.mem_pair.mpr h.2)
  | _ => exact Or.inl h.2

/-- What every effect of a request keeps, the request keeps. -/
theorem handles_effects {faulty : Cmd → Prop} {w w' : World} {c : Cmd} {r : Reply c}
    {Q : World → Prop} (h : Handles faulty w c r w') (hw : Q w)
    (heffects : ∀ w' ∈ c.effects w, Q w') : Q w' := by
  rcases handles_cases h with rfl | ⟨answer, ha⟩
  · exact hw
  · rcases answers_effects ha with rfl | hmem
    · exact hw
    · exact heffects w' hmem

/-- Requests that write no cluster object. -/
def Cmd.SparesCluster : Cmd → Prop
  | .patchCluster .. | .patchStatus .. => False
  | _ => True

/-- They leave the stored object alone. -/
theorem handles_spares {faulty : Cmd → Prop} {w w' : World} {c : Cmd} {r : Reply c}
    (h : Handles faulty w c r w') (hc : c.SparesCluster) : w'.cluster = w.cluster := by
  refine handles_effects (Q := fun w' => w'.cluster = w.cluster) h rfl ?_
  cases c with
  | patchCluster | patchStatus => exact hc.elim
  | _ => simp [Cmd.effects]

end RedisOperator
