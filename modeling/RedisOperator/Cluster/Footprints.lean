/-
  RedisOperator.Cluster.Footprints

  Which requests each part of a pass can issue at all.  The parts are those of
  the pass's second half: shaping the Redis Cluster, storage, the creation of
  pods, and moves of the primary role.  A guard that minds none of a part's
  requests is met by that part without a look inside.

  The parts that write no cluster object also hand the pass's copy of it on as
  it is (`Act.KeepsLocal`, lemmas `local_…`).
-/

import RedisOperator.Cluster.Services
import RedisOperator.Cluster.Specs

namespace RedisOperator

open Lib Act

/-! ## Kinds of requests -/

/-- Bootstrap and reshard: orders to instances, and the handover annotation,
    which is written under a lock. -/
def Cmd.Shaping : Cmd → Prop
  | .post .. => True
  | .patchCluster _ _ optimisticLock => optimisticLock = true
  | c => c.Quiet

/-- Storage: claims and the status. -/
def Cmd.Storing : Cmd → Prop
  | .createPVC _ | .patchPVC .. | .deletePVC _ | .patchStatus .. => True
  | c => c.Quiet

/-- Pods: creation and adoption. -/
def Cmd.Creating : Cmd → Prop
  | .createPod _ | .patchPod .. => True
  | c => c.Quiet

/-- What follows a move of the primary role: the fence and the leader Service. -/
def Cmd.Settling : Cmd → Prop
  | .patchCluster .. | .patchService .. => True
  | c => c.Quiet

/-- Moves of the primary role. -/
def Cmd.Handing : Cmd → Prop
  | .patchCluster .. | .patchStatus .. | .patchService .. | .post _ .promote => True
  | c => c.Quiet

/-- Adoption of Sentinel's choice: status, leader Service and labels. -/
def Cmd.Adopting : Cmd → Prop
  | .patchStatus .. | .patchService .. | .patchPod .. => True
  | c => c.Quiet

section

variable {α : Type} {R : Cmd → Prop}

/-! ## Combinators -/

theorem local_ask {c : Cmd} (h : R c) : KeepsLocal R (ask c) := .request h

theorem local_ask_bind {c : Cmd} {f : Reply c → Op α} (h : R c)
    (hf : ∀ r, KeepsLocal R (f r)) : KeepsLocal R (ask c >>= f) :=
  (local_ask h).bind hf

theorem local_wrap {what : String} {x : Op α} (h : KeepsLocal R x) :
    KeepsLocal R (wrap what x) := h.context _

theorem local_doWhen {c : Prop} [Decidable c] {x : Op Unit} (h : c → KeepsLocal R x) :
    KeepsLocal R (doWhen c x) :=
  .ite h fun _ => .pure ()

theorem local_ofApi (r : Api α) : KeepsLocal R (ofApi r) := by
  cases r with
  | ok a => exact .pure a
  | error err => exact .fail _

theorem local_ignoreNotFound (r : Api Unit) : KeepsLocal R (ignoreNotFound r) := by
  cases r with
  | ok a => exact .pure a
  | error err => exact .ite (fun _ => .pure ()) fun _ => .fail _

theorem only_ask {c : Cmd} (h : R c) : Only R (ask c) := (local_ask h).only

theorem only_wrap {what : String} {x : Op α} (h : Only R x) : Only R (wrap what x) :=
  h.context _

theorem only_doWhen {c : Prop} [Decidable c] {x : Op Unit} (h : c → Only R x) :
    Only R (doWhen c x) :=
  .ite h fun _ => .pure ()

theorem only_ofApi (r : Api α) : Only R (ofApi r) := (local_ofApi r).only

/-- A request, and what is done with its answer. -/
theorem only_ask_bind {c : Cmd} {f : Reply c → Op α} (h : R c) (hf : ∀ r, Only R (f r)) :
    Only R (ask c >>= f) :=
  (only_ask h).bind hf

/-! ## Requests -/

theorem local_now (h : R .now) : KeepsLocal R now := local_ask h

theorem local_runSubstep {step : Substep} (h : R (.substep step)) :
    KeepsLocal R (runSubstep step) :=
  local_ask_bind h fun r => by
    cases r with
    | ok a => exact .pure _
    | error err => exact .fail _

theorem local_listClusterPods (h : R .listPods) : KeepsLocal R listClusterPods :=
  local_ask_bind h local_ofApi

theorem local_listDataPods (h : R .listPods) : KeepsLocal R listDataPods :=
  (local_listClusterPods h).bind fun _ => .pure _

theorem local_listSentinelPods (h : R .listPods) : KeepsLocal R listSentinelPods :=
  (local_listClusterPods h).bind fun _ => .pure _

theorem local_deletePod {name : String} {reason : DeleteReason} (h : R (.deletePod name reason)) :
    KeepsLocal R (deletePod name reason) :=
  local_ask_bind h local_ignoreNotFound

variable {request : Post} {podIP : String}

theorem local_postClusterJSON (h : R (.post podIP request)) :
    KeepsLocal R (postClusterJSON podIP request) :=
  .ite (fun _ => .pure _) fun _ => local_ask h

theorem local_postOrFail (h : R (.post podIP request)) :
    KeepsLocal R (postOrFail podIP request) :=
  (local_postClusterJSON h).bind fun r => by
    cases r with
    | ok a => exact .pure _
    | error err => exact .fail _

theorem only_now (h : R .now) : Only R now := (local_now h).only

theorem only_runSubstep {step : Substep} (h : R (.substep step)) : Only R (runSubstep step) :=
  (local_runSubstep h).only

theorem only_listClusterPods (h : R .listPods) : Only R listClusterPods :=
  (local_listClusterPods h).only

theorem only_listDataPods (h : R .listPods) : Only R listDataPods :=
  (local_listDataPods h).only

theorem only_listSentinelPods (h : R .listPods) : Only R listSentinelPods :=
  (local_listSentinelPods h).only

theorem only_deletePod {name : String} {reason : DeleteReason} (h : R (.deletePod name reason)) :
    Only R (deletePod name reason) := (local_deletePod h).only

theorem only_postClusterJSON (h : R (.post podIP request)) :
    Only R (postClusterJSON podIP request) := (local_postClusterJSON h).only

theorem only_postOrFail (h : R (.post podIP request)) :
    Only R (postOrFail podIP request) := (local_postOrFail h).only

theorem only_patchCluster {after : RedisCluster} {lock : Bool}
    (h : ∀ before, R (.patchCluster before after lock)) : Only R (patchCluster after lock) :=
  Only.get.bind fun before => only_ask_bind (h before) fun r =>
    (only_ofApi r).bind fun stored => .set stored

theorem only_patchStatus {status : RedisClusterStatus}
    (h : ∀ before after, R (.patchStatus before after)) : Only R (patchStatus status) :=
  Only.get.bind fun before => only_ask_bind (h before _) fun r =>
    (only_ofApi r).bind fun stored => .set stored

/-! ## The start of a pass -/

theorem local_reconcileGlobalResources (h : ∀ step, R (.substep step)) :
    KeepsLocal R reconcileGlobalResources :=
  (local_wrap (local_runSubstep (h _))).bind fun _ =>
    (local_wrap (local_runSubstep (h _))).bind fun _ =>
      (local_wrap (local_runSubstep (h _))).bind fun _ => local_wrap (local_runSubstep (h _))

theorem local_pollOrNone (hlist : R .listPods) (hget : ∀ podIP, R (.getStatus podIP))
    (hnow : R .now) : KeepsLocal R pollOrNone := by
  have hpoll : ∀ statuses pod, KeepsLocal R (pollPod statuses pod) := fun statuses pod =>
    .ite (fun _ => .pure _) fun _ => local_ask_bind (hget _) fun r => by
      cases r with
      | ok response => exact (local_now hnow).bind fun _ => .pure _
      | error err => exact .pure _
  have hpods : KeepsLocal R pollInstanceStatuses :=
    (local_wrap (local_listDataPods hlist)).bind fun pods => .foldlM hpoll ∅
  refine hpods.attempt.bind fun r => ?_
  cases r with
  | ok statuses => exact .pure _
  | error err => exact .pure _

theorem local_deriveStatus (hlist : R .listPods) (horder : R .mapOrder)
    (statuses : Statuses) : KeepsLocal R (deriveStatus statuses) :=
  KeepsLocal.get.bind fun _ => .ite
    (fun _ => (local_wrap (local_listDataPods hlist)).bind fun _ =>
      local_ask_bind horder fun _ => .pure _)
    fun _ => .pure _

theorem local_countReadySentinelPods (hlist : R .listPods) :
    KeepsLocal R countReadySentinelPods :=
  KeepsLocal.get.bind fun _ => .ite (fun _ => .pure _) fun _ =>
    (local_listSentinelPods hlist).bind fun _ => .pure _

theorem local_clearLeaderServiceSelector (hget : ∀ name, R (.getService name))
    (hpatch : ∀ before after, R (.patchService before after)) :
    KeepsLocal R clearLeaderServiceSelector :=
  KeepsLocal.get.bind fun _ => local_ask_bind (hget _) fun r => by
    cases r with
    | ok svc => exact local_ask_bind (hpatch _ _) local_ofApi
    | error err =>
      exact .ite (fun _ => .pure ()) fun _ => .fail _

end

/-! ## Moves of the primary role -/

theorem Cmd.Settling.handing {c : Cmd} (h : c.Settling) : c.Handing := by
  cases c with
  | post podIP request => exact h.elim
  | _ => first | exact trivial | exact h

theorem only_setFencedPods (pods : List String) : Only Cmd.Settling (setFencedPods pods) :=
  Only.get.bind fun _ => only_patchCluster fun _ => trivial

theorem only_setFence (podName : String) : Only Cmd.Settling (setFence podName) :=
  Only.get.bind fun _ =>
    (only_doWhen fun _ => only_wrap (only_patchCluster fun _ => trivial)).bind fun _ =>
      Only.get.bind fun _ => only_doWhen fun _ => only_setFencedPods _

theorem only_clearFence (podName : String) : Only Cmd.Settling (clearFence podName) :=
  Only.get.bind fun _ => only_setFencedPods _

variable {R : Cmd → Prop}

theorem local_promoteInstance {podIP : String} (h : R (.post podIP .promote)) :
    KeepsLocal R (promoteInstance podIP) :=
  local_ask_bind h fun r => by
    rcases r with (err | _)
    · cases err <;> exact .fail _
    · exact .pure _

theorem local_promoteListed (h : ∀ podIP, R (.post podIP .promote))
    (pods : List Pod) (candidate : String) : KeepsLocal R (promoteListed pods candidate) := by
  unfold promoteListed
  split
  · exact .pure _
  · exact (local_wrap (local_promoteInstance (h _))).bind fun _ => .pure _

theorem only_promoteInstance (podIP : String) : Only Cmd.Handing (promoteInstance podIP) :=
  (local_promoteInstance trivial).only

theorem only_promoteListed (pods : List Pod) (candidate : String) :
    Only Cmd.Handing (promoteListed pods candidate) :=
  (local_promoteListed (fun _ => trivial) pods candidate).only

theorem local_updateLeaderServiceSelector (hget : ∀ name, R (.getService name))
    (hpatch : ∀ before after, R (.patchService before after)) :
    KeepsLocal R updateLeaderServiceSelector :=
  KeepsLocal.get.bind fun _ =>
    (local_wrap (local_ask_bind (hget _) local_ofApi)).bind fun _ =>
      .ite (fun _ => .pure _) fun _ =>
        local_ask_bind (hpatch _ _) local_ofApi

theorem only_updateLeaderServiceSelector (hget : ∀ name, R (.getService name))
    (hpatch : ∀ before after, R (.patchService before after)) :
    Only R updateLeaderServiceSelector := (local_updateLeaderServiceSelector hget hpatch).only

/-- The two steps after the status has moved. -/
theorem only_settle (service clearing formerPrimary : String) :
    Only Cmd.Settling (wrap service updateLeaderServiceSelector >>= fun _ =>
      wrap clearing (clearFence formerPrimary)) :=
  (only_wrap (only_updateLeaderServiceSelector (fun _ => trivial) fun _ _ => trivial)).bind fun _ =>
    only_wrap (only_clearFence _)

theorem only_switchover : Only Cmd.Handing switchover := by
  refine Only.get.bind fun cluster => .ite (fun _ => .fail _) fun _ => ?_
  refine (only_wrap ((only_setFence _).mono fun _ => Cmd.Settling.handing)).bind fun _ =>
    Only.get.bind fun fenced => ?_
  refine (only_ask trivial).bind fun order => .ite (fun _ => .fail _) fun _ => ?_
  refine (only_wrap (only_listClusterPods trivial)).bind fun pods => ?_
  refine (only_promoteListed _ _).bind fun promoted =>
    .ite (fun _ => .fail _) fun _ => Only.get.bind fun current => ?_
  exact (only_wrap (only_patchStatus fun _ _ => trivial)).bind fun _ =>
    (only_settle _ _ _).mono fun _ => Cmd.Settling.handing

/-- A paused update touches the status only. -/
theorem only_pauseForPrimaryApproval (hnow : R .now)
    (hpatch : ∀ before after, R (.patchStatus before after)) : Only R pauseForPrimaryApproval :=
  Only.get.bind fun _ => .ite (fun _ => .pure _) fun _ =>
    (only_now hnow).bind fun _ => (only_wrap (only_patchStatus hpatch)).bind fun _ => .pure _

theorem only_shardFailover (primary candidate : Pod) :
    Only Cmd.Handing (shardFailover primary candidate) :=
  (only_wrap ((only_setFence _).mono fun _ => Cmd.Settling.handing)).bind fun _ =>
    (only_wrap (only_promoteInstance _)).bind fun _ =>
    only_wrap ((only_clearFence _).mono fun _ => Cmd.Settling.handing)

theorem local_querySentinels (h : ∀ podIP, R (.querySentinelMaster podIP))
    (pods : List Pod) : KeepsLocal R (querySentinels pods) := by
  induction pods with
  | nil => exact .pure _
  | cons pod pods ih =>
    refine .ite (fun _ => ih) fun _ => local_ask_bind (h _) fun r => ?_
    cases r with
    | ok host => exact .pure _
    | error err => exact ih.bind fun _ => .pure _

theorem only_querySentinels (pods : List Pod) : Only Cmd.Adopting (querySentinels pods) :=
  (local_querySentinels (fun _ => trivial) pods).only

theorem local_updateDataPodRoleLabels (hlist : R .listPods)
    (hpatch : ∀ before after, R (.patchPod before after)) (oldPrimary newPrimary : String) :
    KeepsLocal R (updateDataPodRoleLabels oldPrimary newPrimary) :=
  (local_wrap (local_listDataPods hlist)).bind fun _ => .forEach fun _ =>
    local_doWhen fun _ => local_wrap (local_ask_bind (hpatch _ _) local_ofApi)

theorem only_reconcileSentinel (r : ClusterReconciler) :
    Only Cmd.Adopting (reconcileSentinel r) := by
  refine Only.get.bind fun cluster => only_doWhen fun _ =>
    (only_wrap (only_runSubstep trivial)).bind fun _ => only_wrap ?_
  refine (only_wrap (only_listSentinelPods trivial)).bind fun pods =>
    (only_wrap (only_runSubstep trivial)).bind fun _ =>
      (only_querySentinels pods).bind fun answer =>
      .ite (fun _ => .pure _) fun _ => .ite (fun _ => .fail _) fun _ => ?_
  -- the master Sentinel elected becomes the current primary
  refine (only_wrap (only_listDataPods trivial)).bind fun dataPods => Only.get.bind fun cluster =>
    .ite (fun _ => .fail _) fun _ => .ite (fun _ => .pure _) fun _ => ?_
  refine (only_wrap (only_patchStatus fun _ _ => trivial)).bind fun _ =>
    (only_wrap (only_updateLeaderServiceSelector (fun _ => trivial) fun _ _ => trivial)).bind
      fun _ =>
      only_wrap ?_
  exact (local_updateDataPodRoleLabels trivial (fun _ _ => trivial) _ _).only

/-! ## Storage -/

section

variable {R : Cmd → Prop}

theorem local_recyclePVC (hget : ∀ name, R (.getPVC name)) (hdelete : ∀ name, R (.deletePVC name))
    (pods : List Pod) (index : Nat) : KeepsLocal R (recyclePVC pods index) := by
  refine KeepsLocal.get.bind fun cluster => .ite (fun _ => .pure _)
    fun _ => local_ask_bind (hget _) fun r => ?_
  cases r with
  | error err =>
    exact .ite (fun _ => .pure _) fun _ => .fail _
  | ok pvc =>
    exact .ite (fun _ => .pure _) fun _ =>
      local_wrap (local_ask_bind (hdelete _) local_ignoreNotFound)

theorem local_recyclePVCsForMissingPods (hlist : R .listPods) (hget : ∀ name, R (.getPVC name))
    (hdelete : ∀ name, R (.deletePVC name)) : KeepsLocal R recyclePVCsForMissingPods :=
  KeepsLocal.get.bind fun _ => .ite (fun _ => .pure _) fun _ =>
    (local_wrap (local_listDataPods hlist)).bind fun pods =>
      .forEach (local_recyclePVC hget hdelete pods)

theorem local_growPVC (hget : ∀ name, R (.getStorageClass name))
    (hpatch : ∀ before after, R (.patchPVC before after)) (cluster : RedisCluster) (pvc : PVC) :
    KeepsLocal R (growPVC cluster pvc) := by
  refine (local_wrap (KeepsLocal.ite (fun _ => .pure _) fun _ =>
    local_ask_bind (hget _) fun r => ?_)).bind fun expandable =>
      local_doWhen fun _ => local_wrap (local_ask_bind (hpatch _ _) local_ofApi)
  cases r with
  | ok storageClass => exact .pure _
  | error err =>
    exact .ite (fun _ => .pure _) fun _ => .fail _

theorem local_ensurePVC (hget : ∀ name, R (.getPVC name)) (hcreate : ∀ pvc, R (.createPVC pvc))
    (hclass : ∀ name, R (.getStorageClass name))
    (hpatch : ∀ before after, R (.patchPVC before after))
    (cluster : RedisCluster) (acc : PVCProgress) (index : Nat) :
    KeepsLocal R (ensurePVC cluster acc index) := by
  refine local_ask_bind (hget _) fun r => ?_
  cases r with
  | error err =>
    exact .ite (fun _ => .fail _) fun _ =>
      (local_wrap (local_ask_bind (hcreate _) local_ofApi)).bind fun _ => .pure _
  | ok existing =>
    exact (local_doWhen fun _ => local_growPVC hclass hpatch _ _).bind fun _ =>
      .pure _

end

theorem only_reconcileStorage (maintenanceReplace : Bool) :
    Only Cmd.Storing (reconcileStorage maintenanceReplace) := by
  have hensure : ∀ cluster acc index, KeepsLocal Cmd.Storing (ensurePVC cluster acc index) :=
    local_ensurePVC (fun _ => trivial) (fun _ => trivial) (fun _ => trivial) fun _ _ => trivial
  refine Only.get.bind fun cluster => .ite (fun _ => .pure _) fun _ =>
    (only_doWhen fun _ => only_wrap ?_).bind fun _ => only_wrap ?_
  · exact (local_recyclePVCsForMissingPods trivial (fun _ => trivial) fun _ => trivial).only
  · exact Only.get.bind fun cluster =>
      (KeepsLocal.foldlM (hensure cluster) _).only.bind fun progress =>
        (only_wrap (only_ask_bind trivial only_ofApi)).bind fun pvcs =>
          (only_wrap (only_listClusterPods trivial)).bind fun pods =>
            (only_now trivial).bind fun _ =>
            (only_wrap (only_patchStatus fun _ _ => trivial)).bind fun _ => .pure _

/-! ## Pods -/

section

variable {R : Cmd → Prop}

theorem local_restoreContainer (hget : ∀ name, R (.getBackup name)) (r : ClusterReconciler)
    (cluster : RedisCluster) (podName : String) (index : Nat) (role : String) :
    KeepsLocal R (restoreContainer r cluster podName index role) := by
  refine .ite (fun _ => .pure _) fun _ => (local_wrap ?_).bind fun backup => ?_
  · unfold getBootstrapBackup
    split
    · exact .fail _
    · exact .ite (fun _ => .fail _) fun _ =>
        local_ask_bind (hget _) local_ofApi
  · split
    · exact .fail _
    · exact .pure _

theorem local_ensurePod (hget : ∀ name, R (.getPod name)) (hbackup : ∀ name, R (.getBackup name))
    (hpatch : ∀ before after, R (.patchPod before after)) (hcreate : ∀ pod, R (.createPod pod))
    (r : ClusterReconciler) (layout : ShardLayout) (index : Nat) :
    KeepsLocal R (ensurePod r layout index) := by
  refine KeepsLocal.get.bind fun cluster => local_wrap ?_
  refine KeepsLocal.get.bind fun cluster => local_ask_bind (hget _) fun answer => ?_
  cases answer with
  | ok existing =>
    exact .ite (fun _ => .pure _) fun _ =>
      local_wrap (local_ask_bind (hpatch _ _) local_ofApi)
  | error err =>
    exact (local_restoreContainer hbackup r _ _ _ _).bind fun _ =>
      local_wrap (local_ask_bind (hcreate _) local_ofApi)

theorem local_scaleDown (h : ∀ name reason, R (.deletePod name reason)) (pods : List Pod) :
    KeepsLocal R (scaleDown pods) :=
  KeepsLocal.get.bind fun _ =>
    (KeepsLocal.forEach fun _ => KeepsLocal.get.bind fun _ =>
      local_doWhen fun _ => local_wrap (local_deletePod (h _ _))).bind fun _ =>
        .ite (fun _ => .fail _) fun _ => .pure ()

theorem local_podLayout (h : R .mapOrder) (cluster : RedisCluster) (pods : List Pod)
    (statuses : Statuses) : KeepsLocal R (podLayout cluster pods statuses) :=
  .ite (fun _ => local_ask_bind h fun _ => .pure _) fun _ =>
    .pure _

end

theorem only_ensurePod (r : ClusterReconciler) (layout : ShardLayout) (index : Nat) :
    Only Cmd.Creating (ensurePod r layout index) :=
  (local_ensurePod (fun _ => trivial) (fun _ => trivial) (fun _ _ => trivial) (fun _ => trivial)
    r layout index).only

/-! ## Bootstrap and reshard -/

theorem only_finishClusterHandover (owner : String) :
    Only Cmd.Shaping (finishClusterHandover owner) :=
  Only.get.bind fun _ => only_wrap (only_patchCluster fun _ => rfl)

theorem only_beginClusterHandover (owner heir : String) :
    Only Cmd.Shaping (beginClusterHandover owner heir) :=
  Only.get.bind fun _ => .ite (fun _ => .fail _) fun _ =>
    .ite (fun _ => .fail _) fun _ => only_wrap (only_patchCluster fun _ => rfl)

theorem only_resumeClusterHandover (pods : List Pod) (statuses : Statuses) :
    Only Cmd.Shaping (resumeClusterHandover pods statuses) := by
  refine Only.get.bind fun cluster => .ite (fun _ => .fail _) fun _ => ?_
  split
  · refine Only.bind ?_ fun _ => .pure _
    refine .ite (fun _ => only_finishClusterHandover _) fun _ =>
      .ite (fun _ => .pure _) fun _ =>
        .ite (fun _ => only_finishClusterHandover _) fun _ => ?_
    exact .ite (fun _ => .pure _) fun _ =>
      .ite (fun _ => .pure _) fun _ => only_wrap (only_postOrFail trivial)
  · exact (only_finishClusterHandover _).bind fun _ => .pure _

section

variable {R : Cmd → Prop}

theorem local_fillShardSlots (h : ∀ podIP range, R (.post podIP (.addSlots range)))
    (layout : ShardLayout) (byName : GoMap String Pod) (ranges : List SlotRange)
    (state : BootstrapState) (shardIndex : Nat) :
    KeepsLocal R (fillShardSlots layout byName ranges state shardIndex) :=
  .ite (fun _ => .pure _) fun _ =>
    (KeepsLocal.forEach fun _ => local_wrap (local_postOrFail (h _ _))).bind fun _ =>
      .pure _

theorem local_placeReplica (h : ∀ podIP nodeID, R (.post podIP (.replicate nodeID)))
    (layout : ShardLayout) (byName : GoMap String Pod) (statuses : Statuses)
    (performedAction : Bool) (podName : String) :
    KeepsLocal R (placeReplica layout byName statuses performedAction podName) := by
  refine .ite (fun _ => .pure _) fun _ =>
    .ite (fun _ => .pure _) fun _ =>
      .ite (fun _ => .pure _) fun _ => ?_
  refine .ite (fun _ => .pure _) fun _ =>
    .ite (fun _ => .pure _) fun _ =>
      (local_postClusterJSON (h _ _)).bind fun r => ?_
  split
  · exact .pure _
  · exact .pure _
  · exact .fail _

theorem local_shapeCluster (hslots : ∀ podIP range, R (.post podIP (.addSlots range)))
    (hreplicate : ∀ podIP nodeID, R (.post podIP (.replicate nodeID))) (cluster : RedisCluster)
    (layout : ShardLayout) (byName : GoMap String Pod) (statuses : Statuses) :
    KeepsLocal R (shapeCluster cluster layout byName statuses) := by
  refine (KeepsLocal.loop (local_fillShardSlots hslots _ _ _) _).bind fun filled => ?_
  cases filled with
  | inr ready => exact .pure _
  | inl state =>
    refine (KeepsLocal.loop (local_placeReplica hreplicate _ _ _) _).bind fun placed => ?_
    cases placed with
    | inr ready => exact .pure _
    | inl acted => exact .ite (fun _ => .pure _) fun _ => .pure _

end

theorem only_shapeCluster (cluster : RedisCluster) (layout : ShardLayout)
    (byName : GoMap String Pod) (statuses : Statuses) :
    Only Cmd.Shaping (shapeCluster cluster layout byName statuses) :=
  (local_shapeCluster (fun _ _ => trivial) (fun _ _ => trivial) cluster layout byName statuses).only

theorem only_reconcileClusterBootstrap (statuses : Statuses) :
    Only Cmd.Shaping (reconcileClusterBootstrap statuses) := by
  refine Only.get.bind fun cluster => .ite (fun _ => .pure _) fun _ =>
    (only_wrap (only_listDataPods trivial)).bind fun pods =>
      .ite (fun _ => only_resumeClusterHandover _ _) fun _ => ?_
  refine .ite (fun _ => .pure _) fun _ => .ite (fun _ => .fail _) fun _ =>
    .ite (fun _ => .pure _) fun _ => ?_
  exact (Only.forEach fun name _ => only_wrap (only_postOrFail trivial)).bind fun _ =>
    (only_ask trivial).bind fun order => only_shapeCluster _ _ _ _

theorem only_handOverShard (owner : String) (ownerStatus : InstanceStatus) (heir : String)
    (heirPod : Pod) (heirStatus : InstanceStatus) :
    Only Cmd.Shaping (handOverShard owner ownerStatus heir heirPod heirStatus) := by
  refine .ite (fun _ => (only_postClusterJSON trivial).bind fun r => ?_) fun _ =>
    .ite (fun _ => .pure _) fun _ => only_beginClusterHandover _ _
  split
  · exact .pure _
  · exact .pure _
  · exact .fail _

theorem only_moveSegment (cluster : RedisCluster) (byName : GoMap String Pod)
    (statuses : Statuses) (target source : String) (segment : SlotRange) :
    Only Cmd.Shaping (moveSegment cluster byName statuses target source segment) := by
  refine .ite (fun _ => (only_wrap (only_postOrFail trivial)).bind fun _ => .pure _)
    fun _ => .ite (fun _ => .pure _) fun _ =>
      .ite (fun _ => .pure _) fun _ => ?_
  exact .ite (fun _ => (only_handOverShard _ _ _ _ _).bind fun _ => .pure _) fun _ =>
    (only_wrap (only_postOrFail trivial)).bind fun _ => .pure _

theorem only_reconcileClusterReshard (statuses : Statuses) :
    Only Cmd.Shaping (reconcileClusterReshard statuses) := by
  refine Only.get.bind fun cluster => .ite (fun _ => .pure _) fun _ =>
    .ite (fun _ => .pure _) fun _ => .ite (fun _ => .pure _) fun _ => ?_
  refine (only_wrap (only_listDataPods trivial)).bind fun pods =>
    (only_ask trivial).bind fun order =>
    .ite (fun _ => .pure _) fun _ => .ite (fun _ => .pure _) fun _ =>
      (only_ask trivial).bind fun visit => ?_
  dsimp only
  split
  · exact .pure _
  · exact only_moveSegment _ _ _ _ _ _

theorem only_topologyReady (maintenance : Bool) (statuses : Statuses) :
    Only Cmd.Shaping (topologyReady maintenance statuses) := by
  refine Only.get.bind fun cluster => .ite (fun _ => ?_) fun _ => .pure _
  exact (only_wrap (only_reconcileClusterBootstrap _)).bind fun ready =>
    .ite (fun _ => .pure _) fun _ => only_wrap (only_reconcileClusterReshard _)

end RedisOperator
