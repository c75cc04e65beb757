/-
  RedisOperator.Backup.Reconcile

  `internal/controller/backup/reconciler.go` and `executor.go`: one reconcile of
  a RedisBackup.  It is a program over the requests below whose local variable
  is the `backup` the Go functions hand to each other: they write the new status
  into it before they patch, so a patch that fails leaves it changed.

  Metrics and events are left out.
-/

import RedisOperator.Cluster.Requests
import Mathlib.Algebra.Ring.Int.Defs

namespace RedisOperator.Backup

open Lib

/-! ## Requests -/

/-- `BackupResult`. -/
structure BackupResult where
  artifactType : BackupArtifactType := .unset
  backupPath : String := ""
  backupSize : Int := 0
  checksumSHA256 : String := ""

/-- What an instance manager answers to `POST /v1/backup`. -/
structure BackupResponse where
  code : Nat
  /-- the first 4 KiB of the body -/
  body : String := ""
  /-- the body read as JSON -/
  payload : Except String BackupResult

/-- A request of the reconciler. -/
inductive BackupCmd
  | now
  | getBackup
  | getCluster (name : String)
  | listPods (clusterName : String)
  | patchStatus (before after : RedisBackup)
  | post (podIP backupName : String) (method : BackupMethod)
      (destination : Option BackupDestination)

/-- The type of the answer to a request. -/
@[reducible] def BackupReply : BackupCmd → Type
  | .now => Nat
  | .getBackup => Api RedisBackup
  | .getCluster _ => Api RedisCluster
  | .listPods _ => Api (List Pod)
  | .patchStatus .. => Api RedisBackup
  | .post .. => Except String BackupResponse

/-- A function of the reconciler. -/
abbrev BackupOp (α : Type) : Type := Act RedisBackup String BackupCmd BackupReply α

/-- Issue a request. -/
def request (c : BackupCmd) : BackupOp (BackupReply c) := Act.request c

/-- `r.Status().Patch(ctx, backup, patch)`. -/
def patchStatus (after : RedisBackup) : BackupOp (Api Unit) := do
  let before ← Act.get
  match ← request (.patchStatus before after) with
  | .ok stored => do
      Act.set stored
      pure (.ok ())
  | .error err => do
      Act.set after
      pure (.error err)

/-- Return the error of a patch, if it has one. -/
def orFail : Api Unit → BackupOp Unit
  | .ok _ => pure ()
  | .error err => Act.fail err.message

/-! ## Phases -/

/-- What `setBackupPending` writes. -/
def pendingStatus (backup : RedisBackup) : RedisBackup :=
  { backup with phase := .pending, error := "" }

/-- `setBackupPending`. -/
def setBackupPending : BackupOp Unit := do
  let backup ← Act.get
  if backup.phase = .pending then pure ()
  else orFail (← patchStatus (pendingStatus backup))

/-- What `setBackupFailed` writes. -/
def failedStatus (backup : RedisBackup) (errMsg : String) : RedisBackup :=
  { backup with phase := .failed, error := errMsg }

/-- `setBackupFailed`. -/
def setBackupFailed (errMsg : String) : BackupOp Unit := do
  let backup ← Act.get
  orFail (← patchStatus (failedStatus backup errMsg))

/-- What `startBackup` and `startClusterBackup` write. -/
def runningStatus (backup : RedisBackup) (targetPod : String) (time : Nat) : RedisBackup :=
  { backup with phase := .running, targetPod := targetPod, startedAt := some time }

/-- The artifact metadata `setBackupCompleted` records. -/
def withArtifacts (backup : RedisBackup) (result : Option BackupResult)
    (shardArtifacts : GoMap String ShardBackupArtifact) : RedisBackup :=
  let cleared := { backup with phase := .completed, shardArtifacts := ∅ }
  match result with
  | some result =>
    { cleared with
      backupPath := result.backupPath
      backupSize := result.backupSize
      artifactType :=
        if result.artifactType = .unset then backup.artifactType else result.artifactType }
  | none =>
    match shardArtifacts.keys.insertionSort (· ≤ ·) with
    | [] => cleared
    | first :: rest =>
      { cleared with
        shardArtifacts := shardArtifacts
        backupPath := (shardArtifacts.get first).backupPath
        artifactType := (shardArtifacts.get first).artifactType
        backupSize :=
          ((first :: rest).map fun name => (shardArtifacts.get name).backupSize).sum }

/-- What `setBackupCompleted` writes. -/
def completedStatus (backup : RedisBackup) (result : Option BackupResult)
    (shardArtifacts : GoMap String ShardBackupArtifact) (time : Nat) : RedisBackup :=
  { withArtifacts backup result shardArtifacts with completedAt := some time }

@[simp] theorem runningStatus_phase (backup : RedisBackup) (targetPod : String) (time : Nat) :
    (runningStatus backup targetPod time).phase = .running := rfl

@[simp] theorem completedStatus_phase (backup : RedisBackup) (result : Option BackupResult)
    (shardArtifacts : GoMap String ShardBackupArtifact) (time : Nat) :
    (completedStatus backup result shardArtifacts time).phase = .completed := by
  unfold completedStatus withArtifacts
  cases result with
  | some result => rfl
  | none => cases shardArtifacts.keys.insertionSort (· ≤ ·) <;> rfl

theorem completedStatus_shardArtifacts (backup : RedisBackup)
    (shardArtifacts : GoMap String ShardBackupArtifact) (time : Nat) :
    (completedStatus backup none shardArtifacts time).shardArtifacts = shardArtifacts := by
  unfold completedStatus withArtifacts
  cases hsorted : shardArtifacts.keys.insertionSort (· ≤ ·) with
  | cons first rest => rfl
  | nil =>
    have hkeys : shardArtifacts.keys = [] := by
      have hperm := List.perm_insertionSort (· ≤ ·) shardArtifacts.keys
      rw [hsorted] at hperm
      exact hperm.symm.eq_nil
    exact (GoMap.eq_empty_of_keys hkeys).symm

/-- `setBackupCompleted`. -/
def setBackupCompleted (result : Option BackupResult)
    (shardArtifacts : GoMap String ShardBackupArtifact) : BackupOp Unit := do
  let backup ← Act.get
  let time ← request .now
  orFail (← patchStatus (completedStatus backup result shardArtifacts time))

/-! ## The request to the instance manager -/

/-- What `triggerBackupWithOptions` makes of an answer. -/
def readResponse (url : String) : Except String BackupResponse → Except String BackupResult
  | .error err => .error ("POST " ++ url ++ ": " ++ err)
  | .ok response =>
    if response.code ≠ 200 then
      .error ("POST " ++ url ++ " returned " ++ response.code.repr ++ ": " ++
        String.ofList (trimSpace response.body.toList))
    else
      match response.payload with
      | .error err => .error ("decoding backup response: " ++ err)
      | .ok payload =>
        if payload.backupPath = "" then
          .error "instance manager backup response is missing backupPath"
        else .ok payload

/-- `triggerBackupWithOptions`. -/
def triggerBackupWithOptions (podIP backupName : String) (method : BackupMethod)
    (destination : Option BackupDestination) : BackupOp (Except String BackupResult) := do
  let answer ← request (.post podIP backupName method destination)
  pure (readResponse (instanceURL podIP "/v1/backup") answer)

/-- `startBackup`. -/
def startBackup (targetPod targetIP : String) : BackupOp (Except String BackupResult) := do
  let backup ← Act.get
  let time ← request .now
  match ← patchStatus (runningStatus backup targetPod time) with
  | .error err => pure (.error err.message)
  | .ok _ => do
      let current ← Act.get
      triggerBackupWithOptions targetIP current.name current.method current.destination

/-! ## Targets -/

/-- The pod a backup of a cluster that is not sharded runs on. -/
def targetPodAmong (cluster : RedisCluster) (target : BackupTarget) (pods : List Pod) :
    Option Pod :=
  let replica :=
    if target = .preferReplica then
      pods.find? fun pod => pod.name != cluster.status.currentPrimary && pod.podIP != ""
    else none
  replica.or
    (pods.find? fun pod => pod.name == cluster.status.currentPrimary && pod.podIP != "")

/-- `selectTargetPod`. -/
def selectTargetPod (cluster : RedisCluster) (target : BackupTarget) :
    BackupOp (Except String Pod) := do
  match ← request (.listPods cluster.name) with
  | .error err => pure (.error ("listing pods: " ++ err.message))
  | .ok pods =>
    match targetPodAmong cluster target pods with
    | some pod => pure (.ok pod)
    | none => pure (.error "no suitable pod found for backup")

/-- `clusterBackupTarget`. -/
structure ClusterBackupTarget where
  podName : String := ""
  podIP : String := ""
  deriving DecidableEq, Repr, Inhabited

/-- Targets by the shards of the status: primaries that are listed with an address. -/
def statusTargets (cluster : RedisCluster) (pods : List Pod) : GoMap String ClusterBackupTarget :=
  cluster.status.shards.pairs.foldl (fun targets shard =>
    if shard.2.primaryPod = "" then targets
    else
      match (podsByName pods).lookup shard.2.primaryPod with
      | none => targets
      | some pod =>
        if pod.podIP = "" then targets else targets.insert shard.1 ⟨pod.name, pod.podIP⟩) ∅

/-- Targets by the labels of the pods. -/
def labelTargets (pods : List Pod) : GoMap String ClusterBackupTarget :=
  pods.foldl (fun targets pod =>
    let shard := pod.labels.get labelShard
    if pod.labels.get labelRole = labelRoleSentinel then targets
    else if pod.labels.get labelShardRole ≠ labelRolePrimary then targets
    else if shard = "" ∨ pod.podIP = "" then targets
    else targets.insert shard ⟨pod.name, pod.podIP⟩) ∅

/-- The targets of a sharded cluster: the labels only count if the status yields none. -/
def clusterTargetsAmong (cluster : RedisCluster) (pods : List Pod) :
    GoMap String ClusterBackupTarget :=
  if 0 < (statusTargets cluster pods).len then statusTargets cluster pods else labelTargets pods

/-- `selectClusterBackupTargets`. -/
def selectClusterBackupTargets (cluster : RedisCluster) :
    BackupOp (Except String (GoMap String ClusterBackupTarget)) := do
  match ← request (.listPods cluster.name) with
  | .error err => pure (.error ("listing pods: " ++ err.message))
  | .ok pods =>
    if (clusterTargetsAmong cluster pods).len = 0 then
      pure (.error "no shard primary pods with IP found for cluster backup")
    else pure (.ok (clusterTargetsAmong cluster pods))

/-! ## A backup of every shard -/

/-- The entry of one shard. -/
def shardArtifact (target : ClusterBackupTarget) (result : BackupResult) : ShardBackupArtifact where
  targetPod := target.podName
  backupPath := result.backupPath
  backupSize := result.backupSize
  artifactType := result.artifactType
  checksumSHA256 := result.checksumSHA256

/-- The loop over the shards; the first error ends it. -/
def triggerShards (targets : GoMap String ClusterBackupTarget) :
    List String → GoMap String ShardBackupArtifact →
      BackupOp (Except String (GoMap String ShardBackupArtifact))
  | [], shardArtifacts => pure (.ok shardArtifacts)
  | shard :: shards, shardArtifacts => do
      let backup ← Act.get
      let target := targets.get shard
      match ← triggerBackupWithOptions target.podIP (backup.name ++ "-" ++ shard) backup.method
          backup.destination with
      | .error err =>
        pure (.error ("triggering shard backup " ++ shard ++ " on pod " ++ target.podName ++
          ": " ++ err))
      | .ok result =>
        triggerShards targets shards (shardArtifacts.insert shard (shardArtifact target result))

/-- The pods of the targets, as the status names them. -/
def targetPodNames (targets : GoMap String ClusterBackupTarget) : String :=
  ",".intercalate ((targets.pairs.map fun target => target.2.podName).insertionSort (· ≤ ·))

/-- `startClusterBackup`. -/
def startClusterBackup (targets : GoMap String ClusterBackupTarget) :
    BackupOp (Except String (GoMap String ShardBackupArtifact)) := do
  let backup ← Act.get
  let time ← request .now
  match ← patchStatus (runningStatus backup (targetPodNames targets) time) with
  | .error err => pure (.error err.message)
  | .ok _ => triggerShards targets (targets.keys.insertionSort (· ≤ ·)) ∅

/-! ## The reconcile -/

/-- `requeueInterval`, in seconds. -/
def requeueInterval : Nat := 30

/-- The backup has not been started. -/
def NotStarted (phase : BackupPhase) : Prop := phase = .unset ∨ phase = .pending

instance (phase : BackupPhase) : Decidable (NotStarted phase) :=
  inferInstanceAs (Decidable (_ ∨ _))

/-- The backup has ended. -/
def Ended (phase : BackupPhase) : Prop := phase = .completed ∨ phase = .failed

instance (phase : BackupPhase) : Decidable (Ended phase) :=
  inferInstanceAs (Decidable (_ ∨ _))

theorem not_ended_of_notStarted {phase : BackupPhase} (h : NotStarted phase) : ¬ Ended phase := by
  rcases h with rfl | rfl <;> decide

theorem ne_running_of_notStarted {phase : BackupPhase} (h : NotStarted phase) :
    phase ≠ .running := by
  rcases h with rfl | rfl <;> decide

theorem running_of_live {phase : BackupPhase} (hlive : ¬ Ended phase) (hnew : ¬ NotStarted phase) :
    phase = .running := by
  cases phase with
  | unset => exact absurd (Or.inl rfl) hnew
  | pending => exact absurd (Or.inr rfl) hnew
  | running => rfl
  | completed => exact absurd (Or.inl rfl) hlive
  | failed => exact absurd (Or.inr rfl) hlive

/-- Give up with a message. -/
def failWith (errMsg : String) : BackupOp (Option Nat) := do
  setBackupFailed errMsg
  pure none

/-- The part of `Reconcile` for a sharded cluster. -/
def backupShards (cluster : RedisCluster) (currentPhase : BackupPhase) : BackupOp (Option Nat) := do
  match ← selectClusterBackupTargets cluster with
  | .error err => failWith ("selecting cluster backup targets: " ++ err)
  | .ok targets =>
    if NotStarted currentPhase then do
      match ← startClusterBackup targets with
      | .error err => failWith ("starting cluster backup: " ++ err)
      | .ok shardArtifacts => do
          setBackupCompleted none shardArtifacts
          pure none
    else if currentPhase = .running then pure (some requeueInterval)
    else do
      setBackupCompleted none ∅
      pure none

/-- The part of `Reconcile` for any other cluster. -/
def backupInstance (cluster : RedisCluster) (target : BackupTarget) (currentPhase : BackupPhase) :
    BackupOp (Option Nat) := do
  match ← selectTargetPod cluster target with
  | .error err => failWith ("selecting target pod: " ++ err)
  | .ok pod =>
    if NotStarted currentPhase then do
      match ← startBackup pod.name pod.podIP with
      | .error err => failWith ("starting backup: " ++ err)
      | .ok result => do
          setBackupCompleted (some result) ∅
          pure none
    else if currentPhase = .running then pure (some requeueInterval)
    else do
      setBackupCompleted none ∅
      pure none

/-- `Reconcile`, for a backup that has not ended and a cluster that was found. -/
def reconcileOn (backup : RedisBackup) (cluster : RedisCluster) : BackupOp (Option Nat) :=
  if cluster.status.phase ≠ .healthy then do
    setBackupPending
    pure (some requeueInterval)
  else
    match validateDestination backup.destination with
    | some err => failWith ("invalid backup destination: " ++ err)
    | none =>
      if cluster.spec.mode = .cluster then backupShards cluster backup.phase
      else backupInstance cluster backup.target backup.phase

/-- `Reconcile`: seconds until the next one, if it asks for one. -/
def reconcileBackup : BackupOp (Option Nat) := do
  match ← request .getBackup with
  | .error err => if err.reason = .notFound then pure none else Act.fail err.message
  | .ok backup => do
      Act.set backup
      if Ended backup.phase then pure none
      else
        match ← request (.getCluster backup.clusterName) with
        | .error err =>
          failWith ("cluster " ++ backup.clusterName ++ " not found: " ++ err.message)
        | .ok cluster => reconcileOn backup cluster

end RedisOperator.Backup
