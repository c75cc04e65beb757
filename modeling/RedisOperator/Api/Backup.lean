/-
  RedisOperator.Api.Backup

  `redisbackup_types.go` and `redisscheduledbackup_types.go`: the backup object
  and its schedule, as the controllers and the restore binary read and write them.
-/

import RedisOperator.Lib.GoMap

namespace RedisOperator

open Lib

/-- `BackupPhase`; `unset` is the empty string. -/
inductive BackupPhase
  | unset | pending | running | completed | failed
  deriving DecidableEq, Repr, Inhabited

/-- `BackupTarget`; `unset` is the empty string, which the API server replaces by
    `preferReplica`. -/
inductive BackupTarget
  | unset | primary | preferReplica
  deriving DecidableEq, Repr, Inhabited

/-- `BackupMethod`; the API server admits no other text, a hand-written object may carry one. -/
inductive BackupMethod
  | unset | rdb | aof | other (text : String)
  deriving DecidableEq, Repr, Inhabited

/-- `BackupArtifactType`. -/
inductive BackupArtifactType
  | unset | rdb | aofArchive | other (text : String)
  deriving DecidableEq, Repr, Inhabited

/-- The phase as the API spells it. -/
def BackupPhase.text : BackupPhase → String
  | .unset => ""
  | .pending => "Pending"
  | .running => "Running"
  | .completed => "Completed"
  | .failed => "Failed"

/-- `S3Destination`. -/
structure S3Destination where
  bucket : String
  /-- prefix of the object keys -/
  path : String := ""
  endpoint : String := ""
  region : String := ""
  deriving DecidableEq, Repr, Inhabited

/-- `AzureBlobDestination`. -/
structure AzureBlobDestination where
  container : String
  /-- prefix of the blob names -/
  path : String := ""
  accountName : String := ""
  endpoint : String := ""
  deriving DecidableEq, Repr, Inhabited

/-- `BackupDestination`. -/
structure BackupDestination where
  s3 : Option S3Destination := none
  azure : Option AzureBlobDestination := none
  deriving DecidableEq, Repr, Inhabited

/-- `BackupDestination.Validate`: the error, if any. -/
def validateDestination : Option BackupDestination → Option String
  | none => some "destination is required"
  | some d =>
    match d.s3, d.azure with
    | none, none => some "destination requires exactly one of s3 or azure"
    | some _, some _ => some "destination must set exactly one of s3 or azure"
    | some s3, none =>
      if s3.bucket = "" then some "destination.s3.bucket is required" else none
    | none, some azure =>
      if azure.container = "" then some "destination.azure.container is required" else none

/-- `ShardBackupArtifact`. -/
structure ShardBackupArtifact where
  targetPod : String := ""
  backupPath : String := ""
  backupSize : Int := 0
  artifactType : BackupArtifactType := .unset
  checksumSHA256 : String := ""
  deriving DecidableEq, Repr, Inhabited

/-- `RedisBackup`. -/
structure RedisBackup where
  name : String
  labels : GoMap String String := ∅
  /-- seconds -/
  creationTimestamp : Int := 0
  clusterName : String := ""
  target : BackupTarget := .unset
  method : BackupMethod := .unset
  destination : Option BackupDestination := none
  phase : BackupPhase := .unset
  targetPod : String := ""
  startedAt : Option Nat := none
  completedAt : Option Nat := none
  backupSize : Int := 0
  backupPath : String := ""
  artifactType : BackupArtifactType := .unset
  shardArtifacts : GoMap String ShardBackupArtifact := ∅
  error : String := ""
  deriving DecidableEq, Inhabited

/-- `ScheduledBackupPhase`; `unset` is the empty string. -/
inductive ScheduledBackupPhase
  | unset | active | suspended
  deriving DecidableEq, Repr, Inhabited

/-- The condition `ScheduleValid`, the only one a schedule has. -/
structure ScheduleCondition where
  status : Bool
  observedGeneration : Int := 0
  reason : String := ""
  message : String := ""
  /-- seconds -/
  lastTransitionTime : Nat := 0
  deriving DecidableEq, Repr, Inhabited

/-- `RedisScheduledBackup`.  Times of an API object are whole seconds. -/
structure RedisScheduledBackup where
  name : String
  generation : Int := 0
  creationTimestamp : Nat := 0
  schedule : String := ""
  timeZone : String := ""
  clusterName : String := ""
  target : BackupTarget := .unset
  method : BackupMethod := .unset
  destination : Option BackupDestination := none
  suspend : Option Bool := none
  successfulBackupsHistoryLimit : Option Int := none
  failedBackupsHistoryLimit : Option Int := none
  phase : ScheduledBackupPhase := .unset
  lastScheduleTime : Option Nat := none
  nextScheduleTime : Option Nat := none
  lastBackupName : String := ""
  scheduleValid : Option ScheduleCondition := none
  deriving DecidableEq, Inhabited

end RedisOperator
