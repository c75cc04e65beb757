/-
  RedisOperator.Backup.Schedule

  `internal/controller/backup/scheduled_reconciler.go`: one reconcile of a
  RedisScheduledBackup.  The cron library and the time zone database are
  parameters.  Instants are nanoseconds; what an API object stores of them are
  whole seconds, because that is how `metav1.Time` is written.

  Events and log lines are left out.
-/

import RedisOperator.Cluster.Requests

namespace RedisOperator.Backup

open Lib

/-! ## Requests -/

/-- `time.Second`, in nanoseconds. -/
def second : Nat := 1000000000

/-- The libraries that read schedules. -/
structure CronLibrary where
  Location : Type
  Schedule : Type
  /-- `time.LoadLocation` -/
  loadLocation : String → Except String Location
  /-- `cron.ParseStandard` -/
  parseStandard : String → Except String Schedule
  /-- `sched.Next(t.In(loc))`; `none` is the zero time -/
  next : Schedule → Location → Nat → Option Nat

/-- A request of the reconciler. -/
inductive ScheduleCmd
  | now
  | getScheduled
  | getCluster (name : String)
  | createBackup (backup : RedisBackup)
  | patchStatus (before after : RedisScheduledBackup)
  | listBackups (scheduleName : String)
  | deleteBackup (name : String)

/-- The type of the answer to a request. -/
@[reducible] def ScheduleReply : ScheduleCmd → Type
  | .now => Nat
  | .getScheduled => Api RedisScheduledBackup
  | .getCluster _ => Api RedisCluster
  | .createBackup _ => Api Unit
  | .patchStatus .. => Api RedisScheduledBackup
  | .listBackups _ => Api (List RedisBackup)
  | .deleteBackup _ => Api Unit

/-- A function of the reconciler. -/
abbrev ScheduleOp (α : Type) : Type :=
  Act RedisScheduledBackup String ScheduleCmd ScheduleReply α

/-- Issue a request. -/
def ask (c : ScheduleCmd) : ScheduleOp (ScheduleReply c) := Act.request c

/-- `r.Status().Patch(ctx, scheduled, patch)`, with its error returned. -/
def patchScheduled (after : RedisScheduledBackup) : ScheduleOp Unit := do
  let before ← Act.get
  match ← ask (.patchStatus before after) with
  | .ok stored => Act.set stored
  | .error err => Act.fail err.message

/-! ## Schedules -/

/-- `parseSchedule`. -/
def parseSchedule (lib : CronLibrary) (schedule timeZone : String) :
    Except String (lib.Schedule × lib.Location) :=
  let tz := if timeZone = "" then "UTC" else timeZone
  match lib.loadLocation tz with
  | .error err => .error ("invalid timeZone " ++ quote tz.toList ++ ": " ++ err)
  | .ok loc =>
    match lib.parseStandard schedule with
    | .error err => .error ("invalid schedule " ++ quote schedule.toList ++ ": " ++ err)
    | .ok sched => .ok (sched, loc)

/-- `baselineTime`, as an instant. -/
def baselineTime (scheduled : RedisScheduledBackup) : Nat :=
  match scheduled.lastScheduleTime with
  | some time => time * second
  | none => scheduled.creationTimestamp * second

/-- `requeueDelay`. -/
def requeueDelay (next : Option Nat) (now : Nat) : Nat :=
  match next with
  | some next => if second < next - now then next - now else second
  | none => second

/-- `meta.SetStatusCondition`: the time of the transition is kept while the status is. -/
def setStatusCondition (existing : Option ScheduleCondition) (new : ScheduleCondition) :
    ScheduleOp ScheduleCondition :=
  match existing with
  | some old =>
    if old.status = new.status then
      pure { new with lastTransitionTime := old.lastTransitionTime }
    else do
      let time ← ask .now
      pure { new with lastTransitionTime := time / second }
  | none => do
      let time ← ask .now
      pure { new with lastTransitionTime := time / second }

/-- `scheduleValidCondition`. -/
def scheduleValidCondition (generation : Int) : ScheduleCondition where
  status := true
  observedGeneration := generation
  reason := "ScheduleParsed"
  message := "Schedule parsed successfully"

/-- `markScheduleInvalid`. -/
def markScheduleInvalid (cause : String) : ScheduleOp (Option Nat) := do
  let scheduled ← Act.get
  let condition ← setStatusCondition scheduled.scheduleValid
    { status := false, observedGeneration := scheduled.generation, reason := "InvalidSchedule",
      message := cause }
  patchScheduled { scheduled with scheduleValid := some condition, phase := .active }
  pure none

/-! ## Retention -/

/-- The order of `sortByCreationTime`. -/
def createdBefore (b b' : RedisBackup) : Bool :=
  if b.creationTimestamp = b'.creationTimestamp then decide (b.name < b'.name)
  else decide (b.creationTimestamp < b'.creationTimestamp)

/-- `sortByCreationTime`. -/
def sortByCreationTime (backups : List RedisBackup) : List RedisBackup :=
  backups.insertionSort fun b b' => createdBefore b' b = false

/-- The loop that deletes `excess` backups from the front; an index beyond the end panics. -/
def deleteExcess (kind : String) : Nat → List RedisBackup → ScheduleOp (Except String Unit)
  | 0, _ => pure (.ok ())
  | _ + 1, [] => Act.fail "runtime error: index out of range"
  | excess + 1, backup :: backups => do
      match ← ask (.deleteBackup backup.name) with
      | .error err => pure (.error ("deleting old " ++ kind ++ " backup: " ++ err.message))
      | .ok _ => deleteExcess kind excess backups

/-- The part of `cleanupOldBackups` for the backups of one outcome. -/
def trimBackups (kind : String) (historyLimit : Option Int) (backups : List RedisBackup) :
    ScheduleOp (Except String Unit) :=
  let limit := historyLimit.getD 3
  if limit < wrap32 backups.length then
    deleteExcess kind (wrap32 (wrap32 backups.length - limit)).toNat backups
  else pure (.ok ())

/-- `cleanupOldBackups`. -/
def cleanupOldBackups : ScheduleOp (Except String Unit) := do
  let scheduled ← Act.get
  match ← ask (.listBackups scheduled.name) with
  | .error err => pure (.error ("listing backups: " ++ err.message))
  | .ok items => do
      let successful := sortByCreationTime (items.filter fun b => b.phase == .completed)
      let failed := sortByCreationTime (items.filter fun b => b.phase == .failed)
      match ← trimBackups "successful" scheduled.successfulBackupsHistoryLimit successful with
      | .error err => pure (.error err)
      | .ok _ => trimBackups "failed" scheduled.failedBackupsHistoryLimit failed

/-! ## The reconcile -/

/-- The label that ties a backup to its schedule. -/
def labelScheduledBackup : String := "redis.io/scheduled-backup"

/-- The backup of a schedule that is due at an instant. -/
def scheduledBackup (scheduled : RedisScheduledBackup) (now : Nat) : RedisBackup where
  name := scheduled.name ++ "-" ++ (now / second).repr
  labels := ((∅ : GoMap String String).insert labelCluster scheduled.clusterName).insert
    labelScheduledBackup scheduled.name
  clusterName := scheduled.clusterName
  target := scheduled.target
  method := scheduled.method
  destination := scheduled.destination

/-- Not due yet: the next time is recorded. -/
def waitForNext (next now : Nat) : ScheduleOp (Option Nat) := do
  let scheduled ← Act.get
  let condition ← setStatusCondition scheduled.scheduleValid
    (scheduleValidCondition scheduled.generation)
  patchScheduled { scheduled with
    nextScheduleTime := some (next / second), phase := .active, scheduleValid := some condition }
  pure (some (requeueDelay (some next) now))

/-- Due: create the backup, then record it. -/
def fire (now : Nat) (nextRun : Option Nat) : ScheduleOp (Option Nat) := do
  let scheduled ← Act.get
  match ← ask (.createBackup (scheduledBackup scheduled now)) with
  | .error err => Act.fail ("creating RedisBackup: " ++ err.message)
  | .ok _ => do
      let condition ← setStatusCondition scheduled.scheduleValid
        (scheduleValidCondition scheduled.generation)
      patchScheduled { scheduled with
        lastScheduleTime := some (now / second)
        lastBackupName := (scheduledBackup scheduled now).name
        nextScheduleTime := nextRun.map (· / second)
        phase := .active
        scheduleValid := some condition }
      -- an error of the cleanup is only logged
      let _ ← cleanupOldBackups
      pure (some (requeueDelay nextRun now))

/-- `Reconcile`, for a schedule that is not suspended and a cluster that was found. -/
def reconcileDue (lib : CronLibrary) (scheduled : RedisScheduledBackup) :
    ScheduleOp (Option Nat) :=
  match parseSchedule lib scheduled.schedule scheduled.timeZone with
  | .error err => markScheduleInvalid err
  | .ok (sched, loc) => do
      let now ← ask .now
      match lib.next sched loc (baselineTime scheduled) with
      | none =>
        markScheduleInvalid
          ("schedule " ++ quote scheduled.schedule.toList ++ " has no upcoming occurrences")
      | some next =>
        if now < next then waitForNext next now
        else fire now (lib.next sched loc now)

/-- `Reconcile`: nanoseconds until the next one, if it asks for one. -/
def reconcileScheduled (lib : CronLibrary) : ScheduleOp (Option Nat) := do
  match ← ask .getScheduled with
  | .error err => if err.reason = .notFound then pure none else Act.fail err.message
  | .ok scheduled => do
      Act.set scheduled
      if scheduled.suspend = some true then do
        patchScheduled { scheduled with phase := .suspended }
        pure none
      else
        match ← ask (.getCluster scheduled.clusterName) with
        | .error err =>
          Act.fail ("cluster " ++ scheduled.clusterName ++ " not found: " ++ err.message)
        | .ok _ => reconcileDue lib scheduled

end RedisOperator.Backup
