/-
  RedisOperator.Backup.Course

  What a backup reconcile can do, said once.  `Issued` lists every request of a
  reconcile together with what is stored when it is issued and what the requests
  before it were answered; `issued_reconcileBackup` is the theorem that nothing
  else is ever issued.  Properties of the reconciler are read off this list.
-/

import RedisOperator.Backup.World

namespace RedisOperator.Backup

open Lib Act

/-! ## Plans -/

/-- One call of `POST /v1/backup`. -/
structure BackupJob where
  podIP : String
  backupName : String

/-- The call, for a backup. -/
@[reducible] def BackupJob.cmd (job : BackupJob) (backup : RedisBackup) : BackupCmd :=
  .post job.podIP job.backupName backup.method backup.destination

/-- The call succeeded. -/
def BackupJob.Succeeds (job : BackupJob) (answer : Except String BackupResponse)
    (result : BackupResult) : Prop :=
  readResponse (instanceURL job.podIP "/v1/backup") answer = .ok result

/-- The pods a backup is taken on, as the status names them, and the calls it makes. -/
structure Plan where
  targetPod : String
  jobs : List BackupJob

/-- The calls for the shards that have a target. -/
def shardJobs (backup : RedisBackup) (targets : GoMap String ClusterBackupTarget)
    (shards : List String) : List BackupJob :=
  shards.map fun shard => ⟨(targets.get shard).podIP, backup.name ++ "-" ++ shard⟩

/-- The shards in the order of the calls. -/
def shardOrder (targets : GoMap String ClusterBackupTarget) : List String :=
  targets.keys.insertionSort (· ≤ ·)

/-- The plan a listing of the pods yields, if there is a suitable pod. -/
def planOf (cluster : RedisCluster) (backup : RedisBackup) (pods : List Pod) : Option Plan :=
  if cluster.spec.mode = .cluster then
    let targets := clusterTargetsAmong cluster pods
    if targets.len = 0 then none
    else some ⟨targetPodNames targets, shardJobs backup targets (shardOrder targets)⟩
  else
    (targetPodAmong cluster backup.target pods).map fun pod =>
      ⟨pod.name, [⟨pod.podIP, backup.name⟩]⟩

/-- Every target has its artifact, and there is no other. -/
def Taken (targets : GoMap String ClusterBackupTarget) (shards : List String)
    (artifacts : GoMap String ShardBackupArtifact) : Prop :=
  ∀ shard, (artifacts.lookup shard).map (·.targetPod) =
    if shard ∈ shards then some (targets.get shard).podName else none

/-! ## Stages -/

section

variable (admits : Surroundings) (stored₀ : Option RedisBackup) (log₀ : Log)

/-- The object was read and has not ended. -/
structure Live (backup : RedisBackup) : Prop where
  read : stored₀ = some backup
  live : ¬ Ended backup.phase

/-- The cluster was found as well. -/
structure Read (backup : RedisBackup) (cluster : RedisCluster) : Prop
    extends Live stored₀ backup where
  found : admits (some backup) (.getCluster backup.clusterName) (.ok cluster)

/-- Nothing stands in the way of a listing. -/
structure Ready (backup : RedisBackup) (cluster : RedisCluster) : Prop
    extends Read admits stored₀ backup cluster where
  healthy : cluster.status.phase = .healthy
  destination : validateDestination backup.destination = none

/-- The backup is to be started. -/
structure Planned (backup : RedisBackup) (cluster : RedisCluster) (pods : List Pod)
    (plan : Plan) : Prop extends Ready admits stored₀ backup cluster where
  new : NotStarted backup.phase
  listed : admits (some backup) (.listPods cluster.name) (.ok pods)
  target : planOf cluster backup pods = some plan

/-- The log once the cluster is known. -/
def readLog (backup : RedisBackup) (cluster : RedisCluster) : Log :=
  ⟨.getCluster backup.clusterName, .ok cluster⟩ :: ⟨.getBackup, .ok backup⟩ :: log₀

/-- The log once the pods are known. -/
def listLog (backup : RedisBackup) (cluster : RedisCluster) (pods : List Pod) : Log :=
  ⟨.listPods cluster.name, .ok pods⟩ :: readLog log₀ backup cluster

/-- The log once the status says `Running`. -/
def startLog (backup : RedisBackup) (cluster : RedisCluster) (pods : List Pod)
    (targetPod : String) (time : Nat) : Log :=
  ⟨.patchStatus backup (runningStatus backup targetPod time),
    .ok (runningStatus backup targetPod time)⟩ :: ⟨.now, time⟩ :: listLog log₀ backup cluster pods

/-- The log once these calls have succeeded. -/
inductive Answered (backup : RedisBackup) (start : Log) : List BackupJob → Log → Prop
  | nil : Answered backup start [] start
  | snoc {jobs : List BackupJob} {log : Log} {job : BackupJob}
      {answer : Except String BackupResponse} {result : BackupResult}
      (h : Answered backup start jobs log) (hok : job.Succeeds answer result) :
      Answered backup start (jobs ++ [job]) (⟨job.cmd backup, answer⟩ :: log)

/-- `Issued admits stored₀ log₀ stored log c`: a reconcile that began with
    `stored₀` and `log₀` may issue `c` when `stored` is stored and `log` has happened. -/
inductive Issued : Option RedisBackup → Log → BackupCmd → Prop
  | getBackup : Issued stored₀ log₀ .getBackup
  | getCluster {backup : RedisBackup} (h : Live stored₀ backup) :
      Issued (some backup) (⟨.getBackup, .ok backup⟩ :: log₀) (.getCluster backup.clusterName)
  | noCluster {backup : RedisBackup} {err : ApiError} {errMsg : String}
      (h : Live stored₀ backup)
      (hadm : admits (some backup) (.getCluster backup.clusterName) (.error err)) :
      Issued (some backup)
        (⟨.getCluster backup.clusterName, .error err⟩ :: ⟨.getBackup, .ok backup⟩ :: log₀)
        (.patchStatus backup (failedStatus backup errMsg))
  | pending {backup : RedisBackup} {cluster : RedisCluster} (h : Read admits stored₀ backup cluster)
      (hphase : cluster.status.phase ≠ .healthy) :
      Issued (some backup) (readLog log₀ backup cluster)
        (.patchStatus backup (pendingStatus backup))
  | badDestination {backup : RedisBackup} {cluster : RedisCluster} {errMsg : String}
      (h : Read admits stored₀ backup cluster)
      (hinvalid : validateDestination backup.destination ≠ none) :
      Issued (some backup) (readLog log₀ backup cluster)
        (.patchStatus backup (failedStatus backup errMsg))
  | listPods {backup : RedisBackup} {cluster : RedisCluster}
      (h : Ready admits stored₀ backup cluster) :
      Issued (some backup) (readLog log₀ backup cluster) (.listPods cluster.name)
  | noPods {backup : RedisBackup} {cluster : RedisCluster} {err : ApiError} {errMsg : String}
      (h : Ready admits stored₀ backup cluster)
      (hadm : admits (some backup) (.listPods cluster.name) (.error err)) :
      Issued (some backup) (⟨.listPods cluster.name, .error err⟩ :: readLog log₀ backup cluster)
        (.patchStatus backup (failedStatus backup errMsg))
  | noTarget {backup : RedisBackup} {cluster : RedisCluster} {pods : List Pod} {errMsg : String}
      (h : Ready admits stored₀ backup cluster)
      (hadm : admits (some backup) (.listPods cluster.name) (.ok pods))
      (hplan : planOf cluster backup pods = none) :
      Issued (some backup) (listLog log₀ backup cluster pods)
        (.patchStatus backup (failedStatus backup errMsg))
  | startTime {backup : RedisBackup} {cluster : RedisCluster} {pods : List Pod} {plan : Plan}
      (h : Planned admits stored₀ backup cluster pods plan) :
      Issued (some backup) (listLog log₀ backup cluster pods) .now
  | start {backup : RedisBackup} {cluster : RedisCluster} {pods : List Pod} {plan : Plan}
      {time : Nat} (h : Planned admits stored₀ backup cluster pods plan) :
      Issued (some backup) (⟨.now, time⟩ :: listLog log₀ backup cluster pods)
        (.patchStatus backup (runningStatus backup plan.targetPod time))
  | notStarted {backup stored : RedisBackup} {cluster : RedisCluster} {pods : List Pod}
      {plan : Plan} {time : Nat} {message errMsg : String}
      (h : Planned admits stored₀ backup cluster pods plan)
      (hstored : stored = backup ∨ stored = runningStatus backup plan.targetPod time)
      (hadm : admits (some backup)
        (.patchStatus backup (runningStatus backup plan.targetPod time))
        (.error ⟨.other, message⟩)) :
      Issued (some stored)
        (⟨.patchStatus backup (runningStatus backup plan.targetPod time),
            .error ⟨.other, message⟩⟩ ::
          ⟨.now, time⟩ :: listLog log₀ backup cluster pods)
        (.patchStatus (runningStatus backup plan.targetPod time)
          (failedStatus (runningStatus backup plan.targetPod time) errMsg))
  | post {backup : RedisBackup} {cluster : RedisCluster} {pods : List Pod} {plan : Plan}
      {time : Nat} {done rest : List BackupJob} {job : BackupJob} {log : Log}
      (h : Planned admits stored₀ backup cluster pods plan)
      (hjobs : plan.jobs = done ++ job :: rest)
      (hlog : Answered backup (startLog log₀ backup cluster pods plan.targetPod time) done log) :
      Issued (some (runningStatus backup plan.targetPod time)) log (job.cmd backup)
  | refused {backup : RedisBackup} {cluster : RedisCluster} {pods : List Pod} {plan : Plan}
      {time : Nat} {job : BackupJob} {answer : Except String BackupResponse} {log : Log}
      {errMsg : String} (h : Planned admits stored₀ backup cluster pods plan)
      (hadm : admits (some (runningStatus backup plan.targetPod time)) (job.cmd backup) answer)
      (herr : ∀ result, ¬ job.Succeeds answer result) :
      Issued (some (runningStatus backup plan.targetPod time)) (⟨job.cmd backup, answer⟩ :: log)
        (.patchStatus (runningStatus backup plan.targetPod time)
          (failedStatus (runningStatus backup plan.targetPod time) errMsg))
  | endTime {backup : RedisBackup} {cluster : RedisCluster} {pods : List Pod} {plan : Plan}
      {time : Nat} {log : Log} (h : Planned admits stored₀ backup cluster pods plan)
      (hlog : Answered backup (startLog log₀ backup cluster pods plan.targetPod time) plan.jobs
        log) :
      Issued (some (runningStatus backup plan.targetPod time)) log .now
  | complete {backup : RedisBackup} {cluster : RedisCluster} {pods : List Pod} {plan : Plan}
      {time time' : Nat} {result : Option BackupResult}
      {artifacts : GoMap String ShardBackupArtifact} {log : Log}
      (h : Planned admits stored₀ backup cluster pods plan)
      (hlog : Answered backup (startLog log₀ backup cluster pods plan.targetPod time) plan.jobs log)
      (htaken : cluster.spec.mode = .cluster → result = none ∧
        Taken (clusterTargetsAmong cluster pods) (shardOrder (clusterTargetsAmong cluster pods))
          artifacts) :
      Issued (some (runningStatus backup plan.targetPod time)) (⟨.now, time'⟩ :: log)
        (.patchStatus (runningStatus backup plan.targetPod time)
          (completedStatus (runningStatus backup plan.targetPod time) result artifacts time'))

/-- `Finished admits stored₀ log₀ stored log`: a reconcile that began with
    `stored₀` and `log₀` may end, with a result or an error, when `stored` is
    stored and `log` has happened. -/
inductive Finished : Option RedisBackup → Log → Prop
  | unread {err : ApiError} (hadm : admits stored₀ .getBackup (.error err))
      (hcause : stored₀ = none ∨ Transient (.error err : Api RedisBackup)) :
      Finished stored₀ (⟨.getBackup, .error err⟩ :: log₀)
  | ended {backup : RedisBackup} (hread : stored₀ = some backup) (hended : Ended backup.phase) :
      Finished (some backup) (⟨.getBackup, .ok backup⟩ :: log₀)
  | stillPending {backup : RedisBackup} {cluster : RedisCluster}
      (h : Read admits stored₀ backup cluster)
      (hphase : cluster.status.phase ≠ .healthy) (hpending : backup.phase = .pending) :
      Finished (some backup) (readLog log₀ backup cluster)
  | stillRunning {backup : RedisBackup} {cluster : RedisCluster} {pods : List Pod}
      (h : Ready admits stored₀ backup cluster) (hrunning : backup.phase = .running)
      (hadm : admits (some backup) (.listPods cluster.name) (.ok pods))
      (hplan : planOf cluster backup pods ≠ none) :
      Finished (some backup) (listLog log₀ backup cluster pods)
  | patched {object before after : RedisBackup} {log : Log}
      (h : Issued admits stored₀ log₀ (some object) log (.patchStatus before after))
      (hlast : after.phase ≠ .running) :
      Finished (some (mergeBackup before after object))
        (⟨.patchStatus before after, .ok (mergeBackup before after object)⟩ :: log)
  | notPatched {object before after stored : RedisBackup} {log : Log} {message : String}
      (h : Issued admits stored₀ log₀ (some object) log (.patchStatus before after))
      (hadm : admits (some object) (.patchStatus before after) (.error ⟨.other, message⟩))
      (hstored : stored = object ∨ stored = mergeBackup before after object) :
      Finished (some stored) (⟨.patchStatus before after, .error ⟨.other, message⟩⟩ :: log)

end

/-! ## Rules for requests -/

section

variable {admits : Surroundings} {log₀ log : Log} {stored₀ stored : Option RedisBackup}
variable {P : Option RedisBackup × Log → BackupCmd → Prop}
variable {F : String → Option RedisBackup × Log → Prop} {l : RedisBackup}

theorem wp_request {c : BackupCmd}
    {Q : BackupReply c → RedisBackup → Option RedisBackup × Log → Prop} :
    wp (Prog.record (Handles admits)) P (request c) Q F l (stored, log) ↔
      P (stored, log) c ∧ ∀ r stored', admits stored c r → Answers stored c r stored' →
        Q r l (stored', ⟨c, r⟩ :: log) := by
  rw [request, wp_request_track]
  exact and_congr_right fun _ => forall₂_congr fun _ _ => and_imp

/-- A request that leaves the object alone. -/
theorem wp_ask {c : BackupCmd} (hc : ∀ r stored', Answers stored c r stored' → stored' = stored)
    {Q : BackupReply c → RedisBackup → Option RedisBackup × Log → Prop}
    (hP : P (stored, log) c)
    (hQ : ∀ r, admits stored c r → Answers stored c r stored → Q r l (stored, ⟨c, r⟩ :: log)) :
    wp (Prog.record (Handles admits)) P (request c) Q F l (stored, log) := by
  refine wp_request.mpr ⟨hP, fun r stored' hadm hans => ?_⟩
  obtain rfl := hc r stored' hans
  exact hQ r hadm hans

variable {after object : RedisBackup}

/-- A patch of an object that exists. -/
theorem wp_patchStatus {Q : Api Unit → RedisBackup → Option RedisBackup × Log → Prop}
    (hP : P (some object, log) (.patchStatus l after))
    (hok : Q (.ok ()) (mergeBackup l after object) (some (mergeBackup l after object),
      ⟨.patchStatus l after, .ok (mergeBackup l after object)⟩ :: log)) (herr : ∀ message stored',
      admits (some object) (.patchStatus l after) (.error ⟨.other, message⟩) →
      stored' = object ∨ stored' = mergeBackup l after object →
      Q (.error ⟨.other, message⟩) after (some stored',
        ⟨.patchStatus l after, .error ⟨.other, message⟩⟩ :: log)) :
    wp (Prog.record (Handles admits)) P (patchStatus after) Q F l (some object, log) := by
  unfold patchStatus
  rw [wp_bind, wp_get, wp_bind, wp_request]
  refine ⟨hP, ?_⟩
  rintro r stored' hadm (⟨rfl, rfl⟩ | ⟨⟨message, rfl⟩, rfl | rfl⟩)
  · exact hok
  · exact herr message _ hadm (Or.inl rfl)
  · exact herr message _ hadm (Or.inr rfl)

/-! ## The functions of the reconciler -/

/-- The action issues and ends as a reconcile that began with `stored₀` and `log₀` may. -/
abbrev Follows (admits : Surroundings) (stored₀ : Option RedisBackup) (log₀ : Log) {α : Type}
    (x : BackupOp α) (l : RedisBackup) (t : Option RedisBackup × Log) : Prop :=
  Act.wp (Prog.record (Handles admits)) (fun t c => Issued admits stored₀ log₀ t.1 t.2 c) x
    (fun _ _ t => Finished admits stored₀ log₀ t.1 t.2)
    (fun _ t => Finished admits stored₀ log₀ t.1 t.2) l t

/-- A patch that is the last request. -/
theorem follows_patch (h : Issued admits stored₀ log₀ (some object) log (.patchStatus l after))
    (hlast : after.phase ≠ .running) :
    Follows admits stored₀ log₀ (patchStatus after >>= orFail) l (some object, log) := by
  rw [Follows, wp_bind]
  refine wp_patchStatus h (.patched h hlast) fun message stored' hadm hstored => ?_
  exact .notPatched h hadm hstored

theorem follows_failWith {errMsg : String}
    (h : Issued admits stored₀ log₀ (some object) log (.patchStatus l (failedStatus l errMsg))) :
    Follows admits stored₀ log₀ (failWith errMsg) l (some object, log) := by
  have hlast : (failedStatus l errMsg).phase ≠ .running := fun hrunning => nomatch hrunning
  unfold failWith setBackupFailed
  rw [Follows, wp_bind, wp_bind, wp_get]
  exact follows_patch h hlast

variable {cluster : RedisCluster}

theorem follows_setBackupPending (h : Read admits stored₀ l cluster)
    (hphase : cluster.status.phase ≠ .healthy) :
    Follows admits stored₀ log₀ setBackupPending l (some l, readLog log₀ l cluster) := by
  unfold setBackupPending
  rw [Follows, wp_bind, wp_get]
  by_cases hpending : l.phase = .pending
  · rw [if_pos hpending]
    exact .stillPending h hphase hpending
  · rw [if_neg hpending]
    exact follows_patch (.pending h hphase) fun hrunning => nomatch hrunning

/-- What a function that starts the backup leaves behind. -/
def Started (admits : Surroundings) (stored₀ : Option RedisBackup) (log₀ : Log)
    (backup : RedisBackup) (cluster : RedisCluster) (pods : List Pod) (plan : Plan) {α : Type}
    (good : α → Prop) :
    Except String α → RedisBackup → Option RedisBackup × Log → Prop
  | .error _, l, t => ∃ object, t.1 = some object ∧ ∀ errMsg,
      Issued admits stored₀ log₀ (some object) t.2 (.patchStatus l (failedStatus l errMsg))
  | .ok a, l, t => good a ∧ ∃ time, l = runningStatus backup plan.targetPod time ∧ t.1 = some l ∧
      Answered backup (startLog log₀ backup cluster pods plan.targetPod time) plan.jobs t.2

section

variable {backup : RedisBackup} {cluster : RedisCluster} {pods : List Pod} {plan : Plan}

theorem mergeBackup_running (targetPod : String) (time : Nat) :
    mergeBackup backup (runningStatus backup targetPod time) backup =
      runningStatus backup targetPod time :=
  mergeBackup_self rfl

/-- The part that is the same for both kinds of backup: the status patch. -/
theorem wp_launch (h : Planned admits stored₀ backup cluster pods plan) {α : Type} {good : α → Prop}
    {next : BackupOp (Except String α)}
    (hnext : ∀ time, wp (Prog.record (Handles admits))
      (fun t c => Issued admits stored₀ log₀ t.1 t.2 c) next
      (Started admits stored₀ log₀ backup cluster pods plan good)
      (fun _ t => Finished admits stored₀ log₀ t.1 t.2) (runningStatus backup plan.targetPod time)
      (some (runningStatus backup plan.targetPod time),
        startLog log₀ backup cluster pods plan.targetPod time)) :
    wp (Prog.record (Handles admits)) (fun t c => Issued admits stored₀ log₀ t.1 t.2 c)
      (request .now >>= fun time =>
        patchStatus (runningStatus backup plan.targetPod time) >>= fun r =>
          match r with
          | .error err => pure (.error err.message)
          | .ok _ => next)
      (Started admits stored₀ log₀ backup cluster pods plan good)
      (fun _ t => Finished admits stored₀ log₀ t.1 t.2) backup
      (some backup, listLog log₀ backup cluster pods) := by
  rw [wp_bind]
  refine wp_ask (c := .now) (fun _ _ hans => hans) (.startTime h) fun time _ _ => ?_
  rw [wp_bind]
  refine wp_patchStatus (.start h) ?_ fun message stored' hadm hstored => ?_
  · rw [mergeBackup_running]
    exact hnext time
  · rw [mergeBackup_running] at hstored
    exact ⟨stored', rfl, fun errMsg => .notStarted h hstored hadm⟩

/-- One call of the plan, with what the reconcile makes of its answer. -/
theorem wp_triggerBackupWithOptions {time : Nat} {done rest : List BackupJob} {job : BackupJob}
    (h : Planned admits stored₀ backup cluster pods plan) (hjobs : plan.jobs = done ++ job :: rest)
    (hlog : Answered backup (startLog log₀ backup cluster pods plan.targetPod time) done log)
    {Q : Except String BackupResult → RedisBackup → Option RedisBackup × Log → Prop}
    {F : String → Option RedisBackup × Log → Prop}
    (herr : ∀ err object log', (∀ errMsg, Issued admits stored₀ log₀ (some object) log'
        (.patchStatus (runningStatus backup plan.targetPod time)
          (failedStatus (runningStatus backup plan.targetPod time) errMsg))) →
      Q (.error err) (runningStatus backup plan.targetPod time) (some object, log'))
    (hok : ∀ result log',
      Answered backup (startLog log₀ backup cluster pods plan.targetPod time) (done ++ [job]) log' →
      Q (.ok result) (runningStatus backup plan.targetPod time)
        (some (runningStatus backup plan.targetPod time), log')) :
    wp (Prog.record (Handles admits)) (fun t c => Issued admits stored₀ log₀ t.1 t.2 c)
      (triggerBackupWithOptions job.podIP job.backupName backup.method backup.destination) Q F
      (runningStatus backup plan.targetPod time)
      (some (runningStatus backup plan.targetPod time), log) := by
  unfold triggerBackupWithOptions
  rw [wp_bind]
  refine wp_ask (c := job.cmd backup) (fun _ _ hans => hans) (.post h hjobs hlog)
    fun answer hadm _ => ?_
  rw [wp_pure]
  cases hanswer : readResponse (instanceURL job.podIP "/v1/backup") answer with
  | error err =>
    refine herr err _ _ fun errMsg => .refused h hadm ?_
    intro result hsucceeds
    exact nomatch hanswer.symm.trans hsucceeds
  | ok result => exact hok result _ (.snoc hlog hanswer)

theorem wp_startBackup {pod : Pod}
    (h : Planned admits stored₀ backup cluster pods ⟨pod.name, [⟨pod.podIP, backup.name⟩]⟩) :
    wp (Prog.record (Handles admits)) (fun t c => Issued admits stored₀ log₀ t.1 t.2 c)
      (startBackup pod.name pod.podIP)
      (Started admits stored₀ log₀ backup cluster pods ⟨pod.name, [⟨pod.podIP, backup.name⟩]⟩
        fun _ => True)
      (fun _ t => Finished admits stored₀ log₀ t.1 t.2) backup
      (some backup, listLog log₀ backup cluster pods) := by
  unfold startBackup
  rw [wp_bind, wp_get]
  refine wp_launch h fun time => ?_
  rw [wp_bind, wp_get]
  refine wp_triggerBackupWithOptions h rfl .nil ?_ ?_
  · intro err object log' hissued
    exact ⟨object, rfl, hissued⟩
  · intro result log' hlog
    exact ⟨trivial, time, rfl, rfl, hlog⟩

/-! ### The loop over the shards -/

theorem taken_nil (targets : GoMap String ClusterBackupTarget) : Taken targets [] ∅ :=
  fun _ => rfl

variable {targets : GoMap String ClusterBackupTarget} {artifacts : GoMap String ShardBackupArtifact}

theorem Taken.insert {shards : List String} (h : Taken targets shards artifacts)
    (shard : String) (result : BackupResult) : Taken targets (shards ++ [shard])
      (artifacts.insert shard (shardArtifact (targets.get shard) result)) := by
  intro other
  by_cases hother : other = shard
  · subst hother
    rw [GoMap.lookup_insert_self, if_pos (by simp)]
    rfl
  · have hmem : other ∈ shards ++ [shard] ↔ other ∈ shards := by simp [hother]
    rw [GoMap.lookup_insert_ne hother, h other]
    simp only [hmem]

theorem wp_triggerShards {time : Nat} {done rest : List String}
    (h : Planned admits stored₀ backup cluster pods plan)
    (hjobs : plan.jobs = shardJobs backup targets (done ++ rest))
    (hlog : Answered backup (startLog log₀ backup cluster pods plan.targetPod time)
      (shardJobs backup targets done) log) (htaken : Taken targets done artifacts) :
    wp (Prog.record (Handles admits)) (fun t c => Issued admits stored₀ log₀ t.1 t.2 c)
      (triggerShards targets rest artifacts)
      (Started admits stored₀ log₀ backup cluster pods plan fun artifacts =>
        Taken targets (done ++ rest) artifacts)
      (fun _ t => Finished admits stored₀ log₀ t.1 t.2) (runningStatus backup plan.targetPod time)
      (some (runningStatus backup plan.targetPod time), log) := by
  -- the invariant: the shards in `done` have their calls in the log and their artifacts in the map
  induction rest generalizing done artifacts log with
  | nil =>
    rw [List.append_nil] at hjobs ⊢
    rw [triggerShards, wp_pure]
    exact ⟨htaken, time, rfl, rfl, hjobs ▸ hlog⟩
  | cons shard shards ih =>
    have hsplit : done ++ shard :: shards = (done ++ [shard]) ++ shards := by simp
    rw [triggerShards, wp_bind, wp_get, wp_bind]
    have hcall : plan.jobs = shardJobs backup targets done ++
        ⟨(targets.get shard).podIP, backup.name ++ "-" ++ shard⟩ ::
          shardJobs backup targets shards := by
      rw [hjobs]
      simp only [shardJobs, List.map_append, List.map_cons]
    refine wp_triggerBackupWithOptions h hcall hlog ?_ ?_
    · intro err object log' hissued
      exact ⟨object, rfl, hissued⟩
    · intro result log' hlog'
      rw [hsplit] at hjobs ⊢
      refine ih hjobs ?_ (htaken.insert shard result)
      simpa only [shardJobs, List.map_append, List.map_cons, List.map_nil] using hlog'

theorem wp_startClusterBackup (h : Planned admits stored₀ backup cluster pods
      ⟨targetPodNames targets, shardJobs backup targets (shardOrder targets)⟩) :
    wp (Prog.record (Handles admits)) (fun t c => Issued admits stored₀ log₀ t.1 t.2 c)
      (startClusterBackup targets)
      (Started admits stored₀ log₀ backup cluster pods
        ⟨targetPodNames targets, shardJobs backup targets (shardOrder targets)⟩
        fun artifacts => Taken targets (shardOrder targets) artifacts)
      (fun _ t => Finished admits stored₀ log₀ t.1 t.2) backup
      (some backup, listLog log₀ backup cluster pods) := by
  unfold startClusterBackup
  rw [wp_bind, wp_get]
  refine wp_launch h fun time => ?_
  exact wp_triggerShards h rfl .nil (taken_nil targets)

/-! ### The reconcile -/

theorem follows_setBackupCompleted {time : Nat} {result : Option BackupResult}
    (h : Planned admits stored₀ backup cluster pods plan)
    (hlog : Answered backup (startLog log₀ backup cluster pods plan.targetPod time) plan.jobs log)
    (htaken : cluster.spec.mode = .cluster → result = none ∧
      Taken (clusterTargetsAmong cluster pods) (shardOrder (clusterTargetsAmong cluster pods))
        artifacts) : Follows admits stored₀ log₀ (setBackupCompleted result artifacts)
      (runningStatus backup plan.targetPod time)
      (some (runningStatus backup plan.targetPod time), log) := by
  unfold setBackupCompleted
  rw [Follows, wp_bind, wp_get, wp_bind]
  refine wp_ask (c := .now) (fun _ _ hans => hans) (.endTime h hlog) fun time' _ _ => ?_
  refine follows_patch (.complete h hlog htaken) ?_
  rw [completedStatus_phase]
  exact fun hrunning => nomatch hrunning

/-- A start that failed fails the backup. -/
theorem Started.follows_error {α : Type} {good : α → Prop} {err errMsg : String}
    {t : Option RedisBackup × Log}
    (h : Started admits stored₀ log₀ backup cluster pods plan good (.error err) l t) :
    Follows admits stored₀ log₀ (failWith errMsg) l t := by
  obtain ⟨stored, log⟩ := t
  obtain ⟨object, rfl, hissued⟩ := h
  exact follows_failWith (hissued errMsg)

/-- A start that succeeded completes it. -/
theorem Started.follows_ok (hplanned : Planned admits stored₀ backup cluster pods plan) {α : Type}
    {good : α → Prop} {a : α} {t : Option RedisBackup × Log} {result : Option BackupResult}
    (h : Started admits stored₀ log₀ backup cluster pods plan good (.ok a) l t)
    (htaken : good a → cluster.spec.mode = .cluster → result = none ∧
      Taken (clusterTargetsAmong cluster pods) (shardOrder (clusterTargetsAmong cluster pods))
        artifacts) : Follows admits stored₀ log₀
      (do setBackupCompleted result artifacts; pure (none : Option Nat)) l t := by
  obtain ⟨stored, log⟩ := t
  obtain ⟨ha, time, rfl, rfl, hlog⟩ := h
  rw [Follows, wp_bind]
  exact follows_setBackupCompleted hplanned hlog (htaken ha)

theorem follows_backupInstance (h : Ready admits stored₀ backup cluster)
    (hmode : cluster.spec.mode ≠ .cluster) :
    Follows admits stored₀ log₀ (backupInstance cluster backup.target backup.phase) backup
      (some backup, readLog log₀ backup cluster) := by
  unfold backupInstance selectTargetPod
  rw [Follows, wp_bind, wp_bind]
  refine wp_ask (c := .listPods cluster.name) (fun _ _ hans => hans) (.listPods h)
    fun r hadm _ => ?_
  cases r with
  | error err => exact follows_failWith (.noPods h hadm)
  | ok pods =>
    have hplan : planOf cluster backup pods = (targetPodAmong cluster backup.target pods).map
        fun pod => ⟨pod.name, [⟨pod.podIP, backup.name⟩]⟩ := if_neg hmode
    cases htarget : targetPodAmong cluster backup.target pods with
    | none =>
      rw [htarget] at hplan
      simp only [htarget]
      exact follows_failWith (.noTarget h hadm hplan)
    | some pod =>
      rw [htarget] at hplan
      simp only [htarget, wp_pure]
      by_cases hnew : NotStarted backup.phase
      · have hplanned : Planned admits stored₀ backup cluster pods _ := ⟨h, hnew, hadm, hplan⟩
        rw [if_pos hnew, wp_bind]
        refine wp_post (wp_startBackup hplanned) ?_
        rintro (err | result) l' t hstarted
        · exact hstarted.follows_error
        · exact hstarted.follows_ok hplanned fun _ hcluster => absurd hcluster hmode
      · have hrunning : backup.phase = .running := running_of_live h.live hnew
        rw [if_neg hnew, if_pos hrunning]
        exact .stillRunning h hrunning hadm (by rw [hplan]; exact Option.some_ne_none _)

theorem follows_backupShards (h : Ready admits stored₀ backup cluster)
    (hmode : cluster.spec.mode = .cluster) :
    Follows admits stored₀ log₀ (backupShards cluster backup.phase) backup
      (some backup, readLog log₀ backup cluster) := by
  unfold backupShards selectClusterBackupTargets
  rw [Follows, wp_bind, wp_bind]
  refine wp_ask (c := .listPods cluster.name) (fun _ _ hans => hans) (.listPods h)
    fun r hadm _ => ?_
  cases r with
  | error err => exact follows_failWith (.noPods h hadm)
  | ok pods =>
    have hplan : planOf cluster backup pods =
        if (clusterTargetsAmong cluster pods).len = 0 then none
        else some ⟨targetPodNames (clusterTargetsAmong cluster pods),
          shardJobs backup (clusterTargetsAmong cluster pods)
            (shardOrder (clusterTargetsAmong cluster pods))⟩ := if_pos hmode
    by_cases hlen : (clusterTargetsAmong cluster pods).len = 0
    · rw [if_pos hlen] at hplan
      simp only [if_pos hlen]
      exact follows_failWith (.noTarget h hadm hplan)
    · rw [if_neg hlen] at hplan
      simp only [if_neg hlen, wp_pure]
      by_cases hnew : NotStarted backup.phase
      · have hplanned : Planned admits stored₀ backup cluster pods _ := ⟨h, hnew, hadm, hplan⟩
        rw [if_pos hnew, wp_bind]
        refine wp_post (wp_startClusterBackup hplanned) ?_
        rintro (err | artifacts) l' t hstarted
        · exact hstarted.follows_error
        · exact hstarted.follows_ok hplanned fun htaken _ => ⟨rfl, htaken⟩
      · have hrunning : backup.phase = .running := running_of_live h.live hnew
        rw [if_neg hnew, if_pos hrunning]
        exact .stillRunning h hrunning hadm (by rw [hplan]; exact Option.some_ne_none _)

theorem follows_reconcileOn (h : Read admits stored₀ backup cluster) :
    Follows admits stored₀ log₀ (reconcileOn backup cluster) backup
      (some backup, readLog log₀ backup cluster) := by
  unfold reconcileOn
  by_cases hphase : cluster.status.phase = .healthy
  · rw [if_neg (not_not.mpr hphase)]
    cases hdestination : validateDestination backup.destination with
    | some err =>
      refine follows_failWith (.badDestination h ?_)
      rw [hdestination]
      exact Option.some_ne_none _
    | none =>
      have hready : Ready admits stored₀ backup cluster := ⟨h, hphase, hdestination⟩
      by_cases hmode : cluster.spec.mode = .cluster
      · simp only [if_pos hmode]
        exact follows_backupShards hready hmode
      · simp only [if_neg hmode]
        exact follows_backupInstance hready hmode
  · rw [if_pos hphase, Follows, wp_bind]
    exact follows_setBackupPending h hphase

/-- Whatever the surroundings answer, a reconcile issues only what `Issued` lists
    and ends only as `Finished` says. -/
theorem follows_reconcileBackup (l₀ : RedisBackup) (stored₀ : Option RedisBackup) (log₀ : Log) :
    Follows admits stored₀ log₀ reconcileBackup l₀ (stored₀, log₀) := by
  unfold reconcileBackup
  rw [Follows, wp_bind]
  refine wp_ask (c := .getBackup) (fun _ _ hans => hans.2) .getBackup fun r hadm hans => ?_
  cases r with
  | error err =>
    have hend : Finished admits stored₀ log₀ stored₀ (⟨.getBackup, .error err⟩ :: log₀) :=
      .unread hadm (cause_of_getBackup hans)
    show wp _ _ (if err.reason = .notFound then pure none else Act.fail err.message) _ _ _ _
    rw [wp_ite]
    exact ⟨fun _ => hend, fun _ => hend⟩
  | ok backup =>
    obtain rfl : stored₀ = some backup := stored_of_getBackup hans
    show wp _ _ (Act.set backup >>= _) _ _ _ _
    rw [wp_bind, wp_set, wp_ite]
    refine ⟨fun hended => .ended rfl hended, fun hlive => ?_⟩
    rw [wp_bind]
    refine wp_ask (c := .getCluster backup.clusterName) (fun _ _ hans => hans)
      (.getCluster ⟨rfl, hlive⟩) fun r hadm _ => ?_
    cases r with
    | error err => exact follows_failWith (.noCluster ⟨rfl, hlive⟩ hadm)
    | ok cluster => exact follows_reconcileOn ⟨⟨rfl, hlive⟩, hadm⟩

end

/-! ## Patches -/

/-- A status patch of the reconciler gives the stored object the phase it aims at. -/
theorem Issued.merged_phase {before : RedisBackup}
    (h : Issued admits stored₀ log₀ (some object) log (.patchStatus before after)) :
    (mergeBackup before after object).phase = after.phase := by
  rw [mergeBackup_phase]
  cases h with
  | notStarted h hstored hadm =>
    -- the object may not hold what the reconciler last tried to write
    have hmoves : BackupPhase.running ≠ BackupPhase.failed := by decide
    exact if_neg hmoves
  | _ => exact pick_self _ _

/-- What every patch preserves, a reconcile preserves. -/
theorem reconcile_invariant {I : Option RedisBackup → Prop} {l₀ : RedisBackup}
    {result : Except String (Option Nat × RedisBackup)}
    (hpatch : ∀ object log before after,
      Issued admits stored₀ [] (some object) log (.patchStatus before after) →
      I (some object) → I (some (mergeBackup before after object)))
    (hstart : I stored₀)
    (hreturns : Prog.Returns (Handles admits) (reconcileBackup l₀) stored₀ result stored) :
    I stored := by
  obtain ⟨log, hrecorded⟩ := Prog.returns_track_iff.mp hreturns
  have hfollows : Follows admits stored₀ [] reconcileBackup l₀ (stored₀, []) :=
    follows_reconcileBackup l₀ _ _
  have hinv := Prog.wp_invariant (I := fun t : Option RedisBackup × Log => I t.1) ?_ hfollows hstart
  · exact Prog.wp_returns hrecorded hinv
  · rintro ⟨s, g⟩ c r ⟨s', g'⟩ hI hissued ⟨⟨-, hans⟩, -⟩
    rcases answers_cases hans with rfl | ⟨before, after, object, rfl, rfl, rfl⟩
    · exact hI
    · exact hpatch object g before after hissued hI

/-! ## Where everything succeeds -/

/-- How a reconcile ends when the cluster is healthy and every request succeeds. -/
inductive Settled (cluster : RedisCluster) (pods : List Pod) (backup : RedisBackup) :
    RedisBackup → Prop
  | ended (h : Ended backup.phase) : Settled cluster pods backup backup
  | running (h : backup.phase = .running) (hdest : validateDestination backup.destination = none)
      (hplan : planOf cluster backup pods ≠ none) : Settled cluster pods backup backup
  | failed {object : RedisBackup} (hlive : ¬ Ended backup.phase) (hfailed : object.phase = .failed)
      (hcause : validateDestination backup.destination ≠ none ∨
        planOf cluster backup pods = none) :
      Settled cluster pods backup object
  | completed {object : RedisBackup} (hnew : NotStarted backup.phase)
      (hdone : object.phase = .completed)
      (htaken : cluster.spec.mode = .cluster →
        Taken (clusterTargetsAmong cluster pods) (shardOrder (clusterTargetsAmong cluster pods))
          object.shardArtifacts) :
      Settled cluster pods backup object

theorem settled_of_finished {site : Site} {backup : RedisBackup}
    (hcluster : site.cluster = some cluster) (hhealthy : cluster.status.phase = .healthy)
    (h : Finished site.succeeds (some backup) log₀ stored log) :
    ∃ object, stored = some object ∧ Settled cluster site.pods backup object := by
  have hsame : ∀ {stored' name found}, site.succeeds stored' (.getCluster name) (.ok found) →
      found = cluster := fun hfound =>
    Option.some.inj ((Site.cluster_of_admits (Site.admits_of_succeeds hfound)).symm.trans hcluster)
  have hpods : ∀ {stored' name pods}, site.succeeds stored' (.listPods name) (.ok pods) →
      pods = site.pods := fun hlisted => Site.pods_of_admits (Site.admits_of_succeeds hlisted)
  cases h with
  | unread hadm hcause =>
    rcases hcause with hnone | htransient
    · cases hnone
    · exact absurd htransient hadm.2.1
  | ended hread hended =>
    cases hread
    exact ⟨_, rfl, .ended hended⟩
  | stillPending h hphase hpending =>
    cases h.read
    cases hsame h.found
    exact absurd hhealthy hphase
  | stillRunning h hrunning hadm hplan =>
    cases h.read
    cases hsame h.found
    cases hpods hadm
    exact ⟨_, rfl, .running hrunning h.destination hplan⟩
  | notPatched h hadm hstored => exact absurd ⟨_, rfl⟩ hadm.2.1
  | patched h hlast =>
    refine ⟨_, rfl, ?_⟩
    have hphase := h.merged_phase
    cases h with
    | noCluster h hadm =>
      have htells := hadm.1
      rw [Site.Tells, hcluster] at htells
      cases htells
    | pending h hunhealthy =>
      cases hsame h.found
      exact absurd hhealthy hunhealthy
    | badDestination h hinvalid =>
      cases h.read
      exact .failed h.live hphase (Or.inl hinvalid)
    | noPods h hadm => cases hadm.1
    | noTarget h hadm hplan =>
      cases h.read
      cases hsame h.found
      cases hpods hadm
      exact .failed h.live hphase (Or.inr hplan)
    | start h => exact absurd rfl hlast
    | notStarted h hstored hadm => exact absurd ⟨_, rfl⟩ hadm.2.1
    | refused h hadm herr =>
      obtain ⟨result, hresult⟩ := hadm.2.2
      exact absurd hresult (herr result)
    | complete h hlog htaken =>
      cases h.read
      cases hsame h.found
      cases hpods h.listed
      refine .completed h.new (hphase.trans (completedStatus_phase ..)) fun hmode => ?_
      obtain ⟨rfl, hall⟩ := htaken hmode
      rw [mergeBackup_shardArtifacts_self, completedStatus_shardArtifacts]
      exact hall

/-- There is such a reconcile. -/
theorem exists_settled {site : Site} (l₀ backup : RedisBackup)
    (hcluster : site.cluster = some cluster) (hhealthy : cluster.status.phase = .healthy) :
    ∃ result object, Prog.Returns (Handles site.succeeds) (reconcileBackup l₀) (some backup) result
      (some object) ∧ Settled cluster site.pods backup object := by
  have hfollows : Follows site.succeeds (some backup) [] reconcileBackup l₀ (some backup, []) :=
    follows_reconcileBackup l₀ _ _
  obtain ⟨result, ⟨stored, log⟩, hreturns, hfinished⟩ :=
    Prog.exists_returns (Prog.track_total site.succeeds_total) hfollows
  have hend : Finished site.succeeds (some backup) [] stored log := by
    cases result <;> exact hfinished
  obtain ⟨object, rfl, hsettled⟩ := settled_of_finished hcluster hhealthy hend
  exact ⟨result, object, Prog.returns_track_iff.mpr ⟨log, hreturns⟩, hsettled⟩

end

end RedisOperator.Backup
