/-
  RedisOperator.Backup.Lifecycle

  The life of one RedisBackup over whole runs of the reconciler, with crashes
  between any two requests and API errors anywhere:

    * `lifecycle_forward` — the phase only moves forward and each call is made
      at most once, as long as the cluster is found healthy by every reconcile
      of a running backup;
    * `failed_justified` — only a cause that lasts makes a backup `Failed`, as
      long as three kinds of request do not fail in passing;
    * `settles_iff` — the states from which the reconciler brings a backup to
      an end once everything works.

  Each comes with the run that shows why its condition is there.
-/

import RedisOperator.Backup.Targets
import RedisOperator.Lib.Worker

namespace RedisOperator.Backup

open Lib

/-- The stored object with the log of all requests so far. -/
abbrev History : Type := Option RedisBackup × Log

/-- The reconciler at work on one object. -/
abbrev Reconciler : Type :=
  Worker BackupCmd BackupReply History (Except String (Option Nat × RedisBackup))

/-- Runs of the reconciler in given surroundings. -/
abbrev Runs (admits : Surroundings) (l₀ : RedisBackup) : Reconciler → Reconciler → Prop :=
  Worker.Steps (Prog.record (Handles admits)) (reconcileBackup l₀)

/-- What a reconcile that began in one history may issue in another. -/
abbrev Allowed (admits : Surroundings) (start now : History) (c : BackupCmd) : Prop :=
  Issued admits start.1 start.2 now.1 now.2 c

theorem wp_allowed (admits : Surroundings) (l₀ : RedisBackup) (start : History) :
    Prog.wp (Prog.record (Handles admits)) (Allowed admits start) (fun _ _ => True)
      (reconcileBackup l₀) start :=
  Prog.wp_post (fun _ _ _ => trivial) (follows_reconcileBackup l₀ start.1 start.2)

variable {s s' : History} {admits : Surroundings}

/-- One request: the log grows, and only a patch changes the object. -/
theorem recorded_cases {c : BackupCmd} {r : BackupReply c}
    (h : Prog.record (Handles admits) s c r s') :
    s' = (s.1, ⟨c, r⟩ :: s.2) ∨ ∃ before after object, c = .patchStatus before after ∧
      s.1 = some object ∧ s' = (some (mergeBackup before after object), ⟨c, r⟩ :: s.2) := by
  obtain ⟨stored, log⟩ := s
  obtain ⟨stored', log'⟩ := s'
  have hans : Answers stored c r stored' := h.1.2
  obtain rfl : log' = ⟨c, r⟩ :: log := h.2
  rcases answers_cases hans with rfl | ⟨before, after, object, rfl, rfl, rfl⟩
  · exact Or.inl rfl
  · exact Or.inr ⟨before, after, object, rfl, rfl, rfl⟩

/-! ## Calls -/

/-- The name of the call, for a `POST /v1/backup`. -/
def sentName : Sigma BackupReply → Option String
  | ⟨.post _ backupName _ _, _⟩ => some backupName
  | _ => none

/-- The calls that were made, by their backup names. -/
def sentNames (log : Log) : List String := log.filterMap sentName

theorem sentNames_startLog (log₀ : Log) (backup : RedisBackup) (cluster : RedisCluster)
    (pods : List Pod) (targetPod : String) (time : Nat) :
    sentNames (startLog log₀ backup cluster pods targetPod time) = sentNames log₀ := rfl

variable {log : Log} {backup : RedisBackup}

theorem Answered.sentNames {start : Log} {jobs : List BackupJob}
    (h : Answered backup start jobs log) :
    sentNames log = (jobs.map (·.backupName)).reverse ++ sentNames start := by
  induction h with
  | nil => rfl
  | snoc _ _ ih =>
    rw [List.map_append, List.reverse_append]
    show _ :: Backup.sentNames _ = _
    rw [ih]
    rfl

theorem shardJobs_names (backup : RedisBackup) (targets : GoMap String ClusterBackupTarget)
    (shards : List String) :
    (shardJobs backup targets shards).map (·.backupName) =
      shards.map fun shard => backup.name ++ "-" ++ shard := by
  rw [shardJobs, List.map_map]
  rfl

theorem append_left_injective (lead : String) : Function.Injective fun s : String => lead ++ s := by
  intro s s' h
  have hlists := congrArg String.toList h
  simp only [String.toList_append, List.append_cancel_left_eq] at hlists
  exact String.toList_inj.mp hlists

variable {pods : List Pod} {cluster : RedisCluster}

/-- The calls of a plan have different names; without shards there is one. -/
theorem planOf_jobs {plan : Plan} (h : planOf cluster backup pods = some plan) :
    (plan.jobs.map (·.backupName)).Nodup ∧
      (cluster.spec.mode ≠ .cluster → plan.jobs.length = 1) := by
  unfold planOf at h
  by_cases hmode : cluster.spec.mode = .cluster
  · rw [if_pos hmode] at h
    by_cases hlen : (clusterTargetsAmong cluster pods).len = 0
    · simp only [if_pos hlen] at h
      cases h
    · simp only [if_neg hlen, Option.some.injEq] at h
      subst h
      refine ⟨?_, fun hne => absurd hmode hne⟩
      rw [shardJobs_names]
      refine List.Nodup.map (append_left_injective _) ?_
      exact (List.perm_insertionSort _ _).nodup_iff.mpr (GoMap.keys_nodup _)
  · rw [if_neg hmode] at h
    obtain ⟨pod, -, rfl⟩ := Option.map_eq_some_iff.mp h
    exact ⟨List.nodup_singleton _, fun _ => rfl⟩

/-! ## The phase moves forward -/

/-- A later phase of the same backup. -/
def Forward (earlier later : BackupPhase) : Prop :=
  (earlier = .running → later ≠ .pending ∧ later ≠ .unset) ∧
    (earlier = .completed → later = .completed) ∧ (earlier = .failed → later = .failed)

instance (earlier later : BackupPhase) : Decidable (Forward earlier later) :=
  inferInstanceAs (Decidable (_ ∧ _ ∧ _))

theorem Forward.refl (phase : BackupPhase) : Forward phase phase := by cases phase <;> decide

variable {p : BackupPhase}

theorem Forward.trans {q r : BackupPhase} (h : Forward p q) (h' : Forward q r) : Forward p r := by
  revert h h'
  cases p <;> cases q <;> cases r <;> decide

theorem forward_of_notStarted {q : BackupPhase} (h : NotStarted p) : Forward p q := by
  rcases h with rfl | rfl <;> cases q <;> decide

theorem forward_failed (h : ¬ Ended p) : Forward p .failed := by
  revert h
  cases p <;> decide

/-- The kind of the cluster does not change. -/
def KindIs (sharded : Prop) : Surroundings := fun _ c r =>
  match c, r with
  | .getCluster _, .ok cluster => cluster.spec.mode = .cluster ↔ sharded
  | _, _ => True

/-- A reconcile of a running backup finds the cluster healthy, if it finds it. -/
def HealthyWhileRunning : Surroundings := fun stored c r =>
  match c, r with
  | .getCluster _, .ok cluster =>
    ∀ backup, stored = some backup → backup.phase = .running → cluster.status.phase = .healthy
  | _, _ => True

/-- Both. -/
def Steady (sharded : Prop) : Surroundings := fun stored c r =>
  KindIs sharded stored c r ∧ HealthyWhileRunning stored c r

variable {stored₀ : Option RedisBackup} {after before object : RedisBackup}

theorem Issued.live {log₀ : Log}
    (h : Issued admits stored₀ log₀ (some object) log (.patchStatus before after)) :
    ¬ Ended object.phase := by
  have hrunning : ¬ Ended BackupPhase.running := by decide
  cases h with
  | noCluster h | pending h | badDestination h | noPods h | noTarget h | start h => exact h.live
  | notStarted h hstored hadm =>
    rcases hstored with rfl | rfl
    · exact h.live
    · exact hrunning
  | refused | complete => exact hrunning

variable {sharded : Prop}

/-- Where the cluster is healthy while the backup runs, every patch moves it forward. -/
theorem Issued.forward {log₀ log : Log} {object before after : RedisBackup}
    (h : Issued (Steady sharded) stored₀ log₀ (some object) log (.patchStatus before after)) :
    Forward object.phase after.phase ∧ (NotStarted after.phase → NotStarted object.phase) := by
  have hlive := h.live
  have hfailed : Forward object.phase .failed ∧ (NotStarted .failed → NotStarted object.phase) :=
    ⟨forward_failed hlive, fun hnew => absurd hnew (by decide)⟩
  cases h with
  | noCluster | badDestination | noPods | noTarget | notStarted | refused => exact hfailed
  | pending h hphase =>
    -- the one patch that could lead back: not from `Running`, where the cluster is healthy
    have hnew : NotStarted object.phase := by
      by_contra hnew
      exact hphase (h.found.2 object rfl (running_of_live hlive hnew))
    exact ⟨forward_of_notStarted hnew, fun _ => hnew⟩
  | start h => exact ⟨forward_of_notStarted h.new, fun _ => h.new⟩
  | complete =>
    rw [completedStatus_phase, runningStatus_phase]
    decide

/-- The invariant: nothing was sent before the start, no name was sent twice, and
    without shards nothing was sent after the first call. -/
structure Orderly (sharded : Prop) (s : History) : Prop where
  unsent : ∀ backup, s.1 = some backup → NotStarted backup.phase → sentNames s.2 = []
  nodup : (sentNames s.2).Nodup
  once : ¬ sharded → (sentNames s.2).length ≤ 1

theorem Orderly.same_names {stored : Option RedisBackup}
    (h : Orderly sharded s) (hsent : sentNames log = sentNames s.2)
    (hunsent : ∀ backup, stored = some backup → NotStarted backup.phase →
      ∃ backup', s.1 = some backup' ∧ NotStarted backup'.phase) :
    Orderly sharded (stored, log) where
  unsent backup hstored hnew := by
    obtain ⟨backup', hstored', hnew'⟩ := hunsent backup hstored hnew
    exact hsent.trans (h.unsent backup' hstored' hnew')
  nodup := by rw [hsent]; exact h.nodup
  once hsharded := by rw [hsent]; exact h.once hsharded

theorem Orderly.post {start : History} {plan : Plan} {time : Nat}
    {done rest : List BackupJob} {job : BackupJob} {answer : Except String BackupResponse}
    (hstart : Orderly sharded start)
    (hplanned : Planned (Steady sharded) start.1 backup cluster pods plan)
    (hjobs : plan.jobs = done ++ job :: rest)
    (hlog : Answered backup (startLog start.2 backup cluster pods plan.targetPod time) done s.2)
    (hstored : s.1 = some (runningStatus backup plan.targetPod time)) :
    Orderly sharded (s.1, ⟨job.cmd backup, answer⟩ :: s.2) := by
  obtain ⟨hnodup, hone⟩ := planOf_jobs hplanned.target
  have hbefore : sentNames s.2 = (done.map (·.backupName)).reverse := by
    rw [hlog.sentNames, sentNames_startLog, hstart.unsent backup hplanned.read hplanned.new,
      List.append_nil]
  have hsent : sentNames (⟨job.cmd backup, answer⟩ :: s.2) = job.backupName :: sentNames s.2 := rfl
  refine ⟨fun object hobject hnew => ?_, ?_, fun hsharded => ?_⟩
  · cases hstored.symm.trans hobject
    exact absurd rfl (ne_running_of_notStarted hnew)
  · rw [hsent, List.nodup_cons, hbefore, List.mem_reverse]
    rw [hjobs, List.map_append, List.map_cons, List.nodup_append] at hnodup
    exact ⟨fun hmem => hnodup.2.2 _ hmem _ List.mem_cons_self rfl,
      List.nodup_reverse.mpr hnodup.1⟩
  · have hmode : cluster.spec.mode ≠ .cluster := mt hplanned.found.1.mp hsharded
    have hlen := hone hmode
    rw [hjobs, List.length_append, List.length_cons] at hlen
    rw [hsent, List.length_cons, hbefore, List.length_reverse, List.length_map]
    omega

theorem orderly_moves
    (h : Worker.Moves (Prog.record (Handles (Steady sharded))) (Allowed (Steady sharded))
      (Orderly sharded) s s') : Orderly sharded s' := by
  obtain ⟨start, c, r, hstart, hs, hissued, hrecorded⟩ := h
  obtain ⟨stored, log⟩ := s
  rcases recorded_cases hrecorded with rfl | ⟨before, after, object, rfl, hobject, rfl⟩
  · cases hissued with
    | post h hjobs hlog => exact hstart.post h hjobs hlog rfl
    | _ => exact hs.same_names rfl fun backup hstored hnew => ⟨backup, hstored, hnew⟩
  · obtain rfl : stored = some object := hobject
    refine hs.same_names rfl ?_
    rintro backup ⟨⟩ hnew
    rw [hissued.merged_phase] at hnew
    exact ⟨object, rfl, hissued.forward.2 hnew⟩

/-- How the object moves: along the phases. -/
theorem forward_moves
    (h : Worker.Moves (Prog.record (Handles (Steady sharded))) (Allowed (Steady sharded))
      (Orderly sharded) s s') (hstored : s.1 = some backup) :
    ∃ backup', s'.1 = some backup' ∧ Forward backup.phase backup'.phase := by
  obtain ⟨start, c, r, -, -, hissued, hrecorded⟩ := h
  obtain ⟨stored, log⟩ := s
  obtain rfl : stored = some backup := hstored
  rcases recorded_cases hrecorded with rfl | ⟨before, after, object, rfl, hobject, rfl⟩
  · exact ⟨backup, rfl, .refl _⟩
  · cases hobject
    refine ⟨_, rfl, ?_⟩
    rw [hissued.merged_phase]
    exact hissued.forward.1

theorem forward_run
    (h : Relation.ReflTransGen (Worker.Moves (Prog.record (Handles (Steady sharded)))
      (Allowed (Steady sharded)) (Orderly sharded)) s s') (hstored : s.1 = some backup) :
    ∃ backup', s'.1 = some backup' ∧ Forward backup.phase backup'.phase := by
  induction h with
  | refl => exact ⟨backup, hstored, .refl _⟩
  | tail _ hmove ih =>
    obtain ⟨between, hbetween, hforward⟩ := ih
    obtain ⟨backup', hbackup', hforward'⟩ := forward_moves hmove hbetween
    exact ⟨backup', hbackup', hforward.trans hforward'⟩

/-- Each call is made at most once. -/
def AtMostOnce (sharded : Prop) (log : Log) : Prop :=
  (¬ sharded → (sentNames log).length ≤ 1) ∧ ∀ name, (sentNames log).count name ≤ 1

/-- Over every run, with crashes and API errors at any point and the cluster
    changing in any way, but found healthy by every reconcile of a running
    backup: the phase of a later state is a later phase, and no call is made
    twice. -/
theorem lifecycle_forward (sharded : Prop) (l₀ created : RedisBackup) {w₁ w₂ : Reconciler}
    (hrun₁ : Runs (Steady sharded) l₀ ⟨(some created, []), none⟩ w₁)
    (hrun₂ : Runs (Steady sharded) l₀ w₁ w₂) :
    ∃ earlier later, w₁.env.1 = some earlier ∧ w₂.env.1 = some later ∧
      Forward earlier.phase later.phase ∧ AtMostOnce sharded w₂.env.2 := by
  have hjob : ∀ s, Orderly sharded s → Prog.wp (Prog.record (Handles (Steady sharded)))
      (Allowed (Steady sharded) s) (fun _ _ => True) (reconcileBackup l₀) s :=
    fun s _ => wp_allowed _ l₀ s
  have hmoves : ∀ s s', Worker.Moves (Prog.record (Handles (Steady sharded)))
      (Allowed (Steady sharded)) (Orderly sharded) s s' → Orderly sharded s' :=
    fun _ _ => orderly_moves
  have hinit : Orderly sharded ((some created, []) : History) :=
    ⟨fun _ _ _ => rfl, List.nodup_nil, fun _ => Nat.zero_le 1⟩
  obtain ⟨hsound₁, hpath₁⟩ := Worker.sound_steps hjob hmoves (Worker.sound_idle hinit) hrun₁
  obtain ⟨hsound₂, hpath₂⟩ := Worker.sound_steps hjob hmoves hsound₁ hrun₂
  obtain ⟨earlier, hearlier, -⟩ := forward_run hpath₁ rfl
  obtain ⟨later, hlater, hforward⟩ := forward_run hpath₂ hearlier
  exact ⟨earlier, later, hearlier, hlater, hforward, hsound₂.1.once,
    List.nodup_iff_count_le_one.mp hsound₂.1.nodup⟩

/-! ### Concrete runs -/

/-- Answers by a function: this cluster with these pods, backups that succeed,
    and requests to the API server that time out without effect where `lost` says so. -/
def serve (cluster : RedisCluster) (pods : List Pod) (lost : BackupCmd → Bool)
    (stored : Option RedisBackup) : (c : BackupCmd) → BackupReply c × Option RedisBackup
  | .now => ((0 : Nat), stored)
  | .getBackup => (found "redisbackups" "" stored, stored)
  | .getCluster name =>
    (if lost (.getCluster name) then .error ⟨.other, "timeout"⟩ else .ok cluster, stored)
  | .listPods name =>
    (if lost (.listPods name) then .error ⟨.other, "timeout"⟩ else .ok pods, stored)
  | .patchStatus before after =>
    match stored with
    | none => (found "redisbackups" before.name none, none)
    | some object =>
      if lost (.patchStatus before after) then (.error ⟨.other, "timeout"⟩, some object)
      else (.ok (mergeBackup before after object), some (mergeBackup before after object))
  | .post .. => (.ok ⟨200, "", .ok { backupPath := "s3://backups/b.rdb" }⟩, stored)

/-- The same with the log. -/
def serveLogged (cluster : RedisCluster) (pods : List Pod) (lost : BackupCmd → Bool)
    (s : History) (c : BackupCmd) : BackupReply c × History :=
  ((serve cluster pods lost s.1 c).1,
    ((serve cluster pods lost s.1 c).2, ⟨c, (serve cluster pods lost s.1 c).1⟩ :: s.2))

theorem serve_answers (cluster : RedisCluster) (pods : List Pod) (lost : BackupCmd → Bool)
    (stored : Option RedisBackup) (c : BackupCmd) :
    Answers stored c (serve cluster pods lost stored c).1 (serve cluster pods lost stored c).2 := by
  cases c with
  | getBackup => exact ⟨Or.inl rfl, rfl⟩
  | patchStatus before after =>
    cases stored with
    | none => exact ⟨rfl, rfl⟩
    | some object =>
      unfold serve
      by_cases hlost : lost (.patchStatus before after) = true
      · simp only [if_pos hlost]
        exact Or.inr ⟨⟨_, rfl⟩, Or.inl rfl⟩
      · simp only [if_neg hlost]
        exact Or.inl ⟨rfl, rfl⟩
  | _ => rfl

/-- The history after a reconcile that crashed after `n` requests. -/
def historyAfter (n : Nat) (cluster : RedisCluster) (lost : BackupCmd → Bool) (s : History) :
    History :=
  Worker.crashed (serveLogged cluster watchedPods lost) n (reconcileBackup newBackup) s

theorem runs_historyAfter (n : Nat) {lost : BackupCmd → Bool}
    (hadmits : ∀ stored c, admits stored c (serve cluster watchedPods lost stored c).1)
    (s : History) : Runs admits newBackup ⟨s, none⟩ ⟨historyAfter n cluster lost s, none⟩ := by
  refine Worker.steps_of_crash (fun s c => ?_) n s
  exact ⟨⟨hadmits s.1 c, serve_answers cluster watchedPods lost s.1 c⟩, rfl⟩

/-- The final patch is lost. -/
def losesEnd : BackupCmd → Bool
  | .patchStatus _ after => after.phase == .completed
  | _ => false

/-- The cluster of `watchedCluster` in another phase. -/
def degradedCluster : RedisCluster :=
  { watchedCluster with status := { watchedCluster.status with phase := .degraded } }

theorem kindIs_serve (cluster : RedisCluster) (hmode : cluster.spec.mode ≠ .cluster)
    (lost : BackupCmd → Bool) (stored : Option RedisBackup) (c : BackupCmd) :
    KindIs False stored c (serve cluster watchedPods lost stored c).1 := by
  cases c with
  | getCluster name =>
    by_cases hlost : lost (.getCluster name) = true
    · simp only [KindIs, serve, if_pos hlost]
    · simp only [KindIs, serve, if_neg hlost]
      exact iff_false_intro hmode
  | _ => trivial

/-- A whole reconcile of a new backup, and what it leaves. -/
theorem lifecycle_forward_newBackup :
    ∃ w : Reconciler, Runs (Steady False) newBackup ⟨(some newBackup, []), none⟩ w ∧
      w.env.1.map (·.phase) = some .completed ∧ sentNames w.env.2 = ["b"] ∧
      AtMostOnce False w.env.2 := by
  have hadmits : ∀ stored c,
      Steady False stored c (serve watchedCluster watchedPods (fun _ => false) stored c).1 := by
    intro stored c
    refine ⟨kindIs_serve watchedCluster (by decide) _ stored c, ?_⟩
    cases c with
    | getCluster name => exact fun _ _ _ => rfl
    | _ => trivial
  have hrun := runs_historyAfter 20 hadmits (some newBackup, [])
  obtain ⟨-, -, -, -, -, honce⟩ := lifecycle_forward False newBackup newBackup .refl hrun
  exact ⟨_, hrun, by decide +kernel, by decide +kernel, honce⟩

/-- The final patch is lost; the cluster degrades and recovers.  The backup goes
    back to `Pending`, and is taken a second time. -/
theorem degraded_runs_backup_twice :
    ∃ w₁ w₂ w₃ : Reconciler,
      Runs (KindIs False) newBackup ⟨(some newBackup, []), none⟩ w₁ ∧
      Runs (KindIs False) newBackup w₁ w₂ ∧ Runs (KindIs False) newBackup w₂ w₃ ∧
      w₁.env.1.map (·.phase) = some .running ∧ w₂.env.1.map (·.phase) = some .pending ∧
      sentNames w₃.env.2 = ["b", "b"] := by
  have hadmits := kindIs_serve watchedCluster (by decide)
  have hdegraded := kindIs_serve degradedCluster (by decide)
  refine ⟨_, _, _, runs_historyAfter 20 (hadmits losesEnd) (some newBackup, []),
    runs_historyAfter 20 (hdegraded fun _ => false) _,
    runs_historyAfter 20 (hadmits fun _ => false) _, ?_, ?_, ?_⟩
  · decide +kernel
  · decide +kernel
  · decide +kernel

/-! ## Only a lasting cause fails a backup -/

/-- A cause that does not go away by itself, as far as the log shows it: the
    destination is invalid, the cluster does not exist, a listing had no suitable
    pod, or a call was refused. -/
def Justified (backup : RedisBackup) (log : Log) : Prop :=
  validateDestination backup.destination ≠ none ∨
  (∃ err : ApiError, err.reason = .notFound ∧
    ⟨.getCluster backup.clusterName, .error err⟩ ∈ log) ∨
  (∃ cluster pods, planOf cluster backup pods = none ∧
    [⟨.listPods cluster.name, .ok pods⟩, ⟨.getCluster backup.clusterName, .ok cluster⟩] <:+: log) ∨
  ∃ (job : BackupJob) (answer : Except String BackupResponse),
    ⟨job.cmd backup, answer⟩ ∈ log ∧ ∀ result, ¬ job.Succeeds answer result

theorem Justified.cons (h : Justified backup log)
    (e : Sigma BackupReply) : Justified backup (e :: log) := by
  rcases h with h | ⟨err, herr, hmem⟩ | ⟨cluster, pods, hnone, hadjacent⟩ |
      ⟨job, answer, hmem, hbad⟩
  · exact Or.inl h
  · exact Or.inr (Or.inl ⟨err, herr, List.mem_cons_of_mem _ hmem⟩)
  · have hlonger := hadjacent.trans (List.suffix_cons e log).isInfix
    exact Or.inr (Or.inr (Or.inl ⟨cluster, pods, hnone, hlonger⟩))
  · exact Or.inr (Or.inr (Or.inr ⟨job, answer, List.mem_cons_of_mem _ hmem, hbad⟩))

/-- The spec of a backup is all that its causes depend on. -/
theorem Justified.merged
    (h : Justified object log) : Justified (mergeBackup before after object) log := h

/-- No request of three kinds fails in passing: the read of the cluster, the
    listing, and the patch to `Running`. -/
def NoBlips : Surroundings := fun _ c r =>
  match c, r with
  | .getCluster _, .error err => err.reason = .notFound
  | .listPods _, .error _ => False
  | .patchStatus _ after, .error err => err.reason = .notFound ∨ after.phase ≠ .running
  | _, _ => True

theorem Issued.justified {log₀ : Log}
    (h : Issued NoBlips stored₀ log₀ (some object) log (.patchStatus before after))
    (hfailed : after.phase = .failed) : Justified object log := by
  cases h with
  | noCluster h hadm => exact Or.inr (Or.inl ⟨_, hadm, List.mem_cons_self⟩)
  | badDestination h hinvalid => exact Or.inl hinvalid
  | noPods h hadm => exact hadm.elim
  | noTarget h hadm hplan =>
    exact Or.inr (Or.inr (Or.inl ⟨_, _, hplan, (List.prefix_append _ _).isInfix⟩))
  | notStarted h hstored hadm =>
    rcases hadm with hreason | hphase
    · exact nomatch hreason
    · exact absurd rfl hphase
  | refused h hadm herr => exact Or.inr (Or.inr (Or.inr ⟨_, _, List.mem_cons_self, herr⟩))
  | pending | start => exact nomatch hfailed
  | complete =>
    rw [completedStatus_phase] at hfailed
    exact nomatch hfailed

/-- A failed backup has its reason in the log. -/
def FailedJustified (s : History) : Prop :=
  ∀ backup, s.1 = some backup → backup.phase = .failed → Justified backup s.2

theorem failedJustified_moves
    (h : Worker.Moves (Prog.record (Handles NoBlips)) (Allowed NoBlips) FailedJustified s s') :
    FailedJustified s' := by
  obtain ⟨start, c, r, -, hs, hissued, hrecorded⟩ := h
  obtain ⟨stored, log⟩ := s
  rcases recorded_cases hrecorded with rfl | ⟨before, after, object, rfl, hobject, rfl⟩
  · intro backup hstored hfailed
    exact (hs backup hstored hfailed).cons _
  · obtain rfl : stored = some object := hobject
    rintro backup ⟨⟩ hfailed
    rw [hissued.merged_phase] at hfailed
    exact (hissued.justified hfailed).merged.cons _

/-- Over every run, with crashes at any point and API errors outside of those
    three kinds: a backup that is `Failed` has a lasting cause. -/
theorem failed_justified (l₀ created : RedisBackup) (hcreated : created.phase ≠ .failed)
    {w : Reconciler} (hrun : Runs NoBlips l₀ ⟨(some created, []), none⟩ w) :
    FailedJustified w.env := by
  have hjob : ∀ s, FailedJustified s → Prog.wp (Prog.record (Handles NoBlips)) (Allowed NoBlips s)
      (fun _ _ => True) (reconcileBackup l₀) s := fun s _ => wp_allowed _ l₀ s
  have hinit : FailedJustified ((some created, []) : History) := by
    rintro backup ⟨⟩ hfailed
    exact absurd hfailed hcreated
  exact (Worker.sound_steps hjob (fun _ _ => failedJustified_moves) (Worker.sound_idle hinit)
    hrun).1.1

/-- A backup whose destination is missing. -/
def homelessBackup : RedisBackup := { newBackup with destination := none }

/-- It fails, for a lasting cause. -/
theorem failed_justified_homelessBackup :
    ∃ w : Reconciler, Runs NoBlips newBackup ⟨(some homelessBackup, []), none⟩ w ∧
      w.env.1.map (·.phase) = some .failed ∧ FailedJustified w.env := by
  have hadmits : ∀ stored c,
      NoBlips stored c (serve watchedCluster watchedPods (fun _ => false) stored c).1 := by
    intro stored c
    cases c with
    | patchStatus before after =>
      cases stored with
      | none => exact Or.inl rfl
      | some object => trivial
    | _ => trivial
  have hrun := runs_historyAfter 20 hadmits (some homelessBackup, [])
  exact ⟨_, hrun, by decide +kernel, failed_justified newBackup homelessBackup (by decide) hrun⟩

/-- The read of the cluster times out once. -/
def losesCluster : BackupCmd → Bool
  | .getCluster _ => true
  | _ => false

/-- The cluster and its pods. -/
def watchedSite : Site where
  cluster := some watchedCluster
  pods := watchedPods
  distinct := by decide
  named := by decide

/-- One timeout is enough: the backup is `Failed` for good, with no lasting cause. -/
theorem timeout_fails_backup :
    ∃ w : Reconciler, Runs watchedSite.admits newBackup ⟨(some newBackup, []), none⟩ w ∧
      w.env.1.map (·.phase) = some .failed ∧ ¬ FailedJustified w.env := by
  have hadmits : ∀ stored c,
      watchedSite.admits stored c (serve watchedCluster watchedPods losesCluster stored c).1 := by
    intro stored c
    cases c with
    | getCluster name => exact Or.inr ⟨_, rfl⟩
    | listPods name => exact Or.inl rfl
    | _ => exact Or.inl trivial
  have hrun := runs_historyAfter 20 hadmits (some newBackup, [])
  refine ⟨_, hrun, by decide +kernel, fun h => ?_⟩
  have hend : historyAfter 20 watchedCluster losesCluster (some newBackup, []) =
      (some (failedStatus newBackup "cluster c not found: timeout"),
        [⟨.patchStatus newBackup (failedStatus newBackup "cluster c not found: timeout"),
            .ok (failedStatus newBackup "cluster c not found: timeout")⟩,
          ⟨.getCluster "c", .error ⟨.other, "timeout"⟩⟩, ⟨.getBackup, .ok newBackup⟩]) := rfl
  rw [hend] at h
  rcases h _ rfl rfl with hdest | ⟨err, hreason, hmem⟩ | ⟨cluster, pods, -, hadjacent⟩ |
    ⟨job, answer, hmem, -⟩
  · exact hdest rfl
  · simp only [List.mem_cons, List.not_mem_nil, or_false] at hmem
    rcases hmem with h | h | h <;> cases h
    exact nomatch hreason
  · have hmem := hadjacent.subset List.mem_cons_self
    simp only [List.mem_cons, List.not_mem_nil, or_false] at hmem
    rcases hmem with h | h | h <;> cases h
  · simp only [List.mem_cons, List.not_mem_nil, or_false] at hmem
    rcases hmem with h | h | h <;> cases h

/-! ## Backups that come to an end -/

/-- A pod with an address is suitable for the backup. -/
def HasTarget (cluster : RedisCluster) (backup : RedisBackup) (pods : List Pod) : Prop :=
  if cluster.spec.mode = .cluster then SomeTarget cluster pods
  else ∃ pod ∈ pods, (backup.target = .preferReplica ∧ preferred cluster pod = true) ∨
    leads cluster pod = true

theorem targetPodAmong_eq_none_iff {target : BackupTarget} :
    targetPodAmong cluster target pods = none ↔
      ¬ ∃ pod ∈ pods, (target = .preferReplica ∧ preferred cluster pod = true) ∨
        leads cluster pod = true := by
  rw [targetPodAmong_eq, Option.or_eq_none_iff, List.find?_eq_none]
  constructor
  · rintro ⟨hfirst, hsecond⟩ ⟨pod, hmem, ⟨htarget, hpref⟩ | hlead⟩
    · rw [if_pos htarget, List.find?_eq_none] at hfirst
      exact hfirst pod hmem hpref
    · exact hsecond pod hmem hlead
  · intro h
    refine ⟨?_, fun pod hmem hlead => h ⟨pod, hmem, Or.inr hlead⟩⟩
    by_cases htarget : target = .preferReplica
    · rw [if_pos htarget, List.find?_eq_none]
      exact fun pod hmem hpref => h ⟨pod, hmem, Or.inl ⟨htarget, hpref⟩⟩
    · rw [if_neg htarget]

theorem planOf_eq_none_iff {site : Site} :
    planOf cluster backup site.pods = none ↔ ¬ HasTarget cluster backup site.pods := by
  unfold planOf HasTarget
  by_cases hmode : cluster.spec.mode = .cluster
  · rw [if_pos hmode, if_pos hmode, ← clusterTargets_nonempty_iff site.distinct site.named, not_not]
    by_cases hlen : (clusterTargetsAmong cluster site.pods).len = 0
    · exact iff_of_true (if_pos hlen) hlen
    · exact iff_of_false (fun h => Option.some_ne_none _ ((if_neg hlen).symm.trans h)) hlen
  · rw [if_neg hmode, if_neg hmode, Option.map_eq_none_iff, targetPodAmong_eq_none_iff]

/-- Some number of reconciles in which everything succeeds ends the backup. -/
def Settles (site : Site) (l₀ backup : RedisBackup) : Prop :=
  ∃ n, ∀ stored, Worker.Passes (Handles site.succeeds) (reconcileBackup l₀) n (some backup) stored →
    ∃ object, stored = some object ∧ Ended object.phase

section

variable {site : Site} {cluster : RedisCluster} {backup l₀ : RedisBackup}

theorem settled_of_returns (hcluster : site.cluster = some cluster)
    (hhealthy : cluster.status.phase = .healthy) {stored : Option RedisBackup}
    {result : Except String (Option Nat × RedisBackup)}
    (h : Prog.Returns (Handles site.succeeds) (reconcileBackup l₀) (some backup) result stored) :
    ∃ object, stored = some object ∧ Settled cluster site.pods backup object := by
  obtain ⟨log, hrecorded⟩ := Prog.returns_track_iff.mp h
  have hfollows : Follows site.succeeds (some backup) [] reconcileBackup l₀ (some backup, []) :=
    follows_reconcileBackup l₀ _ _
  have hend : Finished site.succeeds (some backup) [] stored log := by
    have hpost := Prog.wp_returns hrecorded hfollows
    cases result <;> exact hpost
  exact settled_of_finished hcluster hhealthy hend

/-- A running backup that nobody works on stays as it is: the reconciler only
    comes back to look again. -/
theorem passes_of_running (hcluster : site.cluster = some cluster)
    (hhealthy : cluster.status.phase = .healthy) (hrunning : backup.phase = .running)
    (hdestination : validateDestination backup.destination = none)
    (htarget : HasTarget cluster backup site.pods) (n : Nat) :
    Worker.Passes (Handles site.succeeds) (reconcileBackup l₀) n (some backup) (some backup) := by
  have hpass : ∃ result, Prog.Returns (Handles site.succeeds) (reconcileBackup l₀) (some backup)
      result (some backup) := by
    obtain ⟨result, object, hreturns, hsettled⟩ := exists_settled l₀ backup hcluster hhealthy
    cases hsettled with
    | ended => exact ⟨result, hreturns⟩
    | running => exact ⟨result, hreturns⟩
    | failed hlive hfailed hcause =>
      rcases hcause with hinvalid | hplan
      · exact absurd hdestination hinvalid
      · exact absurd htarget (planOf_eq_none_iff.mp hplan)
    | completed hnew hdone htaken => exact absurd hrunning (ne_running_of_notStarted hnew)
  obtain ⟨result, hreturns⟩ := hpass
  induction n with
  | zero => exact .none
  | succ n ih => exact .next hreturns ih

theorem not_settles_of_running (hcluster : site.cluster = some cluster)
    (hhealthy : cluster.status.phase = .healthy) (hrunning : backup.phase = .running)
    (hdestination : validateDestination backup.destination = none)
    (htarget : HasTarget cluster backup site.pods) : ¬ Settles site l₀ backup := by
  rintro ⟨n, h⟩
  obtain ⟨object, hobject, hended⟩ :=
    h _ (passes_of_running hcluster hhealthy hrunning hdestination htarget n)
  cases hobject
  rw [hrunning] at hended
  exact absurd hended (by decide)

/-- With a healthy cluster and everything succeeding, a backup comes to an end
    exactly if it is not `Running` with a valid destination and a pod to run on. -/
theorem settles_iff (hcluster : site.cluster = some cluster)
    (hhealthy : cluster.status.phase = .healthy) :
    Settles site l₀ backup ↔ ¬ (backup.phase = .running ∧
      validateDestination backup.destination = none ∧ HasTarget cluster backup site.pods) := by
  constructor
  · rintro h ⟨hrunning, hdestination, htarget⟩
    exact not_settles_of_running hcluster hhealthy hrunning hdestination htarget h
  · intro h
    -- one reconcile is enough
    refine ⟨1, fun stored hpasses => ?_⟩
    cases hpasses with
    | next hreturns hrest =>
      cases hrest
      obtain ⟨object, hobject, hsettled⟩ := settled_of_returns hcluster hhealthy hreturns
      refine ⟨object, hobject, ?_⟩
      cases hsettled with
      | ended hended => exact hended
      | running hrunning hdestination hplan =>
        have htarget := not_not.mp (mt planOf_eq_none_iff.mpr hplan)
        exact absurd ⟨hrunning, hdestination, htarget⟩ h
      | failed hlive hfailed hcause => exact Or.inr hfailed
      | completed hnew hdone htaken => exact Or.inl hdone

end

/-- A new backup comes to an end. -/
theorem newBackup_settles : Settles watchedSite newBackup newBackup :=
  (settles_iff rfl rfl).mpr fun h => nomatch h.1

/-- The operator crashes once the call was made.  The cluster is healthy, every
    pod has an address, and the backup stays `Running` for good. -/
theorem crashed_backup_never_settles :
    ∃ (object : RedisBackup) (log : Log),
      Runs watchedSite.admits newBackup ⟨(some newBackup, []), none⟩ ⟨(some object, log), none⟩ ∧
      object.phase = .running ∧ sentNames log = ["b"] ∧
      (∀ pod ∈ watchedSite.pods, pod.podIP ≠ "") ∧ ¬ Settles watchedSite newBackup object := by
  have hadmits : ∀ stored c, watchedSite.admits stored c
      (serve watchedCluster watchedPods (fun _ => false) stored c).1 := by
    intro stored c
    cases c with
    | getCluster name => exact Or.inl rfl
    | listPods name => exact Or.inl rfl
    | _ => exact Or.inl trivial
  have hrun := runs_historyAfter 6 hadmits (some newBackup, [])
  have hstored : (historyAfter 6 watchedCluster (fun _ => false) (some newBackup, [])).1 =
      some (runningStatus newBackup "c-0" 0) := by decide +kernel
  have hsplit : historyAfter 6 watchedCluster (fun _ => false) (some newBackup, []) =
      (some (runningStatus newBackup "c-0" 0),
        (historyAfter 6 watchedCluster (fun _ => false) (some newBackup, [])).2) :=
    Prod.ext hstored rfl
  rw [hsplit] at hrun
  refine ⟨runningStatus newBackup "c-0" 0, _, hrun, rfl, by decide +kernel, by decide, ?_⟩
  have htarget : HasTarget watchedCluster (runningStatus newBackup "c-0" 0) watchedSite.pods :=
    ⟨{ name := "c-0", podIP := "10.0.0.1" }, by decide, Or.inr (by decide)⟩
  exact not_settles_of_running rfl rfl rfl rfl htarget

end RedisOperator.Backup
