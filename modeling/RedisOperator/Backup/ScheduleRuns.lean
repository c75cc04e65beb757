/-
  RedisOperator.Backup.ScheduleRuns

  A schedule over whole runs: reconciles at increasing times, crashes between any
  two requests, API errors with and without effect, and edits of everything in
  the spec but the schedule and its time zone.

  The reconciler creates the backup first and writes `status.lastScheduleTime`
  afterwards.  `fired_spaced` says that each occurrence fires at most once in
  every run whose reconciles start with all earlier backups on that record;
  `lost_record_fires_twice` is the run where a record was lost in between.
-/

import RedisOperator.Backup.Schedule
import RedisOperator.Backup.World
import RedisOperator.Lib.Worker
import Mathlib.Order.Bounds.Defs

namespace RedisOperator.Backup

open Lib Act

/-! ## Surroundings -/

/-- What surrounds the reconciler. -/
structure ScheduleWorld where
  stored : Option RedisScheduledBackup
  /-- the last time that was read -/
  clock : Nat := 0
  /-- the times of the reconciles that created a backup, the latest first -/
  fired : List Nat := []

/-- The time was read again. -/
def ScheduleWorld.tick (w : ScheduleWorld) (time : Nat) : ScheduleWorld := { w with clock := time }

/-- A backup was created. -/
def ScheduleWorld.fire (w : ScheduleWorld) : ScheduleWorld := { w with fired := w.clock :: w.fired }

/-- Another stored object. -/
def ScheduleWorld.store (w : ScheduleWorld) (scheduled : RedisScheduledBackup) : ScheduleWorld :=
  { w with stored := some scheduled }

/-- A merge patch of the status. -/
def mergeScheduled (before after stored : RedisScheduledBackup) : RedisScheduledBackup :=
  { stored with
    phase := pick before.phase after.phase stored.phase
    lastScheduleTime := pick before.lastScheduleTime after.lastScheduleTime stored.lastScheduleTime
    nextScheduleTime := pick before.nextScheduleTime after.nextScheduleTime stored.nextScheduleTime
    lastBackupName := pick before.lastBackupName after.lastBackupName stored.lastBackupName
    scheduleValid := pick before.scheduleValid after.scheduleValid stored.scheduleValid }

theorem mergeScheduled_lastScheduleTime_self (before after : RedisScheduledBackup) :
    (mergeScheduled before after before).lastScheduleTime = after.lastScheduleTime :=
  pick_self _ _

/-- Someone may have edited the spec, but not the schedule. -/
structure Edited (old new : RedisScheduledBackup) : Prop where
  creationTimestamp : new.creationTimestamp = old.creationTimestamp
  schedule : new.schedule = old.schedule
  timeZone : new.timeZone = old.timeZone
  lastScheduleTime : new.lastScheduleTime = old.lastScheduleTime

theorem Edited.refl (scheduled : RedisScheduledBackup) : Edited scheduled scheduled :=
  ⟨rfl, rfl, rfl, rfl⟩

/-- What a request may be answered, and what it leaves behind.  Nothing is
    assumed about the cluster and about the backups. -/
def ScheduleAnswers (w : ScheduleWorld) :
    (c : ScheduleCmd) → ScheduleReply c → ScheduleWorld → Prop
  | .now, time, w' => w.clock ≤ time ∧ w' = w.tick time
  | .getScheduled, r, w' =>
    (Transient r ∧ w' = w) ∨
      match w.stored with
      | none => r = found "redisscheduledbackups" "" none ∧ w' = w
      | some old => ∃ new, Edited old new ∧ r = .ok new ∧ w' = w.store new
  | .createBackup _, r, w' =>
    (r = .ok () ∧ w' = w.fire) ∨ ∃ err, r = .error err ∧ (w' = w ∨ w' = w.fire)
  | .patchStatus before after, r, w' =>
    match w.stored with
    | none => r = found "redisscheduledbackups" before.name none ∧ w' = w
    | some stored =>
      (r = .ok (mergeScheduled before after stored) ∧
        w' = w.store (mergeScheduled before after stored)) ∨
      (Transient r ∧ (w' = w ∨ w' = w.store (mergeScheduled before after stored)))
  | _, _, w' => w' = w

/-- The record covers every backup that was created. -/
def Recorded (w : ScheduleWorld) : Prop :=
  ∀ scheduled, w.stored = some scheduled → ∀ time ∈ w.fired,
    ∃ last, scheduled.lastScheduleTime = some last ∧ time / second ≤ last

instance : DecidablePred Recorded := fun w =>
  match hstored : w.stored with
  | none => .isTrue fun _ h => nomatch hstored.symm.trans h
  | some scheduled =>
    decidable_of_iff
      (∀ time ∈ w.fired, ∃ last ∈ scheduled.lastScheduleTime, time / second ≤ last)
      ⟨fun h _ h' => Option.some.inj (hstored.symm.trans h') ▸ h, fun h => h scheduled hstored⟩

/-- A reconcile starts with the record complete. -/
def StartsRecorded (w : ScheduleWorld) : ScheduleCmd → Prop
  | .getScheduled => Recorded w
  | _ => True

instance (w : ScheduleWorld) : DecidablePred (StartsRecorded w)
  | .getScheduled => inferInstanceAs (Decidable (Recorded w))
  | .now | .getCluster _ | .createBackup _ | .patchStatus .. | .listBackups _ | .deleteBackup _ =>
    .isTrue trivial

/-! ## Occurrences -/

/-- What the cron library is trusted with: `Next(t)` is the least occurrence
    after `t`, and occurrences fall on whole seconds. -/
structure Occurrences (lib : CronLibrary) (sched : lib.Schedule) (loc : lib.Location)
    (occurs : Nat → Prop) : Prop where
  least : ∀ t o, lib.next sched loc t = some o → IsLeast {o | occurs o ∧ t < o} o
  whole : ∀ o, occurs o → second ∣ o

/-- Every backup has an occurrence of its own: after the creation of the schedule
    and after the backups before it. -/
structure Spaced (occurs : Nat → Prop) (createdAt : Nat) (fired : List Nat) : Prop where
  first : ∀ time ∈ fired, ∃ o, occurs o ∧ createdAt < o ∧ o ≤ time
  between : fired.Pairwise fun later earlier => ∃ o, occurs o ∧ earlier < o ∧ o ≤ later

/-- An occurrence after the second that an instant falls in is after the instant. -/
theorem lt_of_second_lt {instant base o : Nat} (hfloor : instant / second * second ≤ base)
    (hwhole : second ∣ o) (ho : base < o) : instant < o := by
  obtain ⟨k, rfl⟩ := hwhole
  have hk : instant / second < k := by
    rw [Nat.mul_comm] at hfloor
    exact Nat.lt_of_mul_lt_mul_left (Nat.lt_of_le_of_lt hfloor ho)
  calc instant < second * (instant / second + 1) := Nat.lt_mul_div_succ instant (by decide)
    _ ≤ second * k := Nat.mul_le_mul_left second hk

/-! ## One reconcile -/

section

variable (lib : CronLibrary) (occurs : Nat → Prop) (createdAt : Nat) (schedule timeZone : String)

/-- What holds of the stored object. -/
structure Kept (scheduled : RedisScheduledBackup) : Prop where
  creationTimestamp : scheduled.creationTimestamp = createdAt / second
  schedule : scheduled.schedule = schedule
  timeZone : scheduled.timeZone = timeZone
  last : ∀ last, scheduled.lastScheduleTime = some last → createdAt / second ≤ last

variable {createdAt schedule timeZone} in
theorem Kept.edited {old new : RedisScheduledBackup} (h : Kept createdAt schedule timeZone old)
    (hedited : Edited old new) : Kept createdAt schedule timeZone new where
  creationTimestamp := hedited.creationTimestamp.trans h.creationTimestamp
  schedule := hedited.schedule.trans h.schedule
  timeZone := hedited.timeZone.trans h.timeZone
  last := hedited.lastScheduleTime ▸ h.last

/-- The invariant of a run. -/
structure OnTime (w : ScheduleWorld) : Prop where
  spaced : Spaced occurs createdAt w.fired
  stored : ∃ scheduled, w.stored = some scheduled ∧ Kept createdAt schedule timeZone scheduled

/-- A backup is created only where that keeps them apart, and a patch keeps the record. -/
def Careful (w : ScheduleWorld) : ScheduleCmd → Prop
  | .createBackup _ => Spaced occurs createdAt (w.clock :: w.fired)
  | .patchStatus before after => ∀ stored, w.stored = some stored →
      Kept createdAt schedule timeZone (mergeScheduled before after stored)
  | _ => True

end

section

variable {lib : CronLibrary} {occurs : Nat → Prop} {createdAt : Nat} {schedule timeZone : String}
variable {w : ScheduleWorld} {l : RedisScheduledBackup}

/-- Only allowed requests are issued. -/
abbrev Mindful (occurs : Nat → Prop) (createdAt : Nat) (schedule timeZone : String) {α : Type}
    (x : ScheduleOp α) (Q : α → RedisScheduledBackup → ScheduleWorld → Prop)
    (l : RedisScheduledBackup) (w : ScheduleWorld) : Prop :=
  Act.wp (Prog.restrict StartsRecorded ScheduleAnswers)
    (fun w => Careful occurs createdAt schedule timeZone w) x Q (fun _ _ => True) l w

theorem onTime_step {c : ScheduleCmd} {r : ScheduleReply c} {w' : ScheduleWorld}
    (h : OnTime occurs createdAt schedule timeZone w)
    (hcareful : Careful occurs createdAt schedule timeZone w c)
    (hans : ScheduleAnswers w c r w') : OnTime occurs createdAt schedule timeZone w' := by
  obtain ⟨scheduled, hstored, hkept⟩ := h.stored
  cases c with
  | now =>
    obtain ⟨-, rfl⟩ := hans
    exact ⟨h.spaced, scheduled, hstored, hkept⟩
  | getScheduled =>
    rcases hans with ⟨-, rfl⟩ | hans
    · exact h
    · rw [hstored] at hans
      obtain ⟨new, hedited, -, rfl⟩ := hans
      exact ⟨h.spaced, new, rfl, hkept.edited hedited⟩
  | createBackup backup =>
    rcases hans with ⟨-, rfl⟩ | ⟨_, -, rfl | rfl⟩
    · exact ⟨hcareful, scheduled, hstored, hkept⟩
    · exact h
    · exact ⟨hcareful, scheduled, hstored, hkept⟩
  | patchStatus before after =>
    have hmerged := hcareful scheduled hstored
    rw [ScheduleAnswers, hstored] at hans
    rcases hans with ⟨-, rfl⟩ | ⟨-, rfl | rfl⟩
    · exact ⟨h.spaced, _, rfl, hmerged⟩
    · exact h
    · exact ⟨h.spaced, _, rfl, hmerged⟩
  | getCluster | listBackups | deleteBackup =>
    obtain rfl : w' = w := hans
    exact h

theorem wp_setStatusCondition (existing : Option ScheduleCondition) (new : ScheduleCondition)
    {Q : ScheduleCondition → RedisScheduledBackup → ScheduleWorld → Prop}
    (h : ∀ condition w', w'.stored = w.stored → w'.fired = w.fired → Q condition l w') :
    Mindful occurs createdAt schedule timeZone (setStatusCondition existing new) Q l w := by
  have hasked : Mindful occurs createdAt schedule timeZone
      (do let time ← ask .now; pure { new with lastTransitionTime := time / second }) Q l w := by
    rw [Mindful, wp_bind, ask, Act.wp_request]
    refine ⟨trivial, ?_⟩
    rintro time _ ⟨-, -, rfl⟩
    exact h _ _ rfl rfl
  cases existing with
  | none => exact hasked
  | some old =>
    rw [setStatusCondition]
    split
    · exact h _ _ rfl rfl
    · exact hasked

/-- A patch from the stored object that keeps or sets the record, and what comes after it. -/
theorem wp_patchScheduled {after : RedisScheduledBackup}
    {Q : Unit → RedisScheduledBackup → ScheduleWorld → Prop} (hstored : w.stored = some l)
    (hkept : Kept createdAt schedule timeZone l)
    (hlast : ∀ last, after.lastScheduleTime = some last → createdAt / second ≤ last)
    (hQ : ∀ l' w', Q () l' w') :
    Mindful occurs createdAt schedule timeZone (patchScheduled after) Q l w := by
  rw [Mindful, patchScheduled, wp_bind, wp_get, wp_bind, ask, Act.wp_request]
  refine ⟨?_, ?_⟩
  · intro stored h
    obtain rfl : l = stored := Option.some.inj (hstored.symm.trans h)
    exact ⟨hkept.creationTimestamp, hkept.schedule, hkept.timeZone,
      (mergeScheduled_lastScheduleTime_self l after).symm ▸ hlast⟩
  · intro r w' _
    cases r with
    | ok stored => exact hQ stored w'
    | error err => trivial

theorem wp_markScheduleInvalid (cause : String) (hstored : w.stored = some l)
    (hkept : Kept createdAt schedule timeZone l) :
    Mindful occurs createdAt schedule timeZone (markScheduleInvalid cause)
      (fun _ _ _ => True) l w := by
  rw [Mindful, markScheduleInvalid, wp_bind, wp_get, wp_bind]
  refine wp_setStatusCondition _ _ fun condition w' hstored' _ => ?_
  rw [wp_bind]
  exact wp_patchScheduled (hstored'.trans hstored) hkept hkept.last fun _ _ => trivial

theorem wp_waitForNext (next now : Nat) (hstored : w.stored = some l)
    (hkept : Kept createdAt schedule timeZone l) :
    Mindful occurs createdAt schedule timeZone (waitForNext next now)
      (fun _ _ _ => True) l w := by
  rw [Mindful, waitForNext, wp_bind, wp_get, wp_bind]
  refine wp_setStatusCondition _ _ fun condition w' hstored' _ => ?_
  rw [wp_bind]
  exact wp_patchScheduled (hstored'.trans hstored) hkept hkept.last fun _ _ => trivial

/-! The cleanup only lists and deletes backups. -/

-- how many backups are in excess does not matter here, and is not to be computed
attribute [local irreducible] wrap32

theorem wp_deleteExcess (kind : String) (excess : Nat) (backups : List RedisBackup) :
    Mindful occurs createdAt schedule timeZone (deleteExcess kind excess backups)
      (fun _ _ _ => True) l w := by
  induction excess generalizing backups w with
  | zero => trivial
  | succ excess ih =>
    cases backups with
    | nil => trivial
    | cons backup backups =>
      rw [Mindful, deleteExcess, wp_bind, ask, Act.wp_request]
      refine ⟨trivial, fun r w' _ => ?_⟩
      cases r with
      | error err => trivial
      | ok => exact ih backups

theorem wp_trimBackups (kind : String) (limit : Option Int) (backups : List RedisBackup) :
    Mindful occurs createdAt schedule timeZone (trimBackups kind limit backups)
      (fun _ _ _ => True) l w := by
  rw [Mindful, trimBackups, wp_ite]
  exact ⟨fun _ => wp_deleteExcess kind _ backups, fun _ => trivial⟩

theorem wp_cleanupOldBackups :
    Mindful occurs createdAt schedule timeZone cleanupOldBackups (fun _ _ _ => True) l w := by
  rw [Mindful, cleanupOldBackups, wp_bind, wp_get, wp_bind, ask, Act.wp_request]
  refine ⟨trivial, fun r w' _ => ?_⟩
  cases r with
  | error err => trivial
  | ok items =>
    rw [wp_bind]
    refine wp_post (wp_trimBackups "successful" _ _) fun trimmed _ _ _ => ?_
    cases trimmed with
    | error err => trivial
    | ok => exact wp_trimBackups "failed" _ _

theorem wp_fire {now : Nat} (nextRun : Option Nat) (hstored : w.stored = some l)
    (hkept : Kept createdAt schedule timeZone l) (hnow : w.clock = now)
    (hspaced : Spaced occurs createdAt (now :: w.fired)) :
    Mindful occurs createdAt schedule timeZone (fire now nextRun) (fun _ _ _ => True) l w := by
  -- the new record is no older than the schedule: an occurrence lies in between
  have hlast : createdAt / second ≤ now / second := by
    obtain ⟨o, -, hcreated, ho⟩ := hspaced.first now (List.mem_cons_self ..)
    exact Nat.div_le_div_right (Nat.le_of_lt (Nat.lt_of_lt_of_le hcreated ho))
  rw [Mindful, fire, wp_bind, wp_get, wp_bind, ask, Act.wp_request]
  refine ⟨by rw [Careful, hnow]; exact hspaced, fun r w₁ hr => ?_⟩
  cases r with
  | error err => trivial
  | ok =>
    have hstored₁ : w₁.stored = some l := by
      obtain ⟨-, ⟨-, rfl⟩ | ⟨_, hr, -⟩⟩ := hr
      · exact hstored
      · exact nomatch hr
    rw [wp_bind]
    refine wp_setStatusCondition _ _ fun condition w₂ hstored₂ _ => ?_
    rw [wp_bind]
    refine wp_patchScheduled (hstored₂.trans hstored₁) hkept ?_ fun _ _ => ?_
    · rintro _ ⟨⟩
      exact hlast
    · rw [wp_bind]
      exact wp_post wp_cleanupOldBackups fun _ _ _ _ => trivial

/-! ## Due -/

/-- The baseline is no earlier than the second of the schedule's creation. -/
theorem Kept.created_le (h : Kept createdAt schedule timeZone l) :
    createdAt / second * second ≤ baselineTime l := by
  unfold baselineTime
  split
  · rename_i last hlast
    exact Nat.mul_le_mul_right second (h.last last hlast)
  · rw [h.creationTimestamp]

/-- A schedule that is due by its record has an occurrence no backup was made for. -/
theorem spaced_of_due {sched : lib.Schedule} {loc : lib.Location} {fired : List Nat}
    {next now : Nat} (hocc : Occurrences lib sched loc occurs)
    (hkept : Kept createdAt schedule timeZone l)
    (hrecord : ∀ time ∈ fired, ∃ last, l.lastScheduleTime = some last ∧ time / second ≤ last)
    (hspaced : Spaced occurs createdAt fired)
    (hnext : lib.next sched loc (baselineTime l) = some next) (hdue : next ≤ now) :
    Spaced occurs createdAt (now :: fired) := by
  obtain ⟨hoccurs, hafter⟩ := (hocc.least _ _ hnext).1
  have hwhole := hocc.whole next hoccurs
  refine ⟨fun time htime => ?_, List.pairwise_cons.mpr ⟨fun time htime => ?_, hspaced.between⟩⟩
  · rcases List.mem_cons.mp htime with rfl | htime
    · exact ⟨next, hoccurs, lt_of_second_lt hkept.created_le hwhole hafter, hdue⟩
    · exact hspaced.first time htime
  · obtain ⟨last, hlast, hle⟩ := hrecord time htime
    have hfloor : time / second * second ≤ baselineTime l := by
      rw [baselineTime, hlast]
      exact Nat.mul_le_mul_right second hle
    exact ⟨next, hoccurs, lt_of_second_lt hfloor hwhole hafter, hdue⟩

theorem wp_reconcileDue
    (hocc : ∀ sched loc, parseSchedule lib schedule timeZone = .ok (sched, loc) →
      Occurrences lib sched loc occurs)
    (hstored : w.stored = some l) (hkept : Kept createdAt schedule timeZone l)
    (hrecorded : Recorded w) (hspaced : Spaced occurs createdAt w.fired) :
    Mindful occurs createdAt schedule timeZone (reconcileDue lib l) (fun _ _ _ => True) l w := by
  rw [Mindful, reconcileDue, hkept.schedule, hkept.timeZone]
  split
  · exact wp_markScheduleInvalid _ hstored hkept
  · rename_i sched loc hparse
    rw [wp_bind, ask, Act.wp_request]
    refine ⟨trivial, ?_⟩
    rintro now _ ⟨-, -, rfl⟩
    split
    · exact wp_markScheduleInvalid _ hstored hkept
    · rename_i next hnext
      rw [wp_ite]
      refine ⟨fun _ => wp_waitForNext next now hstored hkept, fun hdue => ?_⟩
      refine wp_fire _ hstored hkept rfl ?_
      exact spaced_of_due (hocc sched loc hparse) hkept (hrecorded l hstored) hspaced hnext
        (Nat.le_of_not_lt hdue)

theorem wp_reconcileScheduled
    (hocc : ∀ sched loc, parseSchedule lib schedule timeZone = .ok (sched, loc) →
      Occurrences lib sched loc occurs)
    (h : OnTime occurs createdAt schedule timeZone w) :
    Mindful occurs createdAt schedule timeZone (reconcileScheduled lib)
      (fun _ _ _ => True) l w := by
  obtain ⟨old, hold, hkept⟩ := h.stored
  rw [Mindful, reconcileScheduled, wp_bind, ask, Act.wp_request]
  refine ⟨trivial, fun r w' hr => ?_⟩
  obtain ⟨hrecorded, hans⟩ := hr
  cases r with
  | error err =>
    rw [wp_ite]
    exact ⟨fun _ => trivial, fun _ => trivial⟩
  | ok scheduled =>
    rcases hans with ⟨⟨_, hr⟩, -⟩ | hans
    · exact nomatch hr
    rw [hold] at hans
    obtain ⟨new, hedited, hr, rfl⟩ := hans
    obtain rfl := Except.ok.inj hr
    have hkept := hkept.edited hedited
    -- an edit leaves the record alone
    have hrecorded : Recorded (w.store scheduled) := by
      rintro _ ⟨⟩ time htime
      rw [hedited.lastScheduleTime]
      exact hrecorded old hold time htime
    rw [wp_bind, wp_set, wp_ite]
    refine ⟨fun _ => ?_, fun _ => ?_⟩
    · rw [wp_bind]
      exact wp_patchScheduled rfl hkept hkept.last fun _ _ => trivial
    · rw [wp_bind, ask, Act.wp_request]
      refine ⟨trivial, fun r w' hr => ?_⟩
      obtain rfl : w' = w.store scheduled := hr.2
      cases r with
      | error err => trivial
      | ok cluster => exact wp_reconcileDue hocc rfl hkept hrecorded h.spaced

end

/-! ## Runs -/

/-- The reconciles of a schedule, one after the other, each cut short anywhere;
    requests are answered only where the guard holds. -/
abbrev ScheduleRuns (lib : CronLibrary) (guard : ScheduleWorld → ScheduleCmd → Prop)
    (scheduled : RedisScheduledBackup) :=
  Worker.Steps (Prog.restrict guard ScheduleAnswers) (reconcileScheduled lib scheduled)

/-- Every backup of a schedule has an occurrence of its own, as long as each
    reconcile starts with the backups before it on record. -/
theorem fired_spaced {lib : CronLibrary} {occurs : Nat → Prop} {createdAt clock : Nat}
    {scheduled : RedisScheduledBackup}
    (hcreated : scheduled.creationTimestamp = createdAt / second)
    (hnew : scheduled.lastScheduleTime = none)
    (hocc : ∀ sched loc,
      parseSchedule lib scheduled.schedule scheduled.timeZone = .ok (sched, loc) →
        Occurrences lib sched loc occurs)
    {w : Worker ScheduleCmd ScheduleReply ScheduleWorld
      (Except String (Option Nat × RedisScheduledBackup))}
    (hruns : ScheduleRuns lib StartsRecorded scheduled ⟨⟨some scheduled, clock, []⟩, none⟩ w) :
    Spaced occurs createdAt w.env.fired := by
  have hkept : Kept createdAt scheduled.schedule scheduled.timeZone scheduled :=
    ⟨hcreated, rfl, rfl, fun _ h => nomatch hnew.symm.trans h⟩
  have hstart : OnTime occurs createdAt scheduled.schedule scheduled.timeZone
      ⟨some scheduled, clock, []⟩ :=
    ⟨⟨fun _ h => (nomatch h), List.Pairwise.nil⟩, scheduled, rfl, hkept⟩
  have hsound := Worker.sound_steps
    (P := fun _ => Careful occurs createdAt scheduled.schedule scheduled.timeZone)
    (I := OnTime occurs createdAt scheduled.schedule scheduled.timeZone)
    (fun w h => Prog.wp_post (fun _ _ _ => trivial) (wp_reconcileScheduled hocc h))
    (fun _ _ ⟨_, _, _, _, h, hcareful, _, hans⟩ => onTime_step h hcareful hans)
    (Worker.sound_idle hstart) hruns
  exact hsound.1.1.spaced

/-! ### A schedule by the hour -/

/-- One hour, in nanoseconds. -/
def hour : Nat := 3600 * second

/-- A library that reads every schedule as "on the hour". -/
def hourly : CronLibrary where
  Location := Unit
  Schedule := Unit
  loadLocation _ := .ok ()
  parseStandard _ := .ok ()
  next _ _ t := some (hour * (t / hour + 1))

theorem hourly_occurrences : Occurrences hourly () () (hour ∣ ·) where
  least := by
    rintro t _ ⟨⟩
    have hpos : 0 < hour := by decide
    refine ⟨⟨Nat.dvd_mul_right _ _, Nat.lt_mul_div_succ t hpos⟩, ?_⟩
    rintro _ ⟨⟨k, rfl⟩, hk⟩
    have : t / hour < k := (Nat.div_lt_iff_lt_mul hpos).mpr (Nat.mul_comm hour k ▸ hk)
    exact Nat.mul_le_mul_left hour this
  whole o ho := Nat.dvd_trans (Nat.dvd_mul_left second 3600) ho

/-- A schedule that was created one second after the hour. -/
def hourlyBackup : RedisScheduledBackup where
  name := "hourly"
  creationTimestamp := 1
  schedule := "@hourly"
  clusterName := "c"

/-- An instant half a second after the hour that follows. -/
def pastTheHour : Nat := hour + second / 2

/-- Answers by a function: the time is `time` or later, the API server answers,
    and the status is not written if the patch is lost. -/
def serveSchedule (time : Nat) (lost : Bool) (w : ScheduleWorld) :
    (c : ScheduleCmd) → ScheduleReply c × ScheduleWorld
  | .now => (max w.clock time, w.tick (max w.clock time))
  | .getScheduled => (found "redisscheduledbackups" "" w.stored, w)
  | .getCluster _ => (.ok { name := "c" }, w)
  | .createBackup _ => (.ok (), w.fire)
  | .patchStatus before after =>
    match w.stored with
    | none => (found "redisscheduledbackups" before.name none, w)
    | some stored =>
      if lost then (.error ⟨.other, "timeout"⟩, w)
      else (.ok (mergeScheduled before after stored),
        w.store (mergeScheduled before after stored))
  | .listBackups _ => (.ok [], w)
  | .deleteBackup _ => (.ok (), w)

theorem serveSchedule_answers (time : Nat) (lost : Bool) (w : ScheduleWorld) (c : ScheduleCmd) :
    ScheduleAnswers w c (serveSchedule time lost w c).1 (serveSchedule time lost w c).2 := by
  obtain ⟨stored, clock, fired⟩ := w
  cases c with
  | now => exact ⟨Nat.le_max_left _ _, rfl⟩
  | getScheduled =>
    cases stored with
    | none => exact Or.inr ⟨rfl, rfl⟩
    | some old => exact Or.inr ⟨old, Edited.refl old, rfl, rfl⟩
  | createBackup backup => exact Or.inl ⟨rfl, rfl⟩
  | patchStatus before after =>
    cases stored with
    | none => exact ⟨rfl, rfl⟩
    | some stored =>
      cases lost with
      | true => exact Or.inr ⟨⟨_, rfl⟩, Or.inl rfl⟩
      | false => exact Or.inl ⟨rfl, rfl⟩
  | getCluster | listBackups | deleteBackup => rfl

/-- Where a reconcile of `hourlyBackup` at a time ends. -/
def afterReconcile (time : Nat) (lost : Bool) (w : ScheduleWorld) : ScheduleWorld :=
  Worker.crashed (serveSchedule time lost) 20 (reconcileScheduled hourly hourlyBackup) w

/-- Two reconciles, an hour apart. -/
theorem fired_spaced_hourlyBackup :
    ∃ w, ScheduleRuns hourly StartsRecorded hourlyBackup ⟨⟨some hourlyBackup, 0, []⟩, none⟩ w ∧
      w.env.fired = [pastTheHour + hour, pastTheHour] ∧
      Spaced (hour ∣ ·) second w.env.fired := by
  have hreconcile (time : Nat) (w : ScheduleWorld)
      (h : Worker.guarded StartsRecorded (serveSchedule time false) 20
        (reconcileScheduled hourly hourlyBackup) w = true) :
      ScheduleRuns hourly StartsRecorded hourlyBackup ⟨w, none⟩
        ⟨afterReconcile time false w, none⟩ :=
    .head .start (Worker.steps_of_guarded (serveSchedule_answers time false) 20 _ w h)
  have hruns := (hreconcile pastTheHour ⟨some hourlyBackup, 0, []⟩ (by decide +kernel)).trans
    (hreconcile (pastTheHour + hour) _ (by decide +kernel))
  exact ⟨_, hruns, by decide +kernel,
    fired_spaced rfl rfl (fun _ _ _ => hourly_occurrences) hruns⟩

theorem runs_afterReconcile (time : Nat) (lost : Bool) (w : ScheduleWorld) :
    ScheduleRuns hourly (fun _ _ => True) hourlyBackup ⟨w, none⟩
      ⟨afterReconcile time lost w, none⟩ :=
  Worker.steps_of_crash (fun w c => ⟨trivial, serveSchedule_answers time lost w c⟩) 20 w

/-- The backup was created and its record was lost: a second later the same
    occurrence fires again. -/
theorem lost_record_fires_twice :
    ∃ w, ScheduleRuns hourly (fun _ _ => True) hourlyBackup ⟨⟨some hourlyBackup, 0, []⟩, none⟩ w ∧
      w.env.fired = [pastTheHour + second, pastTheHour] ∧
      ¬ Spaced (hour ∣ ·) second w.env.fired := by
  have hruns := (runs_afterReconcile pastTheHour true ⟨some hourlyBackup, 0, []⟩).trans
    (runs_afterReconcile (pastTheHour + second) false _)
  have hfired : (afterReconcile (pastTheHour + second) false
      (afterReconcile pastTheHour true ⟨some hourlyBackup, 0, []⟩)).fired =
        [pastTheHour + second, pastTheHour] := by
    decide +kernel
  refine ⟨_, hruns, hfired, fun hspaced => ?_⟩
  have hbetween := hspaced.between
  rw [hfired, List.pairwise_cons] at hbetween
  obtain ⟨o, ⟨k, rfl⟩, hafter, hbefore⟩ := hbetween.1 pastTheHour (List.mem_singleton_self _)
  simp only [pastTheHour, hour, second] at hafter hbefore
  omega

end RedisOperator.Backup
