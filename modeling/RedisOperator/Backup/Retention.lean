/-
  RedisOperator.Backup.Retention

  What `cleanupOldBackups` leaves behind.  The backups of one outcome are sorted
  by age and deleted from the old end, so whatever was deleted, also by a
  cleanup that stopped at an error, is older than what is left; and a cleanup
  without an error leaves as many as the limit says.
-/

import RedisOperator.Backup.Schedule
import Mathlib.Data.Prod.Lex

namespace RedisOperator.Backup

open Lib Act

/-! ## Age -/

/-- Backups are compared by creation time, then by name. -/
def age (b : RedisBackup) : Int ×ₗ String := toLex (b.creationTimestamp, b.name)

theorem createdBefore_iff {b b' : RedisBackup} : createdBefore b b' = true ↔ age b < age b' := by
  rw [createdBefore, age, age, Prod.Lex.toLex_lt_toLex]
  split
  · rename_i hsame
    simp [hsame]
  · rename_i hother
    simp [hother]

theorem sortByCreationTime_perm (backups : List RedisBackup) :
    (sortByCreationTime backups).Perm backups := List.perm_insertionSort _ _

/-- Distinct names are sorted strictly. -/
theorem sortByCreationTime_sorted {backups : List RedisBackup}
    (hnames : (backups.map RedisBackup.name).Nodup) :
    (sortByCreationTime backups).Pairwise fun b b' => age b < age b' := by
  have hle : ∀ {b b' : RedisBackup}, createdBefore b' b = false ↔ age b ≤ age b' := by
    intro b b'
    rw [← Bool.not_eq_true, createdBefore_iff, not_lt]
  have : Std.Total fun b b' : RedisBackup => createdBefore b' b = false :=
    ⟨fun b b' => by simpa only [hle] using le_total (age b) (age b')⟩
  have : IsTrans RedisBackup fun b b' => createdBefore b' b = false :=
    ⟨fun a b c hab hbc => hle.mpr ((hle.mp hab).trans (hle.mp hbc))⟩
  have hsorted := List.pairwise_insertionSort (fun b b' => createdBefore b' b = false) backups
  have hdistinct : ((sortByCreationTime backups).map RedisBackup.name).Nodup :=
    ((sortByCreationTime_perm backups).map _).nodup_iff.mpr hnames
  refine (hsorted.and (List.pairwise_map.mp hdistinct)).imp fun {b b'} h => ?_
  refine lt_of_le_of_ne (hle.mp h.1) fun hage => h.2 ?_
  exact congrArg (fun a => (ofLex a).2) hage

/-! ## Deleting by name -/

/-- The backups with other names. -/
def without (names : List String) (stored : List RedisBackup) : List RedisBackup :=
  stored.filter fun b => decide (b.name ∉ names)

theorem mem_without {names : List String} {stored : List RedisBackup} {b : RedisBackup} :
    b ∈ without names stored ↔ b ∈ stored ∧ b.name ∉ names := by
  simp [without]

@[simp] theorem without_nil (stored : List RedisBackup) : without [] stored = stored := by
  simp [without]

theorem without_without (names names' : List String) (stored : List RedisBackup) :
    without names' (without names stored) = without (names ++ names') stored := by
  unfold without
  rw [List.filter_filter]
  refine List.filter_congr fun b _ => ?_
  rw [Bool.eq_iff_iff]
  simp only [Bool.and_eq_true, decide_eq_true_eq, List.mem_append, not_or]
  exact and_comm

theorem without_append_comm (names names' : List String) (stored : List RedisBackup) :
    without (names ++ names') stored = without (names' ++ names) stored := by
  unfold without
  simp only [List.mem_append, or_comm]

/-- Where names are distinct, deleting the first part leaves the rest. -/
theorem without_append {old rest : List RedisBackup}
    (hnames : ((old ++ rest).map RedisBackup.name).Nodup) :
    without (old.map RedisBackup.name) (old ++ rest) = rest := by
  rw [List.map_append] at hnames
  have hapart := (List.nodup_append.mp hnames).2.2
  rw [without, List.filter_append, List.filter_eq_nil_iff.mpr, List.filter_eq_self.mpr,
    List.nil_append]
  · intro b hb
    exact decide_eq_true fun hmem => hapart _ hmem _ (List.mem_map_of_mem hb) rfl
  · intro b hb
    rw [decide_eq_true_eq, not_not]
    exact List.mem_map_of_mem hb

/-- `kept` are the newest of `all`, as many as the limit allows. -/
structure NewestOf (limit : Nat) (all kept : List RedisBackup) : Prop where
  subset : kept ⊆ all
  length : kept.length = min limit all.length
  newest : ∀ b ∈ all, b ∉ kept → ∀ b' ∈ kept, createdBefore b b' = true

/-- The list in the order of age, the oldest first. -/
structure OldestFirst (all sorted : List RedisBackup) : Prop where
  perm : sorted.Perm all
  sorted : sorted.Pairwise fun b b' => age b < age b'

section

variable {all sorted : List RedisBackup} (hnames : (all.map RedisBackup.name).Nodup)

include hnames

theorem oldestFirst_of_perm {items : List RedisBackup} (hperm : items.Perm all) :
    OldestFirst all (sortByCreationTime items) :=
  ⟨(sortByCreationTime_perm items).trans hperm,
    sortByCreationTime_sorted ((hperm.map _).nodup_iff.mpr hnames)⟩

theorem without_take_perm (hperm : sorted.Perm all) (n : Nat) :
    (without ((sorted.take n).map RedisBackup.name) all).Perm (sorted.drop n) := by
  have hnodup : ((sorted.take n ++ sorted.drop n).map RedisBackup.name).Nodup := by
    rw [List.take_append_drop]
    exact (hperm.map _).nodup_iff.mpr hnames
  have hsplit := without_append hnodup
  rw [List.take_append_drop] at hsplit
  rw [← hsplit]
  exact hperm.symm.filter _

/-- What was deleted from the old end is older than what is left. -/
theorem OldestFirst.older (h : OldestFirst all sorted) {n : Nat} {b b' : RedisBackup}
    (hb : b ∈ all) (hgone : b ∉ without ((sorted.take n).map RedisBackup.name) all)
    (hb' : b' ∈ without ((sorted.take n).map RedisBackup.name) all) :
    createdBefore b b' = true := by
  have hkept := without_take_perm hnames h.perm n
  have hold : b ∈ sorted.take n := by
    have hmem := h.perm.mem_iff.mpr hb
    rw [← List.take_append_drop n sorted, List.mem_append] at hmem
    exact hmem.resolve_right fun hdrop => hgone (hkept.mem_iff.mpr hdrop)
  have hsorted := h.sorted
  rw [← List.take_append_drop n sorted] at hsorted
  exact createdBefore_iff.mpr
    ((List.pairwise_append.mp hsorted).2.2 b hold b' (hkept.mem_iff.mp hb'))

theorem OldestFirst.newestOf (h : OldestFirst all sorted) (limit : Nat) : NewestOf limit all
    (without ((sorted.take (sorted.length - limit)).map RedisBackup.name) all) where
  subset := fun b hb => (mem_without.mp hb).1
  length := by
    rw [(without_take_perm hnames h.perm _).length_eq, List.length_drop, h.perm.length_eq]
    omega
  newest := fun b hb hgone b' hb' => h.older hnames hb hgone hb'

end

/-! ## The cleanup -/

/-- The backups of a namespace, and whether a request failed. -/
structure BackupStore where
  backups : List RedisBackup
  failed : Bool := false

/-- The backup belongs to the schedule. -/
def ofSchedule (scheduleName : String) (b : RedisBackup) : Bool :=
  b.labels.lookup labelScheduledBackup == some scheduleName

/-- The backups of a schedule with one outcome. -/
def history (scheduleName : String) (phase : BackupPhase) (stored : List RedisBackup) :
    List RedisBackup :=
  stored.filter fun b => b.phase == phase && ofSchedule scheduleName b

/-- What the requests of the cleanup may be answered.  The list comes in any
    order; a request that fails may have had its effect. -/
def StoreAnswers (s : BackupStore) : (c : ScheduleCmd) → ScheduleReply c → BackupStore → Prop
  | .listBackups scheduleName, r, s' =>
    (∃ items, items.Perm (s.backups.filter (ofSchedule scheduleName)) ∧ r = .ok items ∧ s' = s) ∨
      ∃ err, r = .error err ∧ s' = { s with failed := true }
  | .deleteBackup name, r, s' =>
    (r = .ok () ∧ s' = { s with backups := without [name] s.backups }) ∨
      ∃ err, r = .error err ∧
        (s' = { s with failed := true } ∨ s' = ⟨without [name] s.backups, true⟩)
  | _, _, s' => s' = s

/-- Some of the oldest were deleted; all of `excess` if nothing failed. -/
structure Trimmed (sorted : List RedisBackup) (excess : Nat) (s : BackupStore)
    (result : Except String Unit) (s' : BackupStore) : Prop where
  deleted : ∃ n, s'.backups = without ((sorted.take n).map RedisBackup.name) s.backups ∧
    (result = .ok () → n = excess)
  failed : s'.failed = false → s.failed = false ∧ result = .ok ()

variable {l : RedisScheduledBackup} {s : BackupStore}

theorem wp_store_deleteExcess (kind : String) {excess : Nat} {sorted : List RedisBackup}
    (h : excess ≤ sorted.length) :
    wp StoreAnswers (fun _ _ => True) (deleteExcess kind excess sorted)
      (fun result _ s' => Trimmed sorted excess s result s') (fun _ _ => False) l s := by
  induction excess generalizing sorted s with
  | zero => exact ⟨⟨0, by simp, fun _ => rfl⟩, fun hf => ⟨hf, rfl⟩⟩
  | succ excess ih =>
    cases sorted with
    | nil => simp at h
    | cons b sorted =>
      rw [deleteExcess, wp_bind, ask, Act.wp_request]
      refine ⟨trivial, fun answer s' hs => ?_⟩
      obtain ⟨rfl, rfl⟩ | ⟨err, rfl, hs⟩ := hs
      · refine wp_post (ih (by simpa using h)) fun result _ s'' htrim => ?_
        obtain ⟨n, hn, hall⟩ := htrim.deleted
        refine ⟨⟨n + 1, ?_, fun hok => congrArg (· + 1) (hall hok)⟩, htrim.failed⟩
        rw [hn, without_without]
        rfl
      · -- the error ends the loop, with or without the deletion
        refine ⟨?_, fun hf => ?_⟩
        · obtain rfl | rfl := hs
          · exact ⟨0, by simp, fun hok => by cases hok⟩
          · exact ⟨1, rfl, fun hok => by cases hok⟩
        · obtain rfl | rfl := hs <;> cases hf

-- the length of a list is not to be computed
attribute [local irreducible] wrap32

theorem wp_store_trimBackups (kind : String) {limit : Option Int} (hlimit : 0 ≤ limit.getD 3)
    {sorted : List RedisBackup} (hlen : (sorted.length : Int) < 2 ^ 31) :
    wp StoreAnswers (fun _ _ => True) (trimBackups kind limit sorted)
      (fun result _ s' => Trimmed sorted (sorted.length - (limit.getD 3).toNat) s result s')
      (fun _ _ => False) l s := by
  have hwrap : wrap32 sorted.length = sorted.length := wrap32_of_lt (by omega) (by omega)
  rw [trimBackups, hwrap, wp_ite]
  refine ⟨fun hmore => ?_, fun hfew => ?_⟩
  · have hexcess : (wrap32 (sorted.length - limit.getD 3)).toNat =
        sorted.length - (limit.getD 3).toNat := by
      rw [wrap32_of_lt (by omega) (by omega)]
      omega
    rw [hexcess]
    exact wp_store_deleteExcess kind (Nat.sub_le ..)
  · have hnone : sorted.length - (limit.getD 3).toNat = 0 := by omega
    rw [hnone]
    exact ⟨⟨0, by simp, fun _ => rfl⟩, fun hf => ⟨hf, rfl⟩⟩

theorem history_names {stored : List RedisBackup} (hnames : (stored.map RedisBackup.name).Nodup)
    (scheduleName : String) (phase : BackupPhase) :
    ((history scheduleName phase stored).map RedisBackup.name).Nodup :=
  hnames.sublist (List.filter_sublist.map _)

/-- What a cleanup did: some of the oldest backups of both outcomes are gone,
    and all those in excess of the limits if nothing failed. -/
theorem wp_store_cleanupOldBackups (hnames : (s.backups.map RedisBackup.name).Nodup)
    (hsuccess : 0 ≤ l.successfulBackupsHistoryLimit.getD 3)
    (hfailed : 0 ≤ l.failedBackupsHistoryLimit.getD 3) (hlen : (s.backups.length : Int) < 2 ^ 31) :
    wp StoreAnswers (fun _ _ => True) cleanupOldBackups
      (fun result _ s' => ∃ successful failed : List RedisBackup,
        OldestFirst (history l.name .completed s.backups) successful ∧
        OldestFirst (history l.name .failed s.backups) failed ∧
        ∃ n m : Nat, s'.backups = without ((successful.take n).map RedisBackup.name ++
            (failed.take m).map RedisBackup.name) s.backups ∧
          (s'.failed = false → result = .ok () ∧
            n = successful.length - (l.successfulBackupsHistoryLimit.getD 3).toNat ∧
            m = failed.length - (l.failedBackupsHistoryLimit.getD 3).toNat))
      (fun _ _ => False) l s := by
  have hsorted : ∀ {items : List RedisBackup} (phase : BackupPhase),
      items.Perm (s.backups.filter (ofSchedule l.name)) →
      OldestFirst (history l.name phase s.backups)
        (sortByCreationTime (items.filter fun b => b.phase == phase)) := by
    intro items phase hitems
    refine oldestFirst_of_perm (history_names hnames _ _) ?_
    rw [history, ← List.filter_filter]
    exact hitems.filter _
  have hshort : ∀ {phase : BackupPhase} {sorted : List RedisBackup},
      OldestFirst (history l.name phase s.backups) sorted → (sorted.length : Int) < 2 ^ 31 := by
    intro phase sorted h
    have hle : (history l.name phase s.backups).length ≤ s.backups.length :=
      List.length_filter_le ..
    rw [h.perm.length_eq]
    omega
  rw [cleanupOldBackups, wp_bind, wp_get, wp_bind, ask, Act.wp_request]
  refine ⟨trivial, fun answer s' hs => ?_⟩
  obtain ⟨items, hitems, rfl, rfl⟩ | ⟨err, rfl, rfl⟩ := hs
  · have hc := hsorted .completed hitems
    have hf := hsorted .failed hitems
    rw [wp_bind]
    refine wp_post (wp_store_trimBackups "successful" hsuccess (hshort hc))
      fun result _ s₁ htrim => ?_
    obtain ⟨n, hn, hall⟩ := htrim.deleted
    cases result with
    | error err =>
      refine ⟨_, _, hc, hf, n, 0, by simpa using hn, fun hok => ?_⟩
      cases (htrim.failed hok).2
    | ok =>
      refine wp_post (wp_store_trimBackups "failed" hfailed (hshort hf))
        fun result' _ s₂ htrim' => ?_
      obtain ⟨m, hm, hall'⟩ := htrim'.deleted
      refine ⟨_, _, hc, hf, n, m, ?_, fun hok => ?_⟩
      · rw [hm, hn, without_without]
      · exact ⟨(htrim'.failed hok).2, hall rfl, hall' (htrim'.failed hok).2⟩
  · exact ⟨_, _, hsorted .completed (.refl _), hsorted .failed (.refl _), 0, 0, by simp,
      fun hok => by cases hok⟩

section

variable {stored successful failed : List RedisBackup} {scheduleName : String} {n m : Nat}

theorem mem_history {phase : BackupPhase} {b : RedisBackup} :
    b ∈ history scheduleName phase stored ↔
      b ∈ stored ∧ b.phase = phase ∧ ofSchedule scheduleName b = true := by
  simp [history]

/-- Deletions leave the history of another outcome as it is. -/
theorem history_without (hnames : (stored.map RedisBackup.name).Nodup) {phase other : BackupPhase}
    (hne : phase ≠ other) {gone : List RedisBackup} (names : List String)
    (hgone : ∀ b ∈ gone, b ∈ history scheduleName other stored) :
    history scheduleName phase (without (names ++ gone.map RedisBackup.name) stored) =
      without names (history scheduleName phase stored) := by
  unfold history without
  rw [List.filter_filter, List.filter_filter]
  refine List.filter_congr fun b hb => ?_
  have hother : b.phase = phase → b.name ∉ gone.map RedisBackup.name := by
    intro hphase hmem
    obtain ⟨b', hb', hname⟩ := List.mem_map.mp hmem
    have hmem' := mem_history.mp (hgone b' hb')
    rw [List.inj_on_of_nodup_map hnames hmem'.1 hb hname] at hmem'
    exact hne (hphase.symm.trans hmem'.2.1)
  rw [Bool.eq_iff_iff]
  simp only [Bool.and_eq_true, beq_iff_eq, decide_eq_true_eq, List.mem_append, not_or]
  constructor
  · rintro ⟨⟨hphase, hof⟩, hnot, -⟩
    exact ⟨hnot, hphase, hof⟩
  · rintro ⟨hnot, hphase, hof⟩
    exact ⟨⟨hphase, hof⟩, hnot, hother hphase⟩

end

/-- **The newest backups are kept.**  Whatever a cleanup deleted is older than
    what it kept of the same outcome; if no request failed, as many are kept as
    the limits say. -/
theorem cleanupOldBackups_keeps_newest (hnames : (s.backups.map RedisBackup.name).Nodup)
    (hlen : (s.backups.length : Int) < 2 ^ 31)
    (hsuccess : 0 ≤ l.successfulBackupsHistoryLimit.getD 3)
    (hfailed : 0 ≤ l.failedBackupsHistoryLimit.getD 3) :
    Act.wp StoreAnswers (fun _ _ => True) cleanupOldBackups
      (fun result _ s' =>
        (s'.failed = false → result = .ok () ∧
          NewestOf (l.successfulBackupsHistoryLimit.getD 3).toNat
            (history l.name .completed s.backups) (history l.name .completed s'.backups) ∧
          NewestOf (l.failedBackupsHistoryLimit.getD 3).toNat
            (history l.name .failed s.backups) (history l.name .failed s'.backups)) ∧
        (∀ b ∈ s.backups, b ∉ history l.name .completed s.backups →
          b ∉ history l.name .failed s.backups → b ∈ s'.backups) ∧
        s'.backups ⊆ s.backups ∧
        ∀ b ∈ s.backups, b ∉ s'.backups → ∀ b' ∈ history l.name b.phase s'.backups,
          createdBefore b b' = true)
      (fun _ _ => False) l s := by
  refine Act.wp_post (wp_store_cleanupOldBackups hnames hsuccess hfailed hlen)
    fun result _ s' hdone => ?_
  obtain ⟨successful, failed, hc, hf, n, m, hs', hall⟩ := hdone
  have hcompleted : history l.name .completed s'.backups =
      without ((successful.take n).map RedisBackup.name)
        (history l.name .completed s.backups) := by
    rw [hs']
    exact history_without hnames (by decide) _ fun b hb =>
      hf.perm.mem_iff.mp (List.mem_of_mem_take hb)
  have hfailed' : history l.name .failed s'.backups =
      without ((failed.take m).map RedisBackup.name) (history l.name .failed s.backups) := by
    rw [hs', without_append_comm]
    exact history_without hnames (by decide) _ fun b hb =>
      hc.perm.mem_iff.mp (List.mem_of_mem_take hb)
  -- only backups with one of the two outcomes are deleted
  have hdeleted : ∀ b ∈ s.backups, b ∉ s'.backups →
      b ∈ history l.name .completed s.backups ∨ b ∈ history l.name .failed s.backups := by
    intro b hb hgone
    rw [hs', mem_without, not_and, not_not, ← List.map_append] at hgone
    obtain ⟨b', hb', hname⟩ := List.mem_map.mp (hgone hb)
    have hgroup := (List.mem_append.mp hb').imp
      (fun h => hc.perm.mem_iff.mp (List.mem_of_mem_take h))
      fun h => hf.perm.mem_iff.mp (List.mem_of_mem_take h)
    have hmem : b' ∈ s.backups :=
      hgroup.elim (fun h => (mem_history.mp h).1) fun h => (mem_history.mp h).1
    rwa [List.inj_on_of_nodup_map hnames hmem hb hname] at hgroup
  have hleft : ∀ {phase : BackupPhase} {b : RedisBackup}, b ∉ s'.backups →
      b ∉ history l.name phase s'.backups := fun hgone h => hgone (mem_history.mp h).1
  refine ⟨fun hok => ?_, ?_, ?_, ?_⟩
  · obtain ⟨hres, rfl, rfl⟩ := hall hok
    rw [hcompleted, hfailed']
    exact ⟨hres, hc.newestOf (history_names hnames _ _) _,
      hf.newestOf (history_names hnames _ _) _⟩
  · intro b hb hnc hnf
    by_contra hgone
    exact (hdeleted b hb hgone).elim hnc hnf
  · rw [hs']
    exact fun b hb => (mem_without.mp hb).1
  · intro b hb hgone b' hb'
    rcases hdeleted b hb hgone with hmem | hmem <;> rw [(mem_history.mp hmem).2.1] at hb'
    · rw [hcompleted] at hb'
      exact hc.older (history_names hnames _ _) hmem (hcompleted ▸ hleft hgone) hb'
    · rw [hfailed'] at hb'
      exact hf.older (history_names hnames _ _) hmem (hfailed' ▸ hleft hgone) hb'

/-- Two completed backups of one schedule. -/
def pairStore : BackupStore where
  backups :=
    let labels := (∅ : GoMap String String).insert labelScheduledBackup "nightly"
    [{ name := "b", labels := labels, creationTimestamp := 2, phase := .completed },
      { name := "a", labels := labels, creationTimestamp := 1, phase := .completed }]

/-- With a limit of one, the newer of the two is kept. -/
theorem pairStore_keeps_newest : (pairStore.backups.map RedisBackup.name).Nodup ∧
    Act.wp StoreAnswers (fun _ _ => True) cleanupOldBackups
      (fun _ _ s' => s'.failed = false →
        NewestOf 1 (history "nightly" .completed pairStore.backups)
          (history "nightly" .completed s'.backups))
      (fun _ _ => False)
      { name := "nightly", successfulBackupsHistoryLimit := some 1 } pairStore :=
  ⟨by decide, Act.wp_post (cleanupOldBackups_keeps_newest (by decide) (by decide) (by decide)
    (by decide)) fun _ _ _ h hok => (h.1 hok).2.1⟩

end RedisOperator.Backup
