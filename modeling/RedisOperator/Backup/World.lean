/-
  RedisOperator.Backup.World

  The surroundings of a backup reconcile.  The RedisBackup as it is stored is
  the state; a status patch is a merge patch, and a request to the API server
  may come back with an error, with or without having taken effect.  Nothing
  else is state: the clock, the cluster, its pods and the instance managers may
  answer differently from one request to the next, within what `admits` says.
-/

import RedisOperator.Backup.Reconcile
import RedisOperator.Cluster.World

namespace RedisOperator.Backup

open Lib

/-! ## The stored object -/

/-- A merge patch of the status. -/
def mergeBackup (before after stored : RedisBackup) : RedisBackup :=
  { stored with
    phase := pick before.phase after.phase stored.phase
    targetPod := pick before.targetPod after.targetPod stored.targetPod
    startedAt := pick before.startedAt after.startedAt stored.startedAt
    completedAt := pick before.completedAt after.completedAt stored.completedAt
    backupSize := pick before.backupSize after.backupSize stored.backupSize
    backupPath := pick before.backupPath after.backupPath stored.backupPath
    artifactType := pick before.artifactType after.artifactType stored.artifactType
    shardArtifacts := pick before.shardArtifacts after.shardArtifacts stored.shardArtifacts
    error := pick before.error after.error stored.error }

theorem mergeBackup_phase (before after stored : RedisBackup) :
    (mergeBackup before after stored).phase = pick before.phase after.phase stored.phase := rfl

theorem mergeBackup_shardArtifacts_self (before after : RedisBackup) :
    (mergeBackup before after before).shardArtifacts = after.shardArtifacts :=
  pick_self _ _

/-- A patch computed from the stored object writes what it aims at. -/
theorem mergeBackup_self {before after : RedisBackup}
    (h : { after with
      phase := before.phase, targetPod := before.targetPod, startedAt := before.startedAt,
      completedAt := before.completedAt, backupSize := before.backupSize,
      backupPath := before.backupPath, artifactType := before.artifactType,
      shardArtifacts := before.shardArtifacts, error := before.error } = before) :
    mergeBackup before after before = after := by
  cases before
  cases after
  simp only [RedisBackup.mk.injEq, and_true] at h
  simp only [mergeBackup, pick_self, RedisBackup.mk.injEq, and_true]
  exact ⟨h.1.symm, h.2.1.symm, h.2.2.1.symm, h.2.2.2.1.symm, h.2.2.2.2.1.symm, h.2.2.2.2.2.1.symm,
    h.2.2.2.2.2.2.symm⟩

/-- The error comes from the way to the API server, not from what it stores. -/
def Transient {α : Type} (r : Api α) : Prop := ∃ message, r = .error ⟨.other, message⟩

/-- What a request may be answered, and what it leaves stored. -/
def Answers (stored : Option RedisBackup) :
    (c : BackupCmd) → BackupReply c → Option RedisBackup → Prop
  | .getBackup, r, stored' => (r = found "redisbackups" "" stored ∨ Transient r) ∧ stored' = stored
  | .patchStatus before after, r, stored' =>
    match stored with
    | none => r = found "redisbackups" before.name none ∧ stored' = none
    | some object =>
      (r = .ok (mergeBackup before after object) ∧
        stored' = some (mergeBackup before after object)) ∨
      (Transient r ∧ (stored' = some object ∨ stored' = some (mergeBackup before after object)))
  | _, _, stored' => stored' = stored

variable {stored stored' : Option RedisBackup}

theorem stored_of_getBackup {backup : RedisBackup}
    (h : Answers stored .getBackup (.ok backup) stored') : stored = some backup := by
  obtain ⟨hr | ⟨_, hr⟩, -⟩ := h
  · cases stored with
    | none => exact nomatch hr
    | some object => exact congrArg some (Except.ok.inj hr).symm
  · exact nomatch hr

theorem cause_of_getBackup {err : ApiError} (h : Answers stored .getBackup (.error err) stored') :
    stored = none ∨ Transient (.error err : Api RedisBackup) := by
  obtain ⟨hr | hr, -⟩ := h
  · cases stored with
    | none => exact Or.inl rfl
    | some object => exact nomatch hr
  · exact Or.inr hr

/-- Only a status patch changes what is stored. -/
theorem answers_cases {c : BackupCmd} {r : BackupReply c} (h : Answers stored c r stored') :
    stored' = stored ∨ ∃ before after object, c = .patchStatus before after ∧
      stored = some object ∧ stored' = some (mergeBackup before after object) := by
  cases c with
  | patchStatus before after =>
    cases stored with
    | none => exact Or.inl h.2
    | some object =>
      rcases h with ⟨-, h⟩ | ⟨-, h | h⟩
      · exact Or.inr ⟨before, after, object, rfl, rfl, h⟩
      · exact Or.inl h
      · exact Or.inr ⟨before, after, object, rfl, rfl, h⟩
  | getBackup => exact Or.inl h.2
  | _ => exact Or.inl h

/-- Which answers the surroundings may give, by what is stored. -/
abbrev Surroundings : Type := Option RedisBackup → (c : BackupCmd) → BackupReply c → Prop

/-- Requests are answered as the surroundings admit. -/
def Handles (admits : Surroundings) : Prog.Handler BackupCmd BackupReply (Option RedisBackup) :=
  fun stored c r stored' => admits stored c r ∧ Answers stored c r stored'

/-- What happened, the latest request first. -/
abbrev Log : Type := List (Sigma BackupReply)

/-! ## A cluster that does not change -/

/-- A cluster and its pods, in the order of a listing. -/
structure Site where
  cluster : Option RedisCluster
  pods : List Pod
  /-- the API server keeps names apart -/
  distinct : (pods.map (·.name)).Nodup
  named : ∀ pod ∈ pods, pod.name ≠ ""

/-- The answer is right. -/
def Site.Tells (site : Site) : (c : BackupCmd) → BackupReply c → Prop
  | .getCluster name, r => r = found "redisclusters" name site.cluster
  | .listPods _, r => r = .ok site.pods
  | _, _ => True

/-- The request came back with an error of the way to the API server. -/
def Fails : (c : BackupCmd) → BackupReply c → Prop
  | .now, _ | .post .., _ => False
  | .getBackup, r => Transient r
  | .getCluster _, r => Transient r
  | .listPods _, r => Transient r
  | .patchStatus .., r => Transient r

/-- Answers about this cluster, or errors. -/
def Site.admits (site : Site) : Surroundings := fun _ c r => site.Tells c r ∨ Fails c r

/-- A backup that is asked for succeeds. -/
def Obeys : (c : BackupCmd) → BackupReply c → Prop
  | .post podIP _ _ _, r => ∃ result, readResponse (instanceURL podIP "/v1/backup") r = .ok result
  | _, _ => True

/-- Answers about this cluster, no errors, and backups that succeed. -/
def Site.succeeds (site : Site) : Surroundings := fun _ c r =>
  site.Tells c r ∧ ¬ Fails c r ∧ Obeys c r

theorem Site.admits_of_succeeds {site : Site} {c : BackupCmd}
    {r : BackupReply c} (h : site.succeeds stored c r) : site.admits stored c r :=
  Or.inl h.1

theorem Site.cluster_of_admits {site : Site} {name : String}
    {cluster : RedisCluster} (h : site.admits stored (.getCluster name) (.ok cluster)) :
    site.cluster = some cluster := by
  rcases h with h | ⟨_, h⟩
  · rw [Tells] at h
    cases hcluster : site.cluster with
    | none =>
      rw [hcluster] at h
      exact nomatch h
    | some found =>
      rw [hcluster] at h
      exact congrArg some (Except.ok.inj h).symm
  · exact nomatch h

theorem Site.pods_of_admits {site : Site} {name : String}
    {pods : List Pod} (h : site.admits stored (.listPods name) (.ok pods)) : pods = site.pods := by
  rcases h with h | ⟨_, h⟩
  · exact Except.ok.inj h
  · exact nomatch h

theorem not_transient_found {α : Type} (kind name : String) (object : Option α) :
    ¬ Transient (found kind name object) := by
  rintro ⟨message, h⟩
  cases object <;> exact nomatch h

/-- Such surroundings always have an answer. -/
theorem Site.succeeds_total (site : Site) (stored : Option RedisBackup) (c : BackupCmd) :
    ∃ r stored', Handles site.succeeds stored c r stored' := by
  cases c with
  | now => exact ⟨(0 : Nat), stored, ⟨trivial, id, trivial⟩, rfl⟩
  | getBackup =>
    exact ⟨found "redisbackups" "" stored, stored,
      ⟨trivial, not_transient_found _ _ _, trivial⟩, Or.inl rfl, rfl⟩
  | getCluster name =>
    exact ⟨found "redisclusters" name site.cluster, stored,
      ⟨rfl, not_transient_found _ _ _, trivial⟩, rfl⟩
  | listPods name =>
    exact ⟨.ok site.pods, stored, ⟨rfl, fun ⟨_, h⟩ => (nomatch h), trivial⟩, rfl⟩
  | patchStatus before after =>
    cases stored with
    | none =>
      exact ⟨found "redisbackups" before.name none, none,
        ⟨trivial, not_transient_found _ _ _, trivial⟩, rfl, rfl⟩
    | some object =>
      exact ⟨.ok (mergeBackup before after object), some (mergeBackup before after object),
        ⟨trivial, fun ⟨_, h⟩ => (nomatch h), trivial⟩, Or.inl ⟨rfl, rfl⟩⟩
  | post podIP backupName method destination =>
    exact ⟨.ok ⟨200, "", .ok { backupPath := "path" }⟩, stored,
      ⟨trivial, id, { backupPath := "path" }, rfl⟩, rfl⟩

end RedisOperator.Backup
