/-
  RedisOperator.Cluster.Scaling

  `reconcilePods`, pass after pass, where every request is answered and a pod
  that is deleted is gone at once.  How many pods are deleted is counted before
  the missing ones are created, so with gaps among the ordinals one pass may
  delete too few; once no ordinal below the desired count is missing, the pods
  it deletes are all those above, the primary apart.
-/

import RedisOperator.Cluster.PodCount
import RedisOperator.Cluster.WorkloadCourse

namespace RedisOperator

open Lib Act

/-! ## The environment -/

/-- Every request is answered, and a pod that is deleted is gone at once. -/
def Obliges : Prog.Handler Cmd Reply World := fun w c reply w' =>
  Answers w c reply w' ∧ ∀ name why, c = .deletePod name why →
    w'.pods = w.pods.filter fun pod => pod.name != name

/-- A name that no pod has is filtered out at no loss. -/
theorem World.filter_findPod_eq_none {w : World} {name : String} (h : w.findPod name = none) :
    (w.pods.filter fun pod => pod.name != name) = w.pods := by
  rw [List.filter_eq_self]
  intro pod hpod
  have hne := List.find?_eq_none.mp h pod hpod
  simpa using hne

theorem obliges_answer (w : World) (c : Cmd) : Obliges w c (w.answer c).1 (w.answer c).2 := by
  refine ⟨w.answers_answer c, ?_⟩
  rintro name why rfl
  simp only [World.answer]
  cases hfind : w.findPod name with
  | none => exact (World.filter_findPod_eq_none hfind).symm
  | some pod => rfl

/-- The pod a request creates. -/
def createdName : Cmd → Option String
  | .createPod pod => some pod.name
  | _ => none

/-- The pod a request deletes. -/
def deletedName : Cmd → Option String
  | .deletePod name _ => some name
  | _ => none

/-- A pass of `reconcilePods` from `w` to `w'`, with the requests it made. -/
def PodPass (r : ClusterReconciler) (statuses : Statuses) (w : World)
    (log : List (Sigma Reply)) (w' : World) : Prop :=
  ∃ l, Prog.Returns (Prog.record Obliges) (reconcilePods r statuses w.cluster) (w, [])
    (.ok ((), l)) (w', log)

/-! ## The names of the data pods -/

/-- The names of the data pods. -/
def World.dataNames (w : World) : List String := w.dataPods.map Pod.name

/-- The data pods carry ordinals of the cluster, each once, and no other pod
    has the name of one. -/
structure TidyPods (cluster : RedisCluster) (w : World) : Prop where
  own : OwnOrdinals cluster w.dataPods
  others : ∀ pod ∈ w.pods, pod.isData = false →
    ∀ index, pod.name ≠ podNameForIndex cluster.name index

section

variable {cluster : RedisCluster} {w w' : World}

theorem mem_dataNames {name : String} :
    name ∈ w.dataNames ↔ ∃ pod ∈ w.pods, pod.isData = true ∧ pod.name = name := by
  unfold World.dataNames World.dataPods
  simp only [List.mem_map, List.mem_filter, and_assoc]

variable (h : TidyPods cluster w)
include h

/-- A pod under the name of an ordinal is a data pod. -/
theorem TidyPods.isData {pod : Pod} (hpod : pod ∈ w.pods) {index : Nat}
    (hname : pod.name = podNameForIndex cluster.name index) : pod.isData = true := by
  by_contra hdata
  exact h.others pod hpod (by simpa using hdata) index hname

/-- `Get` finds the pod of an ordinal among the data pods. -/
theorem TidyPods.findPod_eq_none (index : Nat) :
    w.findPod (podNameForIndex cluster.name index) = none ↔
      podNameForIndex cluster.name index ∉ w.dataNames := by
  rw [World.findPod, List.find?_eq_none, mem_dataNames]
  constructor
  · rintro hnone ⟨pod, hpod, -, hname⟩
    exact hnone pod hpod (by simpa using hname)
  · intro hnot pod hpod heq
    have hname : pod.name = podNameForIndex cluster.name index := by simpa using heq
    exact hnot ⟨pod, hpod, h.isData hpod hname, hname⟩

/-- The data names are ordinals of the cluster. -/
theorem TidyPods.ordinal {name : String} (hname : name ∈ w.dataNames) :
    ∃ index, ValidOrdinal index ∧ name = podNameForIndex cluster.name index := by
  obtain ⟨pod, hpod, rfl⟩ := List.mem_map.mp hname
  exact h.own.named pod hpod

/-- Labels and owner of the pod of an ordinal, when it stays a data pod. -/
theorem TidyPods.patchPod {index : Nat} {labels : GoMap String String}
    {controlled : Bool} (hrole : labels.get labelRole ≠ labelRoleSentinel)
    (hpods : w'.pods = w.pods.map fun pod =>
      if pod.name = podNameForIndex cluster.name index then
        { pod with labels := labels, controlled := controlled } else pod) :
    TidyPods cluster w' ∧ w'.dataNames = w.dataNames := by
  let patch : Pod → Pod := fun pod =>
    if pod.name = podNameForIndex cluster.name index then
      { pod with labels := labels, controlled := controlled } else pod
  have hname : ∀ pod, (patch pod).name = pod.name := by
    intro pod
    simp only [patch]
    split <;> rfl
  have hdata : ∀ pod ∈ w.pods, (patch pod).isData = pod.isData := by
    intro pod hpod
    simp only [patch]
    split
    next heq =>
      rw [h.isData hpod heq]
      simpa [Pod.isData] using hrole
    · rfl
  have hfilter : w'.dataPods = w.dataPods.map patch := by
    unfold World.dataPods
    rw [hpods, List.filter_map]
    exact congrArg (List.map patch) (List.filter_congr hdata)
  have hnames : w'.dataNames = w.dataNames := by
    unfold World.dataNames
    rw [hfilter, List.map_map]
    exact List.map_congr_left fun pod _ => hname pod
  refine ⟨⟨⟨fun pod hpod => ?_, ?_⟩, fun pod hpod hnot => ?_⟩, hnames⟩
  · rw [hfilter] at hpod
    obtain ⟨old, hold, rfl⟩ := List.mem_map.mp hpod
    rw [hname]
    exact h.own.named old hold
  · show w'.dataNames.Nodup
    rw [hnames]
    exact h.own.distinct
  · rw [hpods] at hpod
    obtain ⟨old, hold, rfl⟩ := List.mem_map.mp hpod
    have hnot' : old.isData = false := (hdata old hold).symm.trans hnot
    exact (hname old).symm ▸ h.others old hold hnot'

/-- A new data pod under the name of a missing ordinal. -/
theorem TidyPods.createPod {pod : Pod} {index : Nat} (hvalid : ValidOrdinal index)
    (hname : pod.name = podNameForIndex cluster.name index) (hdata : pod.isData = true)
    (hnew : pod.name ∉ w.dataNames) (hpods : w'.pods = w.pods ++ [pod]) :
    TidyPods cluster w' ∧ w'.dataNames = w.dataNames ++ [pod.name] := by
  have hfilter : w'.dataPods = w.dataPods ++ [pod] := by
    unfold World.dataPods
    rw [hpods, List.filter_append, List.filter_singleton, hdata]
    rfl
  have hnames : w'.dataNames = w.dataNames ++ [pod.name] := by
    unfold World.dataNames
    rw [hfilter, List.map_append]
    rfl
  refine ⟨⟨⟨fun p hp => ?_, ?_⟩, fun p hp hnot => ?_⟩, hnames⟩
  · rw [hfilter] at hp
    rcases List.mem_append.mp hp with hp | hp
    · exact h.own.named p hp
    · obtain rfl := List.mem_singleton.mp hp
      exact ⟨index, hvalid, hname⟩
  · show w'.dataNames.Nodup
    rw [hnames]
    refine h.own.distinct.append (List.nodup_singleton _) ?_
    exact List.disjoint_singleton.mpr hnew
  · rw [hpods] at hp
    rcases List.mem_append.mp hp with hp | hp
    · exact h.others p hp hnot
    · obtain rfl := List.mem_singleton.mp hp
      rw [hdata] at hnot
      cases hnot

/-- A pod less. -/
theorem TidyPods.deletePod {name : String}
    (hpods : w'.pods = w.pods.filter fun pod => pod.name != name) :
    TidyPods cluster w' ∧ w'.dataNames = w.dataNames.filter (· ≠ name) := by
  have hfilter : w'.dataPods = w.dataPods.filter fun pod => pod.name != name := by
    unfold World.dataPods
    rw [hpods, List.filter_filter, List.filter_filter]
    exact List.filter_congr fun pod _ => Bool.and_comm ..
  have hnames : w'.dataNames = w.dataNames.filter (· ≠ name) := by
    unfold World.dataNames
    rw [hfilter, List.filter_map]
    refine congrArg (List.map Pod.name) (List.filter_congr fun pod _ => ?_)
    by_cases heq : pod.name = name <;> simp [heq]
  refine ⟨⟨⟨fun pod hpod => ?_, ?_⟩, fun pod hpod => ?_⟩, hnames⟩
  · rw [hfilter] at hpod
    exact h.own.named pod (List.mem_of_mem_filter hpod)
  · show w'.dataNames.Nodup
    rw [hnames]
    exact h.own.distinct.filter _
  · rw [hpods] at hpod
    exact h.others pod (List.mem_of_mem_filter hpod)

end

/-! ## One pass -/

/-- Where a pass that began at `w` stands: these pods it has created and these deleted. -/
structure Progress (w : World) (created deleted : List String) (l : RedisCluster)
    (s : World × List (Sigma Reply)) : Prop where
  local_eq : l = w.cluster
  cluster : s.1.cluster = w.cluster
  backups : s.1.backups = w.backups
  tidy : TidyPods w.cluster s.1
  names : s.1.dataNames = (w.dataNames ++ created).filter (· ∉ deleted)
  created : Prog.logged createdName s.2 = created
  deleted : Prog.logged deletedName s.2 = deleted

/-- No backup is to be restored, or the one there is can be. -/
def CanRestore (r : ClusterReconciler) (w : World) : Prop :=
  bootstrapBackupName w.cluster = "" ∨ RestoreReady r w.cluster w.backups

section

variable {r : ClusterReconciler} {w : World} {created deleted : List String} {l : RedisCluster}
variable {s : World × List (Sigma Reply)}

theorem progress_start (h : TidyPods w.cluster w) : Progress w [] [] w.cluster (w, []) where
  local_eq := rfl
  cluster := rfl
  backups := rfl
  tidy := h
  names := by simp
  created := rfl
  deleted := rfl

/-- A request that only reads. -/
theorem Progress.read (h : Progress w created deleted l s) {c : Cmd} (reply : Reply c)
    (hc : createdName c = none) (hd : deletedName c = none) :
    Progress w created deleted l (s.1, ⟨c, reply⟩ :: s.2) where
  local_eq := h.local_eq
  cluster := h.cluster
  backups := h.backups
  tidy := h.tidy
  names := h.names
  created := by rw [Prog.logged_cons, hc, h.created]; exact List.append_nil _
  deleted := by rw [Prog.logged_cons, hd, h.deleted]; exact List.append_nil _

/-- The restore container is refused only where the backup cannot be restored. -/
theorem wp_restoreContainer (h : Progress w created deleted l s) (podName : String) (index : Nat)
    (role : String) :
    wp (Prog.record Obliges) (fun _ _ => True) (restoreContainer r w.cluster podName index role)
      (fun _ => Progress w created deleted) (fun _ _ => ¬ CanRestore r w) l s := by
  unfold restoreContainer
  rw [wp_ite]
  refine ⟨fun _ => h, fun hrestore => ?_⟩
  unfold getBootstrapBackup
  cases hb : w.cluster.spec.bootstrap with
  | none => simp [shouldRestoreFromBackup, hb] at hrestore
  | some bootstrap =>
    have hname : bootstrap.backupName ≠ "" := by
      intro hempty
      simp [shouldRestoreFromBackup, hb, hempty] at hrestore
    -- a usable backup is the one that is found
    have hready : CanRestore r w → ∃ backup, w.backups.lookup bootstrap.backupName = some backup ∧
        bootstrapBackupError (r.objectNamespace ++ "/" ++ backup.name) backup = none := by
      rintro (hnone | ⟨bootstrap', backup, hb', -, hlookup, herr⟩)
      · simp only [bootstrapBackupName, hb] at hnone
        exact absurd hnone hname
      · rw [hb] at hb'
        cases hb'
        exact ⟨backup, hlookup, herr⟩
    rw [wp_bind]
    refine wp_context.mpr (wp_ite.mpr ⟨fun hempty => absurd hempty hname, fun _ => ?_⟩)
    rw [wp_bind, ask, wp_request_track]
    refine ⟨trivial, fun answer w' hw => ?_⟩
    obtain ⟨⟨rfl, rfl⟩, -⟩ := hw
    have hkeep := h.read (c := .getBackup bootstrap.backupName)
      (found "redisbackups" bootstrap.backupName (s.1.backups.lookup bootstrap.backupName)) rfl rfl
    rw [h.backups] at hkeep ⊢
    cases hlookup : w.backups.lookup bootstrap.backupName with
    | none =>
      intro hcan
      obtain ⟨backup, hfound, -⟩ := hready hcan
      rw [hlookup] at hfound
      cases hfound
    | some backup =>
      have hgot : ofApi (found "redisbackups" bootstrap.backupName (some backup)) =
          pure backup := rfl
      rw [hlookup] at hkeep
      rw [hgot, wp_pure]
      cases herr : bootstrapBackupError (r.objectNamespace ++ "/" ++ backup.name) backup with
      | none => exact hkeep
      | some err =>
        intro hcan
        obtain ⟨backup', hfound, hnone⟩ := hready hcan
        rw [hlookup] at hfound
        cases hfound
        rw [herr] at hnone
        cases hnone

/-- The role of a data pod is not that of a sentinel. -/
theorem dataPodRole_ne_sentinel (cluster : RedisCluster) (layout : ShardLayout) (index : Nat) :
    dataPodRole cluster layout index ≠ labelRoleSentinel := by
  unfold dataPodRole
  dsimp only
  split_ifs <;> decide

variable {F : String → World × List (Sigma Reply) → Prop}

/-- The pod of an ordinal exists: it stays a data pod. -/
theorem wp_adoptPod (h : Progress w created deleted l s) {index : Nat} {existing : Pod}
    {labels : GoMap String String} {role : String}
    (hfind : s.1.findPod (podNameForIndex w.cluster.name index) = some existing)
    (hlabel : labels.lookup labelRole = some role) (hrole : role ≠ labelRoleSentinel) :
    wp (Prog.record Obliges) (fun _ _ => True) (adoptPod existing labels)
      (fun _ => Progress w created deleted) F l s := by
  have hname : existing.name = podNameForIndex w.cluster.name index := by
    simpa using List.find?_some hfind
  unfold adoptPod
  dsimp only
  rw [wp_ite]
  refine ⟨fun _ => h, fun _ => wp_context.mpr ?_⟩
  rw [wp_bind, ask, wp_request_track]
  refine ⟨trivial, fun answer w₁ hw => ?_⟩
  simp only [Obliges, Answers, hname, hfind] at hw
  obtain ⟨⟨rfl, hw₁⟩, -⟩ := hw
  have hmerged : (mergeLabels existing.labels labels).get labelRole ≠ labelRoleSentinel := by
    rwa [mergeLabels_get hlabel]
  have hpods : w₁.pods = s.1.pods.map fun pod =>
      if pod.name = podNameForIndex w.cluster.name index then
        { pod with labels := mergeLabels existing.labels labels, controlled := true } else pod := by
    rw [hw₁]
  obtain ⟨htidy, hnames⟩ := h.tidy.patchPod hmerged hpods
  refine ⟨h.local_eq, ?_, ?_, htidy, hnames.trans h.names, ?_, ?_⟩
  · rw [hw₁]
    exact h.cluster
  · rw [hw₁]
    exact h.backups
  · exact (Prog.logged_cons ..).trans (by rw [h.created]; exact List.append_nil _)
  · exact (Prog.logged_cons ..).trans (by rw [h.deleted]; exact List.append_nil _)

/-- The pod of an ordinal is missing: it is created as a data pod. -/
theorem wp_createPod (h : Progress w created [] l s) {index : Nat} {pod : Pod}
    (hvalid : ValidOrdinal index)
    (hname : pod.name = podNameForIndex w.cluster.name index) (hdata : pod.isData = true)
    (hfind : s.1.findPod pod.name = none) :
    wp (Prog.record Obliges) (fun _ _ => True) (do ofApi (← ask (.createPod pod)))
      (fun _ => Progress w (created ++ [pod.name]) []) F l s := by
  have hnew : pod.name ∉ s.1.dataNames := by
    rw [hname] at hfind ⊢
    exact (h.tidy.findPod_eq_none index).mp hfind
  rw [wp_bind, ask, wp_request_track]
  refine ⟨trivial, fun answer w₁ hw => ?_⟩
  simp only [Obliges, Answers, hfind] at hw
  obtain ⟨⟨rfl, hw₁⟩, -⟩ := hw
  have hpods : w₁.pods = s.1.pods ++ [pod] := by rw [hw₁]
  obtain ⟨htidy, hnames⟩ := h.tidy.createPod hvalid hname hdata hnew hpods
  refine ⟨h.local_eq, ?_, ?_, htidy, ?_, ?_, ?_⟩
  · rw [hw₁]
    exact h.cluster
  · rw [hw₁]
    exact h.backups
  · rw [hnames, h.names]
    simp
  · exact (Prog.logged_cons ..).trans (by rw [h.created]; rfl)
  · exact (Prog.logged_cons ..).trans (by rw [h.deleted]; rfl)

/-- One ordinal of the creation loop: its pod is created if it is missing. -/
theorem wp_ensurePod (h : Progress w created [] l s) (layout : ShardLayout) {index : Nat}
    (hvalid : ValidOrdinal index) (hnew : podNameForIndex w.cluster.name index ∉ created) :
    wp (Prog.record Obliges) (fun _ _ => True) (ensurePod r layout index)
      (fun _ => Progress w
        (created ++ [podNameForIndex w.cluster.name index].filter (· ∉ w.dataNames)) [])
      (fun _ _ => ¬ CanRestore r w) l s := by
  obtain rfl := h.local_eq
  have hnames : s.1.dataNames = w.dataNames ++ created := by simpa using h.names
  have hlabel := dataPodLabels_role w.cluster layout index
  have hrole := dataPodRole_ne_sentinel w.cluster layout index
  have hmissing : s.1.findPod (podNameForIndex w.cluster.name index) = none ↔
      podNameForIndex w.cluster.name index ∉ w.dataNames := by
    rw [h.tidy.findPod_eq_none, hnames, List.mem_append]
    simp [hnew]
  unfold ensurePod createPodWithLabels
  rw [wp_bind, wp_get]
  refine wp_context.mpr ?_
  rw [wp_bind, wp_get, wp_bind, ask, wp_request_track]
  refine ⟨trivial, fun answer w₁ hw => ?_⟩
  obtain ⟨⟨rfl, rfl⟩, -⟩ := hw
  have hread := h.read (c := .getPod (podNameForIndex w.cluster.name index))
    (found "pods" (podNameForIndex w.cluster.name index)
      (s.1.findPod (podNameForIndex w.cluster.name index))) rfl rfl
  cases hfind : s.1.findPod (podNameForIndex w.cluster.name index) with
  | some existing =>
    have hhere : podNameForIndex w.cluster.name index ∈ w.dataNames := by
      by_contra hnot
      rw [hmissing.mpr hnot] at hfind
      cases hfind
    rw [hfind] at hread
    show wp _ _ (adoptPod existing _) _ _ _ _
    have hkept : [podNameForIndex w.cluster.name index].filter (· ∉ w.dataNames) = [] := by
      simp [hhere]
    rw [hkept, List.append_nil]
    exact wp_adoptPod hread hfind hlabel hrole
  | none =>
    have habsent := hmissing.mp hfind
    have hmade : [podNameForIndex w.cluster.name index].filter (· ∉ w.dataNames) =
        [podNameForIndex w.cluster.name index] := by
      simp [habsent]
    rw [hfind] at hread
    show wp _ _ (restoreContainer r w.cluster _ index _ >>= _) _ _ _ _
    rw [wp_bind, hmade]
    refine wp_post (wp_restoreContainer hread _ index _) fun restore l' s' hs => ?_
    refine wp_context.mpr (wp_createPod hs hvalid rfl ?_ ?_)
    · rw [Pod.isData, newDataPod, GoMap.get_of_lookup hlabel]
      simpa using hrole
    · exact (hs.tidy.findPod_eq_none index).mpr (by
        rw [hs.names, List.mem_filter, List.mem_append]
        simp [hnew, habsent])

/-- One pod of the scale-down loop: it is gone, unless it is the primary. -/
theorem wp_scaleDownPod (h : Progress w created deleted l s) (pod : Pod) :
    wp (Prog.record Obliges) (fun _ _ => True) (scaleDownPod pod)
      (fun _ => Progress w created
        (deleted ++ [pod.name].filter (· ≠ w.cluster.status.currentPrimary))) F l s := by
  obtain rfl := h.local_eq
  unfold scaleDownPod doWhen deletePod
  rw [wp_bind, wp_get, wp_ite]
  refine ⟨fun hne => wp_context.mpr ?_, fun heq => ?_⟩
  · have hdeleted : [pod.name].filter (· ≠ w.cluster.status.currentPrimary) = [pod.name] := by
      simp [hne]
    rw [wp_bind, ask, wp_request_track, hdeleted]
    refine ⟨trivial, fun answer w₁ hw => ?_⟩
    obtain ⟨hanswer, hpods⟩ := hw
    obtain ⟨htidy, hnames⟩ := h.tidy.deletePod (hpods pod.name .scaleDown rfl)
    have hrest : w₁.cluster = s.1.cluster ∧ w₁.backups = s.1.backups := by
      cases hfind : s.1.findPod pod.name with
      | none =>
        simp only [Answers, hfind] at hanswer
        rw [hanswer.2]
        exact ⟨rfl, rfl⟩
      | some _ =>
        simp only [Answers, hfind] at hanswer
        rcases hanswer.2 with heq | heq <;> rw [heq] <;> exact ⟨rfl, rfl⟩
    have hdone : Progress w created (deleted ++ [pod.name]) w.cluster
        (w₁, ⟨.deletePod pod.name .scaleDown, answer⟩ :: s.2) := by
      refine ⟨rfl, hrest.1.trans h.cluster, hrest.2.trans h.backups, htidy, ?_, ?_, ?_⟩
      · rw [hnames, h.names, List.filter_filter]
        refine List.filter_congr fun name _ => ?_
        simp [and_comm]
      · exact (Prog.logged_cons ..).trans (by rw [h.created]; exact List.append_nil _)
      · exact (Prog.logged_cons ..).trans (by rw [h.deleted]; rfl)
    cases hfind : s.1.findPod pod.name with
    | none =>
      simp only [Answers, hfind] at hanswer
      obtain ⟨rfl, -⟩ := hanswer
      exact hdone
    | some _ =>
      simp only [Answers, hfind] at hanswer
      obtain ⟨rfl, -⟩ := hanswer
      exact hdone
  · have hkept : [pod.name].filter (· ≠ w.cluster.status.currentPrimary) = [] := by
      simpa using heq
    rw [hkept, List.append_nil]
    exact h

end

/-- The names of the pods that are missing, by ordinal. -/
def absentNames (w : World) : List String :=
  (expectedNames w.cluster).filter (· ∉ w.dataNames)

/-- The names of the pods a pass deletes, in the order it deletes them. -/
def removedNames (w : World) : List String :=
  ((scaleDownPods w.cluster w.dataPods).map Pod.name).filter
    (· ≠ w.cluster.status.currentPrimary)

/-- What a pass from `w` to `w'` does. -/
structure Scaled (w : World) (log : List (Sigma Reply)) (w' : World) : Prop where
  created : Prog.logged createdName log = absentNames w
  deleted : Prog.logged deletedName log = removedNames w
  names : w'.dataNames = (w.dataNames ++ absentNames w).filter (· ∉ removedNames w)
  carried : Carried w.cluster w'.cluster
  backups : w'.backups = w.backups
  tidy : TidyPods w'.cluster w'

section

variable {r : ClusterReconciler} {w : World} {created deleted : List String} {l : RedisCluster}
variable {s : World × List (Sigma Reply)}

theorem wp_ensurePods (h : Progress w [] [] l s) (layout : ShardLayout)
    (hfits : w.cluster.spec.desiredDataInstances < 2 ^ 31) :
    wp (Prog.record Obliges) (fun _ _ => True)
      (Act.forEach (ensurePod r layout) (List.range w.cluster.spec.desiredDataInstances.toNat))
      (fun _ => Progress w (absentNames w) []) (fun _ _ => ¬ CanRestore r w) l s := by
  refine wp_forEach_done (fun done => Progress w
    ((done.map (podNameForIndex w.cluster.name)).filter (· ∉ w.dataNames)) []) ?_ h
  intro done index rest hrange l' s' hs
  have hnodup : (done ++ index :: rest).Nodup := hrange ▸ List.nodup_range
  have hindex : index ∈ List.range w.cluster.spec.desiredDataInstances.toNat := by
    rw [hrange]
    simp
  have hvalid : ValidOrdinal index := by
    have := List.mem_range.mp hindex
    unfold ValidOrdinal maxInt
    omega
  have hnew : podNameForIndex w.cluster.name index ∉
      (done.map (podNameForIndex w.cluster.name)).filter (· ∉ w.dataNames) := by
    intro hmem
    obtain ⟨j, hj, heq⟩ := List.mem_map.mp (List.mem_of_mem_filter hmem)
    obtain rfl := podNameForIndex_inj.mp heq
    exact (List.disjoint_of_nodup_append hnodup) hj (List.mem_cons_self ..)
  rw [List.map_append, List.filter_append]
  exact wp_ensurePod hs layout hvalid hnew

theorem wp_scaleDown (h : Progress w created [] l s)
    (hdesired : 0 ≤ w.cluster.spec.desiredDataInstances)
    {F : String → World × List (Sigma Reply) → Prop} :
    wp (Prog.record Obliges) (fun _ _ => True) (scaleDown w.dataPods)
      (fun _ => Progress w created (removedNames w)) F l s := by
  obtain rfl := h.local_eq
  unfold scaleDown
  rw [wp_bind, wp_get, wp_bind]
  refine wp_post (wp_forEach_done (fun done => Progress w created
    ((done.map Pod.name).filter (· ≠ w.cluster.status.currentPrimary))) ?_ h) ?_
  · intro done pod rest _ l' s' hs
    rw [List.map_append, List.filter_append]
    exact wp_scaleDownPod hs pod
  · intro _ l' s' hs
    rw [if_neg (by omega)]
    exact hs

/-- The last step changes nothing but the status. -/
theorem wp_setInitialPrimary (h : Progress w (absentNames w) (removedNames w) l s)
    {F : String → World × List (Sigma Reply) → Prop} :
    wp (Prog.record Obliges) (fun _ _ => True) setInitialPrimary
      (fun _ _ s' => Scaled w s'.2 s'.1) F l s := by
  obtain rfl := h.local_eq
  unfold setInitialPrimary doWhen patchStatus
  rw [wp_bind, wp_get, wp_ite]
  refine ⟨fun hfirst => wp_context.mpr ?_, fun _ => ?_⟩
  · rw [wp_bind, wp_get, wp_bind, ask, wp_request_track]
    refine ⟨trivial, fun answer w₁ hw => ?_⟩
    simp only [Obliges, Answers, h.cluster, mergeStatus_self] at hw
    obtain ⟨⟨rfl, rfl⟩, -⟩ := hw
    refine ⟨?_, ?_, h.names, ?_, h.backups, ?_⟩
    · exact (Prog.logged_cons ..).trans (by rw [h.created]; exact List.append_nil _)
    · exact (Prog.logged_cons ..).trans (by rw [h.deleted]; exact List.append_nil _)
    · exact ⟨rfl, rfl, rfl, rfl, Or.inr ⟨hfirst.2.1, rfl⟩⟩
    · exact ⟨⟨h.tidy.own.named, h.tidy.own.distinct⟩, h.tidy.others⟩
  · refine ⟨h.created, h.deleted, h.names, ?_, h.backups, ?_⟩
    · rw [h.cluster]
      exact ⟨rfl, rfl, rfl, rfl, Or.inl rfl⟩
    · rw [h.cluster]
      exact h.tidy

/-- A pass creates what is missing and deletes what is too much; it fails only
    where the bootstrap backup cannot be restored. -/
theorem wp_reconcilePods (htidy : TidyPods w.cluster w)
    (hdesired : 0 ≤ w.cluster.spec.desiredDataInstances)
    (hfits : w.cluster.spec.desiredDataInstances < 2 ^ 31)
    (statuses : Statuses) :
    wp (Prog.record Obliges) (fun _ _ => True) (reconcilePods r statuses)
      (fun _ _ s => Scaled w s.2 s.1) (fun _ _ => ¬ CanRestore r w) w.cluster (w, []) := by
  have hrest : ∀ layout s, Progress w [] [] w.cluster s → wp (Prog.record Obliges)
      (fun _ _ => True)
      (Act.forEach (ensurePod r layout) (List.range w.cluster.spec.desiredDataInstances.toNat) >>=
        fun _ => doWhen (w.cluster.spec.desiredDataInstances < (w.dataPods.length : Int))
          (scaleDown w.dataPods) >>= fun _ => setInitialPrimary)
      (fun _ _ s => Scaled w s.2 s.1) (fun _ _ => ¬ CanRestore r w) w.cluster s := by
    intro layout s hs
    rw [wp_bind]
    refine wp_post (wp_ensurePods hs layout hfits) fun _ l₁ s₁ hs₁ => ?_
    rw [wp_bind, doWhen, wp_ite]
    refine ⟨fun _ => ?_, fun hfew => ?_⟩
    · exact wp_post (wp_scaleDown hs₁ hdesired) fun _ l₂ s₂ hs₂ => wp_setInitialPrimary hs₂
    · -- no more pods than wanted: none is in the list
      have hnone : removedNames w = [] := by
        unfold removedNames scaleDownPods
        rw [Int.toNat_of_nonpos (by omega)]
        rfl
      exact wp_setInitialPrimary (hnone.symm ▸ hs₁)
  unfold reconcilePods podLayout
  rw [wp_bind]
  refine wp_context.mpr ?_
  unfold listDataPods listClusterPods
  rw [wp_bind, wp_bind, ask, wp_request_track]
  refine ⟨trivial, fun answer w₁ hw => ?_⟩
  obtain ⟨⟨rfl, hsame⟩, -⟩ := hw
  obtain rfl : w = w₁ := hsame.symm
  have hlisted := (progress_start htidy).read (c := .listPods) (.ok w.pods) rfl rfl
  show wp _ _ ((if w.cluster.spec.mode = .cluster then _ else _) >>= _) _ _ w.cluster _
  rw [wp_bind, wp_ite]
  refine ⟨fun _ => ?_, fun _ => hrest {} _ hlisted⟩
  rw [wp_bind, ask, wp_request_track]
  refine ⟨trivial, fun order w₁ hw => ?_⟩
  obtain rfl : w = w₁ := hw.1.symm
  exact hrest _ _ (hlisted.read (c := .mapOrder) order rfl rfl)

end

/-! ## What is there after a pass -/

/-- Only ordinals above the desired count are deleted. -/
theorem le_of_mem_removedNames {w : World} (htidy : TidyPods w.cluster w)
    (hdesired : 0 ≤ w.cluster.spec.desiredDataInstances) {name : String}
    (h : name ∈ removedNames w) :
    w.cluster.spec.desiredDataInstances ≤ podIndex w.cluster.name name := by
  obtain ⟨pod, hpod, rfl⟩ := List.mem_map.mp (List.mem_of_mem_filter h)
  exact htidy.own.scaleDownPods hdesired hpod

theorem lt_of_mem_expectedNames {cluster : RedisCluster}
    (hfits : cluster.spec.desiredDataInstances < 2 ^ 31) {name : String}
    (h : name ∈ expectedNames cluster) :
    podIndex cluster.name name < cluster.spec.desiredDataInstances := by
  obtain ⟨index, hindex, rfl⟩ := List.mem_map.mp h
  rw [List.mem_range] at hindex
  have hvalid : ValidOrdinal index := by
    unfold ValidOrdinal maxInt
    omega
  rw [podIndex_podNameForIndex hvalid]
  omega

section

variable {w w' : World} {log : List (Sigma Reply)}

/-- After a pass no ordinal below the desired count is missing. -/
theorem Scaled.mem_dataNames (h : Scaled w log w') (htidy : TidyPods w.cluster w)
    (hdesired : 0 ≤ w.cluster.spec.desiredDataInstances)
    (hfits : w.cluster.spec.desiredDataInstances < 2 ^ 31) {name : String} :
    name ∈ w'.dataNames ↔
      name ∈ expectedNames w.cluster ∨ (name ∈ w.dataNames ∧ name ∉ removedNames w) := by
  have hspared : name ∈ expectedNames w.cluster → name ∉ removedNames w := fun hexp hrem =>
    absurd (le_of_mem_removedNames htidy hdesired hrem)
      (Int.not_le.mpr (lt_of_mem_expectedNames hfits hexp))
  rw [h.names, List.mem_filter, List.mem_append, absentNames, List.mem_filter]
  simp only [decide_eq_true_eq]
  constructor
  · rintro ⟨hname | ⟨hexp, -⟩, hrem⟩
    · exact Or.inr ⟨hname, hrem⟩
    · exact Or.inl hexp
  · rintro (hexp | ⟨hname, hrem⟩)
    · by_cases hname : name ∈ w.dataNames
      · exact ⟨Or.inl hname, hspared hexp⟩
      · exact ⟨Or.inr ⟨hexp, hname⟩, hspared hexp⟩
    · exact ⟨Or.inl hname, hrem⟩

/-- Where no ordinal below the desired count is missing, all the others are
    deleted: those that are not are as many as the desired count. -/
theorem mem_removedNames_of_full (htidy : TidyPods w.cluster w)
    (hdesired : 0 ≤ w.cluster.spec.desiredDataInstances)
    (hfits : w.cluster.spec.desiredDataInstances < 2 ^ 31)
    (hfull : ∀ name ∈ expectedNames w.cluster, name ∈ w.dataNames) {name : String}
    (hname : name ∈ w.dataNames)
    (habove : w.cluster.spec.desiredDataInstances ≤ podIndex w.cluster.name name)
    (hprimary : name ≠ w.cluster.status.currentPrimary) : name ∈ removedNames w := by
  let byOrdinal := w.dataPods.insertionSort fun a b =>
    podIndex w.cluster.name b.name ≤ podIndex w.cluster.name a.name
  let count := ((w.dataPods.length : Int) - w.cluster.spec.desiredDataInstances).toNat
  have hperm : (byOrdinal.map Pod.name).Perm w.dataNames :=
    (List.perm_insertionSort _ w.dataPods).map Pod.name
  have hsplit : (byOrdinal.take count).map Pod.name ++ (byOrdinal.drop count).map Pod.name =
      byOrdinal.map Pod.name := by
    rw [← List.map_append, List.take_append_drop]
  have hexpected : (expectedNames w.cluster).Nodup :=
    List.nodup_range.map (podNameForIndex_injective _)
  have hlength : (expectedNames w.cluster).length =
      w.cluster.spec.desiredDataInstances.toNat := by
    simp [expectedNames]
  have henough : (expectedNames w.cluster).length ≤ w.dataPods.length := by
    have hsub := (hexpected.subperm hfull).length_le
    rwa [World.dataNames, List.length_map] at hsub
  -- what is kept has the expected names
  have hkept : ∀ name ∈ expectedNames w.cluster, name ∈ (byOrdinal.drop count).map Pod.name := by
    intro name hexp
    have hmem := hperm.mem_iff.mpr (hfull name hexp)
    rw [← hsplit, List.mem_append] at hmem
    refine hmem.resolve_left fun htaken => ?_
    obtain ⟨pod, hpod, rfl⟩ := List.mem_map.mp htaken
    exact absurd (htidy.own.scaleDownPods hdesired hpod)
      (Int.not_le.mpr (lt_of_mem_expectedNames hfits hexp))
  have hsame : (expectedNames w.cluster).Perm ((byOrdinal.drop count).map Pod.name) := by
    refine (hexpected.subperm hkept).perm_of_length_le ?_
    rw [List.length_map, List.length_drop, List.length_insertionSort, hlength]
    omega
  refine List.mem_filter.mpr ⟨?_, by simpa using hprimary⟩
  have hmem := hperm.mem_iff.mpr hname
  rw [← hsplit, List.mem_append] at hmem
  refine hmem.resolve_right fun hdrop => ?_
  exact absurd habove
    (Int.not_le.mpr (lt_of_mem_expectedNames hfits (hsame.mem_iff.mpr hdrop)))

/-- From there a pass leaves the ordinals below the desired count, and the
    primary if it is above. -/
theorem Scaled.mem_dataNames_of_full (h : Scaled w log w') (htidy : TidyPods w.cluster w)
    (hdesired : 0 ≤ w.cluster.spec.desiredDataInstances)
    (hfits : w.cluster.spec.desiredDataInstances < 2 ^ 31)
    (hfull : ∀ name ∈ expectedNames w.cluster, name ∈ w.dataNames) {name : String} :
    name ∈ w'.dataNames ↔ name ∈ expectedNames w.cluster ∨
      (name = w.cluster.status.currentPrimary ∧ name ∈ w.dataNames ∧
        w.cluster.spec.desiredDataInstances ≤ podIndex w.cluster.name name) := by
  rw [h.mem_dataNames htidy hdesired hfits]
  constructor
  · rintro (hexp | ⟨hname, hrem⟩)
    · exact Or.inl hexp
    · by_cases hlt : podIndex w.cluster.name name < w.cluster.spec.desiredDataInstances
      · obtain ⟨index, hindex, rfl⟩ := htidy.ordinal hname
        rw [podIndex_podNameForIndex hindex] at hlt
        exact Or.inl (List.mem_map_of_mem (List.mem_range.mpr (by omega)))
      · have habove : w.cluster.spec.desiredDataInstances ≤ podIndex w.cluster.name name := by omega
        refine Or.inr ⟨?_, hname, habove⟩
        by_contra hprimary
        exact hrem (mem_removedNames_of_full htidy hdesired hfits hfull hname habove hprimary)
  · rintro (hexp | ⟨rfl, hname, -⟩)
    · exact Or.inl hexp
    · refine Or.inr ⟨hname, fun hrem => ?_⟩
      simpa using (List.mem_filter.mp hrem).2

end

/-! ## Pass after pass -/

/-- A state that passes from `w₀` lead to. -/
structure Later (w₀ w : World) : Prop where
  name : w.cluster.name = w₀.cluster.name
  spec : w.cluster.spec = w₀.cluster.spec
  primary : w.cluster.status.currentPrimary = w₀.cluster.status.currentPrimary ∨
    (w₀.cluster.status.currentPrimary = "" ∧
      w.cluster.status.currentPrimary = podNameForIndex w₀.cluster.name 0)
  backups : w.backups = w₀.backups
  tidy : TidyPods w.cluster w
  /-- the primary stays, if it is above the desired count -/
  kept : w₀.cluster.spec.desiredDataInstances ≤
      podIndex w₀.cluster.name w₀.cluster.status.currentPrimary →
    (w₀.cluster.status.currentPrimary ∈ w.dataNames ↔
      w₀.cluster.status.currentPrimary ∈ w₀.dataNames)

section

variable {w₀ w w' : World} {log : List (Sigma Reply)}

theorem Later.refl (htidy : TidyPods w₀.cluster w₀) : Later w₀ w₀ :=
  ⟨rfl, rfl, Or.inl rfl, rfl, htidy, fun _ => Iff.rfl⟩

theorem Later.expectedNames (h : Later w₀ w) :
    expectedNames w.cluster = expectedNames w₀.cluster := by
  unfold RedisOperator.expectedNames
  rw [h.name, h.spec]

theorem TidyPods.empty_not_mem {cluster : RedisCluster} (h : TidyPods cluster w) :
    "" ∉ w.dataNames := by
  intro hmem
  obtain ⟨index, -, hname⟩ := h.ordinal hmem
  exact podNameForIndex_ne_empty _ _ hname.symm

theorem Later.step (h : Later w₀ w) (hs : Scaled w log w')
    (hdesired : 0 ≤ w₀.cluster.spec.desiredDataInstances)
    (hfits : w₀.cluster.spec.desiredDataInstances < 2 ^ 31) : Later w₀ w' where
  name := hs.carried.name.trans h.name
  spec := hs.carried.spec.trans h.spec
  primary := by
    rcases hs.carried.currentPrimary with hp | ⟨hempty, hp⟩
    · rw [hp]
      exact h.primary
    · rcases h.primary with hp₀ | ⟨-, hp₀⟩
      · exact Or.inr ⟨hp₀.symm.trans hempty, hp.trans (by rw [h.name])⟩
      · exact absurd (hp₀.symm.trans hempty) (podNameForIndex_ne_empty _ _)
  backups := hs.backups.trans h.backups
  tidy := hs.tidy
  kept := by
    intro habove
    rw [← h.kept habove, hs.mem_dataNames h.tidy (by rw [h.spec]; exact hdesired)
      (by rw [h.spec]; exact hfits), h.expectedNames]
    have hnot : w₀.cluster.status.currentPrimary ∉ RedisOperator.expectedNames w₀.cluster :=
      fun hexp => absurd habove (Int.not_le.mpr (lt_of_mem_expectedNames hfits hexp))
    constructor
    · rintro (hexp | ⟨hname, -⟩)
      · exact absurd hexp hnot
      · exact hname
    · intro hname
      refine Or.inr ⟨hname, fun hrem => ?_⟩
      have hne : w₀.cluster.status.currentPrimary ≠ w.cluster.status.currentPrimary := by
        simpa using (List.mem_filter.mp hrem).2
      rcases h.primary with hp | ⟨hempty, -⟩
      · exact hne hp.symm
      · rw [hempty] at hname
        exact h.tidy.empty_not_mem hname

/-- The ordinals below the desired count are there, and the primary if it was
    there with an ordinal above. -/
def Converged (w₀ w : World) : Prop :=
  ∀ name, name ∈ w.dataNames ↔ name ∈ RedisOperator.expectedNames w₀.cluster ∨
    (name = w₀.cluster.status.currentPrimary ∧ name ∈ w₀.dataNames ∧
      w₀.cluster.spec.desiredDataInstances ≤ podIndex w₀.cluster.name name)

theorem Later.converged (h : Later w₀ w) (hs : Scaled w log w')
    (hdesired : 1 ≤ w₀.cluster.spec.desiredDataInstances)
    (hfits : w₀.cluster.spec.desiredDataInstances < 2 ^ 31) (htidy : TidyPods w₀.cluster w₀)
    (hfull : ∀ name ∈ RedisOperator.expectedNames w₀.cluster, name ∈ w.dataNames) :
    Converged w₀ w' := by
  intro name
  rw [hs.mem_dataNames_of_full h.tidy (by rw [h.spec]; omega) (by rw [h.spec]; exact hfits)
    (by rw [h.expectedNames]; exact hfull), h.expectedNames, h.spec, h.name]
  refine or_congr_right ?_
  rcases h.primary with hp | ⟨hempty, hp⟩
  · rw [hp]
    constructor
    · rintro ⟨rfl, hname, habove⟩
      exact ⟨rfl, (h.kept habove).mp hname, habove⟩
    · rintro ⟨rfl, hname, habove⟩
      exact ⟨rfl, (h.kept habove).mpr hname, habove⟩
  · rw [hempty, hp]
    constructor
    · rintro ⟨rfl, -, habove⟩
      rw [podIndex_podNameForIndex (Nat.zero_le _)] at habove
      exact absurd habove (by omega)
    · rintro ⟨rfl, hname, -⟩
      exact absurd hname htidy.empty_not_mem

end

/-- A pass touches the right pods. -/
structure TouchesRightPods (w : World) (log : List (Sigma Reply)) : Prop where
  /-- it creates exactly the missing ordinals below the desired count -/
  created : Prog.logged createdName log =
    (expectedNames w.cluster).filter (· ∉ w.dataNames)
  /-- it deletes only ordinals above -/
  above : ∀ name ∈ Prog.logged deletedName log, name ∈ w.dataNames ∧
    w.cluster.spec.desiredDataInstances ≤ podIndex w.cluster.name name
  primary : w.cluster.status.currentPrimary ∉ Prog.logged deletedName log
  highestFirst : (Prog.logged deletedName log).Pairwise fun a b =>
    podIndex w.cluster.name b < podIndex w.cluster.name a
  highest : ∀ kept ∈ w.dataNames, kept ∉ Prog.logged deletedName log →
    kept ≠ w.cluster.status.currentPrimary → ∀ name ∈ Prog.logged deletedName log,
      podIndex w.cluster.name kept < podIndex w.cluster.name name

theorem Scaled.touchesRightPods {w w' : World} {log : List (Sigma Reply)} (h : Scaled w log w')
    (htidy : TidyPods w.cluster w) (hdesired : 0 ≤ w.cluster.spec.desiredDataInstances) :
    TouchesRightPods w log := by
  let byOrdinal := w.dataPods.insertionSort fun a b =>
    podIndex w.cluster.name b.name ≤ podIndex w.cluster.name a.name
  let count := ((w.dataPods.length : Int) - w.cluster.spec.desiredDataInstances).toNat
  have hsorted : (byOrdinal.map Pod.name).Pairwise fun a b =>
      podIndex w.cluster.name b < podIndex w.cluster.name a := by
    have hdecreasing := List.pairwise_map.mp htidy.own.decreasing
    exact List.pairwise_map.mpr (hdecreasing.imp fun hlt => by omega)
  have hperm : (byOrdinal.map Pod.name).Perm w.dataNames :=
    (List.perm_insertionSort _ w.dataPods).map Pod.name
  have hsplit : (byOrdinal.take count).map Pod.name ++ (byOrdinal.drop count).map Pod.name =
      byOrdinal.map Pod.name := by
    rw [← List.map_append, List.take_append_drop]
  obtain ⟨htake, -, hacross⟩ := List.pairwise_append.mp (hsplit.symm ▸ hsorted)
  refine ⟨h.created, ?_, ?_, ?_, ?_⟩ <;> rw [h.deleted]
  · intro name hname
    refine ⟨?_, le_of_mem_removedNames htidy hdesired hname⟩
    rw [← hperm.mem_iff, ← hsplit]
    exact List.mem_append_left _ (List.mem_of_mem_filter hname)
  · intro hname
    simpa using (List.mem_filter.mp hname).2
  · exact htake.filter _
  · intro kept hkept hnot hprimary name hname
    have hmem := hperm.mem_iff.mpr hkept
    rw [← hsplit, List.mem_append] at hmem
    refine hacross name (List.mem_of_mem_filter hname) kept (hmem.resolve_left fun htaken => ?_)
    exact hnot (List.mem_filter.mpr ⟨htaken, by simpa using hprimary⟩)

section

variable {r : ClusterReconciler} {statuses : Statuses} {w w' : World}
variable {log : List (Sigma Reply)}

theorem PodPass.scaled (h : PodPass r statuses w log w') (htidy : TidyPods w.cluster w)
    (hdesired : 0 ≤ w.cluster.spec.desiredDataInstances)
    (hfits : w.cluster.spec.desiredDataInstances < 2 ^ 31) : Scaled w log w' := by
  obtain ⟨l, hreturns⟩ := h
  have hpost := Prog.wp_returns hreturns (wp_reconcilePods htidy hdesired hfits statuses)
  exact hpost

/-- Every pass completes, and there is one. -/
def Completes (r : ClusterReconciler) (statuses : Statuses) (w : World) : Prop :=
  (∃ log w', PodPass r statuses w log w') ∧
    ∀ result w', Prog.Returns Obliges (reconcilePods r statuses w.cluster) w result w' →
      ∃ l, result = .ok ((), l)

theorem completes_of_canRestore (hrestore : CanRestore r w) (htidy : TidyPods w.cluster w)
    (hdesired : 0 ≤ w.cluster.spec.desiredDataInstances)
    (hfits : w.cluster.spec.desiredDataInstances < 2 ^ 31) : Completes r statuses w := by
  have hwp := wp_reconcilePods (r := r) htidy hdesired hfits statuses
  have hends : ∀ result s, Prog.Returns (Prog.record Obliges) (reconcilePods r statuses w.cluster)
      (w, []) result s → ∃ l, result = .ok ((), l) := by
    intro result s hreturns
    have hpost := Prog.wp_returns hreturns hwp
    rcases result with err | ⟨⟨⟩, l⟩
    · exact absurd hrestore hpost
    · exact ⟨l, rfl⟩
  constructor
  · have hruns := Prog.returns_run obliges_answer (reconcilePods r statuses w.cluster) w
    obtain ⟨log, hlog⟩ := Prog.returns_track_iff.mp hruns
    obtain ⟨l, hok⟩ := hends _ _ hlog
    rw [hok] at hlog
    exact ⟨log, _, l, hlog⟩
  · intro result w' hreturns
    obtain ⟨log, hlog⟩ := Prog.returns_track_iff.mp hreturns
    exact hends _ _ hlog

end

/-- **Scaling.**  From every set of data pods with distinct ordinals, where
    requests succeed and deletions are immediate: a pass of `reconcilePods`
    creates exactly the missing ordinals below the desired count and deletes
    only ordinals above, the highest first and never the primary; passes
    complete, and after two of them the pods are those below the desired count
    and the primary if it was there above, and stay so. -/
theorem scaling_converges (r : ClusterReconciler) (ws : Nat → World) (n : Nat)
    (htidy : TidyPods (ws 0).cluster (ws 0))
    (hdesired : 1 ≤ (ws 0).cluster.spec.desiredDataInstances)
    (hfits : (ws 0).cluster.spec.desiredDataInstances < 2 ^ 31)
    (hrun : ∀ k < n, ∃ statuses log, PodPass r statuses (ws k) log (ws (k + 1))) :
    (∀ k ≤ n, ∀ statuses log w', PodPass r statuses (ws k) log w' → TouchesRightPods (ws k) log) ∧
      (CanRestore r (ws 0) → ∀ k ≤ n, ∀ statuses, Completes r statuses (ws k)) ∧
      (2 ≤ n → Converged (ws 0) (ws n)) := by
  have hpass : ∀ k ≤ n, Later (ws 0) (ws k) → ∀ statuses log w',
      PodPass r statuses (ws k) log w' → Scaled (ws k) log w' := by
    intro k _ hlater statuses log w' h
    exact h.scaled hlater.tidy (by rw [hlater.spec]; omega) (by rw [hlater.spec]; exact hfits)
  have hlater : ∀ k ≤ n, Later (ws 0) (ws k) := by
    intro k
    induction k with
    | zero => exact fun _ => Later.refl htidy
    | succ k ih =>
      intro hk
      obtain ⟨statuses, log, h⟩ := hrun k (by omega)
      have hk' := ih (by omega)
      exact hk'.step (hpass k (by omega) hk' statuses log _ h) (by omega) hfits
  refine ⟨fun k hk statuses log w' h => ?_, fun hrestore k hk statuses => ?_, fun htwo => ?_⟩
  · exact (hpass k hk (hlater k hk) statuses log w' h).touchesRightPods (hlater k hk).tidy
      (by rw [(hlater k hk).spec]; omega)
  · have hk' := hlater k hk
    refine completes_of_canRestore ?_ hk'.tidy (by rw [hk'.spec]; omega)
      (by rw [hk'.spec]; exact hfits)
    unfold CanRestore bootstrapBackupName RestoreReady
    rw [hk'.spec, hk'.backups]
    exact hrestore
  · obtain ⟨m, rfl⟩ : ∃ m, n = m + 2 := ⟨n - 2, by omega⟩
    -- the pass before the last leaves no ordinal missing
    obtain ⟨statuses, log, h⟩ := hrun m (by omega)
    obtain ⟨statuses', log', h'⟩ := hrun (m + 1) (by omega)
    have hm := hlater m (by omega)
    have hm' := hlater (m + 1) (by omega)
    have hscaled := hpass m (by omega) hm statuses log _ h
    refine hm'.converged (hpass (m + 1) (by omega) hm' statuses' log' _ h') hdesired hfits htidy ?_
    intro name hname
    refine (hscaled.mem_dataNames hm.tidy (by rw [hm.spec]; omega)
      (by rw [hm.spec]; exact hfits)).mpr (Or.inl ?_)
    rwa [hm.expectedNames]

/-- Two instances are wanted of a cluster that has the ordinals 0, 3, 4 and 5,
    the last of them the primary. -/
def gappedWorld : World where
  cluster :=
    { name := "c", spec := { mode := .standalone, instances := 2 },
      status := { currentPrimary := "c-5" } }
  pods := ["c-0", "c-3", "c-4", "c-5"].map namedPod

theorem gappedWorld_tidy : TidyPods gappedWorld.cluster gappedWorld := by
  have hdata : gappedWorld.dataPods =
      [0, 3, 4, 5].map fun i => namedPod (podNameForIndex "c" i) := by decide +kernel
  have hall : ∀ pod ∈ gappedWorld.pods, pod.isData = true := by decide +kernel
  refine ⟨⟨?_, by decide +kernel⟩, fun pod hpod hnot => ?_⟩
  · rw [hdata]
    rintro _ hpod
    obtain ⟨i, hi, rfl⟩ := List.mem_map.mp hpod
    exact ⟨i, (by decide : ∀ i ∈ [0, 3, 4, 5], ValidOrdinal i) i hi, rfl⟩
  · rw [hall pod hpod] at hnot
    cases hnot

/-- Two passes leave `c-0`, `c-1` and the primary `c-5`. -/
theorem gappedWorld_converges :
    ∃ ws : Nat → World, ws 0 = gappedWorld ∧
      (∀ k < 2, ∃ statuses log, PodPass anyTemplate statuses (ws k) log (ws (k + 1))) ∧
      ∀ name, name ∈ (ws 2).dataNames ↔ name ∈ ["c-0", "c-1", "c-5"] := by
  have hdesired : 1 ≤ gappedWorld.cluster.spec.desiredDataInstances := by decide
  have hfits : gappedWorld.cluster.spec.desiredDataInstances < 2 ^ 31 := by decide
  have hrestore : CanRestore anyTemplate gappedWorld := Or.inl rfl
  -- a first pass, and from where it ends a second
  obtain ⟨⟨log₁, w₁, h₁⟩, -⟩ := (scaling_converges anyTemplate (fun _ => gappedWorld) 0
    gappedWorld_tidy hdesired hfits (fun k hk => absurd hk (Nat.not_lt_zero k))).2.1 hrestore
    0 (Nat.le_refl 0) ∅
  let ws₁ : Nat → World := fun k => if k = 0 then gappedWorld else w₁
  have hrun₁ : ∀ k < 1, ∃ statuses log, PodPass anyTemplate statuses (ws₁ k) log (ws₁ (k + 1)) := by
    intro k hk
    obtain rfl : k = 0 := by omega
    exact ⟨∅, log₁, h₁⟩
  obtain ⟨⟨log₂, w₂, h₂⟩, -⟩ := (scaling_converges anyTemplate ws₁ 1 gappedWorld_tidy hdesired
    hfits hrun₁).2.1 hrestore 1 (Nat.le_refl 1) ∅
  let ws₂ : Nat → World := fun k => if k = 0 then gappedWorld else if k = 1 then w₁ else w₂
  have hrun₂ : ∀ k < 2, ∃ statuses log, PodPass anyTemplate statuses (ws₂ k) log (ws₂ (k + 1)) := by
    intro k hk
    rcases (by omega : k = 0 ∨ k = 1) with rfl | rfl
    · exact ⟨∅, log₁, h₁⟩
    · exact ⟨∅, log₂, h₂⟩
  refine ⟨ws₂, rfl, hrun₂, fun name => ?_⟩
  have hconverged := (scaling_converges anyTemplate ws₂ 2 gappedWorld_tidy hdesired hfits
    hrun₂).2.2 (Nat.le_refl 2) name
  have hexpected : expectedNames gappedWorld.cluster = ["c-0", "c-1"] := by decide +kernel
  have hprimary : "c-5" ∈ gappedWorld.dataNames := by decide +kernel
  have habove : gappedWorld.cluster.spec.desiredDataInstances ≤
      podIndex gappedWorld.cluster.name "c-5" := by decide +kernel
  rw [hconverged]
  show name ∈ expectedNames gappedWorld.cluster ∨ _ ↔ _
  rw [hexpected]
  constructor
  · rintro (h | ⟨rfl, -, -⟩)
    · exact List.mem_append_left ["c-5"] h
    · exact List.mem_append_right ["c-0", "c-1"] (List.mem_singleton.mpr rfl)
  · intro h
    rcases List.mem_append.mp (show name ∈ ["c-0", "c-1"] ++ ["c-5"] from h) with h | h
    · exact Or.inl h
    · obtain rfl := List.mem_singleton.mp h
      exact Or.inr ⟨rfl, hprimary, habove⟩

end RedisOperator
