/-
  RedisOperator.Cluster.WorkloadCourse

  Steps 7 to 9 of a pass, for a guard that minds nothing of storage and of the
  creation of pods (`WorkGuard`).  What is known of the pods when the pass
  starts (`PodsMeet`) and of the claims that wait for a restart (`Waiting`) is
  carried to the point where pods are moved, so a statement about the pass comes
  down to one about `plannedMoves`.
-/

import RedisOperator.Cluster.PassCourse

namespace RedisOperator

open Lib

/-- A guard that minds neither storage nor the creation of pods nor a scale-down. -/
structure WorkGuard (P : World → Cmd → Prop) : Prop extends CourseGuard P where
  storing : ∀ w c, c.Storing → P w c
  creating : ∀ w c, c.Creating → P w c
  scaleDown : ∀ w name, P w (.deletePod name .scaleDown)

/-! ## What the pods of a pass are like -/

/-- A data pod of the cluster, or a pod under the name of one. -/
def Belongs (names : List String) (pod : Pod) : Prop := pod.isData = true ∨ pod.name ∈ names

instance (names : List String) (pod : Pod) : Decidable (Belongs names pod) :=
  inferInstanceAs (Decidable (_ ∨ _))

/-- Every pod that belongs to the cluster meets `φ`, and pods of these names exist. -/
structure PodsMeet (φ : Pod → Prop) (names present : List String) (w : World) : Prop where
  present : ∀ name ∈ present, name ∈ w.pods.map Pod.name
  meet : ∀ pod ∈ w.pods, Belongs names pod → φ pod

section

variable {faulty : Cmd → Prop} {P : World → Cmd → Prop} {l : RedisCluster} {w : World}
variable {φ : Pod → Prop} {names present : List String} {r : ClusterReconciler}

theorem PodsMeet.store (h : PodsMeet φ names present w) (cluster : RedisCluster) :
    PodsMeet φ names present (w.store cluster) := ⟨h.present, h.meet⟩

variable {answer : Api Unit} {w' : World}

/-- Labels and owner of a pod that belongs to the cluster do not matter. -/
theorem PodsMeet.patchPod (hφ : ∀ pod labels controlled, φ pod →
      φ { pod with labels := labels, controlled := controlled })
    (h : PodsMeet φ names present w) {before after : Pod} (hname : before.name ∈ names)
    (hw : Handles faulty w (.patchPod before after) answer w') : PodsMeet φ names present w' := by
  refine handles_effects (Q := PodsMeet φ names present) hw h fun w' hmem => ?_
  rw [List.mem_singleton.mp hmem]
  refine ⟨fun name hmem => ?_, fun pod hpod hbelongs => ?_⟩
  · obtain ⟨pod, hpod, rfl⟩ := List.mem_map.mp (h.present name hmem)
    refine List.mem_map.mpr ⟨_, List.mem_map.mpr ⟨pod, hpod, rfl⟩, ?_⟩
    split <;> rfl
  · obtain ⟨old, hold, rfl⟩ := List.mem_map.mp hpod
    split at hbelongs
    next heq =>
      rw [if_pos heq]
      exact hφ _ _ _ (h.meet old hold (Or.inr (heq ▸ hname)))
    next hne =>
      rw [if_neg hne]
      exact h.meet old hold hbelongs

/-- A new pod meets `φ`, or it is there already. -/
theorem PodsMeet.createPod (h : PodsMeet φ names present w) {pod : Pod}
    (hpod : pod.name ∈ present ∨ φ pod)
    (hw : Handles faulty w (.createPod pod) answer w') : PodsMeet φ names present w' := by
  rcases handles_cases hw with rfl | ⟨answer, ha⟩
  · exact h
  cases hfind : w.findPod pod.name with
  | some _ =>
    simp only [Answers, hfind] at ha
    exact ha.2 ▸ h
  | none =>
    have hnew : φ pod := hpod.resolve_left fun hmem =>
      World.findPod_eq_none.mp hfind (h.present _ hmem)
    simp only [Answers, hfind] at ha
    rw [ha.2]
    refine ⟨fun name hmem => ?_, fun p hp hbelongs => ?_⟩
    · simp only [List.map_append, List.mem_append]
      exact Or.inl (h.present name hmem)
    · rcases List.mem_append.mp hp with hp | hp
      · exact h.meet p hp hbelongs
      · rwa [List.mem_singleton.mp hp]

/-- Fewer pods meet `φ` as well. -/
theorem PodsMeet.deletePod (h : PodsMeet φ names [] w) {name : String} {reason : DeleteReason}
    (hw : Handles faulty w (.deletePod name reason) answer w') : PodsMeet φ names [] w' := by
  refine handles_effects (Q := PodsMeet φ names []) hw h fun w' hmem => ?_
  rw [List.mem_singleton.mp hmem]
  exact ⟨fun _ hmem => absurd hmem List.not_mem_nil,
    fun pod hpod => h.meet pod (List.mem_filter.mp hpod).1⟩

/-- One ordinal of the creation loop keeps it. -/
theorem safe_ensurePod_podsMeet (hφ : ∀ pod labels controlled, φ pod →
      φ { pod with labels := labels, controlled := controlled })
    (h : PodsMeet φ names present w) (layout : ShardLayout) {index : Nat}
    (hname : podNameForIndex l.name index ∈ names)
    (hnew : podNameForIndex l.name index ∈ present ∨ ∀ labels restore,
      φ (newDataPod r l (podNameForIndex l.name index) index labels restore)) :
    Safe faulty (fun _ _ => True) (ensurePod r layout index)
      (fun _ l' w' => l' = l ∧ w'.cluster = w.cluster ∧ PodsMeet φ names present w') l w := by
  unfold ensurePod createPodWithLabels
  rw [safe_bind, safe_get, safe_wrap, safe_bind, safe_get, safe_bind]
  refine safe_read (by trivial) trivial fun answer hans => ?_
  cases answer with
  | ok existing =>
    have hexisting : existing.name = podNameForIndex l.name index := by
      rcases hans with ⟨ha, -⟩ | ⟨-, ⟨message, hm⟩, -⟩
      · simpa using List.find?_some (found_eq_ok.mp ha.symm)
      · cases hm
    show Safe faulty _ (adoptPod existing _) _ l w
    unfold adoptPod
    dsimp only
    rw [safe_ite, safe_pure, safe_wrap, safe_bind, safe_ask]
    refine ⟨fun _ => ⟨rfl, rfl, h⟩, fun _ => ⟨trivial, fun answer w' hw => ?_⟩⟩
    have hcluster := handles_spares hw trivial
    exact safe_ofApi_of fun _ _ => ⟨rfl, hcluster, h.patchPod hφ (hexisting ▸ hname) hw⟩
  | error err =>
    show Safe faulty _ (restoreContainer r l _ index _ >>= _) _ l w
    rw [safe_bind]
    refine safe_mono (safe_restoreContainer r l _ index _) ?_
    rintro restore _ _ ⟨rfl, rfl, -⟩
    rw [safe_wrap, safe_bind, safe_ask]
    refine ⟨trivial, fun answer w' hw => ?_⟩
    have hcluster := handles_spares hw trivial
    exact safe_ofApi_of fun _ _ =>
      ⟨rfl, hcluster, h.createPod (hnew.imp id fun hnew => hnew _ _) hw⟩

/-- One pod of the scale-down loop keeps it. -/
theorem safe_scaleDownPod_podsMeet (hP : WorkGuard P) (h : PodsMeet φ names [] w) (pod : Pod) :
    Safe faulty P (scaleDownPod pod)
      (fun _ l' w' => l' = l ∧ w'.cluster = w.cluster ∧ PodsMeet φ names [] w') l w := by
  unfold scaleDownPod deletePod
  rw [safe_bind, safe_get, safe_doWhen, safe_wrap, safe_bind, safe_ask]
  refine ⟨fun _ => ⟨hP.scaleDown _ _, fun answer w' hw => ?_⟩, fun _ => ⟨rfl, rfl, h⟩⟩
  exact safe_ignoreNotFound_of
    ⟨rfl, handles_spares hw trivial, h.deletePod hw⟩

/-- What a pass has of the object when it comes to move pods: the object it
    started from, with a first primary if there was none. -/
structure Carried (l l' : RedisCluster) : Prop where
  name : l'.name = l.name
  spec : l'.spec = l.spec
  annotations : l'.annotations = l.annotations
  instancesStatus : l'.status.instancesStatus = l.status.instancesStatus
  currentPrimary : l'.status.currentPrimary = l.status.currentPrimary ∨
    (l.status.currentPrimary = "" ∧ l'.status.currentPrimary = podNameForIndex l.name 0)

/-- The pod step of a pass keeps it, if new pods meet `φ` or none is missing,
    and if none is scaled away or none is asked for. -/
theorem safe_reconcilePods_podsMeet (hP : WorkGuard P) (hφ : ∀ pod labels controlled, φ pod →
      φ { pod with labels := labels, controlled := controlled })
    (hl : l = w.cluster) (hnames : names = expectedNames l) (h : PodsMeet φ names present w)
    (hnew : present = names ∨ ∀ podName index labels restore,
      φ (newDataPod r l podName index labels restore))
    (hfew : (w.dataPods.length : Int) ≤ l.spec.desiredDataInstances ∨ present = [])
    (statuses : Statuses) :
    Safe faulty P (reconcilePods r statuses)
      (fun _ l' w' => Carried l l' ∧ PodsMeet φ names present w') l w := by
  -- the object is still the stored one, and the pods are as wanted
  let I : RedisCluster → World → Prop := fun l' w' =>
    l' = l ∧ w'.cluster = w.cluster ∧ PodsMeet φ names present w'
  have hlast : ∀ l' w', I l' w' → Safe faulty P setInitialPrimary
      (fun _ l' w' => Carried l l' ∧ PodsMeet φ names present w') l' w' := by
    rintro _ w' ⟨rfl, hcluster, hmeet⟩
    unfold setInitialPrimary
    rw [safe_bind, safe_get, safe_doWhen, safe_wrap, safe_patchStatus (by rw [hcluster, hl])]
    refine ⟨fun hfirst => ⟨hP.patchStatus _ _ _, ?_, hmeet.store _⟩, fun _ => ⟨?_, hmeet⟩⟩
    · exact ⟨rfl, rfl, rfl, rfl, Or.inr ⟨hfirst.2.1, rfl⟩⟩
    · exact ⟨rfl, rfl, rfl, rfl, Or.inl rfl⟩
  have hpods : ∀ layout, Safe faulty P
      (Act.forEach (ensurePod r layout) (List.range l.spec.desiredDataInstances.toNat))
      (fun _ => I) l w := by
    intro layout
    refine Act.wp_forEach I (fun index hindex l' w' hI => ?_) ⟨rfl, rfl, h⟩
    obtain ⟨rfl, hcluster, hmeet⟩ := hI
    have hexpected : podNameForIndex l'.name index ∈ names := by
      rw [hnames]
      exact List.mem_map_of_mem hindex
    have hhere : podNameForIndex l'.name index ∈ present ∨ ∀ labels restore,
        φ (newDataPod r l' (podNameForIndex l'.name index) index labels restore) := by
      rcases hnew with rfl | hnew
      · exact Or.inl hexpected
      · exact Or.inr (hnew _ _)
    refine safe_guard (only_ensurePod r layout index) hP.creating
      (safe_mono (safe_ensurePod_podsMeet hφ hmeet layout hexpected hhere) ?_)
    rintro _ _ w₂ ⟨rfl, hcluster', hmeet'⟩
    exact ⟨rfl, hcluster'.trans hcluster, hmeet'⟩
  have hdown : ∀ l' w', I l' w' → l.spec.desiredDataInstances < (w.dataPods.length : Int) →
      Safe faulty P (scaleDown w.dataPods) (fun _ => I) l' w' := by
    rintro _ w' ⟨rfl, hcluster, hmeet⟩ hmany
    obtain rfl : present = [] := hfew.resolve_left (by omega)
    unfold scaleDown
    rw [safe_bind, safe_get, safe_bind]
    refine safe_mono (Act.wp_forEach I (fun pod _ l₂ w₂ hI => ?_) ⟨rfl, hcluster, hmeet⟩) ?_
    · obtain ⟨rfl, hcluster', hmeet'⟩ := hI
      refine safe_mono (safe_scaleDownPod_podsMeet hP hmeet' pod) ?_
      rintro _ _ w₃ ⟨rfl, hsame, hmeet''⟩
      exact ⟨rfl, hsame.trans hcluster', hmeet''⟩
    · intro _ l₂ w₂ hI
      rw [safe_ite]
      exact ⟨fun _ => trivial, fun _ => hI⟩
  have hrest : ∀ layout, Safe faulty P
      (Act.forEach (ensurePod r layout) (List.range l.spec.desiredDataInstances.toNat) >>= fun _ =>
        doWhen (l.spec.desiredDataInstances < (w.dataPods.length : Int)) (scaleDown w.dataPods) >>=
          fun _ => setInitialPrimary)
      (fun _ l' w' => Carried l l' ∧ PodsMeet φ names present w') l w := by
    intro layout
    rw [safe_bind]
    refine safe_mono (hpods layout) fun _ l' w' hI => ?_
    rw [safe_bind, safe_doWhen]
    exact ⟨fun hmany => safe_mono (hdown l' w' hI hmany) fun _ => hlast, fun _ => hlast l' w' hI⟩
  unfold reconcilePods podLayout
  rw [safe_bind, safe_wrap, safe_listDataPods]
  refine ⟨hP.quiet _ _ trivial, ?_⟩
  rw [safe_bind, safe_get, safe_bind, safe_ite]
  refine ⟨fun _ => ?_, fun _ => hrest {}⟩
  rw [safe_bind, safe_mapOrder]
  exact ⟨hP.quiet _ _ trivial, fun order => hrest _⟩

/-! ## Templates -/

/-- The pod was made from the template of this hash. -/
def MadeFrom (hash : String) (pod : Pod) : Prop :=
  pod.annotations.lookup specHashAnnotation = some hash

theorem MadeFrom.getPodSpecHash {hash : String} {pod : Pod} (h : MadeFrom hash pod) :
    getPodSpecHash pod = hash := by
  have hann : pod.annotations.lookup specHashAnnotation = some hash := h
  rw [RedisOperator.getPodSpecHash, hann]

/-- The template hash reads the spec, and nothing else of the object. -/
def HashReadsSpec (r : ClusterReconciler) : Prop :=
  ∀ l l' : RedisCluster, l'.spec = l.spec → r.computeSpecHash l' = r.computeSpecHash l

/-- New pods are made from the template of the spec. -/
theorem madeFrom_newDataPod (hhash : HashReadsSpec r) {cluster cluster' : RedisCluster}
    (hspec : cluster'.spec = cluster.spec) {podName : String} {index : Nat}
    {labels : GoMap String String} {restore : Option RestoreArgs} :
    MadeFrom (r.computeSpecHash cluster) (newDataPod r cluster' podName index labels restore) := by
  unfold MadeFrom newDataPod
  rw [GoMap.lookup_insert_self, hhash cluster cluster' hspec]

/-! ## Claims that wait for a restart -/

/-- The claim of this name waits for a restart of its pod. -/
def Waiting (w : World) (name : String) : Prop :=
  ∃ pvc ∈ w.pvcs, pvc.name = name ∧ pvc.resizePending = true

/-- What the operator writes of claims makes none wait. -/
theorem handles_waiting {c : Cmd} {answer : Reply c}
    (hc : (∃ pvc : PVC, pvc.resizePending = false ∧ c = .createPVC pvc) ∨
      ∃ before after, c = .patchPVC before after)
    (hw : Handles faulty w c answer w') {name : String} (h : Waiting w' name) : Waiting w name := by
  revert h
  refine handles_effects (Q := fun w' => Waiting w' name → Waiting w name) hw id ?_
  rcases hc with ⟨pvc, hpvc, rfl⟩ | ⟨before, after, rfl⟩
  · rintro w' hmem ⟨claim, hclaim, hname, hpending⟩
    rw [List.mem_singleton.mp hmem] at hclaim
    rcases List.mem_append.mp hclaim with hold | hnew
    · exact ⟨claim, hold, hname, hpending⟩
    · rw [List.mem_singleton.mp hnew] at hpending
      exact absurd (hpvc.symm.trans hpending) Bool.false_ne_true
  · rintro w' hmem ⟨claim, hclaim, hname, hpending⟩
    rw [List.mem_singleton.mp hmem] at hclaim
    obtain ⟨old, hold, rfl⟩ := List.mem_map.mp hclaim
    split at hname
    next heq =>
      rw [if_pos heq] at hpending
      exact ⟨old, hold, hname, hpending⟩
    next hne =>
      rw [if_neg hne] at hpending
      exact ⟨old, hold, hname, hpending⟩

theorem safe_growPVC_waiting (cluster : RedisCluster) (pvc : PVC) :
    Safe faulty (fun _ _ => True) (growPVC cluster pvc)
      (fun _ _ w' => ∀ name, Waiting w' name → Waiting w name) l w := by
  refine (local_growPVC (R := fun c => c.Quiet ∨ ∃ before after, c = .patchPVC before after)
    (fun _ => Or.inl trivial) (fun _ _ => Or.inr ⟨_, _, rfl⟩) cluster pvc).wp
    (J := fun w' => ∀ name, Waiting w' name → Waiting w name) (fun _ _ _ _ => trivial) ?_
    (fun _ hwaits => hwaits) (fun _ _ hwaits => hwaits) fun _ _ _ => trivial
  intro w₁ c answer w' hwaits hc hw name hname
  rcases hc with hquiet | hpatch
  · exact hwaits name (handles_quiet hquiet hw ▸ hname)
  · exact hwaits name (handles_waiting (Or.inr hpatch) hw hname)

/-- One claim of the loop: only claims that wait are collected. -/
theorem safe_ensurePVC_waiting (cluster : RedisCluster) (acc : PVCProgress) (index : Nat) :
    Safe faulty (fun _ _ => True) (ensurePVC cluster acc index)
      (fun acc' _ w' =>
        (∀ name ∈ acc'.pendingResizePVCs, name ∈ acc.pendingResizePVCs ∨ Waiting w name) ∧
          ∀ name, Waiting w' name → Waiting w name) l w := by
  unfold ensurePVC
  rw [safe_bind]
  refine safe_read (by trivial) trivial fun answer hans => ?_
  cases answer with
  | error err =>
    show Safe faulty _ (if err.reason ≠ .notFound then _ else _) _ l w
    rw [safe_ite]
    refine ⟨fun _ => trivial, fun _ => ?_⟩
    rw [safe_bind, safe_wrap, safe_bind, safe_ask]
    refine ⟨trivial, fun answer w' hw => safe_ofApi_of fun _ _ => ?_⟩
    exact ⟨fun _ hmem => Or.inl hmem, fun _ => handles_waiting (Or.inl ⟨_, rfl, rfl⟩) hw⟩
  | ok existing =>
    have hexisting : existing ∈ w.pvcs ∧ existing.name = pvcNameForIndex cluster.name index := by
      rcases hans with ⟨ha, -⟩ | ⟨-, ⟨message, hm⟩, -⟩
      · have hfind := found_eq_ok.mp ha.symm
        exact ⟨List.mem_of_find?_eq_some hfind, by simpa using List.find?_some hfind⟩
      · cases hm
    have hcollected : ∀ name ∈ (if existing.resizePending then
        acc.pendingResizePVCs ++ [pvcNameForIndex cluster.name index]
        else acc.pendingResizePVCs), name ∈ acc.pendingResizePVCs ∨ Waiting w name := by
      intro name hname
      split at hname
      next hpending =>
        rcases List.mem_append.mp hname with hold | hnew
        · exact Or.inl hold
        · exact Or.inr ⟨existing, hexisting.1,
            hexisting.2.trans (List.mem_singleton.mp hnew).symm, hpending⟩
      · exact Or.inl hname
    show Safe faulty _ (doWhen _ _ >>= _) _ l w
    rw [safe_bind, safe_doWhen]
    exact ⟨fun _ => safe_mono (safe_growPVC_waiting cluster existing) fun _ _ _ hwaits =>
      ⟨hcollected, hwaits⟩, fun _ => ⟨hcollected, fun _ hwaits => hwaits⟩⟩

/-- Storage work reports claims that waited when it began, and none without storage. -/
theorem safe_reconcileStorage_waiting :
    Safe faulty (fun _ _ => True) (reconcileStorage false)
      (fun pending _ _ => ∀ name ∈ pending, l.spec.isEphemeral = false ∧ Waiting w name) l w := by
  unfold reconcileStorage
  rw [safe_bind, safe_get, safe_ite, safe_pure, safe_bind, safe_doWhen]
  refine ⟨fun _ _ hno => absurd hno List.not_mem_nil, fun hpersistent =>
    ⟨fun hno => absurd hno Bool.false_ne_true, fun _ => ?_⟩⟩
  have hloop : Safe faulty (fun _ _ => True)
      ((List.range l.spec.desiredDataInstances.toNat).foldlM (ensurePVC l) {})
      (fun acc _ _ => ∀ name ∈ acc.pendingResizePVCs, Waiting w name) l w := by
    refine safe_mono (Act.wp_foldlM (fun acc _ w' =>
      (∀ name ∈ acc.pendingResizePVCs, Waiting w name) ∧
        ∀ name, Waiting w' name → Waiting w name) ?_ ?_) fun _ _ _ hI => hI.1
    · intro index _ acc l' w' hI
      refine safe_mono (safe_ensurePVC_waiting l acc index) fun acc' _ _ hstep => ?_
      exact ⟨fun name hname => (hstep.1 name hname).elim (hI.1 name) (hI.2 name),
        fun name hwaits => hI.2 name (hstep.2 name hwaits)⟩
    · exact ⟨fun _ hno => absurd hno List.not_mem_nil, fun _ hwaits => hwaits⟩
  rw [safe_wrap]
  unfold reconcilePVCs
  rw [safe_bind, safe_get, safe_bind]
  refine safe_mono hloop fun progress l' w' hpending => ?_
  have hdone : ∀ name ∈ progress.pendingResizePVCs, l.spec.isEphemeral = false ∧ Waiting w name :=
    fun name hname => ⟨by simpa using hpersistent, hpending name hname⟩
  -- what follows does not touch the list
  rw [safe_bind]
  refine safe_mono (safe_total fun _ _ _ => trivial : Safe faulty _ _ (fun _ _ _ => True) l' w')
    fun allPVCs l₁ w₁ _ => ?_
  rw [safe_bind]
  refine safe_mono (safe_total fun _ _ _ => trivial : Safe faulty _ _ (fun _ _ _ => True) l₁ w₁)
    fun pods l₂ w₂ _ => ?_
  rw [safe_bind]
  refine safe_mono (safe_total fun _ _ _ => trivial : Safe faulty _ _ (fun _ _ _ => True) l₂ w₂)
    fun time l₃ w₃ _ => ?_
  rw [safe_bind]
  exact safe_mono (safe_total fun _ _ _ => trivial : Safe faulty _ _ (fun _ _ _ => True) l₃ w₃)
    fun _ _ _ _ => hdone

/-! ## Steps 7 to 9 -/

/-- Steps 7 to 9, given that the moves may be made. -/
theorem safe_workload_podsMeet (hP : WorkGuard P) (hφ : ∀ pod labels controlled, φ pod →
      φ { pod with labels := labels, controlled := controlled })
    (hl : l = w.cluster) (hnames : names = expectedNames l) (h : PodsMeet φ names present w)
    (hnew : present = names ∨ ∀ cluster podName index labels restore, cluster.spec = l.spec →
      φ (newDataPod r cluster podName index labels restore))
    (hfew : (w.dataPods.length : Int) ≤ l.spec.desiredDataInstances ∨ present = [])
    (hmoves : ∀ pending l' w', (∀ name ∈ pending, l.spec.isEphemeral = false ∧ Waiting w name) →
      Carried l l' → PodsMeet φ names present w' →
      Safe faulty P (plannedMoves r pending) (fun _ _ _ => True) l' w')
    (maintenance : Bool) (statuses : Statuses) :
    Safe faulty P (reconcileWorkload r maintenance statuses) (fun _ _ _ => True) l w := by
  have hstore : Safe faulty P (reconcileStorage (maintenance && !maintenanceReusePVC l))
      (fun pending l' w' => StorageDone l w l' w' ∧ (maintenance = false →
        ∀ name ∈ pending, l.spec.isEphemeral = false ∧ Waiting w name)) l w := by
    refine safe_guard (only_reconcileStorage _) hP.storing
      (safe_and (safe_reconcileStorage hl _) ?_)
    cases maintenance with
    | true => exact safe_total fun _ _ _ hno => absurd hno (by decide)
    | false => exact safe_mono safe_reconcileStorage_waiting fun _ _ _ hpending _ => hpending
  unfold reconcileWorkload
  rw [safe_bind, safe_get, safe_bind]
  refine safe_mono hstore ?_
  rintro pending l₁ w₁ ⟨⟨healthy, dangling, conditions, pvcs, uid, hl₁, hw₁⟩, hpending⟩
  have hcluster : l₁ = w₁.cluster := by rw [hw₁]; rfl
  have hcarried : Carried l l₁ := by
    rw [hl₁]
    exact ⟨rfl, rfl, rfl, rfl, Or.inl rfl⟩
  have hdata : w₁.dataPods = w.dataPods := by rw [hw₁]; rfl
  have hmeet : PodsMeet φ names present w₁ := by
    rw [hw₁]
    exact ⟨h.present, h.meet⟩
  have hnames₁ : names = expectedNames l₁ := by rw [hnames, hl₁]; rfl
  have hlast : ∀ l' w', Carried l l' → PodsMeet φ names present w' →
      Safe faulty P (doWhen (maintenance = false) (plannedMoves r pending))
        (fun _ _ _ => True) l' w' := by
    intro l' w' hcarried hmeet
    rw [safe_doWhen]
    exact ⟨fun hno => hmoves pending l' w' (hpending hno) hcarried hmeet, fun _ => trivial⟩
  rw [safe_bind, safe_doWhen, safe_wrap]
  refine ⟨fun _ => ?_, fun _ => hlast l₁ w₁ hcarried hmeet⟩
  refine safe_mono (safe_reconcilePods_podsMeet hP hφ hcluster hnames₁ hmeet
    (hnew.imp_right fun hnew podName index labels restore =>
      hnew _ podName index labels restore hcarried.spec)
    (by rw [hdata, hcarried.spec]; exact hfew) statuses) fun _ l₂ w₂ hpods => ?_
  refine hlast l₂ w₂ ?_ hpods.2
  have h₂ := hpods.1
  rw [hl₁] at h₂
  exact ⟨h₂.name, h₂.spec, h₂.annotations, h₂.instancesStatus, h₂.currentPrimary⟩

end

end RedisOperator
