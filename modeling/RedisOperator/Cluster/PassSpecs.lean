/-
  RedisOperator.Cluster.PassSpecs

  The course of one pass, up to the point where modes part ways.  Whatever is
  guarded (a kind of deletion, a kind of post), a pass first settles
  hibernation and maintenance, polls, and rewrites the status; `safe_reconcile`
  reduces a statement about the whole pass to one about its second half,
  started from a refreshed status (`Refreshed`).
-/

import RedisOperator.Cluster.Specs

namespace RedisOperator

open Lib Act

/-- A guard that minds neither reads nor writes of the status. -/
structure Lenient (P : World → Cmd → Prop) : Prop where
  quiet : ∀ w c, c.Quiet → P w c
  patchStatus : ∀ w before after, P w (.patchStatus before after)

/-! ## What a poll yields -/

namespace World

/-- One pod of the poll. -/
def pollOne (w : World) (statuses : Statuses) (pod : Pod) : Statuses :=
  if pod.podIP = "" then statuses
  else
    match w.answers pod.podIP with
    | none => statuses.insert pod.name {}
    | some response => statuses.insert pod.name (instanceStatusOf response w.clock)

/-- The statuses a poll of this world yields. -/
def polled (w : World) : Statuses := w.dataPods.foldl w.pollOne ∅

/-- What a poll can yield: the statuses, or nothing if the list of pods fails. -/
def PollYields (faulty : Cmd → Prop) (w : World) (statuses : Statuses) : Prop :=
  statuses = w.polled ∨ (faulty .listPods ∧ statuses = ∅)

end World

/-! ## What a status update writes -/

/-- The status `updateStatus` writes. -/
def refreshedStatus (order : MapOrder) (l : RedisCluster) (w : World)
    (statuses : Statuses) : RedisClusterStatus :=
  let counted := withCounters l.status statuses
  let derived :=
    if l.spec.mode = .cluster then
      withShards counted
        (deriveClusterStatus order { l with status := counted } w.dataPods statuses)
    else withoutShards counted
  let sentinelReady : Int :=
    if l.spec.mode ≠ .sentinel then 0
    else ((w.pods.filter fun pod => !pod.isData).filter fun pod =>
      pod.conditions.any fun c => c.type = "Ready" && c.isTrue).length
  withSummary l { derived with sentinelReadyInstances := sentinelReady } statuses w.clock

/-- `l'` is `l` with the status of a pass that saw `statuses`.  Before the
    update only phase and conditions have been touched. -/
def Refreshed (w : World) (statuses : Statuses) (l l' : RedisCluster) : Prop :=
  ∃ (phase : ClusterPhase) (conditions : List Condition) (order : MapOrder),
    let before := { l with status := { l.status with phase := phase, conditions := conditions } }
    l' = { before with status := refreshedStatus order before w statuses }

namespace Refreshed

variable {w : World} {statuses : Statuses} {l l' : RedisCluster}

variable (h : Refreshed w statuses l l')
include h

theorem name : l'.name = l.name := by
  obtain ⟨phase, conditions, order, rfl⟩ := h
  rfl

theorem spec : l'.spec = l.spec := by
  obtain ⟨phase, conditions, order, rfl⟩ := h
  rfl

theorem annotations : l'.annotations = l.annotations := by
  obtain ⟨phase, conditions, order, rfl⟩ := h
  rfl

theorem instancesStatus :
    l'.status.instancesStatus = statuses := by
  obtain ⟨phase, conditions, order, rfl⟩ := h
  by_cases hm : l.spec.mode = .cluster <;>
    simp [refreshedStatus, withSummary, withShards, withoutShards, withCounters, hm]

theorem currentPrimary (hmode : l.spec.mode ≠ .cluster) :
    l'.status.currentPrimary = l.status.currentPrimary := by
  obtain ⟨phase, conditions, order, rfl⟩ := h
  simp [refreshedStatus, withSummary, withoutShards, withCounters, hmode]

end Refreshed

section

variable {faulty : Cmd → Prop} {P : World → Cmd → Prop} {l : RedisCluster} {w : World}

/-! ## The steps -/

theorem wp_pollPod (hP : Lenient P) {F : String → World → Prop}
    {m : Statuses} {pod : Pod} {Q : Outcome Statuses} :
    wp (Handles faulty) P (pollPod m pod) Q F l w ↔ Q (w.pollOne m pod) l w := by
  unfold pollPod World.pollOne
  by_cases hip : pod.podIP = ""
  · simp [hip]
  · rw [if_neg hip, if_neg hip, wp_bind]
    show (P w _ ∧ _) ↔ _
    rw [and_iff_right (hP.quiet w (.getStatus pod.podIP) trivial)]
    have hnow : ∀ response : PodStatusResponse,
        wp (Handles faulty) P
          (now >>= fun seen => pure (m.insert pod.name (instanceStatusOf response seen))) Q F l w ↔
        Q (m.insert pod.name (instanceStatusOf response w.clock)) l w := by
      intro response
      rw [wp_bind]
      constructor
      · exact fun h => h.2 w.clock w (Or.inl ⟨rfl, rfl⟩)
      · intro h
        refine ⟨hP.quiet w .now trivial, ?_⟩
        rintro time w' (⟨rfl, rfl⟩ | ⟨-, hfail, -⟩)
        · exact h
        · exact hfail.elim
    cases hans : w.answers pod.podIP with
    | none =>
      constructor
      · intro h
        refine h (.error "") w (Or.inl ?_)
        simp [Answers, hans]
      · rintro h r w' (ha | ⟨-, hfail, -⟩)
        · simp only [Answers, hans] at ha
          obtain ⟨⟨message, rfl⟩, rfl⟩ := ha
          exact h
        · exact hfail.elim
    | some response =>
      constructor
      · intro h
        refine (hnow response).mp (h (.ok response) w (Or.inl ?_))
        simp [Answers, hans]
      · rintro h r w' (ha | ⟨-, hfail, -⟩)
        · simp only [Answers, hans] at ha
          obtain ⟨rfl, rfl⟩ := ha
          exact (hnow response).mpr h
        · exact hfail.elim

theorem safe_pollOrNone (hP : Lenient P) {Q : Outcome Statuses} :
    Safe faulty P pollOrNone Q l w ↔ ∀ statuses, w.PollYields faulty statuses → Q statuses l w := by
  unfold Safe pollOrNone pollInstanceStatuses wrap
  rw [wp_bind, wp_attempt, wp_bind, wp_context, wp_listDataPods,
    wp_foldlM_iff fun m pod Q => wp_pollPod hP]
  constructor
  · rintro ⟨-, hok, herr⟩ statuses (rfl | ⟨hf, rfl⟩)
    · exact hok
    · exact herr hf ""
  · intro h
    exact ⟨hP.quiet w .listPods trivial, h _ (Or.inl rfl), fun hf _ => h ∅ (Or.inr ⟨hf, rfl⟩)⟩

variable {statuses : Statuses}

theorem safe_deriveStatus (hP : Lenient P) {Q : Outcome RedisClusterStatus} :
    Safe faulty P (deriveStatus statuses) Q l w ↔ ∀ order,
      Q (if l.spec.mode = .cluster then
          withShards (withCounters l.status statuses)
            (deriveClusterStatus order { l with status := withCounters l.status statuses }
              w.dataPods statuses)
        else withoutShards (withCounters l.status statuses)) l w := by
  unfold deriveStatus
  rw [safe_bind, safe_get]
  by_cases hm : l.spec.mode = .cluster
  · simp only [hm, ↓reduceIte]
    rw [safe_bind, safe_wrap, safe_listDataPods, safe_bind, safe_mapOrder]
    simp only [hP.quiet w .listPods trivial, hP.quiet w .mapOrder trivial, true_and, safe_pure]
  · simp only [hm, ↓reduceIte, safe_pure]
    exact ⟨fun h _ => h, fun h => h MapOrder.stored⟩

theorem safe_countReadySentinelPods (hP : Lenient P) {Q : Outcome Int} :
    Safe faulty P countReadySentinelPods Q l w ↔
      Q (if l.spec.mode ≠ .sentinel then 0
        else ((w.pods.filter fun pod => !pod.isData).filter fun pod =>
          pod.conditions.any fun c => c.type = "Ready" && c.isTrue).length) l w := by
  unfold countReadySentinelPods
  rw [safe_bind, safe_get]
  by_cases hm : l.spec.mode = .sentinel
  · simp only [hm, ne_eq, not_true_eq_false, ↓reduceIte, safe_bind, safe_listSentinelPods,
      hP.quiet w .listPods trivial, true_and, safe_pure]
  · simp only [hm, ne_eq, not_false_eq_true, ↓reduceIte, safe_pure]

variable {Q : Outcome Unit}

theorem safe_updateStatus (hP : Lenient P) (hl : l = w.cluster) :
    Safe faulty P (updateStatus statuses) Q l w ↔ ∀ order,
      Q () { l with status := refreshedStatus order l w statuses }
        (w.store { l with status := refreshedStatus order l w statuses }) := by
  unfold updateStatus
  rw [safe_bind, safe_get, safe_bind, safe_deriveStatus hP]
  refine forall_congr' fun order => ?_
  rw [safe_bind, safe_wrap, safe_countReadySentinelPods hP, safe_bind, safe_now,
    and_iff_right (hP.quiet w .now trivial)]
  show Safe faulty P (if l.status = refreshedStatus order l w statuses then pure ()
    else patchStatus (refreshedStatus order l w statuses)) Q l w ↔ _
  by_cases heq : l.status = refreshedStatus order l w statuses
  · rw [if_pos heq, safe_pure, ← heq]
    subst hl
    exact Iff.rfl
  · rw [if_neg heq, safe_patchStatus hl, and_iff_right (hP.patchStatus ..)]

theorem canReturn_deriveStatus {Q : Outcome RedisClusterStatus} (order : MapOrder)
    (h : Q (if l.spec.mode = .cluster then
        withShards (withCounters l.status statuses)
          (deriveClusterStatus order { l with status := withCounters l.status statuses }
            w.dataPods statuses)
      else withoutShards (withCounters l.status statuses)) l w) :
    CanReturn faulty (deriveStatus statuses) Q l w := by
  unfold deriveStatus
  rw [canReturn_bind, canReturn_get]
  split at h
  · rename_i hmode
    rw [if_pos hmode, canReturn_bind, canReturn_wrap]
    exact canReturn_listDataPods (canReturn_bind.mpr (canReturn_ask order w rfl h))
  · rename_i hmode
    rw [if_neg hmode]
    exact h

theorem canReturn_countReadySentinelPods {Q : Outcome Int} (h : Q (if l.spec.mode ≠ .sentinel then 0
      else ((w.pods.filter fun pod => !pod.isData).filter fun pod =>
        pod.conditions.any fun c => c.type = "Ready" && c.isTrue).length) l w) :
    CanReturn faulty countReadySentinelPods Q l w := by
  unfold countReadySentinelPods
  rw [canReturn_bind, canReturn_get]
  split at h
  · rename_i hmode
    rw [if_pos hmode]
    exact h
  · rename_i hmode
    rw [if_neg hmode, canReturn_bind]
    exact canReturn_bind.mpr (canReturn_listClusterPods h)

/-- Some answers let the status update write what it derives. -/
theorem canReturn_updateStatus (hl : l = w.cluster) (order : MapOrder)
    (h : Q () { l with status := refreshedStatus order l w statuses }
      (w.store { l with status := refreshedStatus order l w statuses })) :
    CanReturn faulty (updateStatus statuses) Q l w := by
  unfold updateStatus
  rw [canReturn_bind, canReturn_get, canReturn_bind]
  refine canReturn_deriveStatus order ?_
  rw [canReturn_bind, canReturn_wrap]
  refine canReturn_countReadySentinelPods ?_
  rw [canReturn_bind]
  refine canReturn_now ?_
  show CanReturn faulty (if l.status = refreshedStatus order l w statuses then pure ()
    else patchStatus (refreshedStatus order l w statuses)) Q l w
  by_cases heq : l.status = refreshedStatus order l w statuses
  · rw [if_pos heq, canReturn_pure]
    rw [← heq] at h
    subst hl
    exact h
  · rw [if_neg heq]
    exact canReturn_patchStatus hl h

/-- A write of the status that only changes phase and conditions. -/
def Resettled (l l' : RedisCluster) : Prop :=
  ∃ (phase : ClusterPhase) (conditions : List Condition),
    l' = { l with status := { l.status with phase := phase, conditions := conditions } }

theorem Resettled.refl (l : RedisCluster) : Resettled l l :=
  ⟨l.status.phase, l.status.conditions, rfl⟩

theorem Resettled.trans {l l' l'' : RedisCluster} (h : Resettled l l') (h' : Resettled l' l'') :
    Resettled l l'' := by
  obtain ⟨phase, conditions, rfl⟩ := h
  obtain ⟨phase', conditions', rfl⟩ := h'
  exact ⟨phase', conditions', rfl⟩

/-- An awake cluster goes on, with phase and conditions settled. -/
theorem safe_reconcileHibernation_awake (hP : Lenient P) (hl : l = w.cluster)
    (hawake : isHibernationEnabled l = false) {Q : Outcome Bool} :
    ∃ l', Resettled l l' ∧
      (Safe faulty P reconcileHibernation Q l w ↔ Q false l' (w.store l')) := by
  unfold reconcileHibernation
  by_cases hphase : l.status.phase = .hibernating
  · refine ⟨_, ⟨.creating, setCondition l.status.conditions (hibernatedCondition false w.clock),
      rfl⟩, ?_⟩
    simp [hawake, hphase, resumeFromHibernation, safe_patchStatus hl, hP.quiet w .now trivial,
      hP.patchStatus]
  · refine ⟨l, .refl l, ?_⟩
    subst hl
    simp only [safe_bind, safe_get, hawake, Bool.false_eq_true, ↓reduceIte, safe_doWhen, hphase,
      IsEmpty.forall_iff, not_false_eq_true, forall_const, true_and, safe_pure]
    exact Iff.rfl

theorem safe_recordMaintenance (hP : Lenient P) (hl : l = w.cluster) {inProgress : Bool}
    {what : String} : ∃ l', Resettled l l' ∧
      (Safe faulty P (recordMaintenance inProgress what) Q l w ↔ Q () l' (w.store l')) := by
  refine ⟨_, ⟨l.status.phase,
    setCondition l.status.conditions (maintenanceCondition inProgress w.clock), rfl⟩, ?_⟩
  unfold recordMaintenance
  rw [safe_bind, safe_now, and_iff_right (hP.quiet w .now trivial), safe_bind, safe_get, safe_wrap,
    safe_patchStatus hl, and_iff_right (hP.patchStatus ..)]

/-- `reconcileMaintenance` reports the window and settles its condition. -/
theorem safe_reconcileMaintenance (hP : Lenient P) (hl : l = w.cluster) {Q : Outcome Bool} :
    ∃ l', Resettled l l' ∧
      (Safe faulty P reconcileMaintenance Q l w ↔
        Q (isMaintenanceInProgress l) l' (w.store l')) := by
  have hself : w.store l = w := by
    subst hl
    rfl
  unfold reconcileMaintenance
  by_cases hm : isMaintenanceInProgress l = true
  · by_cases hr : maintenanceRecorded l = true
    · refine ⟨l, .refl l, ?_⟩
      simp [hm, hr, hP.quiet w (.substep .deletePDB) trivial, hself]
    · obtain ⟨l', hl', h⟩ := @safe_recordMaintenance faulty P l w
        (fun _ l w => Q true l w) hP hl true "patching status for maintenance start"
      refine ⟨l', hl', ?_⟩
      simp [hm, hr, hP.quiet w (.substep .deletePDB) trivial, h]
  · by_cases hr : maintenanceRecorded l = true
    · obtain ⟨l', hl', h⟩ := @safe_recordMaintenance faulty P l w
        (fun _ l w => Q false l w) hP hl false "patching status after maintenance end"
      refine ⟨l', hl', ?_⟩
      simp [hm, hr, h]
    · refine ⟨l, .refl l, ?_⟩
      simp [hm, hr, hself]

/-! ## The first half of a pass -/

/-- The second half of a pass, after the status update. -/
def afterStatus (r : ClusterReconciler) (maintenance : Bool)
    (statuses : Statuses) : Op Unit := do
  let ready ← topologyReady maintenance statuses
  if ready = false then pure () else reconcileInstances r maintenance statuses

/-- The status update, and what follows it. -/
theorem safe_afterPoll (hP : Lenient P) (r : ClusterReconciler) (maintenance : Bool)
    {Q : Outcome Unit} {l₀ : RedisCluster} (h₀ : Resettled l₀ l)
    (hl : l = w.cluster) (h : ∀ l', Refreshed w statuses l₀ l' →
      Safe faulty P (afterStatus r maintenance statuses) Q l' (w.store l')) :
    Safe faulty P (wrap "updating status" (updateStatus statuses) >>= fun _ =>
      afterStatus r maintenance statuses) Q l w := by
  rw [safe_bind, safe_wrap, safe_updateStatus hP hl]
  intro order
  obtain ⟨phase, conditions, rfl⟩ := h₀
  exact h _ ⟨phase, conditions, order, rfl⟩

theorem safe_reconcileAwake (hP : Lenient P) (r : ClusterReconciler) (maintenance : Bool)
    {Q : Outcome Unit} {l₀ : RedisCluster} (h₀ : Resettled l₀ l)
    (hl : l = w.cluster) :
    (∀ statuses l', w.PollYields faulty statuses → Refreshed w statuses l₀ l' →
        Safe faulty P (afterStatus r maintenance statuses) Q l' (w.store l')) →
      Safe faulty P (reconcileAwake r maintenance) Q l w := by
  intro h
  unfold reconcileAwake reconcileAwakeWith
  rw [safe_bind, safe_wrap, safe_runSubstep, safe_bind, safe_wrap, safe_runSubstep, safe_bind,
    safe_wrap, safe_runSubstep, safe_bind, safe_pollOrNone hP]
  refine ⟨hP.quiet _ _ trivial, hP.quiet _ _ trivial, hP.quiet _ _ trivial, ?_⟩
  exact fun statuses hpoll => safe_afterPoll hP r maintenance h₀ hl (h statuses · hpoll)

end

end RedisOperator
