/-
  RedisOperator.Cluster.PassCourse

  The course of a whole pass.  For a guard that minds nothing a pass does
  before its workload (`CourseGuard`), a statement about the pass comes down to
  one about steps 7 to 9, started from a refreshed status and only if the
  reachability check let the pass go on.
-/

import RedisOperator.Cluster.TopologySpecs

namespace RedisOperator

open Lib Act

/-- A guard that minds nothing a pass does before its workload, a failover and
    the shaping of a sharded cluster apart. -/
structure CourseGuard (P : World → Cmd → Prop) : Prop extends Lenient P where
  hibernation : ∀ w name, P w (.deletePod name .hibernation)
  patchService : ∀ w before after, P w (.patchService before after)
  /-- a patch that leaves the annotations alone -/
  patchSpec : ∀ w before after, after.annotations = before.annotations →
    P w (.patchCluster before after false)

section

variable {faulty : Cmd → Prop} {P : World → Cmd → Prop} {l : RedisCluster} {w : World}
variable {statuses : Statuses}

/-! ## Hibernation -/

theorem safe_hibernate (hP : CourseGuard P) :
    Safe faulty P hibernate (fun _ _ _ => True) l w := by
  have honly : Only (fun c => ∀ w, P w c) hibernate := by
    refine (only_wrap (only_listClusterPods fun w => hP.quiet w .listPods trivial)).bind
      fun pods => ?_
    refine (Only.forEach fun pod _ => only_wrap (only_deletePod fun w => hP.hibernation w _)).bind
      fun _ => ?_
    refine (only_wrap ?_).bind fun _ => Only.get.bind fun cluster =>
      (only_now fun w => hP.quiet w .now trivial).bind fun time =>
        only_wrap (only_patchStatus fun before after w => hP.patchStatus w before after)
    refine Only.get.bind fun cluster => only_ask_bind
      (fun w => hP.quiet w (.getService _) trivial) fun r => ?_
    cases r with
    | error err => exact .ite (fun _ => .pure _) fun _ => .fail _
    | ok svc => exact only_ask_bind (fun w => hP.patchService w _ _) only_ofApi
  exact safe_of_only honly fun w c hc => hc w

theorem Resettled.spec {l l' : RedisCluster} (h : Resettled l l') : l'.spec = l.spec := by
  obtain ⟨phase, conditions, rfl⟩ := h
  rfl

theorem safe_reconcileHibernation (hP : CourseGuard P) (hl : l = w.cluster) {Q : Outcome Bool}
    (hasleep : isHibernationEnabled l = true → Safe faulty P hibernate (fun _ => Q true) l w)
    (hawake : ∀ l', Resettled l l' → Q false l' (w.store l')) :
    Safe faulty P reconcileHibernation Q l w := by
  by_cases henabled : isHibernationEnabled l = true
  · unfold reconcileHibernation
    rw [safe_bind, safe_get, if_pos henabled, safe_bind]
    exact hasleep henabled
  · obtain ⟨l', hl', hiff⟩ := safe_reconcileHibernation_awake hP.toLenient hl
      (Bool.eq_false_iff.mpr henabled)
    exact hiff.mpr (hawake l' hl')

/-! ## Up to the workload -/

/-- A pass, from its status update on. -/
theorem safe_reconcile (hP : CourseGuard P) (r : ClusterReconciler) {Q : Outcome Unit}
    (hasleep : isHibernationEnabled w.cluster = true → Safe faulty P hibernate Q w.cluster w)
    (h : ∀ statuses l', w.PollYields faulty statuses → Refreshed w statuses w.cluster l' →
      Safe faulty P (afterStatus r (isMaintenanceInProgress w.cluster) statuses) Q l'
        (w.store l')) :
    Safe faulty P (reconcile r) Q w.cluster w := by
  unfold reconcile reconcileWith reconcileGlobalResources
  simp only [safe_bind, safe_wrap, safe_runSubstep, hP.quiet w (.substep _) trivial, true_and]
  refine safe_reconcileHibernation hP rfl hasleep fun l₁ h₁ => ?_
  rw [if_neg Bool.false_ne_true, safe_bind, safe_wrap]
  obtain ⟨l₂, h₂, hiff⟩ := safe_reconcileMaintenance (l := l₁) (w := w.store l₁)
    hP.toLenient rfl
  refine hiff.mpr ?_
  have hmaintenance : isMaintenanceInProgress l₁ = isMaintenanceInProgress w.cluster := by
    unfold isMaintenanceInProgress
    rw [h₁.spec]
  rw [hmaintenance]
  exact safe_reconcileAwake hP.toLenient r _ (h₁.trans h₂) rfl h

/-- The topology step lets a pass go on only if it did nothing. -/
theorem safe_topologyReady_unchanged (maintenance : Bool) :
    Safe faulty (fun _ _ => True) (topologyReady maintenance statuses)
      (fun ready l' w' => ready = true → l' = l ∧ w' = w) l w := by
  unfold topologyReady reconcileTopology
  rw [safe_bind, safe_get, safe_ite, safe_pure, safe_bind, safe_wrap]
  refine ⟨fun hcluster => safe_mono safe_reconcileClusterBootstrap fun ready l' w' hboot => ?_,
    fun _ _ => ⟨rfl, rfl⟩⟩
  rw [safe_ite, safe_pure]
  refine ⟨fun hnot hready => absurd hready Bool.false_ne_true, fun hready => ?_⟩
  obtain ⟨rfl, rfl, -⟩ := hboot (by simpa using hready)
  rw [safe_wrap]
  refine safe_mono (safe_reconcileClusterReshard hcluster.2)
    fun ready' l'' w'' hreshard hready' => ?_
  obtain ⟨hl, hw, -⟩ := hreshard hready'
  exact ⟨hl, hw⟩

/-- Only a sharded cluster is shaped. -/
theorem safe_topologyReady_course (hshaping : l.spec.mode = .cluster → ∀ w c, c.Shaping → P w c)
    (maintenance : Bool) :
    Safe faulty P (topologyReady maintenance statuses)
      (fun ready l' w' => ready = true → l' = l ∧ w' = w) l w := by
  by_cases hmode : l.spec.mode = .cluster
  · exact safe_guard (only_topologyReady _ _) (hshaping hmode) (safe_topologyReady_unchanged _)
  · unfold topologyReady
    rw [safe_bind, safe_get, if_neg fun h => hmode h.2]
    exact fun _ => ⟨rfl, rfl⟩

/-- Unless a promotion of the replica cluster is finalised, nothing happens. -/
theorem safe_reconcileReplicaModePromotion (hP : CourseGuard P) :
    Safe faulty P (reconcileReplicaModePromotion statuses)
      (fun promoted l' w' => promoted = false → l' = l ∧ w' = w) l w := by
  unfold reconcileReplicaModePromotion
  rw [safe_bind, safe_get]
  dsimp only
  rw [safe_ite, safe_pure, safe_ite, safe_pure, safe_ite, safe_pure]
  refine ⟨fun _ _ => ⟨rfl, rfl⟩, fun _ => ⟨fun _ _ => ⟨rfl, rfl⟩, fun _ =>
    ⟨fun _ _ => ⟨rfl, rfl⟩, fun _ => ?_⟩⟩⟩
  have hdisable : Safe faulty P disableReplicaMode (fun _ _ _ => True) l w := by
    unfold disableReplicaMode
    rw [safe_bind, safe_get, safe_bind, safe_wrap]
    unfold patchCluster
    rw [safe_bind, safe_get, safe_bind, safe_ask]
    refine ⟨hP.patchSpec _ _ _ rfl, fun r w' _ => ?_⟩
    cases r with
    | error err => trivial
    | ok stored =>
      have hread : Only (fun c => ∀ w, P w c)
          (wrap "refetching cluster after replicaMode promotion patch"
            (ask .getCluster >>= ofApi) >>=
            Act.set) :=
        (only_wrap (only_ask_bind (fun w => hP.quiet w .getCluster trivial) only_ofApi)).bind
          fun stored => .set stored
      exact safe_of_only hread fun w c hc => hc w
  have hrecord : Only (fun c => ∀ w, P w c) recordPromotion :=
    Only.get.bind fun _ => (only_now fun w => hP.quiet w .now trivial).bind fun _ =>
      only_wrap (only_patchStatus fun before after w => hP.patchStatus w before after)
  have hfinish : ∀ l w, Safe faulty P (Act.get >>= fun current : RedisCluster =>
      doWhen (replicaModePromotedConditionSet current = false) recordPromotion >>= fun _ =>
        pure true)
      (fun promoted _ _ => promoted = true) l w := by
    intro l w
    rw [safe_bind, safe_get, safe_bind]
    exact safe_mono (safe_of_only (only_doWhen fun _ => hrecord) fun w c hc => hc w)
      fun _ _ _ _ => rfl
  have hpromoted : ∀ promoted : Bool, promoted = true → ∀ φ : Prop, promoted = false → φ :=
    fun promoted hyes φ hno => absurd (hyes.symm.trans hno) (by decide)
  rw [safe_bind, safe_doWhen]
  refine ⟨fun _ => safe_mono hdisable fun _ l' w' _ => ?_, fun _ => ?_⟩
  · exact safe_mono (hfinish l' w') fun promoted _ _ hyes => hpromoted promoted hyes _
  · exact safe_mono (hfinish l w) fun promoted _ _ hyes => hpromoted promoted hyes _

/-- The status update changes nothing the failover test reads. -/
theorem Refreshed.shouldTriggerFailover {l' : RedisCluster} (h : Refreshed w statuses l l') :
    shouldTriggerFailover l' statuses = RedisOperator.shouldTriggerFailover l statuses := by
  unfold RedisOperator.shouldTriggerFailover isReplicaModeEnabled
  rw [h.spec]
  by_cases hmode : l.spec.mode = .cluster
  · simp only [hmode, ↓reduceIte]
  · rw [h.currentPrimary hmode]

/-- Steps 5.3 to 9, by the ways a pass can take there. -/
theorem safe_reconcileInstances (r : ClusterReconciler) {Q : Outcome Unit}
    {maintenance : Bool} {l' : RedisCluster} (hfresh : Refreshed w statuses w.cluster l')
    (hpromotion : Safe faulty P (reconcileReplicaModePromotion statuses) (fun promoted l₁ w₁ =>
      (promoted = true → Q () l₁ w₁) ∧ (promoted = false → l₁ = l' ∧ w₁ = w.store l'))
      l' (w.store l'))
    (hfailover : maintenance = false → shouldTriggerFailover w.cluster statuses = true →
      Safe faulty P failover Q l' (w.store l'))
    (hunreached : checkReachability w.cluster statuses = true → Q () l' (w.store l'))
    (hwork : checkReachability w.cluster statuses = false →
      Safe faulty P (reconcileWorkload r maintenance statuses) Q l' (w.store l')) :
    Safe faulty P (reconcileInstances r maintenance statuses) Q l' (w.store l') := by
  have hreach : checkReachability l' statuses = checkReachability w.cluster statuses := by
    unfold checkReachability
    rw [hfresh.spec]
  unfold reconcileInstances
  rw [safe_bind, safe_wrap]
  refine safe_mono hpromotion fun promoted l₁ w₁ hgoes => ?_
  rw [safe_ite]
  refine ⟨hgoes.1, fun hno => ?_⟩
  obtain ⟨rfl, rfl⟩ := hgoes.2 (by simpa using hno)
  rw [safe_bind, safe_get, safe_ite, safe_ite, safe_wrap, hfresh.shouldTriggerFailover, hreach]
  exact ⟨fun hgo => hfailover hgo.1 hgo.2,
    fun _ => ⟨hunreached, fun hreachable => hwork (by simpa using hreachable)⟩⟩

/-- The second half of a pass: a failover, or the workload. -/
theorem safe_afterStatus (hP : CourseGuard P) (r : ClusterReconciler)
    (hshaping : w.cluster.spec.mode = .cluster → ∀ w c, c.Shaping → P w c) {maintenance : Bool}
    {l' : RedisCluster} (hfresh : Refreshed w statuses w.cluster l')
    (hfailover : maintenance = false → shouldTriggerFailover w.cluster statuses = true →
      Safe faulty P failover (fun _ _ _ => True) l' (w.store l'))
    (hwork : checkReachability w.cluster statuses = false →
      Safe faulty P (reconcileWorkload r maintenance statuses) (fun _ _ _ => True) l'
      (w.store l')) :
    Safe faulty P (afterStatus r maintenance statuses) (fun _ _ _ => True) l' (w.store l') := by
  unfold afterStatus
  rw [safe_bind]
  refine safe_mono (safe_topologyReady_course (by rw [hfresh.spec]; exact hshaping) _)
    fun ready l₁ w₁ hsame => ?_
  rw [safe_ite]
  refine ⟨fun _ => trivial, fun hready => ?_⟩
  obtain ⟨rfl, rfl⟩ := hsame (by simpa using hready)
  refine safe_reconcileInstances r hfresh ?_ hfailover (fun _ => trivial) hwork
  exact safe_mono (safe_reconcileReplicaModePromotion hP) fun _ _ _ hsame =>
    ⟨fun _ => trivial, hsame⟩

/-- A pass, from its workload on, if it does not fail over. -/
theorem safe_reconcile_workload (hP : CourseGuard P) (r : ClusterReconciler)
    (hshaping : w.cluster.spec.mode = .cluster → ∀ w c, c.Shaping → P w c)
    (hsteady : ∀ statuses, w.PollYields faulty statuses →
      shouldTriggerFailover w.cluster statuses = false)
    (h : ∀ statuses l', w.PollYields faulty statuses → Refreshed w statuses w.cluster l' →
      checkReachability w.cluster statuses = false →
      Safe faulty P (reconcileWorkload r (isMaintenanceInProgress w.cluster) statuses)
        (fun _ _ _ => True) l' (w.store l')) :
    Safe faulty P (reconcile r) (fun _ _ _ => True) w.cluster w := by
  refine safe_reconcile hP r (fun _ => safe_hibernate hP) fun statuses l' hpoll hfresh => ?_
  refine safe_afterStatus hP r hshaping hfresh (fun _ htrigger => ?_) (h statuses l' hpoll hfresh)
  exact absurd ((hsteady statuses hpoll).symm.trans htrigger) Bool.false_ne_true

end

end RedisOperator
