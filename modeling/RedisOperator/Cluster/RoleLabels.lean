/-
  RedisOperator.Cluster.RoleLabels

  The labels `redis.io/role` of a standalone cluster.  `reconcilePods` writes
  them, once per ordinal and from the primary the status names at that moment.
  A failover ends the pass before that step and a switchover comes after it, so
  the labels follow a move of the primary role one pass late at best.

  Whatever moves the role has taken, one pass that gets to the pods and moves
  nobody brings the labels back in step, and passes that move nobody keep them
  so.  Such a pass is one that orders no promotion (`NoPromotion`), and may be
  looked at in an environment that answers no such order.
-/

import RedisOperator.Cluster.LeaderService
import RedisOperator.Cluster.SentinelAuthority

namespace RedisOperator

open Lib Act

/-! ## Labels and primary -/

/-- The pod carries `redis.io/role=primary`. -/
def Pod.CarriesPrimary (pod : Pod) : Prop := pod.labels.get labelRole = labelRolePrimary

instance (pod : Pod) : Decidable pod.CarriesPrimary :=
  inferInstanceAs (Decidable (pod.labels.get labelRole = labelRolePrimary))

/-- A standalone cluster whose pods, those in `todo` aside, are labelled as
    primary exactly if they lead. -/
structure Labelled (todo : List String) (w : World) : Prop where
  mode : w.cluster.spec.mode = .standalone
  named : ∀ pod ∈ w.pods, pod.name ≠ ""
  roles : ∀ pod ∈ w.pods, pod.name ∉ todo → (pod.CarriesPrimary ↔ Leads w.cluster pod.name)

/-- Requests that write neither the object nor a label. -/
def Cmd.SparesRoles : Cmd → Prop
  | .patchCluster .. | .patchStatus .. | .createPod _ | .patchPod .. => False
  | _ => True

theorem Cmd.Modest.sparesRoles {c : Cmd} (h : c.Modest) : c.SparesRoles := by
  cases c <;> first | exact trivial | exact h

section

variable {faulty : Cmd → Prop} {l : RedisCluster} {w w' : World} {todo todo' : List String}

theorem handles_sparesRoles {c : Cmd} {r : Reply c} (hc : c.SparesRoles)
    (h : Handles faulty w c r w') :
    w'.cluster = w.cluster ∧ ∀ pod ∈ w'.pods, pod ∈ w.pods := by
  refine handles_effects (Q := fun w' => w'.cluster = w.cluster ∧ ∀ pod ∈ w'.pods, pod ∈ w.pods) h
    ⟨rfl, fun _ hpod => hpod⟩ ?_
  cases c with
  | patchCluster | patchStatus | createPod | patchPod => exact hc.elim
  | deletePod name reason =>
    intro w' hw
    rw [List.mem_singleton.mp hw]
    exact ⟨rfl, fun _ => List.mem_of_mem_filter⟩
  | _ => simp [Cmd.effects]

theorem Labelled.not_cluster (h : Labelled todo w) : w.cluster.spec.mode ≠ .cluster := by
  rw [h.mode]
  decide

theorem Labelled.sparesRoles (h : Labelled todo w) {c : Cmd} {r : Reply c} (hc : c.SparesRoles)
    (hr : Handles faulty w c r w') : Labelled todo w' := by
  obtain ⟨hcluster, hpods⟩ := handles_sparesRoles hc hr
  refine ⟨hcluster ▸ h.mode, fun pod hpod => h.named pod (hpods pod hpod), fun pod hpod => ?_⟩
  rw [hcluster]
  exact h.roles pod (hpods pod hpod)

/-- A write of the object that leaves mode and lead alone. -/
theorem Labelled.store (h : Labelled todo w) (hmode : l.spec.mode = w.cluster.spec.mode)
    (hleads : ∀ name, name ≠ "" → (Leads l name ↔ Leads w.cluster name)) :
    Labelled todo (w.store l) :=
  ⟨hmode.trans h.mode, h.named, fun pod hpod hdone =>
    (h.roles pod hpod hdone).trans (hleads pod.name (h.named pod hpod)).symm⟩

/-- To name the first primary changes nobody's lead. -/
theorem SameLead.leads {status : RedisClusterStatus} (h : SameLead l status)
    (hmode : l.spec.mode ≠ .cluster) {name : String} (hname : name ≠ "") :
    Leads { l with status := status } name ↔ Leads l name := by
  unfold Leads
  rcases h hmode with hsame | ⟨hnone, hfirst⟩
  · simp only [hsame]
  · simp only [hnone, hfirst, podNameForIndex_ne_empty, false_and, or_false, hname, true_and,
      false_or]

/-- The role the creation loop gives an ordinal. -/
theorem dataPodRole_primary_iff (hmode : l.spec.mode ≠ .cluster) (layout : ShardLayout)
    (index : Nat) :
    dataPodRole l layout index = labelRolePrimary ↔ Leads l (podNameForIndex l.name index) := by
  have hroles : labelRoleReplica ≠ labelRolePrimary := by decide
  unfold dataPodRole Leads
  simp only [hmode, ↓reduceIte, podNameForIndex_inj]
  split
  next hleads => exact iff_of_true rfl hleads
  next hno => exact iff_of_false hroles hno

/-! ## One write -/

/-- The pod that is patched is dealt with. -/
theorem Labelled.relabel (h : Labelled todo w) {before after : Pod}
    (hsub : todo ⊆ before.name :: todo')
    (hafter : after.CarriesPrimary ↔ Leads w.cluster before.name) :
    Labelled todo' (w.withPods (w.pods.map (relabelled before after))) := by
  refine ⟨h.mode, fun pod hpod => ?_, fun pod hpod => ?_⟩
  all_goals
    obtain ⟨old, hold, rfl⟩ := List.mem_map.mp hpod
    rw [relabelled_name]
  · exact h.named old hold
  · unfold relabelled
    split
    next hname =>
      rw [hname]
      exact fun _ => hafter
    next hname =>
      exact fun hdone => h.roles old hold fun hmem =>
        (List.mem_cons.mp (hsub hmem)).elim hname hdone

/-- So is a new one. -/
theorem Labelled.append (h : Labelled todo w) {pod : Pod} (hsub : todo ⊆ pod.name :: todo')
    (hnew : w.findPod pod.name = none) (hname : pod.name ≠ "")
    (hpod : pod.CarriesPrimary ↔ Leads w.cluster pod.name) :
    Labelled todo' (w.withPods (w.pods ++ [pod])) := by
  refine ⟨h.mode, fun other hother => ?_, fun other hother hdone => ?_⟩
  all_goals
    rcases List.mem_append.mp hother with hold | hlast
  · exact h.named other hold
  · rw [List.mem_singleton.mp hlast]
    exact hname
  · refine h.roles other hold fun hmem => ?_
    rcases List.mem_cons.mp (hsub hmem) with hsame | hrest
    · exact World.findPod_eq_none.mp hnew (hsame ▸ List.mem_map_of_mem hold)
    · exact hdone hrest
  · rw [List.mem_singleton.mp hlast]
    exact hpod

theorem Labelled.patchPod (h : Labelled todo w) {before after : Pod}
    (hafter : after.CarriesPrimary ↔ Leads w.cluster before.name) {answer : Api Unit}
    (hr : Handles faulty w (.patchPod before after) answer w') : Labelled todo w' := by
  rcases handles_cases hr with rfl | ⟨answer', ha⟩
  · exact h
  rcases answers_patchPod ha with ⟨-, rfl⟩ | rfl
  · exact h
  · exact h.relabel (List.subset_cons_self _ _) hafter

theorem Labelled.createPod (h : Labelled todo w) {pod : Pod} (hname : pod.name ≠ "")
    (hpod : pod.CarriesPrimary ↔ Leads w.cluster pod.name) {answer : Api Unit}
    (hr : Handles faulty w (.createPod pod) answer w') : Labelled todo w' := by
  rcases handles_cases hr with rfl | ⟨answer', ha⟩
  · exact h
  rcases answers_createPod ha with ⟨-, rfl⟩ | ⟨hnew, rfl⟩
  · exact h
  · exact h.append (List.subset_cons_self _ _) hnew hname hpod

end

section

variable {l : RedisCluster} {w : World} {todo : List String} {layout : ShardLayout} {index : Nat}

theorem Holding.merged_role (h : Holding (Labelled todo) l w) {before after : Pod}
    (hname : before.name = podNameForIndex l.name index)
    (hlabels : after.labels = mergeLabels before.labels (dataPodLabels l layout index)) :
    after.CarriesPrimary ↔ Leads w.cluster before.name := by
  obtain ⟨rfl, h⟩ := h
  unfold Pod.CarriesPrimary
  rw [hlabels, mergeLabels_get (dataPodLabels_role w.cluster layout index), hname]
  exact dataPodRole_primary_iff h.not_cluster layout index

theorem Holding.new_role (h : Holding (Labelled todo) l w) {pod : Pod}
    (hname : pod.name = podNameForIndex l.name index)
    (hlabels : pod.labels = dataPodLabels l layout index) :
    pod.CarriesPrimary ↔ Leads w.cluster pod.name := by
  obtain ⟨rfl, h⟩ := h
  unfold Pod.CarriesPrimary
  rw [hlabels, GoMap.get_of_lookup (dataPodLabels_role w.cluster layout index), hname]
  exact dataPodRole_primary_iff h.not_cluster layout index

end

/-! ## A pass that orders no promotion -/

section

variable {faulty : Cmd → Prop} {l : RedisCluster} {w : World} {r : ClusterReconciler}
variable {todo : List String}

/-- The environment that answers no order to become master. -/
abbrev HandlesNoPromotion (faulty : Cmd → Prop) : Prog.Handler Cmd Reply World :=
  Prog.restrict (fun _ => NoPromotion) (Handles faulty)

theorem HandlesNoPromotion.handles (w : World) (c : Cmd) (r : Reply c) (w' : World)
    (h : HandlesNoPromotion faulty w c r w') : Handles faulty w c r w' := h.2

/-- The action keeps the labels in step there, if it returns. -/
abbrev KeepsLabels (faulty : Cmd → Prop) (todo : List String) {α : Type} (x : Op α) : Prop :=
  KeepsUnder (HandlesNoPromotion faulty) (fun _ _ => True) (Holding (Labelled todo))
    (fun _ => True) x

theorem routine_labelled : Routine (HandlesNoPromotion faulty) (fun _ _ => True)
    (Holding (Labelled todo)) (fun _ => True) Cmd.SparesRoles where
  stop _ := trivial
  quiet _ hc := hc.modest.sparesRoles
  guard _ _ _ := trivial
  carry c r w' h hc hr :=
    ⟨h.1.trans (handles_sparesRoles hc hr.2).1.symm, h.2.sparesRoles hc hr.2⟩
  status status h hlead := by
    obtain ⟨rfl, h⟩ := h
    exact wp_restrict ((safe_patchStatus rfl).mpr ⟨trivial, rfl,
      h.store rfl fun _ hname => hlead.leads h.not_cluster hname⟩)

theorem wp_patchCluster_labelled {after : RedisCluster} (lock : Bool)
    (h : Holding (Labelled todo) l w) (hmode : after.spec.mode = l.spec.mode) :
    wp (HandlesNoPromotion faulty) (fun _ _ => True) (patchCluster after lock)
      (fun _ => Holding (Labelled todo)) (fun _ _ => True) l w := by
  obtain ⟨rfl, h⟩ := h
  exact wp_restrict ((safe_patchCluster rfl).mpr ⟨trivial, rfl,
    h.store hmode fun _ _ => Iff.rfl⟩)

theorem keeps_ensurePod_labelled (r : ClusterReconciler) (layout : ShardLayout) (index : Nat) :
    KeepsLabels faulty todo (ensurePod r layout index) := by
  refine routine_labelled.keeps_ensurePod HandlesNoPromotion.handles r ?_ ?_
  · intro l w before after h hname hlabels
    refine ⟨trivial, fun answer w' hr => ?_⟩
    exact ⟨h.1.trans (handles_spares hr.2 trivial).symm,
      h.2.patchPod (h.merged_role hname hlabels) hr.2⟩
  · intro l w pod h hname hlabels
    refine ⟨trivial, fun answer w' hr => ?_⟩
    refine ⟨h.1.trans (handles_spares hr.2 trivial).symm,
      h.2.createPod ?_ (h.new_role hname hlabels) hr.2⟩
    rw [hname]
    exact podNameForIndex_ne_empty _ _

/-- A promotion that is ordered is not answered, and without one a switchover
    does not come to name its candidate. -/
theorem keeps_switchover_labelled : KeepsLabels faulty todo switchover := by
  have hannotates : Routine.Annotates (HandlesNoPromotion faulty) (fun _ _ => True)
      (Holding (Labelled todo)) (fun _ => True) := fun after lock h hspec =>
    wp_patchCluster_labelled lock h (by rw [hspec])
  intro l w h
  unfold switchover
  rw [wp_bind, wp_get]
  refine wp_ite.mpr ⟨fun _ => trivial, fun _ => ?_⟩
  rw [wp_bind]
  refine wp_context.mpr (wp_post
    (Routine.keeps_setFence hannotates l.status.currentPrimary l w h) fun _ l₁ w₁ h₁ => ?_)
  rw [wp_bind, wp_get, wp_bind]
  refine routine_labelled.wp_local (local_ask (c := .mapOrder) trivial) h₁ fun order w₂ h₂ => ?_
  refine wp_ite.mpr ⟨fun _ => trivial, fun _ => ?_⟩
  rw [wp_bind]
  refine routine_labelled.wp_local (local_wrap (local_listClusterPods trivial)) h₂
    fun pods w₃ h₃ => ?_
  rw [wp_bind]
  unfold promoteListed
  split
  · exact wp_ite.mpr ⟨fun _ => trivial, fun hno => absurd rfl hno⟩
  · rw [wp_bind]
    refine wp_context.mpr ?_
    unfold promoteInstance
    rw [wp_bind]
    exact ⟨trivial, fun answer w' hr => hr.1.elim⟩

theorem passRule_labelled (r : ClusterReconciler) :
    PassRule r (HandlesNoPromotion faulty) (fun _ _ => True) (Holding (Labelled todo))
      (fun _ => True) Cmd.SparesRoles where
  toRoutine := routine_labelled
  modest _ hc := hc.sparesRoles
  object _ lock h hmode _ _ := wp_patchCluster_labelled lock h hmode
  refetch stored w' h hr := by
    rcases hr.2 with ⟨hok, rfl⟩ | ⟨-, ⟨message, herr⟩, -⟩
    · cases hok
      exact ⟨rfl, h.2⟩
    · cases herr
  ensurePod := keeps_ensurePod_labelled r
  switchover := keeps_switchover_labelled
  shards _ h hmode := by
    rw [h.1, h.2.mode] at hmode
    cases hmode
  adopt _ _ h hmode := by
    rw [h.1, h.2.mode] at hmode
    cases hmode

/-! ## A pass that moves no primary -/

/-- A pass that finds no reason to move the primary role: no failover is called
    for, or maintenance forbids one, and the primary's pod needs no update and no
    restart. -/
structure Unmoved (faulty : Cmd → Prop) (r : ClusterReconciler) (w : World) : Prop where
  steady : isMaintenanceInProgress w.cluster = true ∨
    ∀ statuses, w.PollYields faulty statuses → shouldTriggerFailover w.cluster statuses = false
  stays : PrimaryStays r w

/-- Such a pass comes to no failover. -/
theorem Unmoved.stays_put (h : Unmoved faulty r w) {statuses : Statuses}
    (hpoll : w.PollYields faulty statuses) (hopen : isMaintenanceInProgress w.cluster = false)
    (htrigger : shouldTriggerFailover w.cluster statuses = true) : False := by
  rcases h.steady with hclosed | hsteady
  · exact absurd (hclosed.symm.trans hopen) (by decide)
  · exact absurd (htrigger.symm.trans (hsteady statuses hpoll)) (by decide)

/-- A promotion has a cause. -/
theorem unmoved_no_promotion (hhash : HashReadsSpec r) (hmode : w.cluster.spec.mode ≠ .cluster)
    (h : Unmoved faulty r w) :
    Safe faulty (fun _ => NoPromotion) (reconcile r) (fun _ _ _ => True) w.cluster w := by
  have hguard := noPromotion_workGuard.toCourseGuard
  refine safe_reconcile hguard r (fun _ => safe_hibernate hguard) fun statuses l' hpoll hfresh => ?_
  refine safe_afterStatus hguard r (fun hno => absurd hno hmode) hfresh
    (fun hopen htrigger => (h.stays_put hpoll hopen htrigger).elim)
    fun _ => safe_reconcileWorkload_noPromotion hhash hmode h.stays hfresh _

theorem courseGuard_true : CourseGuard fun _ _ => True where
  quiet _ _ _ := trivial
  patchStatus _ _ _ := trivial
  hibernation _ _ := trivial
  patchService _ _ _ := trivial
  patchSpec _ _ _ _ := trivial

/-- The status update leaves the labels in step. -/
theorem Labelled.refreshed (h : Labelled todo w) {statuses : Statuses}
    {l' : RedisCluster} (hfresh : Refreshed w statuses w.cluster l') :
    Holding (Labelled todo) l' (w.store l') := by
  refine ⟨rfl, h.store (by rw [hfresh.spec]) fun name _ => ?_⟩
  unfold Leads
  rw [hfresh.currentPrimary h.not_cluster, hfresh.name]

/-- The second half of a pass that moves no primary. -/
theorem safe_afterStatus_unmoved (hhash : HashReadsSpec r) (hmode : w.cluster.spec.mode ≠ .cluster)
    (hset : Unmoved faulty r w) {statuses : Statuses}
    (hpoll : w.PollYields faulty statuses) {l' : RedisCluster}
    (hfresh : Refreshed w statuses w.cluster l') {Q : Outcome Unit}
    (hpromotion : Safe faulty (fun _ _ => True) (reconcileReplicaModePromotion statuses)
      (fun promoted l₁ w₁ => (promoted = true → Q () l₁ w₁) ∧
        (promoted = false → l₁ = l' ∧ w₁ = w.store l')) l' (w.store l'))
    (hunreached : checkReachability w.cluster statuses = true → Q () l' (w.store l'))
    (hwork : wp (HandlesNoPromotion faulty) (fun _ _ => True)
      (reconcileWorkload r (isMaintenanceInProgress w.cluster) statuses) Q (fun _ _ => True)
      l' (w.store l')) :
    Safe faulty (fun _ _ => True) (afterStatus r (isMaintenanceInProgress w.cluster) statuses) Q
      l' (w.store l') := by
  have hmode' : l'.spec.mode ≠ .cluster := by rwa [hfresh.spec]
  unfold afterStatus topologyReady
  rw [safe_bind, safe_bind, safe_get, if_neg fun hno => hmode' hno.2, safe_pure,
    if_neg (by decide)]
  refine safe_reconcileInstances r hfresh hpromotion
    (fun hopen htrigger => (hset.stays_put hpoll hopen htrigger).elim) hunreached fun _ => ?_
  exact wp_unrestrict (safe_reconcileWorkload_noPromotion hhash hmode hset.stays hfresh _) hwork

/-- A pass that moves no primary leaves the labels in step, if it returns. -/
theorem safe_reconcile_labelled (hhash : HashReadsSpec r) (h : Labelled todo w)
    (hset : Unmoved faulty r w) :
    Safe faulty (fun _ _ => True) (reconcile r) (fun _ => Holding (Labelled todo)) w.cluster w := by
  have hguard := noPromotion_workGuard.toCourseGuard
  have hclear : KeepsLabels faulty todo clearLeaderServiceSelector :=
    routine_labelled.keeps_local
      (local_clearLeaderServiceSelector (fun _ => trivial) fun _ _ => trivial)
  refine safe_reconcile courseGuard_true r (fun _ => ?_) fun statuses l' hpoll hfresh => ?_
  · exact wp_unrestrict (safe_hibernate hguard)
      (routine_labelled.keeps_hibernate (fun _ => trivial) hclear _ _ ⟨rfl, h⟩)
  · have h' := h.refreshed hfresh
    refine safe_afterStatus_unmoved hhash h.not_cluster hset hpoll hfresh ?_ (fun _ => h')
      ((passRule_labelled r).keeps_reconcileWorkload _ statuses _ _ h')
    have hkeeps : KeepsLabels faulty todo (reconcileReplicaModePromotion statuses) :=
      (passRule_labelled r).keeps_reconcileReplicaModePromotion statuses
    exact safe_mono (safe_and
      (wp_unrestrict (safe_reconcileReplicaModePromotion hguard) (hkeeps _ _ h'))
      (safe_reconcileReplicaModePromotion courseGuard_true))
      fun _ _ _ hboth => ⟨fun _ => hboth.1, hboth.2⟩

/-! ## A pass that catches up -/

/-- The ordinal's pod, there or not, has its role label afterwards. -/
theorem safe_ensurePod_labelled (layout : ShardLayout) (index : Nat)
    (hunique : (w.pods.map Pod.name).Nodup)
    (h : Holding (Labelled (podNameForIndex l.name index :: todo)) l w) :
    Safe faulty (fun _ _ => True) (ensurePod r layout index)
      (fun _ l' w' => l' = l ∧ Holding (Labelled todo) l' w' ∧ (w'.pods.map Pod.name).Nodup)
      l w := by
  unfold ensurePod createPodWithLabels
  rw [safe_bind, safe_get, safe_wrap, safe_bind, safe_get, safe_bind]
  refine safe_read (by trivial) trivial fun answer hans => ?_
  cases answer with
  | ok existing =>
    have hfind : w.findPod (podNameForIndex l.name index) = some existing := by
      rcases hans with ⟨ha, -⟩ | ⟨-, ⟨message, hm⟩, -⟩
      · exact found_eq_ok.mp ha.symm
      · cases hm
    have hname : existing.name = podNameForIndex l.name index := by
      simpa using List.find?_some hfind
    show Safe faulty _ (adoptPod existing _) _ l w
    unfold adoptPod
    dsimp only
    rw [safe_ite, safe_pure, safe_wrap, safe_bind, safe_ask]
    refine ⟨fun hsame => ⟨rfl, ⟨h.1, h.2.mode, h.2.named, fun pod hpod hdone => ?_⟩, hunique⟩,
      fun _ => ⟨trivial, fun answer w' hw => safe_ofApi_of ?_⟩⟩
    · -- a pod that need not be patched has the label already
      by_cases hpodname : pod.name = podNameForIndex l.name index
      · obtain rfl : pod = existing := List.inj_on_of_nodup_map hunique hpod
          (List.mem_of_find?_eq_some hfind) (hpodname.trans hname.symm)
        exact h.merged_role hname (congrArg Pod.labels hsame).symm
      · exact h.2.roles pod hpod fun hmem => (List.mem_cons.mp hmem).elim hpodname hdone
    · rintro _ rfl
      rcases hw with ha | ⟨-, ⟨message, hm⟩, -⟩
      · rcases answers_patchPod ha with ⟨⟨err, hno⟩, -⟩ | rfl
        · cases hno
        · refine ⟨rfl, ⟨h.1, h.2.relabel (by rw [hname]; exact List.Subset.refl _)
            (h.merged_role hname rfl)⟩, ?_⟩
          rwa [World.withPods, List.map_map,
            show Pod.name ∘ relabelled _ _ = Pod.name from funext (relabelled_name _ _)]
      · cases hm
  | error err =>
    show Safe faulty _ (restoreContainer r l _ index _ >>= _) _ l w
    rw [safe_bind]
    refine safe_mono (safe_restoreContainer r l _ index _) ?_
    rintro restore _ _ ⟨rfl, rfl, -⟩
    rw [safe_wrap, safe_bind, safe_ask]
    refine ⟨trivial, fun answer w' hw => safe_ofApi_of ?_⟩
    rintro _ rfl
    rcases hw with ha | ⟨-, ⟨message, hm⟩, -⟩
    · rcases answers_createPod ha with ⟨⟨err, hno⟩, -⟩ | ⟨hnew, rfl⟩
      · cases hno
      · refine ⟨rfl, ⟨h.1, h.2.append (List.Subset.refl _) hnew (podNameForIndex_ne_empty _ _)
          (h.new_role rfl rfl)⟩, ?_⟩
        rw [World.withPods, List.map_append]
        refine hunique.append (List.nodup_singleton _) (List.disjoint_singleton.mpr ?_)
        exact World.findPod_eq_none.mp hnew
    · cases hm

/-- The creation loop labels the pod of every ordinal. -/
theorem safe_ensurePods_labelled (layout : ShardLayout) (indices : List Nat)
    (hunique : (w.pods.map Pod.name).Nodup)
    (h : Holding (Labelled (indices.map (podNameForIndex l.name))) l w) :
    Safe faulty (fun _ _ => True) (Act.forEach (ensurePod r layout) indices)
      (fun _ => Holding (Labelled [])) l w := by
  induction indices generalizing w with
  | nil => exact h
  | cons index indices ih =>
    show Safe faulty _ (ensurePod r layout index >>= fun _ => Act.forEach _ indices) _ l w
    rw [safe_bind]
    refine safe_mono (safe_ensurePod_labelled layout index hunique h) ?_
    rintro _ _ w' ⟨rfl, h', hunique'⟩
    exact ih hunique' h'

/-- The pod step brings any labels in step. -/
theorem wp_reconcilePods_caughtUp (hunique : (w.pods.map Pod.name).Nodup)
    (h : Holding (Labelled (expectedNames l)) l w) (statuses : Statuses) :
    wp (HandlesNoPromotion faulty) (fun _ _ => True) (reconcilePods r statuses)
      (fun _ => Holding (Labelled [])) (fun _ _ => True) l w := by
  have hmode : l.spec.mode ≠ .cluster := h.1 ▸ h.2.not_cluster
  unfold reconcilePods podLayout
  rw [wp_bind]
  refine wp_restrict (safe_wrap.mpr (safe_listDataPods.mpr ⟨trivial, ?_⟩))
  rw [wp_bind, wp_get, if_neg hmode, wp_bind, wp_pure, wp_bind]
  refine wp_restrict (safe_mono (safe_ensurePods_labelled {} _ hunique h) fun _ l₁ w₁ h₁ => ?_)
  exact ((Routine.keeps_doWhen fun _ => routine_labelled.keeps_local
    (local_scaleDown (fun _ _ => trivial) _)).bind fun _ =>
      routine_labelled.keeps_setInitialPrimary) l₁ w₁ h₁

/-- So do steps 7 to 9, if the pods are looked after. -/
theorem wp_reconcileWorkload_caughtUp {maintenance : Bool}
    (hwindow : maintenance = true → maintenanceReusePVC l = false)
    (hunique : (w.pods.map Pod.name).Nodup) (h : Holding (Labelled (expectedNames l)) l w)
    (statuses : Statuses) :
    wp (HandlesNoPromotion faulty) (fun _ _ => True) (reconcileWorkload r maintenance statuses)
      (fun _ => Holding (Labelled [])) (fun _ _ => True) l w := by
  unfold reconcileWorkload
  rw [wp_bind, wp_get, wp_bind]
  refine wp_post (wp_restrict (safe_reconcileStorage h.1 _)) ?_
  rintro pending l₁ w₁ ⟨healthy, dangling, conditions, pvcs, uid, hl₁, hw₁⟩
  have hpods : w₁.pods = w.pods := by rw [hw₁]; rfl
  have h₁ : Holding (Labelled (expectedNames l₁)) l₁ w₁ := by
    subst hw₁ hl₁
    obtain ⟨rfl, h⟩ := h
    exact ⟨rfl, h.mode, h.named, h.roles⟩
  rw [wp_bind]
  refine wp_ite.mpr ⟨fun _ => wp_context.mpr (wp_post
    (wp_reconcilePods_caughtUp (hpods ▸ hunique) h₁ statuses)
    (fun _ => Routine.keeps_doWhen fun _ => (passRule_labelled r).keeps_plannedMoves _)),
    fun hno => absurd ?_ hno⟩
  cases maintenance with
  | false => exact Or.inl rfl
  | true => exact Or.inr (by simp [hwindow rfl])

/-- Nothing ends the pass before it looks after the pods: the cluster is awake,
    its maintenance window, if one is open, is one that replaces claims, no
    replica cluster is promoted, and no expected pod that was seen is out of
    reach. -/
structure GetsToPods (faulty : Cmd → Prop) (w : World) : Prop where
  awake : isHibernationEnabled w.cluster = false
  window : isMaintenanceInProgress w.cluster = true → maintenanceReusePVC w.cluster = false
  replica : ∀ mode, w.cluster.spec.replicaMode = some mode →
    mode.enabled = true ∧ mode.promote = false
  reachable : ∀ statuses, w.PollYields faulty statuses →
    checkReachability w.cluster statuses = false

/-- Whatever labels it finds on the pods of its ordinals, such a pass leaves them
    in step if it moves no primary and returns. -/
theorem safe_reconcile_caughtUp (hhash : HashReadsSpec r)
    (h : Labelled (expectedNames w.cluster) w) (hunique : (w.pods.map Pod.name).Nodup)
    (hset : Unmoved faulty r w) (hget : GetsToPods faulty w) :
    Safe faulty (fun _ _ => True) (reconcile r) (fun _ => Holding (Labelled [])) w.cluster w := by
  refine safe_reconcile courseGuard_true r (fun hno => ?_) fun statuses l' hpoll hfresh => ?_
  · exact absurd (hno.symm.trans hget.awake) (by decide)
  have hreplica : promotionRequested l' = false ∧
      replicaModePromotionFinalizationPending l' = false := by
    unfold promotionRequested replicaModePromotionFinalizationPending
    rw [hfresh.spec]
    cases hreplica : w.cluster.spec.replicaMode with
    | none => exact ⟨rfl, rfl⟩
    | some mode => simp [hget.replica mode hreplica]
  have hnames : expectedNames l' = expectedNames w.cluster := by
    unfold expectedNames
    rw [hfresh.name, hfresh.spec]
  have hwindow : isMaintenanceInProgress w.cluster = true → maintenanceReusePVC l' = false := by
    unfold maintenanceReusePVC
    rw [hfresh.spec]
    exact hget.window
  refine safe_afterStatus_unmoved hhash h.not_cluster hset hpoll hfresh ?_
    (fun hno => absurd (hno.symm.trans (hget.reachable statuses hpoll)) (by decide))
    (wp_reconcileWorkload_caughtUp (w := w.store l') hwindow hunique
      (hnames ▸ h.refreshed hfresh) statuses)
  unfold reconcileReplicaModePromotion
  rw [safe_bind, safe_get]
  dsimp only
  rw [if_pos hreplica, safe_pure]
  exact ⟨fun hno => absurd hno (by decide), fun _ => ⟨rfl, rfl⟩⟩

end

/-! ## Runs -/

/-- What may change between passes: pods go, come up or go down, claims and
    Services change, the user edits the object and the instance managers report.
    Names and roles of the pods and the recorded primary are the operator's. -/
structure Drifts (w w' : World) : Prop where
  name : w'.cluster.name = w.cluster.name
  mode : w'.cluster.spec.mode = w.cluster.spec.mode
  primary : w'.cluster.status.currentPrimary = w.cluster.status.currentPrimary
  pods : ∀ pod ∈ w'.pods, ∃ old ∈ w.pods,
    pod.name = old.name ∧ pod.labels.get labelRole = old.labels.get labelRole

theorem Labelled.drifts {todo : List String} {w w' : World} (h : Labelled todo w)
    (hd : Drifts w w') : Labelled todo w' := by
  refine ⟨hd.mode.trans h.mode, fun pod hpod => ?_, fun pod hpod => ?_⟩
  · obtain ⟨old, hold, hname, -⟩ := hd.pods pod hpod
    rw [hname]
    exact h.named old hold
  · obtain ⟨old, hold, hname, hrole⟩ := hd.pods pod hpod
    unfold Pod.CarriesPrimary Leads
    rw [hrole, hname, hd.primary, hd.name]
    exact h.roles old hold

/-- The labels are in step: since a pass that looked after the pods and returned,
    whatever the labels were when it began, every pass has returned without a
    reason to move the primary role. -/
inductive InStep (faulty : Cmd → Prop) (r : ClusterReconciler) : World → Prop
  | caughtUp {w w' : World} {done : Unit × RedisCluster}
      (hpods : Labelled (expectedNames w.cluster) w) (hunique : (w.pods.map Pod.name).Nodup)
      (hset : Unmoved faulty r w) (hget : GetsToPods faulty w)
      (hpass : Prog.Returns (Handles faulty) (reconcile r w.cluster) w (.ok done) w') :
      InStep faulty r w'
  | drift {w w' : World} (h : InStep faulty r w) (hd : Drifts w w') : InStep faulty r w'
  | pass {w w' : World} {done : Unit × RedisCluster} (h : InStep faulty r w)
      (hset : Unmoved faulty r w)
      (hpass : Prog.Returns (Handles faulty) (reconcile r w.cluster) w (.ok done) w') :
      InStep faulty r w'

theorem InStep.labelled {faulty : Cmd → Prop} {r : ClusterReconciler} (hhash : HashReadsSpec r)
    {w : World} (h : InStep faulty r w) : Labelled [] w := by
  induction h with
  | caughtUp hpods hunique hset hget hpass =>
    exact ((Prog.wp_iff.mp (safe_reconcile_caughtUp hhash hpods hunique hset hget)).2 _ _ hpass).2
  | drift _ hd ih => exact ih.drifts hd
  | pass _ hset hpass ih =>
    exact ((Prog.wp_iff.mp (safe_reconcile_labelled hhash ih hset)).2 _ _ hpass).2

/-- **The role labels follow the primary** of a standalone cluster, with any
    failovers and switchovers before: once a pass has looked after the pods, and
    for as long as no pass has a reason to move the primary role again, the pod
    the status names carries `redis.io/role=primary` and no other pod does. -/
theorem roleLabels_follow_primary (faulty : Cmd → Prop) (r : ClusterReconciler)
    (hhash : HashReadsSpec r) (w : World) (h : InStep faulty r w)
    (hprimary : w.cluster.status.currentPrimary ≠ "") :
    ∀ pod ∈ w.pods, pod.CarriesPrimary ↔ pod.name = w.cluster.status.currentPrimary := by
  intro pod hpod
  rw [(h.labelled hhash).roles pod hpod List.not_mem_nil]
  exact ⟨fun hleads => hleads.resolve_right fun hnone => hprimary hnone.1, Or.inl⟩

/-- Cluster `c` with primary `c-0` and replica `c-1`, labelled as such; the
    instance managers answer as `up` says. -/
def twoPods (up : String → Bool) : World :=
  World.withService
    { cluster :=
        { name := "c"
          spec := { instances := 2, storageType := .emptyDir }
          status := { currentPrimary := "c-0" } }
      pods :=
        [{ readyPod "c-0" "10.0.0.1" "new" with labels := podLabels "c" "c-0" labelRolePrimary },
          { readyPod "c-1" "10.0.0.2" "new" with labels := podLabels "c" "c-1" labelRoleReplica }]
      answers := fun podIP =>
        if up podIP = true then
          some { connected := true, role := if podIP = "10.0.0.1" then .master else .slave }
        else none }
    { name := "c-leader", selector := instanceSelector "c" "c-0", ports := [tcpPort "redis" 6379] }

/-- Both pods are up, and of the current template. -/
theorem twoPods_unmoved :
    Safe (fun _ => False) (fun _ => NoPromotion) (reconcile newTemplate) (fun _ _ _ => True)
      (twoPods fun _ => true).cluster (twoPods fun _ => true) := by
  refine unmoved_no_promotion (fun _ _ _ => rfl) (by decide) ⟨Or.inr ?_, Or.inr ?_, Or.inl rfl⟩
  · rintro _ (rfl | hno)
    · decide +kernel
    · exact hno.1.elim
  · exact List.forall_mem_cons.mpr ⟨fun _ => rfl, List.forall_mem_singleton.mpr fun _ => rfl⟩

/-- The end of the pass that follows. -/
def twoPodsAfter (up : String → Bool) : World :=
  (Act.run World.answer (reconcile newTemplate) (twoPods up).cluster (twoPods up)).2

theorem labelled_twoPods (up : String → Bool) : Labelled [] (twoPods up) := by
  refine ⟨rfl, List.forall_mem_cons.mpr ⟨by decide, List.forall_mem_singleton.mpr (by decide)⟩,
    List.forall_mem_cons.mpr ⟨fun _ => ?_, List.forall_mem_singleton.mpr fun _ => ?_⟩⟩
  · exact iff_of_true (by decide) (Or.inl rfl)
  · refine iff_of_false (by decide) ?_
    rintro (hno | ⟨hno, -⟩)
    · exact absurd hno (by decide : "c-1" ≠ "c-0")
    · exact absurd hno (by decide : "c-0" ≠ "")

/-- `c-0` is back after the pass that failed over to `c-1`. -/
def failedOver : World :=
  { twoPodsAfter fun podIP => podIP == "10.0.0.2" with answers := (twoPods fun _ => true).answers }

/-- The end of the pass that follows then. -/
def failedOverAfter : World :=
  (Act.run World.answer (reconcile newTemplate) failedOver.cluster failedOver).2

/-- `c-0` comes back with the label of a primary; the next pass takes it off and
    gives it to `c-1`. -/
theorem roleLabels_follow_failover :
    failedOver.cluster.status.currentPrimary = "c-1" ∧
      (∀ pod ∈ failedOver.pods, pod.CarriesPrimary ↔ pod.name = "c-0") ∧
      InStep (fun _ => False) newTemplate failedOverAfter ∧
      ∀ pod ∈ failedOverAfter.pods,
        pod.CarriesPrimary ↔ pod.name = failedOverAfter.cluster.status.currentPrimary := by
  have hpods : Labelled (expectedNames failedOver.cluster) failedOver := by
    have hexpected : ∀ pod ∈ failedOver.pods, pod.name ∈ expectedNames failedOver.cluster := by
      decide +kernel
    exact ⟨by decide +kernel, by decide +kernel, fun pod hpod hno =>
      absurd (hexpected pod hpod) hno⟩
  have hset : Unmoved (fun _ => False) newTemplate failedOver := by
    have hcurrent : ∀ pod ∈ failedOver.pods,
        pod.annotations.lookup specHashAnnotation = some "new" := by decide +kernel
    refine ⟨Or.inr ?_, Or.inr fun pod hpod _ => hcurrent pod hpod, Or.inl (by decide +kernel)⟩
    rintro _ (rfl | ⟨hno, -⟩)
    · decide +kernel
    · exact hno.elim
  have hget : GetsToPods (fun _ => False) failedOver := by
    have hreplica : failedOver.cluster.spec.replicaMode = none := by decide +kernel
    refine ⟨by decide +kernel, fun hopen => ?_, fun mode hmode => ?_, ?_⟩
    · exact absurd hopen (by decide +kernel)
    · rw [hreplica] at hmode
      cases hmode
    · rintro _ (rfl | ⟨hno, -⟩)
      · decide +kernel
      · exact hno.elim
  obtain ⟨done, hpass⟩ : ∃ done, Prog.Returns (Handles fun _ => False)
      (reconcile newTemplate failedOver.cluster) failedOver (.ok done) failedOverAfter :=
    exists_returns_of_answer (by decide +kernel)
  have hstep : InStep (fun _ => False) newTemplate failedOverAfter :=
    .caughtUp hpods (by decide +kernel) hset hget hpass
  exact ⟨by decide +kernel, by decide +kernel, hstep, roleLabels_follow_primary _ newTemplate
    (fun _ _ _ => rfl) _ hstep (by decide +kernel)⟩

/-- `c-0` does not answer: the pass fails over to `c-1` and returns, with `c-0`
    labelled as primary and `c-1` as replica. -/
theorem roleLabels_lag_failover :
    Labelled [] (twoPods fun podIP => podIP == "10.0.0.2") ∧
      (∃ done, Prog.Returns (Handles fun _ => False)
        (reconcile newTemplate (twoPods fun podIP => podIP == "10.0.0.2").cluster)
        (twoPods fun podIP => podIP == "10.0.0.2") (.ok done)
        (twoPodsAfter fun podIP => podIP == "10.0.0.2")) ∧
      (twoPodsAfter fun podIP => podIP == "10.0.0.2").cluster.status.currentPrimary = "c-1" ∧
      (twoPodsAfter fun podIP => podIP == "10.0.0.2").pods.map Pod.name = ["c-0", "c-1"] ∧
      ∀ pod ∈ (twoPodsAfter fun podIP => podIP == "10.0.0.2").pods,
        pod.CarriesPrimary ↔ pod.name = "c-0" := by
  refine ⟨labelled_twoPods _, ?_, by decide +kernel, by decide +kernel, by decide +kernel⟩
  exact exists_returns_of_answer (by decide +kernel)

end RedisOperator
