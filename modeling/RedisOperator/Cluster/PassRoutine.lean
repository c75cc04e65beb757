/-
  RedisOperator.Cluster.PassRoutine

  Invariants of a pass, over any environment.  Most of what a pass does is
  routine: it reads, deletes pods, looks after claims, and rewrites the status
  without moving the primary.  `Routine` says what an invariant has to survive
  for that; `PassRule` adds the steps that are not routine (patches of the
  object, labels of pods, moves of the primary role), each as a hypothesis
  about one function.  The invariant then survives the pass.

  An invariant `I` is about the pass's copy of the object and the environment;
  where a step stops with an error, `J` holds.
-/

import RedisOperator.Cluster.Footprints

namespace RedisOperator

open Lib Act

/-- Requests that write neither the object nor a label nor a Service, and order
    nothing from an instance. -/
def Cmd.Modest : Cmd → Prop
  | .patchCluster .. | .patchStatus .. | .createPod _ | .patchPod .. | .createService _
  | .patchService .. | .deleteService _ | .post .. => False
  | _ => True

theorem Cmd.Quiet.modest {c : Cmd} (h : c.Quiet) : c.Modest := by
  cases c <;> first | exact trivial | exact h

/-- The status names the primary the object names, or the first one of a cluster
    that has none.  A sharded cluster names no primary. -/
def SameLead (l : RedisCluster) (status : RedisClusterStatus) : Prop :=
  l.spec.mode ≠ .cluster → status.currentPrimary = l.status.currentPrimary ∨
    (l.status.currentPrimary = "" ∧ status.currentPrimary = podNameForIndex l.name 0)

theorem SameLead.of_eq {l : RedisCluster} {status : RedisClusterStatus}
    (h : status.currentPrimary = l.status.currentPrimary) : SameLead l status := fun _ => Or.inl h

variable {S α : Type}

/-- What an invariant survives: requests in `G`, and status patches that leave
    the primary alone. -/
structure Routine (H : Prog.Handler Cmd Reply S) (P : S → Cmd → Prop)
    (I : RedisCluster → S → Prop) (J : S → Prop) (G : Cmd → Prop) : Prop where
  stop : ∀ {l s}, I l s → J s
  quiet : ∀ c, c.Quiet → G c
  guard : ∀ {l s} c, I l s → G c → P s c
  carry : ∀ {l s} c r s', I l s → G c → H s c r s' → I l s'
  status : ∀ {l s} status, I l s → SameLead l status →
    Act.wp H P (patchStatus status) (fun _ => I) (fun _ => J) l s

namespace Routine

variable {H : Prog.Handler Cmd Reply S} {P : S → Cmd → Prop} {I I' : RedisCluster → S → Prop}
variable {J : S → Prop} {G : Cmd → Prop} {l : RedisCluster} {s : S}

/-- An action that only issues requests in `G`, and what follows it. -/
theorem wp_local (R : Routine H P I J G) {x : Op α} (hx : KeepsLocal G x)
    {Q : α → RedisCluster → S → Prop} (h : I l s) (hQ : ∀ a s', I l s' → Q a l s') :
    wp H P x Q (fun _ => J) l s :=
  hx.wp (fun _ c hI hc => R.guard c hI hc) (fun _ c r s' hI hc hr => R.carry c r s' hI hc hr) h hQ
    fun _ _ hI => R.stop hI

theorem keeps_local (R : Routine H P I J G) {x : Op α} (hx : KeepsLocal G x) :
    KeepsUnder H P I J x := fun _ _ h => R.wp_local hx h fun _ _ h' => h'

theorem keeps_wrap {what : String} {x : Op α} (hx : KeepsUnder H P I J x) :
    KeepsUnder H P I J (wrap what x) := hx.context _

theorem keeps_doWhen {c : Prop} [Decidable c] {x : Op Unit}
    (hx : c → KeepsUnder H P I J x) : KeepsUnder H P I J (doWhen c x) :=
  .ite hx fun _ => .pure ()

/-! ## Fences -/

/-- The invariant does not mind what the annotations say. -/
def Annotates (H : Prog.Handler Cmd Reply S) (P : S → Cmd → Prop) (I : RedisCluster → S → Prop)
    (J : S → Prop) : Prop :=
  ∀ {l s} after lock, I l s → after.spec = l.spec →
    Act.wp H P (patchCluster after lock) (fun _ => I) (fun _ => J) l s

theorem keeps_setFencedPods (ha : Annotates H P I J) (pods : List String) :
    KeepsUnder H P I J (setFencedPods pods) := by
  intro l s h
  unfold setFencedPods
  rw [wp_bind, wp_get]
  exact ha _ _ h rfl

theorem keeps_setFence (ha : Annotates H P I J) (podName : String) :
    KeepsUnder H P I J (setFence podName) := by
  have hfence : KeepsUnder H P I J (Act.get >>= fun current : RedisCluster =>
      doWhen (podName ∉ getFencedPods current)
        (setFencedPods (getFencedPods current ++ [podName]))) :=
    KeepsUnder.get.bind fun _ => keeps_doWhen fun _ => keeps_setFencedPods ha _
  intro l s h
  unfold setFence
  rw [wp_bind, wp_get, wp_bind]
  refine wp_ite.mpr ⟨fun _ => ?_, fun _ => hfence l s h⟩
  refine wp_context.mpr (wp_post (ha _ _ h ?_) fun _ l₁ s₁ h₁ => hfence l₁ s₁ h₁)
  rfl

theorem keeps_clearFence (ha : Annotates H P I J) (podName : String) :
    KeepsUnder H P I J (clearFence podName) :=
  KeepsUnder.get.bind fun _ => keeps_setFencedPods ha _

/-! ## Status patches -/

variable (R : Routine H P I J G)
include R

theorem wp_patch {status : RedisClusterStatus} (what : String) (h : I l s)
    (hlead : SameLead l status) :
    wp H P (wrap what (patchStatus status)) (fun _ => I) (fun _ => J) l s :=
  wp_context.mpr (R.status status h hlead)

/-- The time is read, and a status with the same primary written. -/
theorem keeps_stamp (what : String) {f : RedisCluster → Nat → RedisClusterStatus}
    (hf : ∀ cluster time, (f cluster time).currentPrimary = cluster.status.currentPrimary) :
    KeepsUnder H P I J (Act.get >>= fun cluster : RedisCluster =>
      now >>= fun time => wrap what (patchStatus (f cluster time))) := by
  intro l s h
  rw [wp_bind, wp_get, wp_bind]
  exact R.wp_local (local_now (R.quiet _ trivial)) h fun time s' h' =>
    R.wp_patch what h' (.of_eq (hf l time))

theorem keeps_resumeFromHibernation :
    KeepsUnder H P I J resumeFromHibernation :=
  R.keeps_stamp _ fun _ _ => rfl

/-- A cluster that hibernates deletes its pods and points its leader Service at
    nobody. -/
theorem keeps_hibernate (hdelete : ∀ name, G (.deletePod name .hibernation))
    (hclear : KeepsUnder H P I J clearLeaderServiceSelector) :
    KeepsUnder H P I J hibernate := by
  have hpods : KeepsLocal G (wrap "listing pods for hibernation" listClusterPods) :=
    local_wrap (local_listClusterPods (R.quiet _ trivial))
  refine (R.keeps_local hpods).bind fun pods => ?_
  refine (R.keeps_local (KeepsLocal.forEach fun pod =>
    local_wrap (local_deletePod (hdelete _)))).bind fun _ => ?_
  exact (keeps_wrap hclear).bind fun _ => R.keeps_stamp _ fun _ _ => rfl

/-- Awake, the invariant goes on; asleep, the pass ends with what `hibernate`
    leaves. -/
theorem wp_reconcileHibernation (h : I l s) (hsleep : isHibernationEnabled l = true →
      wp H P hibernate (fun _ => I') (fun _ => J) l s) :
    wp H P reconcileHibernation
      (fun hibernating l' s' => (hibernating = true → I' l' s') ∧
        (hibernating = false → isHibernationEnabled l = false ∧ I l' s'))
      (fun _ => J) l s := by
  unfold reconcileHibernation
  rw [wp_bind, wp_get]
  refine wp_ite.mpr ⟨fun hon => ?_, fun hoff => ?_⟩
  · rw [wp_bind]
    exact wp_post (hsleep hon) fun _ _ _ h' => ⟨fun _ => h', fun hno => (nomatch hno)⟩
  · rw [wp_bind]
    exact wp_post (keeps_doWhen (fun _ => R.keeps_resumeFromHibernation) l s h)
      fun _ _ _ h' => ⟨fun hno => (nomatch hno), fun _ => ⟨by simpa using hoff, h'⟩⟩

theorem keeps_recordMaintenance (inProgress : Bool) (what : String) :
    KeepsUnder H P I J (recordMaintenance inProgress what) := by
  refine (R.keeps_local (local_now (R.quiet _ trivial))).bind fun time => ?_
  intro l s h
  rw [wp_bind, wp_get]
  exact R.wp_patch what h (.of_eq rfl)

/-- The window is reported as the object has it. -/
theorem wp_reconcileMaintenance (h : I l s) :
    wp H P reconcileMaintenance
      (fun maintenance l' s' => maintenance = isMaintenanceInProgress l ∧ I l' s')
      (fun _ => J) l s := by
  have hrecord : ∀ (c : Prop) [Decidable c] inProgress what s', I l s' →
      wp H P (doWhen c (recordMaintenance inProgress what)) (fun _ => I) (fun _ => J) l s' :=
    fun c _ inProgress what s' h' =>
      keeps_doWhen (fun _ => R.keeps_recordMaintenance inProgress what) l s' h'
  unfold reconcileMaintenance
  rw [wp_bind, wp_get]
  refine wp_ite.mpr ⟨fun hclosed => ?_, fun hopen => ?_⟩
  · rw [wp_bind]
    exact wp_post (hrecord _ _ _ s h) fun _ _ _ h' => ⟨hclosed.symm, h'⟩
  · rw [wp_bind]
    refine R.wp_local (local_wrap (local_runSubstep (R.quiet _ trivial))) h fun _ s₁ h₁ => ?_
    rw [wp_bind]
    exact wp_post (hrecord _ _ _ s₁ h₁) fun _ _ _ h' => ⟨by simpa using hopen, h'⟩

theorem keeps_pollOrNone : KeepsUnder H P I J pollOrNone :=
  R.keeps_local (local_pollOrNone (R.quiet _ trivial) (fun _ => R.quiet _ trivial)
    (R.quiet _ trivial))

/-- Outside cluster mode the derived status has the primary it had. -/
theorem wp_deriveStatus (statuses : Statuses) (h : I l s) :
    wp H P (deriveStatus statuses)
      (fun derived l' s' => l' = l ∧ I l s' ∧
        (l.spec.mode ≠ .cluster → derived.currentPrimary = l.status.currentPrimary))
      (fun _ => J) l s := by
  by_cases hmode : l.spec.mode = .cluster
  · exact R.wp_local (local_deriveStatus (R.quiet _ trivial) (R.quiet _ trivial) statuses) h
      fun _ _ h' => ⟨rfl, h', fun hno => absurd hmode hno⟩
  · unfold deriveStatus
    rw [wp_bind, wp_get]
    simp only [hmode, ↓reduceIte, wp_pure]
    refine ⟨trivial, h, fun _ => ?_⟩
    rw [withoutShards_currentPrimary, withCounters_currentPrimary]

theorem keeps_updateStatus (statuses : Statuses) : KeepsUnder H P I J (updateStatus statuses) := by
  intro l s h
  unfold updateStatus
  rw [wp_bind, wp_get, wp_bind]
  refine wp_post (R.wp_deriveStatus statuses h) ?_
  rintro derived _ s₁ ⟨rfl, h₁, hprimary⟩
  rw [wp_bind]
  refine R.wp_local (local_wrap (local_countReadySentinelPods (R.quiet _ trivial))) h₁
    fun ready s₂ h₂ => ?_
  rw [wp_bind]
  refine R.wp_local (local_now (R.quiet _ trivial)) h₂ fun time s₃ h₃ => ?_
  exact wp_ite.mpr ⟨fun _ => h₃, fun _ => R.status _ h₃ fun hmode => Or.inl (hprimary hmode)⟩

theorem keeps_pauseForPrimaryApproval :
    KeepsUnder H P I J pauseForPrimaryApproval := by
  intro l s h
  unfold pauseForPrimaryApproval
  rw [wp_bind, wp_get]
  refine wp_ite.mpr ⟨fun _ => h, fun _ => ?_⟩
  rw [wp_bind]
  refine R.wp_local (local_now (R.quiet _ trivial)) h fun time s₁ h₁ => ?_
  rw [wp_bind]
  exact wp_post (R.wp_patch _ h₁ (.of_eq rfl)) fun _ _ _ h' => h'

/-- The first primary of a cluster that has none. -/
theorem keeps_setInitialPrimary :
    KeepsUnder H P I J setInitialPrimary := by
  intro l s h
  unfold setInitialPrimary
  rw [wp_bind, wp_get]
  refine wp_ite.mpr ⟨fun hfirst => ?_, fun _ => h⟩
  exact R.wp_patch _ h fun _ => Or.inr ⟨hfirst.2.1, rfl⟩

end Routine

/-- One ordinal: the pod there is is brought to its labels, or a new one made. -/
theorem Routine.keeps_ensurePod {faulty : Cmd → Prop} {H : Prog.Handler Cmd Reply World}
    {P : World → Cmd → Prop} {I : RedisCluster → World → Prop} {J : World → Prop} {G : Cmd → Prop}
    (R : Routine H P I J G) (hH : ∀ w c r w', H w c r w' → Handles faulty w c r w')
    (r : ClusterReconciler) {layout : ShardLayout} {index : Nat}
    (hpatch : ∀ {l w} before after, I l w → before.name = podNameForIndex l.name index →
      after.labels = mergeLabels before.labels (dataPodLabels l layout index) →
      P w (.patchPod before after) ∧
        ∀ answer w', H w (.patchPod before after) answer w' → I l w')
    (hcreate : ∀ {l w} pod, I l w → pod.name = podNameForIndex l.name index →
      pod.labels = dataPodLabels l layout index →
      P w (.createPod pod) ∧ ∀ answer w', H w (.createPod pod) answer w' → I l w') :
    KeepsUnder H P I J (ensurePod r layout index) := by
  have hdone : ∀ (answer : Api Unit), KeepsUnder H P I J (ofApi answer) :=
    fun answer => R.keeps_local (local_ofApi answer)
  intro l w h
  unfold ensurePod createPodWithLabels
  rw [wp_bind, wp_get]
  refine wp_context.mpr ?_
  rw [wp_bind, wp_get, wp_bind]
  refine ⟨R.guard _ h (R.quiet (.getPod _) trivial), fun answer w₁ hr => ?_⟩
  have h₁ := R.carry _ _ _ h (R.quiet (.getPod _) trivial) hr
  cases answer with
  | ok existing =>
    have hname : existing.name = podNameForIndex l.name index := by
      rcases hH _ _ _ _ hr with ⟨hfound, -⟩ | ⟨-, ⟨message, hfails⟩, -⟩
      · cases hfind : w.findPod (podNameForIndex l.name index) with
        | none =>
          rw [hfind] at hfound
          cases hfound
        | some pod =>
          rw [hfind] at hfound
          cases hfound
          simpa using List.find?_some hfind
      · cases hfails
    refine wp_ite.mpr ⟨fun _ => h₁, fun _ => wp_context.mpr ?_⟩
    rw [wp_bind]
    obtain ⟨hguard, hkeep⟩ := hpatch existing
      { existing with
        labels := mergeLabels existing.labels (dataPodLabels l layout index), controlled := true }
      h₁ hname rfl
    exact ⟨hguard, fun answer w₂ hr₂ => hdone answer l w₂ (hkeep answer w₂ hr₂)⟩
  | error err =>
    show wp H P (restoreContainer r l _ index _ >>= _) _ _ l w₁
    rw [wp_bind]
    refine R.wp_local (local_restoreContainer (fun _ => R.quiet _ trivial) r _ _ _ _) h₁
      fun restore w₂ h₂ => wp_context.mpr ?_
    rw [wp_bind]
    obtain ⟨hguard, hkeep⟩ := hcreate (newDataPod r l (podNameForIndex l.name index) index
      (dataPodLabels l layout index) restore) h₂ rfl rfl
    exact ⟨hguard, fun answer w₃ hr₃ => hdone answer l w₃ (hkeep answer w₃ hr₃)⟩

/-- What an invariant survives in the second half of a pass. -/
structure PassRule (r : ClusterReconciler) (H : Prog.Handler Cmd Reply S) (P : S → Cmd → Prop)
    (I : RedisCluster → S → Prop) (J : S → Prop) (G : Cmd → Prop) : Prop
    extends Routine H P I J G where
  modest : ∀ c, c.Modest → G c
  /-- a patch of the object that leaves mode, fences and handover alone -/
  object : ∀ {l s} after lock, I l s → after.spec.mode = l.spec.mode →
    after.annotations.fencedInstances = l.annotations.fencedInstances →
    after.annotations.clusterHandover = l.annotations.clusterHandover →
    Act.wp H P (patchCluster after lock) (fun _ => I) (fun _ => J) l s
  refetch : ∀ {l s} stored s', I l s → H s .getCluster (.ok stored) s' → I stored s'
  ensurePod : ∀ layout index, Act.KeepsUnder H P I J (ensurePod r layout index)
  switchover : Act.KeepsUnder H P I J switchover
  shards : ∀ {l s} desiredHash, I l s → l.spec.mode = .cluster →
    Act.wp H P (rollingUpdateClusterMode desiredHash) (fun _ => I) (fun _ => J) l s
  adopt : ∀ {l s} objectNamespace masterHost, I l s → l.spec.mode = .sentinel →
    Act.wp H P (adoptSentinelMaster objectNamespace masterHost) (fun _ => I) (fun _ => J) l s

namespace PassRule

variable {r : ClusterReconciler} {H : Prog.Handler Cmd Reply S} {P : S → Cmd → Prop}
variable {I : RedisCluster → S → Prop} {J : S → Prop} {G : Cmd → Prop}

variable (R : PassRule r H P I J G)
include R

theorem keeps_deletePod (what name : String) (reason : DeleteReason) :
    KeepsUnder H P I J (wrap what (deletePod name reason)) :=
  R.keeps_local (local_wrap (local_deletePod (R.modest _ trivial)))

theorem keeps_listDataPods (what : String) :
    KeepsUnder H P I J (wrap what listDataPods) :=
  R.keeps_local (local_wrap (local_listDataPods (R.quiet _ trivial)))

/-! ## Updates and restarts -/

theorem keeps_clearPrimaryUpdateApproval :
    KeepsUnder H P I J clearPrimaryUpdateApproval := by
  intro l s h
  unfold clearPrimaryUpdateApproval
  rw [wp_bind, wp_get, wp_bind]
  have hannotation : wp H P (doWhen (l.annotations.approvePrimaryUpdate ≠ none)
      (wrap "patching cluster annotations" (patchCluster
        { l with annotations := { l.annotations with approvePrimaryUpdate := none } } false)))
      (fun _ => I) (fun _ => J) l s :=
    wp_ite.mpr ⟨fun _ => wp_context.mpr (R.object _ _ h rfl rfl rfl), fun _ => h⟩
  refine wp_post hannotation fun _ l₁ s₁ h₁ => ?_
  refine R.keeps_stamp _ ?_ l₁ s₁ h₁
  exact fun _ _ => rfl

theorem keeps_consumeApproval (supervised : Bool) :
    KeepsUnder H P I J (consumeApproval supervised) :=
  Routine.keeps_doWhen fun _ => Routine.keeps_wrap R.keeps_clearPrimaryUpdateApproval

theorem keeps_updatePrimary (primary : Pod) (replicas : List Pod) :
    KeepsUnder H P I J (updatePrimary primary replicas) := by
  refine KeepsUnder.get.bind fun cluster =>
    .ite (fun _ => R.keeps_pauseForPrimaryApproval) fun _ =>
      .ite (fun _ => ?_) fun _ => ?_
  · exact (R.keeps_deletePod _ _ _).bind fun _ =>
      (R.keeps_consumeApproval _).bind fun _ => .pure _
  · exact (Routine.keeps_wrap R.switchover).bind fun _ =>
      (R.keeps_consumeApproval _).bind fun _ => .pure _

theorem keeps_rollingUpdateReplicated (desiredHash : String) :
    KeepsUnder H P I J (rollingUpdateReplicated desiredHash) := by
  refine KeepsUnder.get.bind fun cluster => (R.keeps_listDataPods _).bind fun pods => ?_
  dsimp only
  split
  · exact (R.keeps_deletePod _ _ _).bind fun _ => .pure _
  · split
    · exact .pure _
    · exact .ite (fun _ => .pure _) fun _ => R.keeps_updatePrimary _ _

theorem keeps_rollingUpdate (desiredHash : String) :
    KeepsUnder H P I J (rollingUpdate desiredHash) := by
  intro l s h
  unfold rollingUpdate
  rw [wp_bind, wp_get]
  exact wp_ite.mpr ⟨R.shards desiredHash h, fun _ => R.keeps_rollingUpdateReplicated _ l s h⟩

theorem keeps_restartPrimary (primary : Pod) (replicas : List Pod) :
    KeepsUnder H P I J (restartPrimary primary replicas) := by
  refine .ite (fun _ => .pure _) fun _ =>
    .ite (fun _ => ?_) fun _ =>
      .ite (fun _ => .pure _) fun _ => ?_
  · exact (R.keeps_deletePod _ _ _).bind fun _ => .pure _
  · exact (Routine.keeps_wrap R.switchover).bind fun _ => .pure _

theorem keeps_resizeRestart (pendingResizePVCs : List String) :
    KeepsUnder H P I J (resizeRestart pendingResizePVCs) := by
  refine .ite (fun _ => .pure _) fun _ => Routine.keeps_wrap ?_
  refine KeepsUnder.get.bind fun cluster => (R.keeps_listDataPods _).bind fun pods => ?_
  dsimp only
  split
  · exact (R.keeps_deletePod _ _ _).bind fun _ => .pure _
  · refine .ite (fun _ => .pure _) fun _ => ?_
    split
    · exact .pure _
    · exact R.keeps_restartPrimary _ _

/-- Sentinel's choice is adopted from the copy the step started with. -/
theorem keeps_reconcileSentinel :
    KeepsUnder H P I J (reconcileSentinel r) := by
  intro l s h
  unfold reconcileSentinel
  rw [wp_bind, wp_get]
  refine wp_ite.mpr ⟨fun hmode => ?_, fun _ => h⟩
  rw [wp_bind]
  refine R.wp_local (local_wrap (local_runSubstep (R.quiet _ trivial))) h fun _ s₁ h₁ => ?_
  refine wp_context.mpr ?_
  unfold reconcileSentinelMaster
  rw [wp_bind]
  refine R.wp_local (local_wrap (local_listSentinelPods (R.quiet _ trivial))) h₁
    fun pods s₂ h₂ => ?_
  rw [wp_bind]
  refine R.wp_local (local_wrap (local_runSubstep (R.quiet _ trivial))) h₂ fun _ s₃ h₃ => ?_
  rw [wp_bind]
  refine R.wp_local (local_querySentinels (fun _ => R.quiet _ trivial) pods) h₃
    fun answer s₄ h₄ => ?_
  exact wp_ite.mpr ⟨fun _ => h₄, fun _ =>
    wp_ite.mpr ⟨fun _ => R.stop h₄, fun _ => R.adopt _ _ h₄ hmode⟩⟩

theorem keeps_plannedMoves (pendingResizePVCs : List String) :
    KeepsUnder H P I J (plannedMoves r pendingResizePVCs) :=
  (R.keeps_resizeRestart _).bind fun _ =>
    .ite (fun _ => .pure _) fun _ =>
      KeepsUnder.get.bind fun _ => (Routine.keeps_wrap (R.keeps_rollingUpdate _)).bind fun _ =>
        R.keeps_reconcileSentinel

/-! ## Storage and pods -/

theorem keeps_reconcilePVCs : KeepsUnder H P I J reconcilePVCs := by
  have hensure : ∀ cluster acc index, KeepsLocal G (ensurePVC cluster acc index) :=
    local_ensurePVC (fun _ => R.modest _ trivial) (fun _ => R.modest _ trivial)
      (fun _ => R.modest _ trivial) fun _ _ => R.modest _ trivial
  intro l s h
  unfold reconcilePVCs
  rw [wp_bind, wp_get, wp_bind]
  refine R.wp_local (.foldlM (hensure l) _) h fun progress s₁ h₁ => ?_
  rw [wp_bind]
  refine R.wp_local (local_wrap (local_ask_bind (R.quiet .listPVCs trivial) local_ofApi)) h₁
    fun pvcs s₂ h₂ => ?_
  rw [wp_bind]
  refine R.wp_local (local_wrap (local_listClusterPods (R.quiet _ trivial))) h₂
    fun pods s₃ h₃ => ?_
  rw [wp_bind]
  refine R.wp_local (local_now (R.quiet _ trivial)) h₃ fun time s₄ h₄ => ?_
  rw [wp_bind]
  exact wp_post (R.wp_patch _ h₄ (.of_eq rfl)) fun _ _ _ h' => h'

theorem keeps_reconcileStorage (maintenanceReplace : Bool) :
    KeepsUnder H P I J (reconcileStorage maintenanceReplace) := by
  have hrecycle : KeepsLocal G recyclePVCsForMissingPods :=
    local_recyclePVCsForMissingPods (R.quiet _ trivial) (fun _ => R.quiet _ trivial)
      fun _ => R.modest _ trivial
  exact KeepsUnder.get.bind fun _ =>
    .ite (fun _ => .pure _) fun _ =>
      (Routine.keeps_doWhen fun _ => R.keeps_local (local_wrap hrecycle)).bind fun _ =>
        Routine.keeps_wrap R.keeps_reconcilePVCs

theorem keeps_reconcilePods (statuses : Statuses) :
    KeepsUnder H P I J (reconcilePods r statuses) := by
  refine (R.keeps_listDataPods _).bind fun pods => KeepsUnder.get.bind fun cluster => ?_
  refine (R.keeps_local (local_podLayout (R.quiet _ trivial) _ _ _)).bind fun layout => ?_
  refine (KeepsUnder.forEach fun index _ => R.ensurePod layout index).bind fun _ => ?_
  refine (Routine.keeps_doWhen fun _ => R.keeps_local
    (local_scaleDown (fun _ _ => R.modest _ trivial) pods)).bind fun _ => ?_
  exact R.keeps_setInitialPrimary

theorem keeps_reconcileWorkload (maintenance : Bool) (statuses : Statuses) :
    KeepsUnder H P I J (reconcileWorkload r maintenance statuses) :=
  KeepsUnder.get.bind fun _ => (R.keeps_reconcileStorage _).bind fun _ =>
    (Routine.keeps_doWhen fun _ => Routine.keeps_wrap (R.keeps_reconcilePods statuses)).bind
      fun _ =>
      Routine.keeps_doWhen fun _ => R.keeps_plannedMoves _

/-! ## Promotion of a replica cluster -/

/-- The object is patched and read back. -/
theorem keeps_disableReplicaMode :
    KeepsUnder H P I J disableReplicaMode := by
  intro l s h
  unfold disableReplicaMode
  rw [wp_bind, wp_get, wp_bind]
  refine wp_context.mpr (wp_post (R.object _ _ h rfl rfl rfl) ?_)
  intro _ l₁ s₁ h₁
  rw [wp_bind]
  refine wp_context.mpr ?_
  rw [wp_bind]
  refine ⟨R.guard _ h₁ (R.quiet .getCluster trivial), fun answer s₂ hr => ?_⟩
  cases answer with
  | error err => exact R.stop (R.carry _ _ _ h₁ (R.quiet .getCluster trivial) hr)
  | ok stored => exact R.refetch stored s₂ h₁ hr

theorem keeps_reconcileReplicaModePromotion (statuses : Statuses) :
    KeepsUnder H P I J (reconcileReplicaModePromotion statuses) := by
  have hrecord : KeepsUnder H P I J recordPromotion := by
    refine R.keeps_stamp _ ?_
    exact fun _ _ => rfl
  refine KeepsUnder.get.bind fun cluster =>
    .ite (fun _ => .pure _) fun _ =>
      .ite (fun _ => .pure _) fun _ =>
        .ite (fun _ => .pure _) fun _ => ?_
  refine (Routine.keeps_doWhen fun _ => R.keeps_disableReplicaMode).bind fun _ =>
    KeepsUnder.get.bind fun current => ?_
  exact (Routine.keeps_doWhen fun _ => hrecord).bind fun _ => .pure _

/-! ## The pass -/

/-- A failover where one is called for, or the workload. -/
theorem keeps_reconcileInstances (maintenance : Bool) (statuses : Statuses)
    (hfailover : ∀ l s, I l s → shouldTriggerFailover l statuses = true →
      wp H P failover (fun _ => I) (fun _ => J) l s) :
    KeepsUnder H P I J (reconcileInstances r maintenance statuses) := by
  refine (Routine.keeps_wrap (R.keeps_reconcileReplicaModePromotion statuses)).bind
    fun promoted => .ite (fun _ => .pure _) fun _ => ?_
  intro l s h
  rw [wp_bind, wp_get]
  refine wp_ite.mpr ⟨fun htrigger => ?_, fun _ => wp_ite.mpr ⟨fun _ => h, fun _ => ?_⟩⟩
  · exact wp_context.mpr (hfailover l s h htrigger.2)
  · exact R.keeps_reconcileWorkload maintenance statuses l s h

/-- What follows the Services. -/
theorem keeps_afterServices (maintenance : Bool)
    (htopology : ∀ statuses, KeepsUnder H P I J (topologyReady maintenance statuses))
    (hfailover : ∀ statuses l s, I l s → shouldTriggerFailover l statuses = true →
      wp H P failover (fun _ => I) (fun _ => J) l s) :
    KeepsUnder H P I J (do
      wrap "reconciling connection secret" (runSubstep .connectionSecret)
      let statuses ← pollOrNone
      wrap "updating status" (updateStatus statuses)
      let ready ← topologyReady maintenance statuses
      if ready = false then pure () else reconcileInstances r maintenance statuses) := by
  refine (R.keeps_local (local_wrap (local_runSubstep (R.quiet _ trivial)))).bind fun _ => ?_
  refine R.keeps_pollOrNone.bind fun statuses => ?_
  refine (Routine.keeps_wrap (R.keeps_updateStatus statuses)).bind fun _ => ?_
  exact (htopology statuses).bind fun ready =>
    .ite (fun _ => .pure _) fun _ =>
      R.keeps_reconcileInstances maintenance statuses (hfailover statuses)

end PassRule

end RedisOperator
