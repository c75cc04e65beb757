/-
  RedisOperator.Cluster.QuietCluster

  What a pass does to a cluster with nothing to do.

  `updateStatus` skips its write when the status it computed is the stored one.
  The poll before it stamps every pod that answers with the time of the pass,
  and that stamp is part of the status compared.  A healthy cluster has pods
  that answer, or its phase is about to change; so the write is never skipped
  there once the clock has moved, in any mode
  (`healthy_cluster_never_left_alone`).

  The proof exhibits the run.  `CanChange` says that some answers lead an
  action to a request that changes what is stored; the steps before the status
  update are passed with `CanReturn`.
-/

import RedisOperator.Cluster.LeaderService

namespace RedisOperator

open Lib Act

/-! ## Changing what is stored -/

/-- Two statuses with the same content: of a map, the entries count and not
    their order. -/
structure SameStatus (a b : RedisClusterStatus) : Prop where
  plain : { a with instancesStatus := b.instancesStatus, shards := b.shards } = b
  instances : ∀ name, a.instancesStatus.lookup name = b.instancesStatus.lookup name
  shards : ∀ name, a.shards.lookup name = b.shards.lookup name

/-- Two worlds with the same objects in store. -/
structure SameObjects (w w' : World) : Prop where
  status : SameStatus w.cluster.status w'.cluster.status
  services : ∀ name, w.services.lookup name = w'.services.lookup name
  rest : { w with
    cluster := { w.cluster with status := w'.cluster.status }
    services := w'.services } = w'

/-- The request may leave the stored objects other than it found them. -/
def Changes (faulty : Cmd → Prop) (w : World) (c : Cmd) : Prop :=
  ∃ reply w', Handles faulty w c reply w' ∧ ¬ SameObjects w w'

/-- No request of the pass changes a stored object. -/
def LeavesAlone (faulty : Cmd → Prop) (r : ClusterReconciler) (w : World) : Prop :=
  ∀ s c, Prog.Issues (Handles faulty) (reconcileWithServices r w.cluster) w s c →
    ∀ reply s', Handles faulty s c reply s' → SameObjects s s'

/-- Some answers lead the action to a request that changes a stored object. -/
def CanChange (faulty : Cmd → Prop) {α : Type} (x : Op α) (l : RedisCluster) (w : World) : Prop :=
  Act.may (Handles faulty) (Changes faulty) x (fun _ _ _ => False) l w

section

variable {faulty : Cmd → Prop} {l : RedisCluster} {w : World} {α β : Type}

/-- The change may come after an action that can return. -/
theorem canChange_bind {x : Op α} {f : α → Op β}
    (h : CanReturn faulty x (fun a l' w' => CanChange faulty (f a) l' w') l w) :
    CanChange faulty (x >>= f) l w :=
  may_bind.mpr (may_mono h (fun _ _ hc => hc.elim) fun _ _ _ h' => h')

theorem canChange_first {x : Op α} {f : α → Op β} (h : CanChange faulty x l w) :
    CanChange faulty (x >>= f) l w :=
  may_bind.mpr (may_post h fun _ _ _ h' => h'.elim)

theorem canChange_wrap {what : String} {x : Op α} :
    CanChange faulty (wrap what x) l w ↔ CanChange faulty x l w := may_context

/-- A pass that can change something does not leave the cluster alone. -/
theorem not_leavesAlone {r : ClusterReconciler}
    (h : CanChange faulty (reconcileWithServices r) w.cluster w) : ¬ LeavesAlone faulty r w := by
  intro halone
  rcases Prog.may_iff.mp h with ⟨s, c, hissued, reply, s', hwrite, hne⟩ | ⟨a, s, -, hfalse⟩
  · exact hne (halone s c hissued reply s' hwrite)
  · cases a <;> exact hfalse

/-- A patch that writes another status. -/
theorem canChange_patchStatus {status : RedisClusterStatus} (hl : l = w.cluster)
    (h : ¬ SameStatus l.status status) : CanChange faulty (patchStatus status) l w := by
  subst hl
  unfold patchStatus
  refine canChange_bind (canReturn_get.mpr (canChange_first (Or.inl ?_)))
  exact ⟨.ok { w.cluster with status := status }, w.store { w.cluster with status := status },
    Or.inl (by simp [Answers, World.store]), fun hsame => h hsame.status⟩

/-! ## The steps before the status update -/

variable {Q : Outcome Unit}

theorem canReturn_runSubstep {step : Substep}
    (h : Q () l w) : CanReturn faulty (runSubstep step) Q l w :=
  canReturn_bind.mpr (canReturn_ask (.ok ()) w rfl h)

theorem canReturn_reconcileGlobalResources
    (h : Q () l w) : CanReturn faulty reconcileGlobalResources Q l w := by
  unfold reconcileGlobalResources
  simp only [canReturn_bind, canReturn_wrap]
  exact canReturn_runSubstep (canReturn_runSubstep (canReturn_runSubstep (canReturn_runSubstep h)))

theorem canReturn_reconcileHibernation {Q : Outcome Bool}
    (hoff : isHibernationEnabled l = false) (hphase : l.status.phase ≠ .hibernating)
    (h : Q false l w) : CanReturn faulty reconcileHibernation Q l w := by
  unfold reconcileHibernation
  rw [canReturn_bind, canReturn_get, if_neg (by rw [hoff]; decide), canReturn_bind,
    canReturn_doWhen]
  exact Or.inr ⟨hphase, h⟩

/-- The world with other Services, stored under their names. -/
def Restocked (w w' : World) : Prop :=
  w'.KeyedServices ∧ ∃ services, w' = { w with services := services }

/-- A Service of this name is stored. -/
def Stocks (name : String) (w : World) : Prop := ∃ svc, w.services.lookup name = some svc

theorem Restocked.refl (h : w.KeyedServices) : Restocked w w := ⟨h, w.services, rfl⟩

theorem Restocked.trans {w' w'' : World} (h : Restocked w w') (h' : Restocked w' w'') :
    Restocked w w'' := by
  obtain ⟨-, services, rfl⟩ := h
  obtain ⟨hkeyed, services', rfl⟩ := h'
  exact ⟨hkeyed, services', rfl⟩

theorem restocked_withService (h : w.KeyedServices) (svc : Service) :
    Restocked w (w.withService svc) := ⟨h.withService svc, _, rfl⟩

theorem stocks_withService (svc : Service) : Stocks svc.name (w.withService svc) :=
  ⟨svc, GoMap.lookup_insert_self⟩

theorem Stocks.withService {name : String} (h : Stocks name w) (svc : Service) :
    Stocks name (w.withService svc) := by
  by_cases hname : name = svc.name
  · subst hname
    exact stocks_withService svc
  · obtain ⟨old, hold⟩ := h
    exact ⟨old, (GoMap.lookup_insert_ne hname).trans hold⟩

/-- A Service that is stored can be patched. -/
theorem canReturn_patchService {svc after : Service}
    (hstored : w.services.lookup svc.name = some svc) (hname : after.name = svc.name)
    (h : Q () l (w.withService after)) :
    CanReturn faulty (do ofApi (← ask (.patchService svc after))) Q l w := by
  rw [canReturn_bind]
  refine canReturn_ask (.ok ()) (w.withService after) ?_ h
  simp only [Answers, hstored, World.withService, hname]
  exact ⟨trivial, trivial⟩

variable (hkeyed : w.KeyedServices)
include hkeyed

theorem canReturn_ensureService (name : String) (selector : GoMap String String) (port : Nat) :
    CanReturn faulty (ensureService name selector port)
      (fun _ l' w' => l' = l ∧ Restocked w w' ∧ Stocks name w' ∧
        ∀ other, Stocks other w → Stocks other w') l w := by
  unfold ensureService
  rw [canReturn_bind]
  refine canReturn_ask _ w ⟨rfl, rfl⟩ ?_
  cases hlookup : w.services.lookup name with
  | none =>
    show CanReturn faulty (if _ then _ else _) _ l w
    rw [if_neg (not_not.mpr rfl), canReturn_bind]
    let svc : Service := { name := name, selector := selector, ports := [tcpPort "redis" port] }
    refine canReturn_ask (.ok ()) (w.withService svc) ?_
      ⟨rfl, restocked_withService hkeyed svc, stocks_withService svc,
        fun _ h => h.withService svc⟩
    simp only [Answers, hlookup]
    exact ⟨trivial, rfl⟩
  | some existing =>
    have hname : existing.name = name := hkeyed name existing hlookup
    show CanReturn faulty (if _ then _ else _) _ l w
    split
    · exact ⟨rfl, .refl hkeyed, ⟨existing, hlookup⟩, fun _ h => h⟩
    · refine canReturn_patchService (by rw [hname, hlookup]) rfl
        ⟨rfl, restocked_withService hkeyed _, ?_, fun _ h => h.withService _⟩
      exact hname ▸ stocks_withService _

theorem canReturn_ensureClusterHeadlessService :
    CanReturn faulty ensureClusterHeadlessService (fun _ l' w' => l' = l ∧ Restocked w w') l w := by
  unfold ensureClusterHeadlessService
  rw [canReturn_bind, canReturn_get, canReturn_bind]
  refine canReturn_ask _ w ⟨rfl, rfl⟩ ?_
  cases hlookup : w.services.lookup (clusterHeadlessServiceName l.name) with
  | none =>
    show CanReturn faulty (if _ then _ else _) _ l w
    rw [if_neg (not_not.mpr rfl), canReturn_bind]
    let svc : Service :=
      { name := clusterHeadlessServiceName l.name
        selector := dataSelector l.name
        ports := [tcpPort "redis" 6379, tcpPort "cluster-bus" 16379]
        clusterIP := "None" }
    refine canReturn_ask (.ok ()) (w.withService svc) ?_ ⟨rfl, restocked_withService hkeyed svc⟩
    simp only [Answers, hlookup]
    exact ⟨trivial, rfl⟩
  | some existing =>
    have hname := hkeyed _ existing hlookup
    show CanReturn faulty (if _ then _ else _) _ l w
    split
    · exact ⟨rfl, .refl hkeyed⟩
    · exact canReturn_patchService (by rw [hname, hlookup]) rfl
        ⟨rfl, restocked_withService hkeyed _⟩

theorem canReturn_deleteServiceIfExists (name : String) :
    CanReturn faulty (deleteServiceIfExists name) (fun _ l' w' => l' = l ∧ Restocked w w') l w := by
  unfold deleteServiceIfExists
  rw [canReturn_bind]
  refine canReturn_ask _ w ⟨rfl, rfl⟩ ?_
  cases hlookup : w.services.lookup name with
  | none => exact ⟨rfl, .refl hkeyed⟩
  | some existing =>
    show CanReturn faulty (do ofApi (← ask (.deleteService name))) _ l w
    rw [canReturn_bind]
    refine canReturn_ask (.ok ()) { w with services := w.services.erase name } ?_
      ⟨rfl, fun other svc hother => ?_, _, rfl⟩
    · simp only [Answers, hlookup]
      exact ⟨trivial, trivial⟩
    · by_cases hne : other = name
      · subst hne
        exact absurd (GoMap.lookup_erase_self.symm.trans hother) (Option.some_ne_none svc).symm
      · exact hkeyed other svc ((GoMap.lookup_erase_ne hne).symm.trans hother)

theorem canReturn_reconcileClusterServices :
    CanReturn faulty reconcileClusterServices (fun _ l' w' => l' = l ∧ Restocked w w') l w := by
  unfold reconcileClusterServices
  simp only [canReturn_bind, canReturn_get, canReturn_wrap]
  refine canReturn_mono (canReturn_ensureClusterHeadlessService hkeyed) ?_
  rintro - _ w₁ ⟨rfl, h₁⟩
  refine canReturn_mono (canReturn_ensureService h₁.1 _ _ _) ?_
  rintro - _ w₂ ⟨rfl, h₂, -⟩
  refine canReturn_mono (canReturn_deleteServiceIfExists h₂.1 _) ?_
  rintro - _ w₃ ⟨rfl, h₃⟩
  refine canReturn_mono (canReturn_deleteServiceIfExists h₃.1 _) ?_
  rintro - _ w₄ ⟨rfl, h₄⟩
  refine canReturn_mono (canReturn_deleteServiceIfExists h₄.1 _) ?_
  rintro - _ w₅ ⟨rfl, h₅⟩
  exact ⟨rfl, (((h₁.trans h₂).trans h₃).trans h₄).trans h₅⟩

theorem canReturn_reconcileLeaderServiceAnnotations :
    CanReturn faulty reconcileLeaderServiceAnnotations
      (fun _ l' w' => l' = l ∧ Restocked w w' ∧ ∀ other, Stocks other w → Stocks other w') l w := by
  unfold reconcileLeaderServiceAnnotations
  rw [canReturn_bind, canReturn_get, canReturn_bind]
  refine canReturn_ask _ w ⟨rfl, rfl⟩ ?_
  cases hlookup : w.services.lookup (leaderServiceName l.name) with
  | none => exact ⟨rfl, .refl hkeyed, fun _ h => h⟩
  | some svc =>
    have hname := hkeyed _ svc hlookup
    refine canReturn_ite.mpr ((Classical.em _).imp (fun h => ⟨h, ?_⟩) fun h => ⟨h, ?_⟩)
    · exact ⟨rfl, .refl hkeyed, fun _ h => h⟩
    · exact canReturn_patchService (by rw [hname, hlookup]) rfl
        ⟨rfl, restocked_withService hkeyed _, fun _ h => h.withService _⟩

theorem canReturn_updateLeaderServiceSelector (hleader : Stocks (leaderServiceName l.name) w) :
    CanReturn faulty updateLeaderServiceSelector (fun _ l' w' => l' = l ∧ Restocked w w') l w := by
  obtain ⟨svc, hlookup⟩ := hleader
  have hname := hkeyed _ svc hlookup
  unfold updateLeaderServiceSelector
  rw [canReturn_bind, canReturn_get, canReturn_bind, canReturn_wrap, canReturn_bind]
  refine canReturn_ask _ w ⟨rfl, rfl⟩ ?_
  rw [hlookup]
  show CanReturn faulty (if _ then _ else _) _ l w
  split
  · exact ⟨rfl, .refl hkeyed⟩
  · exact canReturn_patchService (by rw [hname, hlookup]) rfl
      ⟨rfl, restocked_withService hkeyed _⟩

theorem canReturn_reconcileReplicatedServices :
    CanReturn faulty reconcileReplicatedServices (fun _ l' w' => l' = l ∧ Restocked w w') l w := by
  unfold reconcileReplicatedServices
  simp only [canReturn_bind, canReturn_get, canReturn_wrap]
  refine canReturn_mono (canReturn_ensureService hkeyed _ _ _) ?_
  rintro - l w₁ ⟨rfl, h₁, hleader₁, -⟩
  refine canReturn_mono (canReturn_ensureService h₁.1 _ _ _) ?_
  rintro - l w₂ ⟨rfl, h₂, -, hmore₂⟩
  refine canReturn_mono (canReturn_ensureService h₂.1 _ _ _) ?_
  rintro - l w₃ ⟨rfl, h₃, -, hmore₃⟩
  have hsentinel : CanReturn faulty (doWhen (l.spec.mode = .sentinel)
      (wrap "sentinel service" (ensureService (sentinelServiceName l.name)
        (roleSelector l.name labelRoleSentinel) sentinelPort)))
      (fun _ l' w' => l' = l ∧ Restocked w₃ w' ∧ ∀ other, Stocks other w₃ → Stocks other w')
      l w₃ := by
    rw [canReturn_doWhen, canReturn_wrap]
    by_cases hm : l.spec.mode = .sentinel
    · exact Or.inl ⟨hm, canReturn_mono (canReturn_ensureService h₃.1 _ _ _)
        fun _ _ _ h => ⟨h.1, h.2.1, h.2.2.2⟩⟩
    · exact Or.inr ⟨hm, rfl, .refl h₃.1, fun _ h => h⟩
  refine canReturn_mono hsentinel ?_
  rintro - l w₄ ⟨rfl, h₄, hmore₄⟩
  refine canReturn_mono (canReturn_reconcileLeaderServiceAnnotations h₄.1) ?_
  rintro - l w₅ ⟨rfl, h₅, hmore₅⟩
  have hleader := hmore₅ _ (hmore₄ _ (hmore₃ _ (hmore₂ _ hleader₁)))
  have hall := (((h₁.trans h₂).trans h₃).trans h₄).trans h₅
  rw [canReturn_doWhen]
  by_cases hprimary : l.status.currentPrimary = ""
  · exact Or.inr ⟨not_not.mpr hprimary, rfl, hall⟩
  · refine Or.inl ⟨hprimary, ?_⟩
    refine canReturn_mono (canReturn_updateLeaderServiceSelector h₅.1 hleader) ?_
    rintro - l w₆ ⟨rfl, h₆⟩
    exact ⟨rfl, hall.trans h₆⟩

/-- The Services can always be brought up to date. -/
theorem canReturn_reconcileServices :
    CanReturn faulty reconcileServices (fun _ l' w' => l' = l ∧ Restocked w w') l w := by
  unfold reconcileServices
  rw [canReturn_bind, canReturn_get]
  split
  · exact canReturn_reconcileClusterServices hkeyed
  · exact canReturn_reconcileReplicatedServices hkeyed

omit hkeyed

/-- Maintenance is recorded among the conditions. -/
theorem canReturn_reconcileMaintenance (hl : l = w.cluster) {Q : Outcome Bool}
    (h : ∀ maintenance conditions, Q maintenance
      { l with status := { l.status with conditions := conditions } }
      (w.store { l with status := { l.status with conditions := conditions } })) :
    CanReturn faulty reconcileMaintenance Q l w := by
  have hrecord : ∀ inProgress what, CanReturn faulty (recordMaintenance inProgress what)
      (fun _ l' w' => Q inProgress l' w') l w := by
    intro inProgress what
    unfold recordMaintenance
    rw [canReturn_bind]
    refine canReturn_now ?_
    rw [canReturn_bind, canReturn_get, canReturn_wrap]
    exact canReturn_patchStatus hl (h _ _)
  have hsame : ∀ maintenance, Q maintenance l w := by
    intro maintenance
    have hself := h maintenance l.status.conditions
    subst hl
    exact hself
  unfold reconcileMaintenance
  rw [canReturn_bind, canReturn_get]
  split
  · rw [canReturn_bind, canReturn_doWhen]
    exact (Classical.em _).imp (fun hc => ⟨hc, hrecord false _⟩) fun hc => ⟨hc, hsame false⟩
  · rw [canReturn_bind, canReturn_wrap]
    refine canReturn_runSubstep ?_
    rw [canReturn_bind, canReturn_doWhen]
    exact (Classical.em _).imp (fun hc => ⟨hc, hrecord true _⟩) fun hc => ⟨hc, hsame true⟩

theorem canReturn_pollPod {m : Statuses} {pod : Pod}
    {Q : Outcome Statuses} (h : Q (w.pollOne m pod) l w) :
    CanReturn faulty (pollPod m pod) Q l w := by
  unfold World.pollOne at h
  unfold pollPod
  rw [canReturn_ite]
  by_cases hip : pod.podIP = ""
  · rw [if_pos hip] at h
    exact Or.inl ⟨hip, h⟩
  rw [if_neg hip] at h
  refine Or.inr ⟨hip, canReturn_bind.mpr ?_⟩
  cases hans : w.answers pod.podIP with
  | none =>
    rw [hans] at h
    refine canReturn_ask (.error "") w ?_ h
    simp only [Answers, hans]
    exact ⟨⟨_, rfl⟩, trivial⟩
  | some response =>
    rw [hans] at h
    refine canReturn_ask (.ok response) w ?_ (canReturn_bind.mpr (canReturn_now h))
    simp only [Answers, hans]
    exact ⟨trivial, trivial⟩

theorem canReturn_pollOrNone {Q : Outcome Statuses}
    (h : Q w.polled l w) : CanReturn faulty pollOrNone Q l w := by
  have hloop : ∀ (pods : List Pod) (m : Statuses),
      CanReturn faulty (pods.foldlM pollPod m)
        (fun statuses l' w' => statuses = pods.foldl w.pollOne m ∧ l' = l ∧ w' = w) l w := by
    intro pods
    induction pods with
    | nil => exact fun m => ⟨rfl, rfl, rfl⟩
    | cons pod pods ih =>
      intro m
      rw [List.foldlM_cons, canReturn_bind]
      exact canReturn_pollPod (ih (w.pollOne m pod))
  unfold pollOrNone pollInstanceStatuses
  rw [canReturn_bind]
  refine may_attempt ?_
  show CanReturn faulty _ _ l w
  rw [canReturn_bind, canReturn_wrap]
  refine canReturn_listDataPods (canReturn_mono (hloop w.dataPods ∅) ?_)
  rintro statuses l' w' ⟨rfl, rfl, rfl⟩
  exact h

/-! ## The status update -/

/-- The phases of a cluster that is as it should be. -/
def World.Healthy (w : World) : Prop :=
  w.cluster.status.phase = .healthy ∨ w.cluster.status.phase = .replicating

/-- A pod that answered is stamped with the time; of another nothing is known. -/
theorem polled_stamped {name : String} {st : InstanceStatus}
    (h : w.polled.lookup name = some st) : st = {} ∨ st.lastSeenAt = some w.clock := by
  obtain ⟨pod, -, -, -, rfl⟩ := World.polled_lookup h
  unfold World.entryOf
  cases w.answers pod.podIP with
  | none => exact Or.inl rfl
  | some response => exact Or.inr rfl

/-- Pods of which nothing is known serve no slot. -/
theorem deriveSlotsAssigned_of_silent {statuses : Statuses}
    (hsilent : ∀ p ∈ statuses.pairs, p.2 = {}) (layout : ShardLayout) :
    deriveSlotsAssigned layout statuses = 0 := by
  unfold deriveSlotsAssigned
  rw [List.length_eq_zero_iff, List.filter_eq_nil_iff]
  intro slot _ hany
  obtain ⟨p, hp, hserves⟩ := List.any_eq_true.mp hany
  rw [hsilent p hp] at hserves
  simp at hserves

/-- With no pod known, no phase of a healthy cluster is derived. -/
theorem determinePhase_of_silent {cluster : RedisCluster} {statuses : Statuses}
    (hsilent : ∀ p ∈ statuses.pairs, p.2 = {})
    (hslots : cluster.spec.mode = .cluster → cluster.status.slotsAssigned = 0) :
    determinePhase cluster statuses ≠ .healthy ∧
    determinePhase cluster statuses ≠ .replicating := by
  unfold determinePhase
  by_cases hlen : statuses.len = 0
  · rw [if_pos hlen]
    decide
  obtain ⟨name, hname⟩ := GoMap.len_pos_iff.mp (Nat.pos_of_ne_zero hlen)
  obtain ⟨st, hst⟩ := GoMap.mem_iff_lookup.mp hname
  have hmem := GoMap.mem_pairs.mpr hst
  rw [if_neg hlen]
  by_cases hmode : cluster.spec.mode = .cluster
  · rw [if_pos hmode, hslots hmode, if_neg (by simp), if_pos (Or.inl rfl)]
    decide
  rw [if_neg hmode]
  split
  · -- in replica mode all pods must be connected
    rw [if_neg]
    · decide
    · rintro ⟨hall, -⟩
      have hone := List.all_eq_true.mp hall _ hmem
      rw [hsilent _ hmem] at hone
      simp at hone
  · -- otherwise one of them must be a master
    have hany : (statuses.pairs.any fun p => p.2.role == .master) = false := by
      rw [List.any_eq_false]
      intro p hp
      rw [hsilent p hp]
      decide
    rw [if_pos hany]
    split <;> decide

/-- The phase an update writes, and the slots it is derived from. -/
theorem refreshedStatus_phase (order : MapOrder) (l : RedisCluster) (w : World)
    (statuses : Statuses) :
    ∃ cluster : RedisCluster,
      (refreshedStatus order l w statuses).phase = determinePhase cluster statuses ∧
        (cluster.spec.mode = .cluster →
          ∃ layout, cluster.status.slotsAssigned = deriveSlotsAssigned layout statuses) := by
  let counted := withCounters l.status statuses
  refine ⟨_, rfl, fun hmode => ⟨planShardLayout order { l with status := counted } w.dataPods
    statuses, ?_⟩⟩
  show (if l.spec.mode = .cluster then withShards counted
    (deriveClusterStatus order { l with status := counted } w.dataPods statuses)
    else withoutShards counted).slotsAssigned = _
  rw [if_pos hmode]
  rfl

/-- A phase of a healthy cluster rests on a pod that answered. -/
theorem stamped_of_phase {order : MapOrder}
    (h : (refreshedStatus order l w w.polled).phase = .healthy ∨
      (refreshedStatus order l w w.polled).phase = .replicating) :
    ∃ name st, w.polled.lookup name = some st ∧ st.lastSeenAt = some w.clock := by
  by_contra hnone
  have hsilent : ∀ p ∈ w.polled.pairs, p.2 = {} := by
    rintro ⟨name, st⟩ hp
    have hst := GoMap.mem_pairs.mp hp
    exact (polled_stamped hst).resolve_right fun hstamp => hnone ⟨name, st, hst, hstamp⟩
  obtain ⟨cluster, hphase, hslots⟩ := refreshedStatus_phase order l w w.polled
  have hneither := @determinePhase_of_silent cluster _ hsilent fun hmode => by
    obtain ⟨layout, hassigned⟩ := hslots hmode
    rw [hassigned, deriveSlotsAssigned_of_silent hsilent layout]
    rfl
  rw [hphase] at h
  exact h.elim hneither.1 hneither.2

/-- Every stored time at which an instance was seen lies before the clock. -/
def World.StampsPast (w : World) : Prop :=
  ∀ name st time, w.cluster.status.instancesStatus.lookup name = some st →
    st.lastSeenAt = some time → time < w.clock

theorem refreshedStatus_instancesStatus (order : MapOrder) (l : RedisCluster) (w : World)
    (statuses : Statuses) :
    (refreshedStatus order l w statuses).instancesStatus = statuses :=
  Refreshed.instancesStatus ⟨l.status.phase, l.status.conditions, order, rfl⟩

/-- What an update finds is never what is stored: either a pod answered, and its
    stamp has moved, or none did, and the phase is no longer that of a healthy
    cluster. -/
theorem not_sameStatus_refreshed (hhealthy : w.Healthy) (hpast : w.StampsPast)
    (order : MapOrder) :
    ¬ SameStatus w.cluster.status (refreshedStatus order w.cluster w w.polled) := by
  intro hsame
  have hphase := congrArg RedisClusterStatus.phase hsame.plain
  change w.cluster.status.phase = _ at hphase
  unfold World.Healthy at hhealthy
  rw [hphase] at hhealthy
  obtain ⟨name, st, hst, hstamp⟩ := stamped_of_phase hhealthy
  have hstored : w.cluster.status.instancesStatus.lookup name = some st := by
    rw [hsame.instances, refreshedStatus_instancesStatus, hst]
  exact Nat.lt_irrefl _ (hpast name st w.clock hstored hstamp)

/-- The update of a healthy cluster's status changes it. -/
theorem canChange_updateStatus (hhealthy : w.Healthy) (hpast : w.StampsPast) :
    CanChange faulty (updateStatus w.polled) w.cluster w := by
  have hmoved := not_sameStatus_refreshed hhealthy hpast MapOrder.stored
  unfold updateStatus
  refine canChange_bind (canReturn_get.mpr (canChange_bind
    (canReturn_deriveStatus MapOrder.stored (canChange_bind (canReturn_wrap.mpr
      (canReturn_countReadySentinelPods (canChange_bind (canReturn_now ?_))))))))
  show CanChange faulty (if w.cluster.status = refreshedStatus MapOrder.stored w.cluster w w.polled
    then pure ()
    else patchStatus (refreshedStatus MapOrder.stored w.cluster w w.polled)) w.cluster w
  rw [if_neg fun heq => hmoved (by rw [← heq]; exact ⟨rfl, fun _ => rfl, fun _ => rfl⟩)]
  exact canChange_patchStatus rfl hmoved

/-! ## The pass -/

/-- A cluster that is put to sleep gets another phase. -/
theorem canChange_hibernate (hkeyed : w.KeyedServices) (hl : l = w.cluster)
    (hphase : l.status.phase ≠ .hibernating) : CanChange faulty hibernate l w := by
  have hclear : CanReturn faulty clearLeaderServiceSelector
      (fun _ l' w' => l' = l ∧ Restocked w w') l w := by
    unfold clearLeaderServiceSelector
    rw [canReturn_bind, canReturn_get, canReturn_bind]
    refine canReturn_ask _ w ⟨rfl, rfl⟩ ?_
    cases hlookup : w.services.lookup (leaderServiceName l.name) with
    | none => exact ⟨rfl, .refl hkeyed⟩
    | some svc =>
      have hname := hkeyed _ svc hlookup
      exact canReturn_patchService (by rw [hname, hlookup]) rfl
        ⟨rfl, restocked_withService hkeyed _⟩
  unfold hibernate
  refine canChange_bind (canReturn_wrap.mpr (canReturn_listClusterPods (canChange_bind ?_)))
  refine canReturn_mono (may_forEach (fun l' w' => l' = l ∧ w' = w) ?_ ⟨rfl, rfl⟩) ?_
  · rintro pod - _ _ ⟨rfl, rfl⟩
    exact canReturn_wrap.mpr (canReturn_deletePod ⟨rfl, rfl⟩)
  rintro - _ _ ⟨rfl, rfl⟩
  refine canChange_bind (canReturn_wrap.mpr (canReturn_mono hclear ?_))
  rintro - _ _ ⟨rfl, -, services, rfl⟩
  refine canChange_bind (canReturn_get.mpr (canChange_bind (canReturn_now (canChange_wrap.mpr ?_))))
  exact canChange_patchStatus hl fun hsame =>
    hphase (congrArg RedisClusterStatus.phase hsame.plain)

/-- The steps up to the status update can be taken. -/
theorem canChange_reconcileAwakeWith (r : ClusterReconciler) (maintenance : Bool)
    (hkeyed : w.KeyedServices) (hhealthy : w.Healthy) (hpast : w.StampsPast) :
    CanChange faulty (reconcileAwakeWith r reconcileServices maintenance) w.cluster w := by
  unfold reconcileAwakeWith
  refine canChange_bind (canReturn_wrap.mpr (canReturn_runSubstep (canChange_bind
    (canReturn_wrap.mpr (canReturn_mono (canReturn_reconcileServices hkeyed) ?_)))))
  rintro - _ _ ⟨rfl, -, services, rfl⟩
  refine canChange_bind (canReturn_wrap.mpr (canReturn_runSubstep (canChange_bind
    (canReturn_pollOrNone (canChange_first (canChange_wrap.mpr ?_))))))
  exact canChange_updateStatus hhealthy hpast

/-- A pass over a healthy cluster changes what is stored. -/
theorem canChange_reconcileWithServices (r : ClusterReconciler) (hkeyed : w.KeyedServices)
    (hhealthy : w.Healthy) (hpast : w.StampsPast) :
    CanChange faulty (reconcileWithServices r) w.cluster w := by
  have hphase : w.cluster.status.phase ≠ .hibernating := by
    rcases hhealthy with h | h <;> rw [h] <;> decide
  unfold reconcileWithServices reconcileWith
  refine canChange_bind (canReturn_wrap.mpr (canReturn_reconcileGlobalResources ?_))
  cases hon : isHibernationEnabled w.cluster with
  | true =>
    refine canChange_first (canChange_wrap.mpr ?_)
    unfold reconcileHibernation
    refine canChange_bind (canReturn_get.mpr ?_)
    rw [if_pos hon]
    exact canChange_first (canChange_hibernate hkeyed rfl hphase)
  | false =>
    refine canChange_bind (canReturn_wrap.mpr (canReturn_reconcileHibernation hon hphase ?_))
    rw [if_neg Bool.false_ne_true]
    refine canChange_bind (canReturn_wrap.mpr (canReturn_reconcileMaintenance rfl ?_))
    intro maintenance conditions
    exact canChange_reconcileAwakeWith r maintenance hkeyed hhealthy hpast

end

/-- **A healthy cluster is written in every pass.**  In every mode, whatever the
    pass before it did: if the cluster is recorded as healthy and the clock has
    moved since its instances were last seen, a pass does change a stored
    object, by a run that meets no fault. -/
theorem healthy_cluster_never_left_alone (faulty : Cmd → Prop) (r : ClusterReconciler) {w : World}
    {time : Nat} (hkeyed : w.KeyedServices) (hhealthy : w.Healthy)
    (hseen : ∀ name st seen, w.cluster.status.instancesStatus.lookup name = some st →
      st.lastSeenAt = some seen → seen ≤ w.clock)
    (hlater : w.clock < time) : ¬ LeavesAlone faulty r { w with clock := time } :=
  not_leavesAlone (canChange_reconcileWithServices r hkeyed hhealthy
    fun name st seen hst hstamp => (hseen name st seen hst hstamp).trans_lt hlater)

/-! ### A cluster of one pod -/

/-- A standalone cluster of one pod, which answers as a connected master. -/
def restingWorld : World where
  cluster := { name := "c", spec := { instances := 1 }, status := { currentPrimary := "c-0" } }
  pods := [{ name := "c-0", podIP := "10.0.0.1" }]
  pvcs := [{ name := "c-data-0", request := 1073741824 }]
  answers := fun _ => some { role := .master, connected := true }
  clock := 5

/-- What a first pass makes of it. -/
def restedWorld : World :=
  (Prog.run World.answer (reconcileWithServices anyTemplate restingWorld.cluster) restingWorld).2

/-- The first pass completes. -/
theorem restedWorld_returns : ∃ result, Prog.Returns (Handles fun _ => False)
    (reconcileWithServices anyTemplate restingWorld.cluster) restingWorld (.ok result)
      restedWorld := exists_returns_of_answer (by decide +kernel)

theorem restedWorld_healthy : restedWorld.Healthy := Or.inl (by decide +kernel)

theorem restedWorld_keyed : restedWorld.KeyedServices := by
  have hpairs : ∀ p ∈ restedWorld.services.pairs, p.2.name = p.1 := by decide +kernel
  exact fun name svc h => hpairs (name, svc) (GoMap.mem_pairs.mpr h)

theorem restedWorld_seen (name : String) (st : InstanceStatus) (seen : Nat)
    (h : restedWorld.cluster.status.instancesStatus.lookup name = some st)
    (hseen : st.lastSeenAt = some seen) : seen ≤ restedWorld.clock := by
  have hpairs : ∀ p ∈ restedWorld.cluster.status.instancesStatus.pairs,
      p.2.lastSeenAt = some restedWorld.clock := by decide +kernel
  have hstamp := (hpairs (name, st) (GoMap.mem_pairs.mpr h)).symm.trans hseen
  exact (Option.some.inj hstamp).ge

/-- One second later a second pass writes the cluster again. -/
theorem restedWorld_never_left_alone :
    restedWorld.clock < 6 ∧
      ¬ LeavesAlone (fun _ => False) anyTemplate { restedWorld with clock := 6 } := by
  have hlater : restedWorld.clock < 6 := by decide +kernel
  exact ⟨hlater, healthy_cluster_never_left_alone (fun _ => False) anyTemplate restedWorld_keyed
    restedWorld_healthy restedWorld_seen hlater⟩

/-- A request of the computed pass that does what is tested for. -/
theorem issues_of_answered (test : World → World → Bool) (w : World)
    (h : (Prog.trace World.answer (reconcileWithServices anyTemplate w.cluster) w).any
      (fun q => test q.1 (q.1.answer q.2).2) = true) :
    ∃ s c reply s', Prog.Issues (Handles fun _ => False)
        (reconcileWithServices anyTemplate w.cluster) w s c ∧
      Handles (fun _ => False) s c reply s' ∧ test s s' = true := by
  obtain ⟨⟨s, c⟩, hmem, htest⟩ := List.any_eq_true.mp h
  exact ⟨s, c, _, _, Prog.issues_of_mem_trace (World.handles_answer fun _ => False) hmem,
    World.handles_answer _ s c, htest⟩

/-- The first pass completes and leaves a healthy cluster; the second one, with
    nothing but the clock advanced, stores another `lastSeenAt`, and on its way
    other Services. -/
theorem quiet_cluster_written :
    (∃ result, Prog.Returns (Handles fun _ => False)
      (reconcileWithServices anyTemplate restingWorld.cluster) restingWorld (.ok result)
        restedWorld) ∧
      restedWorld.Healthy ∧ restedWorld.clock < 6 ∧
      (∃ s c reply s', Prog.Issues (Handles fun _ => False)
          (reconcileWithServices anyTemplate restedWorld.cluster)
          { restedWorld with clock := 6 } s c ∧
        Handles (fun _ => False) s c reply s' ∧
        s.cluster.status.instancesStatus.lookup "c-0" ≠
          s'.cluster.status.instancesStatus.lookup "c-0") ∧
      ∃ s c reply s', Prog.Issues (Handles fun _ => False)
          (reconcileWithServices anyTemplate restedWorld.cluster)
          { restedWorld with clock := 6 } s c ∧
        Handles (fun _ => False) s c reply s' ∧
        s.services.lookup "c-leader" ≠ s'.services.lookup "c-leader" := by
  refine ⟨restedWorld_returns, restedWorld_healthy, by decide +kernel, ?_, ?_⟩
  · obtain ⟨s, c, reply, s', hissued, hwrite, hmoved⟩ := issues_of_answered
      (fun s s' => decide (s.cluster.status.instancesStatus.lookup "c-0" ≠
        s'.cluster.status.instancesStatus.lookup "c-0"))
      { restedWorld with clock := 6 } (by decide +kernel)
    exact ⟨s, c, reply, s', hissued, hwrite, of_decide_eq_true hmoved⟩
  · obtain ⟨s, c, reply, s', hissued, hwrite, hmoved⟩ := issues_of_answered
      (fun s s' => decide (s.services.lookup "c-leader" ≠ s'.services.lookup "c-leader"))
      { restedWorld with clock := 6 } (by decide +kernel)
    exact ⟨s, c, reply, s', hissued, hwrite, of_decide_eq_true hmoved⟩

end RedisOperator
