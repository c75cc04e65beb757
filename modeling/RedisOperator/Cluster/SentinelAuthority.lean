/-
  RedisOperator.Cluster.SentinelAuthority

  Who decides about the master in sentinel mode.  Sentinel elects; the operator
  copies its choice into the status some passes later; the instance managers
  bring their Redis to what their copy of the status says, which may be older
  still; and a planned update of the primary's pod makes the operator promote a
  replica by itself.

  All of them move in one transition system, a request at a time.  Ghosts: the
  pod Sentinel designates (`master`), and the copy each reconcile acts on.
-/

import RedisOperator.Cluster.OneAtATime
import RedisOperator.Instance.RoleManager

namespace RedisOperator

open Lib

/-! ## Passes that move no primary -/

/-- The request asks no instance to become master. -/
def NoPromotion : Cmd → Prop
  | .post _ .promote => False
  | _ => True

/-- The pod is the primary, or is made the first one in this pass. -/
def Leads (cluster : RedisCluster) (name : String) : Prop :=
  name = cluster.status.currentPrimary ∨
    (cluster.status.currentPrimary = "" ∧ name = podNameForIndex cluster.name 0)

/-- Nothing calls for a move of the primary role: its pod is up to date, or its
    update waits for approval, and it needs no restart for a resize. -/
structure PrimaryStays (r : ClusterReconciler) (w : World) : Prop where
  template : (w.cluster.spec.primaryUpdateStrategy = .supervised ∧
      isPrimaryUpdateApproved w.cluster = false) ∨
    ∀ pod ∈ w.pods, Leads w.cluster pod.name → MadeFrom (r.computeSpecHash w.cluster) pod
  claims : w.cluster.spec.isEphemeral = true ∨
    ∀ pod ∈ w.pods, Leads w.cluster pod.name → isPodRunningAndReady pod = true →
      ∀ claim ∈ pod.claims, ¬ Waiting w claim

theorem noPromotion_of_not_post {c : Cmd} (h : ∀ podIP request, c ≠ .post podIP request) :
    NoPromotion c := by
  cases c with
  | post podIP request => exact absurd rfl (h podIP request)
  | _ => trivial

theorem noPromotion_workGuard : WorkGuard fun _ => NoPromotion where
  quiet _ c hc := noPromotion_of_not_post (by rintro _ _ rfl; exact hc)
  patchStatus _ _ _ := trivial
  hibernation _ _ := trivial
  patchService _ _ _ := trivial
  patchSpec _ _ _ _ := trivial
  storing _ c hc := noPromotion_of_not_post (by rintro _ _ rfl; exact hc)
  creating _ c hc := noPromotion_of_not_post (by rintro _ _ rfl; exact hc)
  scaleDown _ _ := trivial

section

variable {faulty : Cmd → Prop} {l : RedisCluster} {w : World} {r : ClusterReconciler}

/-- A restart for a resize moves no primary that needs none; if it lets the pass
    go on, it did nothing. -/
theorem safe_restart_noPromotion {pendingPVCs : List String}
    (h : ∀ pod ∈ w.dataPods, pod.name = l.status.currentPrimary →
      isPodRunningAndReady pod = true → podHasPendingResizePVC pendingPVCs pod = false) :
    Safe faulty (fun _ => NoPromotion) (restartPodsForPendingResize pendingPVCs)
      (fun stop l' w' => stop = false → l' = l ∧ w' = w) l w := by
  have hstop : ∀ (l' : RedisCluster) (w' : World), true = false → l' = l ∧ w' = w :=
    fun _ _ hno => nomatch hno
  unfold restartPodsForPendingResize
  rw [safe_bind, safe_get, safe_bind, safe_wrap, safe_listDataPods]
  refine ⟨trivial, ?_⟩
  dsimp only
  split
  · rw [safe_bind, safe_wrap]
    exact safe_deletePod trivial fun _ => hstop _ _
  · rw [safe_ite]
    refine ⟨fun _ => hstop _ _, fun _ => ?_⟩
    split
    · exact fun _ => ⟨rfl, rfl⟩
    next primary hprimary =>
      -- it waits for a restart, so it is not ready
      obtain ⟨hlast, hwaits⟩ := Option.filter_eq_some_iff.mp hprimary
      have hmem := List.mem_filter.mp (List.mem_of_getLast? hlast)
      have hready : isPodRunningAndReady primary = false := by
        by_contra hready
        have := h primary hmem.1 (by simpa using hmem.2) (by simpa using hready)
        rw [this] at hwaits
        cases hwaits
      unfold restartPrimary
      rw [if_pos hready]
      exact hstop _ _

/-- A rolling update moves no primary that is up to date or waits for approval. -/
theorem safe_rollingUpdate_noPromotion {desiredHash : String} (hmode : l.spec.mode ≠ .cluster)
    (h : (l.spec.primaryUpdateStrategy = .supervised ∧ isPrimaryUpdateApproved l = false) ∨
      ∀ pod ∈ w.dataPods, pod.name = l.status.currentPrimary → getPodSpecHash pod = desiredHash) :
    Safe faulty (fun _ => NoPromotion) (rollingUpdate desiredHash) (fun _ _ _ => True) l w := by
  unfold rollingUpdate rollingUpdateReplicated
  rw [safe_bind, safe_get, if_neg hmode, safe_bind, safe_get, safe_bind, safe_wrap,
    safe_listDataPods]
  refine ⟨trivial, ?_⟩
  dsimp only
  split
  · rw [safe_bind, safe_wrap]
    exact safe_deletePod trivial fun _ => trivial
  · split
    · trivial
    next primary hprimary =>
      rw [safe_ite]
      refine ⟨fun _ => trivial, fun houtdated => ?_⟩
      rcases h with ⟨hsupervised, hpending⟩ | hcurrent
      · unfold updatePrimary
        rw [safe_bind, safe_get]
        dsimp only
        rw [if_pos ⟨by rw [hsupervised]; rfl, hpending⟩]
        have honly : Act.Only NoPromotion pauseForPrimaryApproval :=
          only_pauseForPrimaryApproval trivial fun _ _ => trivial
        exact safe_of_only honly fun _ _ hc => hc
      · have hmem := List.mem_filter.mp (List.mem_of_getLast? hprimary)
        exact absurd (hcurrent primary hmem.1 (by simpa using hmem.2)) houtdated

theorem safe_plannedMoves_noPromotion {pendingPVCs : List String} (hmode : l.spec.mode ≠ .cluster)
    (htemplate : (l.spec.primaryUpdateStrategy = .supervised ∧ isPrimaryUpdateApproved l = false) ∨
      ∀ pod ∈ w.dataPods, pod.name = l.status.currentPrimary →
        getPodSpecHash pod = r.computeSpecHash l)
    (hclaims : ∀ pod ∈ w.dataPods, pod.name = l.status.currentPrimary →
      isPodRunningAndReady pod = true → podHasPendingResizePVC pendingPVCs pod = false) :
    Safe faulty (fun _ => NoPromotion) (plannedMoves r pendingPVCs) (fun _ _ _ => True) l w := by
  have hsentinel : ∀ l w, Safe faulty (fun _ => NoPromotion) (reconcileSentinel r)
      (fun _ _ _ => True) l w := by
    intro l w
    refine safe_of_only (only_reconcileSentinel r) fun _ c hc => noPromotion_of_not_post ?_
    rintro _ _ rfl
    exact hc
  have hupdate : Safe faulty (fun _ => NoPromotion)
      (Act.get >>= fun cluster : RedisCluster =>
        wrap "rolling update" (rollingUpdate (r.computeSpecHash cluster)) >>= fun _ =>
          reconcileSentinel r) (fun _ _ _ => True) l w := by
    rw [safe_bind, safe_get, safe_bind, safe_wrap]
    exact safe_mono (safe_rollingUpdate_noPromotion hmode htemplate) fun _ l' w' _ =>
      hsentinel l' w'
  unfold plannedMoves resizeRestart
  rw [safe_bind, safe_ite, safe_wrap]
  refine ⟨fun _ => hupdate, fun _ => safe_mono (safe_restart_noPromotion hclaims) ?_⟩
  intro stop l' w' hsame
  rw [safe_ite]
  refine ⟨fun _ => trivial, fun hgo => ?_⟩
  obtain ⟨rfl, rfl⟩ := hsame (by simpa using hgo)
  exact hupdate

/-- The workload of a pass that has refreshed its status then promotes nobody. -/
theorem safe_reconcileWorkload_noPromotion (hhash : HashReadsSpec r)
    (hother : w.cluster.spec.mode ≠ .cluster) (h : PrimaryStays r w)
    {statuses : Statuses} {l' : RedisCluster}
    (hfresh : Refreshed w statuses w.cluster l') (maintenance : Bool) :
    Safe faulty (fun _ => NoPromotion) (reconcileWorkload r maintenance statuses)
      (fun _ _ _ => True) l' (w.store l') := by
  -- what is known of the pod that leads, or will lead
  let φ : Pod → Prop := fun pod => Leads w.cluster pod.name →
    ((w.cluster.spec.primaryUpdateStrategy = .supervised ∧
        isPrimaryUpdateApproved w.cluster = false) ∨
      MadeFrom (r.computeSpecHash w.cluster) pod) ∧
    (w.cluster.spec.isEphemeral = true ∨ (isPodRunningAndReady pod = true →
      ∀ claim ∈ pod.claims, ¬ Waiting w claim))
  have hmeet : PodsMeet φ (expectedNames l') [] (w.store l') := by
    refine ⟨fun _ hno => absurd hno List.not_mem_nil, fun pod hpod _ hleads => ⟨?_, ?_⟩⟩
    · exact h.template.imp_right fun hall => hall pod hpod hleads
    · exact h.claims.imp_right fun hall => hall pod hpod hleads
  refine safe_workload_podsMeet noPromotion_workGuard (fun _ _ _ hpod => hpod)
    (show l' = (w.store l').cluster from rfl) rfl hmeet (Or.inr ?_) (Or.inr rfl) ?_ _ statuses
  · -- a new pod is of the current template, and not ready
    intro cluster podName index labels restore hspec _
    exact ⟨Or.inr (madeFrom_newDataPod hhash (hspec.trans hfresh.spec)),
      Or.inr fun hready => absurd hready (by simp [isPodRunningAndReady, newDataPod])⟩
  intro pending l₁ w₁ hpending hcarried hmeet₁
  have hspec : l₁.spec = w.cluster.spec := hcarried.spec.trans hfresh.spec
  have hannotations : l₁.annotations = w.cluster.annotations :=
    hcarried.annotations.trans hfresh.annotations
  have hleads : ∀ pod ∈ w₁.dataPods, pod.name = l₁.status.currentPrimary → φ pod ∧
      Leads w.cluster pod.name := by
    intro pod hpod hname
    have hpod := List.mem_filter.mp hpod
    refine ⟨hmeet₁.meet pod hpod.1 (Or.inl hpod.2), ?_⟩
    rw [hname]
    rcases hcarried.currentPrimary with hsame | ⟨hnone, hfirst⟩
    · exact Or.inl (hsame.trans (hfresh.currentPrimary hother))
    · exact Or.inr ⟨(hfresh.currentPrimary hother).symm.trans hnone, by rw [hfirst, hfresh.name]⟩
  refine safe_plannedMoves_noPromotion (by rw [hspec]; exact hother) ?_ ?_
  · rw [hspec, isPrimaryUpdateApproved, hannotations, ← isPrimaryUpdateApproved,
      hhash w.cluster l₁ hspec]
    by_cases happroval : w.cluster.spec.primaryUpdateStrategy = .supervised ∧
        isPrimaryUpdateApproved w.cluster = false
    · exact Or.inl happroval
    · refine Or.inr fun pod hpod hname => ?_
      obtain ⟨hφ, hlead⟩ := hleads pod hpod hname
      exact ((hφ hlead).1.resolve_left happroval).getPodSpecHash
  · intro pod hpod hname hready
    obtain ⟨hφ, hlead⟩ := hleads pod hpod hname
    rw [podHasPendingResizePVC, List.any_eq_false]
    intro claim hclaim hwaits
    obtain ⟨hpersistent, hwaiting⟩ := hpending claim (by simpa using hwaits)
    rw [hfresh.spec] at hpersistent
    rcases (hφ hlead).2 with hephemeral | hnone
    · exact absurd (hpersistent.symm.trans hephemeral) Bool.false_ne_true
    · exact hnone hready claim hclaim hwaiting

/-- A pass in sentinel mode then promotes nobody. -/
theorem safe_reconcile_noPromotion (hhash : HashReadsSpec r)
    (hmode : w.cluster.spec.mode = .sentinel) (h : PrimaryStays r w) :
    Safe faulty (fun _ => NoPromotion) (reconcile r) (fun _ _ _ => True) w.cluster w := by
  have hother : w.cluster.spec.mode ≠ .cluster := by rw [hmode]; decide
  refine safe_reconcile_workload noPromotion_workGuard.toCourseGuard r
    (fun hno => absurd hno hother)
    (fun statuses _ => ?_) fun statuses l' _ hfresh _ =>
      safe_reconcileWorkload_noPromotion hhash hother h hfresh _
  unfold shouldTriggerFailover
  simp [hmode]

end

/-! ## Sentinel, operator and instance managers -/

/-- A reconcile of an instance manager: the copy of the object it acts on, and
    what it has still to do. -/
structure Reconciling where
  view : RedisCluster
  rest : Prog ManagerCmd ManagerReply (Except String (Unit × Unit))

/-- A cluster in sentinel mode. -/
structure SentinelSystem where
  world : World
  /-- the pod that Sentinel designates as master -/
  master : String
  /-- what the Redis of each pod says of itself -/
  redis : String → ReplicationInfo
  /-- the rest of the operator's pass -/
  pass : Prog Cmd Reply (Except String (Unit × RedisCluster))
  /-- the reconcile under way in each pod -/
  managers : String → Option Reconciling

/-- What happens. -/
inductive SentinelEvent
  | elect (master : String)
  | change
  | start
  | operator (c : Cmd)
  | fetch (pod : String) (view : RedisCluster)
  | manager (pod : String) (c : ManagerCmd)

namespace SentinelSystem

/-- The Redis processes after a request of the operator: a promotion that gets
    through is a `REPLICAOF NO ONE`. -/
def Promoted (s : SentinelSystem) : Cmd → (String → ReplicationInfo) → Prop
  | .post podIP .promote, redis =>
    redis = s.redis ∨ redis = fun name =>
      if s.world.pods.any fun pod => pod.name == name && pod.podIP == podIP then { role := .master }
      else s.redis name
  | _, redis => redis = s.redis

/-- The steps.  Sentinel may elect at any time, and rearrange the Redis
    processes as it likes; between passes the objects may change; a reconcile
    may start from a copy of any age. -/
inductive Step (faulty : Cmd → Prop) (r : ClusterReconciler) :
    SentinelSystem → SentinelEvent → SentinelSystem → Prop
  | elect {s : SentinelSystem} (master : String) (redis : String → ReplicationInfo) :
      Step faulty r s (.elect master) { s with master := master, redis := redis }
  | change {s : SentinelSystem} {a : Except String (Unit × RedisCluster)} (world : World)
      (hdone : s.pass = .pure a) : Step faulty r s .change { s with world := world }
  | start {s : SentinelSystem} {a : Except String (Unit × RedisCluster)}
      (hdone : s.pass = .pure a) :
      Step faulty r s .start { s with pass := reconcile r s.world.cluster }
  | operator {s : SentinelSystem} {c : Cmd}
      {k : Reply c → Prog Cmd Reply (Except String (Unit × RedisCluster))} (answer : Reply c)
      (world : World) (redis : String → ReplicationInfo) (hpass : s.pass = .call c k)
      (hworld : Handles faulty s.world c answer world) (hredis : s.Promoted c redis) :
      Step faulty r s (.operator c) { s with world := world, redis := redis, pass := k answer }
  | fetch {s : SentinelSystem} (pod : String) (view : RedisCluster) :
      Step faulty r s (.fetch pod view)
        { s with managers := Function.update s.managers pod (some
            { view := view
              rest := InstanceReconciler.reconcileFetched ⟨pod, r.objectNamespace⟩ view () }) }
  | manager {s : SentinelSystem} {pod : String} {view : RedisCluster} {c : ManagerCmd}
      {k : ManagerReply c → Prog ManagerCmd ManagerReply (Except String (Unit × Unit))}
      (answer : ManagerReply c) (info : ReplicationInfo)
      (hrest : s.managers pod = some ⟨view, .call c k⟩)
      (hanswer : ManagerAnswers s.world.pods (s.redis pod) c answer info) :
      Step faulty r s (.manager pod c)
        { s with
          redis := Function.update s.redis pod info
          managers := Function.update s.managers pod (some ⟨view, k answer⟩) }

/-- No pass and no reconcile is under way. -/
def Idle (s : SentinelSystem) : Prop := (∃ a, s.pass = .pure a) ∧ ∀ pod, s.managers pod = none

/-- The step does not overrule Sentinel: only the pod it designates is made a
    master, and that pod is not made a replica. -/
def Obeys (s : SentinelSystem) : SentinelEvent → Prop
  | .operator (.post podIP .promote) =>
    ∀ pod ∈ s.world.pods, pod.podIP = podIP → pod.name = s.master
  | .manager pod (.replicaOf ..) => pod ≠ s.master
  | .manager pod .replicaOfNoOne => pod = s.master
  | _ => True

/-- The copy agrees with Sentinel on whether the pod is the master, and asks for
    no external source. -/
def Agrees (s : SentinelSystem) (pod : String) (view : RedisCluster) : Prop :=
  isReplicaModeEnabled view = false ∧ (view.status.currentPrimary = pod ↔ pod = s.master)

/-- The condition on a step: a pass starts where the primary stays, and a role
    is ordered from a copy that agrees with Sentinel. -/
def Meets (r : ClusterReconciler) (s : SentinelSystem) : SentinelEvent → Prop
  | .start => s.world.cluster.spec.mode = .sentinel ∧ PrimaryStays r s.world
  | .manager pod (.replicaOf ..) | .manager pod .replicaOfNoOne =>
    ∀ reconciling, s.managers pod = some reconciling → s.Agrees pod reconciling.view
  | _ => True

/-- What holds at every point of a run that meets the condition: the pass under
    way promotes nobody, and every reconcile orders what its copy says. -/
structure Inv (faulty : Cmd → Prop) (s : SentinelSystem) : Prop where
  pass : Prog.wp (Handles faulty) (fun _ => NoPromotion) (fun _ _ => True) s.pass s.world
  managers : ∀ pod reconciling, s.managers pod = some reconciling →
    reconciling.rest.Only (RoleOrder pod reconciling.view)

section

variable {faulty : Cmd → Prop} {r : ClusterReconciler} {s s' : SentinelSystem}
variable {event : SentinelEvent}

theorem Idle.inv (h : s.Idle) : Inv faulty s := by
  obtain ⟨⟨a, ha⟩, hnone⟩ := h
  refine ⟨by rw [ha]; trivial, fun pod reconciling hrec => ?_⟩
  rw [hnone pod] at hrec
  cases hrec

/-- The managers after one of them has moved. -/
theorem managers_update {pod : String} {managers : String → Option Reconciling}
    {reconciling : Reconciling}
    (h : ∀ pod other, managers pod = some other → other.rest.Only (RoleOrder pod other.view))
    (hnew : reconciling.rest.Only (RoleOrder pod reconciling.view)) :
    ∀ pod' other, Function.update managers pod (some reconciling) pod' = some other →
      other.rest.Only (RoleOrder pod' other.view) := by
  intro pod' other hrec
  by_cases hpod : pod' = pod
  · subst hpod
    rw [Function.update_self] at hrec
    cases hrec
    exact hnew
  · rw [Function.update_of_ne hpod] at hrec
    exact h pod' other hrec

/-- A step that meets the condition keeps the invariant. -/
theorem Inv.step (hhash : HashReadsSpec r) (h : Inv faulty s) (hstep : Step faulty r s event s')
    (hmeets : Meets r s event) : Inv faulty s' := by
  cases hstep with
  | elect master redis => exact ⟨h.pass, h.managers⟩
  | change world hdone => exact ⟨by rw [hdone]; trivial, h.managers⟩
  | start hdone =>
    refine ⟨?_, h.managers⟩
    have hsafe : Safe faulty (fun _ => NoPromotion) (reconcile r) (fun _ _ _ => True)
        s.world.cluster s.world := safe_reconcile_noPromotion hhash hmeets.1 hmeets.2
    exact Prog.wp_post (fun _ _ _ => trivial) hsafe
  | operator answer world redis hpass hworld hredis =>
    have hwp := h.pass
    rw [hpass] at hwp
    exact ⟨hwp.2 _ _ hworld, h.managers⟩
  | fetch pod view =>
    exact ⟨h.pass, managers_update h.managers (only_reconcileFetched ⟨pod, _⟩ view ())⟩
  | manager answer info hrest hanswer =>
    exact ⟨h.pass, managers_update h.managers ((h.managers _ _ hrest).2 _)⟩

/-- Under the invariant a step that meets the condition does not overrule Sentinel. -/
theorem Inv.obeys (h : Inv faulty s) (hstep : Step faulty r s event s')
    (hmeets : Meets r s event) : s.Obeys event := by
  cases hstep with
  | @operator c k answer world redis hpass hworld hredis =>
    have hwp := h.pass
    rw [hpass] at hwp
    cases c with
    | post podIP request =>
      cases request with
      | promote => exact hwp.1.elim
      | _ => trivial
    | _ => trivial
  | @manager pod view c k answer info hrest hanswer =>
    have horder := (h.managers _ _ hrest).1
    cases c with
    | replicaOf host port =>
      have hagrees := hmeets _ hrest
      intro hmaster
      rcases horder.2 with hmode | hother
      · exact absurd (hagrees.1.symm.trans hmode) Bool.false_ne_true
      · exact hother (hagrees.2.mpr hmaster)
    | replicaOfNoOne => exact (hmeets _ hrest).2.mp horder.2
    | _ => trivial
  | _ => trivial

end

end SentinelSystem

/-- A run. -/
def SentinelSystem.Reaches (faulty : Cmd → Prop) (r : ClusterReconciler) (s s' : SentinelSystem) :
    Prop := Relation.ReflTransGen (fun s s' => ∃ event, s.Step faulty r event s') s s'

/-- A run whose steps all meet the condition. -/
def SentinelRun (faulty : Cmd → Prop) (r : ClusterReconciler) (s s' : SentinelSystem) : Prop :=
  Relation.ReflTransGen (fun s s' => ∃ event, s.Step faulty r event s' ∧ s.Meets r event) s s'

theorem SentinelRun.inv {faulty : Cmd → Prop} {r : ClusterReconciler} (hhash : HashReadsSpec r)
    {s s' : SentinelSystem} (hrun : SentinelRun faulty r s s') (h : s.Inv faulty) :
    s'.Inv faulty := by
  induction hrun with
  | refl => exact h
  | tail _ hlast ih =>
    obtain ⟨event, hstep, hmeets⟩ := hlast
    exact ih.step hhash hstep hmeets

theorem SentinelRun.reaches {faulty : Cmd → Prop} {r : ClusterReconciler} {s s' : SentinelSystem}
    (hrun : SentinelRun faulty r s s') : s.Reaches faulty r s' :=
  Relation.ReflTransGen.mono (fun _ _ ⟨event, hstep, _⟩ => ⟨event, hstep⟩) _ _ hrun

/-- In every interleaving of elections, passes and reconciles whose steps meet
    the condition, no step overrules Sentinel. -/
theorem sentinel_not_overruled (faulty : Cmd → Prop) (r : ClusterReconciler)
    (hhash : HashReadsSpec r) (s₀ s s' : SentinelSystem) (event : SentinelEvent) (h₀ : s₀.Idle)
    (hrun : SentinelRun faulty r s₀ s) (hstep : s.Step faulty r event s')
    (hmeets : s.Meets r event) : s.Obeys event :=
  (hrun.inv hhash h₀.inv).obeys hstep hmeets

/-! ## Runs -/

section

variable (faulty : Cmd → Prop) (r : ClusterReconciler)

/-- A reconcile that finds a primary to follow gets to order it, whatever
    Sentinel designates. -/
theorem SentinelSystem.follow_run (s : SentinelSystem) (pod host : String) (port : Int)
    (view : RedisCluster) (primary : Pod)
    (hfind : s.world.pods.find? (fun p => p.name == view.status.currentPrimary) = some primary)
    (hprogram : ∃ k, InstanceReconciler.reconcileFetched ⟨pod, r.objectNamespace⟩ view () =
        .call .info k ∧
      ∃ k', k (.ok (s.redis pod)) = .call (.getPod view.status.currentPrimary) k' ∧
        ∃ k'', k' (.ok primary) = .call (.replicaOf host port) k'') :
    ∃ s₁ s', SentinelRun faulty r s s₁ ∧ s₁.master = s.master ∧
      (∃ rest, s₁.managers pod = some ⟨view, rest⟩) ∧
      s₁.Step faulty r (.manager pod (.replicaOf host port)) s' := by
  obtain ⟨k, hk, k', hk', k'', hk''⟩ := hprogram
  -- the system with the reconcile at this point; nothing else moves
  let reconciling (rest : Prog ManagerCmd ManagerReply (Except String (Unit × Unit))) :
      SentinelSystem := { s with managers := Function.update s.managers pod (some ⟨view, rest⟩) }
  have hmanager : ∀ rest, (reconciling rest).managers pod = some ⟨view, rest⟩ :=
    fun rest => Function.update_self ..
  have hanswered : ∀ (c : ManagerCmd) {k : ManagerReply c → _} (answer : ManagerReply c),
      ManagerAnswers s.world.pods (s.redis pod) c answer (s.redis pod) →
      (reconciling (.call c k)).Step faulty r (.manager pod c) (reconciling (k answer)) := by
    intro c k answer hanswer
    have hstep : (reconciling (.call c k)).Step faulty r (.manager pod c) _ :=
      .manager answer (s.redis pod) (hmanager (.call c k)) hanswer
    simpa only [reconciling, Function.update_idem, Function.update_eq_self] using hstep
  have hfetch : s.Step faulty r (.fetch pod view) (reconciling (.call .info k)) := by
    rw [← hk]
    exact .fetch pod view
  have hinfo : (reconciling (.call .info k)).Step faulty r (.manager pod .info)
      (reconciling (.call (.getPod view.status.currentPrimary) k')) := by
    rw [← hk']
    exact hanswered .info (Except.ok (s.redis pod)) ⟨Or.inl rfl, rfl⟩
  have hget : (reconciling (.call (.getPod view.status.currentPrimary) k')).Step faulty r
      (.manager pod (.getPod view.status.currentPrimary))
      (reconciling (.call (.replicaOf host port) k'')) := by
    rw [← hk'']
    refine hanswered (.getPod _) (Except.ok primary) ⟨Or.inl ?_, rfl⟩
    rw [hfind]
    rfl
  refine ⟨reconciling (.call (.replicaOf host port) k''), _, ?_, rfl, ⟨_, hmanager _⟩,
    .manager (Except.ok ()) _ (hmanager _) (Or.inl rfl)⟩
  exact .tail (.tail (.single ⟨_, hfetch, trivial⟩) ⟨_, hinfo, trivial⟩) ⟨_, hget, trivial⟩

/-- A promotion may fail to get through. -/
theorem SentinelSystem.promoted_self (s : SentinelSystem) (c : Cmd) : s.Promoted c s.redis := by
  cases c with
  | post podIP request =>
    cases request with
    | promote => exact Or.inl rfl
    | _ => rfl
  | _ => rfl

/-- A request a pass can issue is issued in a run in which nothing else happens. -/
theorem SentinelSystem.operator_run {pass : Prog Cmd Reply (Except String (Unit × RedisCluster))}
    {w w' : World} {c : Cmd} (hissues : Prog.Issues (Handles faulty) pass w w' c)
    (s : SentinelSystem) (hpass : s.pass = pass) (hworld : s.world = w) :
    ∃ s₁ k, s.Reaches faulty r s₁ ∧
      s₁.master = s.master ∧ s₁.world = w' ∧ s₁.pass = .call c k := by
  induction hissues generalizing s with
  | here => exact ⟨s, _, .refl, rfl, hworld, hpass⟩
  | @later c c' k w₀ w₁ w₂ answer hr _ ih =>
    have hstep : s.Step faulty r (.operator c)
        { s with world := w₁, redis := s.redis, pass := k answer } :=
      .operator _ _ s.redis hpass (by rw [hworld]; exact hr) (s.promoted_self _)
    obtain ⟨s₁, k, hrun, hmaster, hw, hp⟩ :=
      ih { s with world := w₁, redis := s.redis, pass := k answer } rfl rfl
    exact ⟨s₁, k, .head ⟨_, hstep⟩ hrun, hmaster, hw, hp⟩

end

/-- A sentinel cluster of three pods; `c-0` is recorded as primary. -/
def sentinelWorld : World where
  cluster :=
    { name := "c"
      spec := { mode := .sentinel, instances := 3, storageType := .emptyDir }
      status := { currentPrimary := "c-0" } }
  pods := [readyPod "c-0" "10.0.0.1" "old", readyPod "c-1" "10.0.0.2" "new",
    readyPod "c-2" "10.0.0.3" "new"]
  answers := fun podIP => some
    { connected := true
      role := if podIP = "10.0.0.1" then .master else .slave
      masterLinkStatus := .up }

/-- The named pod is Sentinel's master, and its Redis is one. -/
def sentinelSystem (master : String) : SentinelSystem where
  world := sentinelWorld
  master := master
  redis := fun name => if name = master then { role := .master } else { role := .slave }
  pass := .pure (.error "")
  managers := fun _ => none

/-- The manager of `c-1` makes its Redis follow `c-0`, which Sentinel designates. -/
theorem sentinelSystem_follows :
    ∃ s s', SentinelRun (fun _ => False) newTemplate (sentinelSystem "c-0") s ∧
      s.Step (fun _ => False) newTemplate (.manager "c-1" (.replicaOf "10.0.0.1" 6379)) s' ∧
      s.Obeys (.manager "c-1" (.replicaOf "10.0.0.1" 6379)) := by
  obtain ⟨s, s', hrun, hmaster, ⟨rest, hview⟩, hstep⟩ :=
    SentinelSystem.follow_run (fun _ => False) newTemplate (sentinelSystem "c-0") "c-1" "10.0.0.1"
      6379 sentinelWorld.cluster (readyPod "c-0" "10.0.0.1" "old") rfl ⟨_, rfl, _, rfl, _, rfl⟩
  refine ⟨s, s', hrun, hstep, sentinel_not_overruled _ newTemplate (fun _ _ _ => rfl) _ s s' _
    ⟨⟨_, rfl⟩, fun _ => rfl⟩ hrun hstep fun reconciling hrec => ?_⟩
  rw [hview] at hrec
  cases hrec
  refine ⟨rfl, ?_⟩
  rw [hmaster]
  exact ⟨fun h => h.symm, fun h => h.symm⟩

/-- A pod other than `master` is asked to become master. -/
def promotesOther (master : String) : World × Cmd → Bool
  | (w, .post podIP .promote) => w.pods.any fun pod => pod.podIP == podIP && pod.name != master
  | _ => false

/-- Sentinel elects `c-1`; its manager still reads `c-0` in the status and makes
    the new master a replica.  And while `c-0` is Sentinel's master, a pass that
    finds its pod out of date promotes another one. -/
theorem sentinelSystem_overruled :
    (∃ s s' event, (sentinelSystem "c-0").Reaches (fun _ => False) newTemplate s ∧
      s.Step (fun _ => False) newTemplate (.manager "c-1" event) s' ∧
      ¬ s.Obeys (.manager "c-1" event)) ∧
    ∃ s s' c, (sentinelSystem "c-0").Reaches (fun _ => False) newTemplate s ∧
      s.Step (fun _ => False) newTemplate (.operator c) s' ∧ ¬ s.Obeys (.operator c) := by
  constructor
  · have helect : (sentinelSystem "c-0").Step (fun _ => False) newTemplate (.elect "c-1")
        { sentinelSystem "c-0" with master := "c-1", redis := (sentinelSystem "c-1").redis } :=
      .elect _ _
    obtain ⟨s, s', hrun, hmaster, -, hstep⟩ :=
      SentinelSystem.follow_run (fun _ => False) newTemplate
        { sentinelSystem "c-0" with master := "c-1", redis := (sentinelSystem "c-1").redis }
        "c-1" "10.0.0.1" 6379 sentinelWorld.cluster (readyPod "c-0" "10.0.0.1" "old") rfl
        ⟨_, rfl, _, rfl, _, rfl⟩
    refine ⟨s, s', _, .head ⟨_, helect⟩ hrun.reaches, hstep, ?_⟩
    exact fun hobeys => hobeys hmaster.symm
  · have hstart : (sentinelSystem "c-0").Step (fun _ => False) newTemplate .start
        { sentinelSystem "c-0" with pass := reconcile newTemplate sentinelWorld.cluster } :=
        .start rfl
    have hany : (Prog.trace World.answer (reconcile newTemplate sentinelWorld.cluster)
        sentinelWorld).any (promotesOther "c-0") = true := by decide +kernel
    obtain ⟨⟨w, c⟩, hmem, hpromotes⟩ := List.any_eq_true.mp hany
    obtain ⟨s, k, hrun, hmaster, hworld, hpass⟩ := SentinelSystem.operator_run
      _ newTemplate (Prog.issues_of_mem_trace (World.handles_answer fun _ => False) hmem)
      { sentinelSystem "c-0" with pass := reconcile newTemplate sentinelWorld.cluster } rfl rfl
    refine ⟨s, _, c, .head ⟨_, hstart⟩ hrun, .operator _ _ s.redis hpass
      (World.handles_answer _ s.world c) (s.promoted_self c), fun hobeys => ?_⟩
    unfold promotesOther at hpromotes
    split at hpromotes
    next w podIP heq =>
      cases heq
      obtain ⟨pod, hpod, hother⟩ := List.any_eq_true.mp hpromotes
      have hmust := hobeys pod (hworld ▸ hpod) (by simpa using (Bool.and_eq_true_iff.mp hother).1)
      rw [hmust, hmaster] at hother
      simp [sentinelSystem] at hother
    · cases hpromotes

end RedisOperator
