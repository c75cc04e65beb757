/-
  RedisOperator.Cluster.LeaderService

  Does `<name>-leader` always point at the current primary?  A pass rewrites
  the selector several times: `ensureService` resets it to the role label, the
  end of `reconcileServices` narrows it to the recorded primary, hibernation
  points it at nobody, and every move of the primary role narrows it anew.  In
  between the pass may stop, so the question is asked after each single write.

  Between the reset and the narrowing it is the role labels that decide, and
  they may be those of an earlier primary.
-/

import RedisOperator.Cluster.OneAtATime
import RedisOperator.Cluster.PassRoutine

namespace RedisOperator

open Lib Act

/-! ## Whom a Service selects -/

/-- A Service forwards to the pods that carry every label of its selector;
    without a selector it forwards to none. -/
def Service.selects (svc : Service) (pod : Pod) : Bool :=
  decide (0 < svc.selector.len) &&
    svc.selector.pairs.all fun label => decide (pod.labels.lookup label.1 = some label.2)

theorem Service.selects_lookup {svc : Service} {pod : Pod} (h : svc.selects pod = true)
    {key value : String} (hkey : svc.selector.lookup key = some value) :
    pod.labels.lookup key = some value := by
  simp only [Service.selects, Bool.and_eq_true, List.all_eq_true, decide_eq_true_eq] at h
  exact h.2 (key, value) (GoMap.mem_pairs.mpr hkey)

namespace World

/-- The stored leader Service. -/
def leaderService (w : World) : Option Service :=
  w.services.lookup (leaderServiceName w.cluster.name)

/-- Every pod the leader Service selects is the current primary. -/
def LeaderPoints (w : World) : Prop :=
  ∀ svc ∈ w.leaderService, ∀ pod ∈ w.pods, svc.selects pod = true →
    pod.name = w.cluster.status.currentPrimary

instance (w : World) : Decidable w.LeaderPoints :=
  inferInstanceAs (Decidable (∀ svc ∈ w.leaderService, ∀ pod ∈ w.pods, svc.selects pod = true →
    pod.name = w.cluster.status.currentPrimary))

/-- No pod of the cluster but the current primary is labelled as one. -/
def PrimaryAlone (w : World) : Prop :=
  ∀ pod ∈ w.pods, pod.labels.lookup labelCluster = some w.cluster.name →
    pod.labels.lookup labelRole = some labelRolePrimary →
    pod.name = w.cluster.status.currentPrimary

instance (w : World) : Decidable w.PrimaryAlone :=
  inferInstanceAs (Decidable (∀ pod ∈ w.pods, pod.labels.lookup labelCluster = some w.cluster.name →
    pod.labels.lookup labelRole = some labelRolePrimary →
    pod.name = w.cluster.status.currentPrimary))

/-- The pods are named after their cluster, and no instance label names another pod. -/
structure OwnPods (w : World) : Prop where
  named : ∀ pod ∈ w.pods, ∃ suffix, pod.name = w.cluster.name ++ "-" ++ suffix
  labelled : ∀ pod ∈ w.pods, ∀ value, pod.labels.lookup labelInstance = some value →
    value = pod.name

/-- Services are stored under their names. -/
def KeyedServices (w : World) : Prop :=
  ∀ name svc, w.services.lookup name = some svc → svc.name = name

/-- The world with a Service written. -/
def withService (w : World) (svc : Service) : World :=
  { w with services := w.services.insert svc.name svc }

variable {w : World}

theorem KeyedServices.withService (h : w.KeyedServices) (svc : Service) :
    (w.withService svc).KeyedServices := by
  intro name other hother
  change (w.services.insert svc.name svc).lookup name = some other at hother
  by_cases hname : name = svc.name
  · subst hname
    rw [GoMap.lookup_insert_self, Option.some_inj] at hother
    rw [← hother]
  · rw [GoMap.lookup_insert_ne hname] at hother
    exact h name other hother

/-- A write of the leader Service replaces it. -/
theorem leaderService_withService {svc : Service}
    (h : svc.name = leaderServiceName w.cluster.name) :
    (w.withService svc).leaderService = some svc := by
  show (w.services.insert svc.name svc).lookup (leaderServiceName w.cluster.name) = some svc
  rw [← h, GoMap.lookup_insert_self]

theorem eq_of_mem_leaderService {svc other : Service}
    (hother : other ∈ (w.withService svc).leaderService)
    (h : svc.name = leaderServiceName w.cluster.name) : other = svc :=
  (Option.some.inj ((leaderService_withService h).symm.trans hother)).symm

/-- A write of another Service leaves it alone. -/
theorem leaderService_withService_ne {svc : Service}
    (h : leaderServiceName w.cluster.name ≠ svc.name) :
    (w.withService svc).leaderService = w.leaderService := GoMap.lookup_insert_ne h

end World

/-- Requests that write to the API server.  The sub-steps outside the model do,
    but for the one that only reads the TLS secrets. -/
def Cmd.Writes : Cmd → Bool
  | .substep step => step != .sentinelTLS
  | .patchCluster .. | .patchStatus .. | .createPod _ | .patchPod .. | .deletePod ..
  | .createPVC _ | .patchPVC .. | .deletePVC _ | .createService _ | .patchService ..
  | .deleteService _ => true
  | _ => false

/-- After the request, if it is a write and does not itself change the primary,
    the leader Service points at the primary. -/
def PointsAfter (w : World) (c : Cmd) : Prop :=
  c.Writes = true → ∀ answer w', Answers w c answer w' →
    w'.cluster.status.currentPrimary = w.cluster.status.currentPrimary → w'.LeaderPoints

variable {w : World}

theorem pointsAfter_of_read {c : Cmd} (h : c.Writes = false) : PointsAfter w c :=
  fun hwrites => absurd (h.symm.trans hwrites) Bool.false_ne_true

/-! ## What a pass keeps -/

/-- What holds of the world throughout. -/
structure LeaderGround (w : World) : Prop where
  mode : w.cluster.spec.mode ≠ .cluster
  primary : w.cluster.status.currentPrimary ≠ ""
  labelled : ∀ pod ∈ w.pods, ∀ value, pod.labels.lookup labelInstance = some value →
    value = pod.name
  keyed : w.KeyedServices

/-- Nothing the leader Service depends on has changed, but for pods that are gone. -/
structure Narrows (w w' : World) : Prop where
  services : w'.services = w.services
  pods : ∀ pod ∈ w'.pods, pod ∈ w.pods
  name : w'.cluster.name = w.cluster.name
  mode : w'.cluster.spec.mode = w.cluster.spec.mode
  primary : w'.cluster.status.currentPrimary = w.cluster.status.currentPrimary

section

variable {w w' : World}

theorem Narrows.leaderService (h : Narrows w w') : w'.leaderService = w.leaderService := by
  unfold World.leaderService
  rw [h.services, h.name]

theorem LeaderGround.narrows (h : LeaderGround w) (hn : Narrows w w') : LeaderGround w' where
  mode := hn.mode ▸ h.mode
  primary := hn.primary ▸ h.primary
  labelled pod hpod := h.labelled pod (hn.pods pod hpod)
  keyed := by
    unfold World.KeyedServices
    rw [hn.services]
    exact h.keyed

theorem leaderPoints_narrows (h : w.LeaderPoints) (hn : Narrows w w') : w'.LeaderPoints := by
  intro svc hsvc pod hpod hselects
  rw [hn.primary]
  exact h svc (hn.leaderService ▸ hsvc) pod (hn.pods pod hpod) hselects

theorem primaryAlone_narrows (h : w.PrimaryAlone) (hn : Narrows w w') : w'.PrimaryAlone := by
  intro pod hpod hcluster hrole
  rw [hn.primary]
  exact h pod (hn.pods pod hpod) (hn.name ▸ hcluster) hrole

/-- Requests that are not more than modest narrow the world at most. -/
theorem answers_modest {c : Cmd} {answer : Reply c} (hc : c.Modest) (ha : Answers w c answer w') :
    w'.cluster = w.cluster ∧ w'.services = w.services ∧ ∀ pod ∈ w'.pods, pod ∈ w.pods := by
  have heffects : ∀ w' ∈ c.effects w, w'.cluster = w.cluster ∧ w'.services = w.services ∧
      ∀ pod ∈ w'.pods, pod ∈ w.pods := by
    cases c with
    | patchCluster | patchStatus | createPod | patchPod | createService | patchService
    | deleteService | post => exact hc.elim
    | deletePod name reason =>
      intro w' hw
      rw [List.mem_singleton.mp hw]
      exact ⟨rfl, rfl, fun _ => List.mem_of_mem_filter⟩
    | _ => simp [Cmd.effects]
  rcases answers_effects ha with rfl | hmem
  · exact ⟨rfl, rfl, fun _ hpod => hpod⟩
  · exact heffects w' hmem

theorem narrows_of_cluster (hcluster : w'.cluster = w.cluster)
    (hservices : w'.services = w.services)
    (hpods : ∀ pod ∈ w'.pods, pod ∈ w.pods) : Narrows w w' :=
  ⟨hservices, hpods, by rw [hcluster], by rw [hcluster], by rw [hcluster]⟩

end

/-- A condition on the world that outlasts routine work and gives the property. -/
structure Enduring (Φ : World → Prop) : Prop where
  narrows : ∀ {w w'}, Φ w → Narrows w w' → Φ w'
  ground : ∀ {w}, Φ w → LeaderGround w
  points : ∀ {w}, Φ w → w.LeaderPoints

/-- The copy is the stored object, and the condition holds. -/
def Holding (Φ : World → Prop) (l : RedisCluster) (w : World) : Prop := l = w.cluster ∧ Φ w

section

variable {faulty : Cmd → Prop} {Φ : World → Prop} {l : RedisCluster} {w : World}

theorem Enduring.pointsAfter (hΦ : Enduring Φ) (h : Φ w) {c : Cmd}
    (hc : ∀ answer w', Answers w c answer w' →
      w'.cluster.status.currentPrimary = w.cluster.status.currentPrimary → Narrows w w') :
    PointsAfter w c :=
  fun _ answer w' ha hprimary => hΦ.points (hΦ.narrows h (hc answer w' ha hprimary))

theorem Enduring.pointsAfter_modest (hΦ : Enduring Φ) (h : Φ w) {c : Cmd} (hc : c.Modest) :
    PointsAfter w c := by
  refine hΦ.pointsAfter h fun answer w' ha _ => ?_
  obtain ⟨hcluster, hservices, hpods⟩ := answers_modest hc ha
  exact narrows_of_cluster hcluster hservices hpods

/-- A status patch, whatever it says of the primary. -/
theorem Enduring.pointsAfter_patchStatus (hΦ : Enduring Φ) (h : Φ w) (status : RedisClusterStatus) :
    PointsAfter w (.patchStatus w.cluster { w.cluster with status := status }) := by
  refine hΦ.pointsAfter h fun answer w' ha hprimary => ?_
  obtain ⟨-, rfl⟩ := ha
  exact ⟨rfl, fun _ hpod => hpod, rfl, rfl, hprimary⟩

theorem Enduring.safe_patchCluster (hΦ : Enduring Φ) (h : Holding Φ l w) {after : RedisCluster}
    (lock : Bool) (hmode : after.spec.mode = l.spec.mode) :
    Safe faulty PointsAfter (patchCluster after lock) (fun _ => Holding Φ) l w := by
  obtain ⟨rfl, h⟩ := h
  have hnarrows : Narrows w (w.store { w.cluster with
      annotations := after.annotations, spec := after.spec }) :=
    ⟨rfl, fun _ hpod => hpod, rfl, hmode, rfl⟩
  rw [RedisOperator.safe_patchCluster rfl]
  refine ⟨hΦ.pointsAfter h fun answer w' ha _ => ?_, rfl, hΦ.narrows h hnarrows⟩
  simp only [Answers, ne_eq, not_true_eq_false, and_false, ↓reduceIte, mergeCluster_self] at ha
  rw [ha.2]
  exact hnarrows

/-- What is routine in a pass keeps such a condition, and the property after
    each write. -/
theorem Enduring.routine (hΦ : Enduring Φ) :
    Routine (Handles faulty) PointsAfter (Holding Φ) (fun _ => True) Cmd.Modest where
  stop _ := trivial
  quiet _ hc := hc.modest
  guard _ h hc := hΦ.pointsAfter_modest h.2 hc
  carry c r w' h hc hr := by
    rcases handles_cases hr with rfl | ⟨answer, ha⟩
    · exact h
    · obtain ⟨hcluster, hservices, hpods⟩ := answers_modest hc ha
      exact ⟨h.1.trans hcluster.symm, hΦ.narrows h.2 (narrows_of_cluster hcluster hservices hpods)⟩
  status status h hlead := by
    obtain ⟨rfl, h⟩ := h
    have hground := hΦ.ground h
    have hprimary : status.currentPrimary = _ := (hlead hground.mode).resolve_right
      fun hnone => hground.primary hnone.1
    show Safe faulty PointsAfter (patchStatus status) (fun _ => Holding Φ) _ _
    rw [safe_patchStatus rfl]
    exact ⟨hΦ.pointsAfter_patchStatus h status, rfl,
      hΦ.narrows h ⟨rfl, fun _ hpod => hpod, rfl, rfl, hprimary⟩⟩

end

/-! ## The stages of a pass -/

/-- Before the Services of a cluster that hibernates. -/
structure Resting (w : World) : Prop extends LeaderGround w where
  named : ∀ pod ∈ w.pods, pod.name ≠ "none"
  points : w.LeaderPoints

/-- Before the Services of one that does not. -/
structure Waking (w : World) : Prop extends LeaderGround w where
  alone : w.PrimaryAlone
  points : w.LeaderPoints

/-- The leader Service selects by role. -/
structure SelectsRole (w : World) : Prop extends LeaderGround w where
  alone : w.PrimaryAlone
  selector : ∀ svc ∈ w.leaderService, ∀ key,
    svc.selector.lookup key = (roleSelector w.cluster.name labelRolePrimary).lookup key

/-- The leader Service selects the recorded primary. -/
structure SelectsPrimary (w : World) : Prop extends LeaderGround w where
  selector : ∀ svc ∈ w.leaderService,
    svc.selector.lookup labelInstance = some w.cluster.status.currentPrimary

theorem SelectsRole.points (h : SelectsRole w) : w.LeaderPoints := by
  intro svc hsvc pod hpod hselects
  have hlookup : ∀ {key value}, (roleSelector w.cluster.name labelRolePrimary).lookup key =
      some value → pod.labels.lookup key = some value :=
    fun hkey => Service.selects_lookup hselects ((h.selector svc hsvc _).trans hkey)
  exact h.alone pod hpod (hlookup rfl) (hlookup rfl)

theorem SelectsPrimary.points (h : SelectsPrimary w) : w.LeaderPoints := by
  intro svc hsvc pod hpod hselects
  exact (h.labelled pod hpod _ (Service.selects_lookup hselects (h.selector svc hsvc))).symm

theorem enduring_resting : Enduring Resting where
  narrows h hn := ⟨h.toLeaderGround.narrows hn, fun pod hpod => h.named pod (hn.pods pod hpod),
    leaderPoints_narrows h.points hn⟩
  ground h := h.toLeaderGround
  points h := h.points

theorem enduring_waking : Enduring Waking where
  narrows h hn := ⟨h.toLeaderGround.narrows hn, primaryAlone_narrows h.alone hn,
    leaderPoints_narrows h.points hn⟩
  ground h := h.toLeaderGround
  points h := h.points

theorem enduring_selectsPrimary : Enduring SelectsPrimary where
  narrows h hn := by
    refine ⟨h.toLeaderGround.narrows hn, fun svc hsvc => ?_⟩
    rw [hn.primary]
    exact h.selector svc (hn.leaderService ▸ hsvc)
  ground h := h.toLeaderGround
  points h := h.points

/-! ## Requests about Services -/

section

variable {faulty : Cmd → Prop} {P : World → Cmd → Prop} {l : RedisCluster} {w : World}

theorem safe_getService {name : String} {Q : Outcome (Api Service)}
    (hP : P w (.getService name)) (hfound : Q (found "services" name (w.services.lookup name)) l w)
    (hfails : ∀ message, Q (.error ⟨.other, message⟩) l w) :
    Safe faulty P (ask (.getService name)) Q l w := by
  refine ⟨hP, ?_⟩
  rintro r w' (⟨rfl, rfl⟩ | ⟨-, ⟨message, rfl⟩, rfl | ⟨_, -, rfl⟩⟩)
  · exact hfound
  · exact hfails message
  · exact hfails message

variable {Q : Outcome Unit}

/-- A Service that was found is patched. -/
theorem safe_patchService {before after : Service}
    (hbefore : w.services.lookup before.name = some before) (hname : after.name = before.name)
    (hP : P w (.patchService before after)) (hQ : Q () l (w.withService after)) :
    Safe faulty P (ask (.patchService before after) >>= ofApi) Q l w := by
  rw [safe_bind]
  refine ⟨hP, ?_⟩
  rintro r w' (ha | ⟨-, ⟨message, rfl⟩, -⟩)
  · simp only [Answers, hbefore] at ha
    obtain ⟨rfl, rfl⟩ := ha
    rw [← hname]
    exact hQ
  · trivial

variable {svc : Service}

/-- A Service that was not found is created. -/
theorem safe_createService
    (hnone : w.services.lookup svc.name = none) (hP : P w (.createService svc))
    (hQ : Q () l (w.withService svc)) :
    Safe faulty P (ask (.createService svc) >>= ofApi) Q l w := by
  rw [safe_bind]
  refine ⟨hP, ?_⟩
  rintro r w' (ha | ⟨-, ⟨message, rfl⟩, -⟩)
  · simp only [Answers, hnone] at ha
    obtain ⟨rfl, rfl⟩ := ha
    exact hQ
  · trivial

theorem pointsAfter_patchService {before after : Service}
    (hbefore : w.services.lookup before.name = some before) (hname : after.name = before.name)
    (h : (w.withService after).LeaderPoints) : PointsAfter w (.patchService before after) := by
  intro _ answer w' ha _
  simp only [Answers, hbefore] at ha
  rw [ha.2, ← hname]
  exact h

theorem pointsAfter_createService (hnone : w.services.lookup svc.name = none)
    (h : (w.withService svc).LeaderPoints) : PointsAfter w (.createService svc) := by
  intro _ answer w' ha _
  simp only [Answers, hnone] at ha
  rw [ha.2]
  exact h

/-- `ensureService` leaves a Service that is as it should be, or writes it. -/
theorem safe_ensureService (hkeyed : w.KeyedServices) {name : String}
    {selector : GoMap String String} {port : Nat}
    (hsame : ∀ svc, w.services.lookup name = some svc → svc.selector.deepEqual selector = true →
      Q () l w) (hwrite : ∀ svc : Service, svc.name = name → svc.selector = selector →
      (w.withService svc).LeaderPoints ∧ Q () l (w.withService svc)) :
    Safe faulty PointsAfter (ensureService name selector port) Q l w := by
  unfold ensureService
  rw [safe_bind]
  refine safe_getService (pointsAfter_of_read rfl) ?_ fun message => trivial
  cases hlookup : w.services.lookup name with
  | none =>
    obtain ⟨hpoints, hQ⟩ := hwrite
      { name := name, selector := selector, ports := [tcpPort "redis" port] } rfl rfl
    show Safe faulty PointsAfter (if _ then _ else _) Q l w
    rw [if_neg (not_not.mpr rfl)]
    exact safe_createService hlookup (pointsAfter_createService hlookup hpoints) hQ
  | some existing =>
    have hname : existing.name = name := hkeyed name existing hlookup
    obtain ⟨hpoints, hQ⟩ := hwrite
      { existing with selector := selector, ports := [tcpPort "redis" port] } hname rfl
    show Safe faulty PointsAfter (if _ then _ else _) Q l w
    rw [safe_ite]
    refine ⟨fun heq => hsame existing hlookup heq.1, fun _ => ?_⟩
    have hstored : w.services.lookup existing.name = some existing := by rw [hname, hlookup]
    exact safe_patchService hstored rfl (pointsAfter_patchService hstored rfl hpoints) hQ

/-! ## The Services of a pass -/

theorem LeaderGround.withService (h : LeaderGround w) (svc : Service) :
    LeaderGround (w.withService svc) :=
  ⟨h.mode, h.primary, h.labelled, h.keyed.withService svc⟩

/-- The leader Service narrowed to the primary. -/
theorem LeaderGround.selectsPrimary (h : LeaderGround w)
    (hname : svc.name = leaderServiceName w.cluster.name)
    (hselector : svc.selector = instanceSelector w.cluster.name w.cluster.status.currentPrimary) :
    SelectsPrimary (w.withService svc) := by
  refine ⟨h.withService svc, fun other hother => ?_⟩
  obtain rfl := World.eq_of_mem_leaderService hother hname
  rw [hselector]
  exact GoMap.lookup_insert_self

theorem safe_updateLeaderServiceSelector (hl : l = w.cluster) (h : LeaderGround w) :
    Safe faulty PointsAfter updateLeaderServiceSelector (fun _ => Holding SelectsPrimary) l w := by
  subst hl
  unfold updateLeaderServiceSelector
  rw [safe_bind, safe_get, safe_bind, safe_wrap, safe_bind]
  refine safe_getService (pointsAfter_of_read rfl) ?_ fun message => trivial
  cases hlookup : w.services.lookup (leaderServiceName w.cluster.name) with
  | none => trivial
  | some svc =>
    have hname := h.keyed _ svc hlookup
    show Safe faulty PointsAfter (if _ then _ else _) _ _ w
    rw [safe_ite]
    refine ⟨fun hsame => ⟨rfl, h, fun other hother => ?_⟩, fun _ => ?_⟩
    · -- the selector names the primary already
      obtain rfl : svc = other := Option.some.inj (hlookup.symm.trans hother)
      cases hvalue : svc.selector.lookup labelInstance with
      | none =>
        rw [GoMap.get_of_not_mem (GoMap.lookup_eq_none.mp hvalue)] at hsame
        exact absurd hsame.symm h.primary
      | some value => rw [← hsame, GoMap.get_of_lookup hvalue]
    · have hstored : w.services.lookup svc.name = some svc := by rw [hname, hlookup]
      have hdone : SelectsPrimary (w.withService { svc with
          selector := instanceSelector w.cluster.name w.cluster.status.currentPrimary }) :=
        h.selectsPrimary hname rfl
      exact safe_patchService hstored rfl (pointsAfter_patchService hstored rfl hdone.points)
        ⟨rfl, hdone⟩

theorem SelectsRole.withService (h : SelectsRole w)
    (hname : leaderServiceName w.cluster.name ≠ svc.name) : SelectsRole (w.withService svc) :=
  ⟨h.toLeaderGround.withService svc, h.alone, fun other hother =>
    h.selector other (World.leaderService_withService_ne hname ▸ hother)⟩

/-- The leader Service reset to the role label. -/
theorem Waking.selectsRole (h : Waking w) (hname : svc.name = leaderServiceName w.cluster.name)
    (hselector : svc.selector = roleSelector w.cluster.name labelRolePrimary) :
    SelectsRole (w.withService svc) := by
  refine ⟨h.toLeaderGround.withService svc, h.alone, fun other hother key => ?_⟩
  obtain rfl := World.eq_of_mem_leaderService hother hname
  rw [hselector]
  rfl

theorem safe_ensureLeaderService (h : Holding Waking l w) :
    Safe faulty PointsAfter (ensureService (leaderServiceName l.name)
      (roleSelector l.name labelRolePrimary) 6379)
      (fun _ l' w' => l' = l ∧ Holding SelectsRole l w') l w := by
  obtain ⟨rfl, h⟩ := h
  refine safe_ensureService h.keyed (fun svc hsvc heq => ⟨rfl, rfl, h.toLeaderGround, h.alone, ?_⟩)
    fun svc hname hselector => ?_
  · intro other hother key
    obtain rfl : svc = other := Option.some.inj (hsvc.symm.trans hother)
    exact GoMap.lookup_of_deepEqual heq key
  · have hdone := h.selectsRole hname hselector
    exact ⟨hdone.points, rfl, rfl, hdone⟩

/-- Any other Service. -/
theorem safe_ensureOtherService {name : String} {selector : GoMap String String} {port : Nat}
    (h : Holding SelectsRole l w) (hname : leaderServiceName l.name ≠ name) :
    Safe faulty PointsAfter (ensureService name selector port)
    (fun _ l' w' => l' = l ∧ Holding SelectsRole l w') l w := by
  obtain ⟨rfl, h⟩ := h
  refine safe_ensureService h.keyed (fun _ _ _ => ⟨rfl, rfl, h⟩) fun svc hsvc _ => ?_
  have hdone := h.withService (hsvc ▸ hname)
  exact ⟨hdone.points, rfl, rfl, hdone⟩

theorem safe_reconcileLeaderServiceAnnotations (h : Holding SelectsRole l w) :
    Safe faulty PointsAfter reconcileLeaderServiceAnnotations
    (fun _ l' w' => l' = l ∧ Holding SelectsRole l w') l w := by
  obtain ⟨rfl, h⟩ := h
  unfold reconcileLeaderServiceAnnotations
  rw [safe_bind, safe_get, safe_bind]
  refine safe_getService (pointsAfter_of_read rfl) ?_ fun message => trivial
  cases hlookup : w.services.lookup (leaderServiceName w.cluster.name) with
  | none => exact ⟨rfl, rfl, h⟩
  | some svc =>
    have hname := h.keyed _ svc hlookup
    have hstored : w.services.lookup svc.name = some svc := by rw [hname, hlookup]
    have hdone : ∀ annotations, SelectsRole
        (w.withService { svc with annotations := annotations }) := by
      intro annotations
      refine ⟨h.toLeaderGround.withService _, h.alone, fun other hother key => ?_⟩
      obtain rfl := World.eq_of_mem_leaderService hother hname
      exact h.selector svc hlookup key
    show Safe faulty PointsAfter (if _ then _ else _) _ _ w
    rw [safe_ite]
    refine ⟨fun _ => ⟨rfl, rfl, h⟩, fun _ => ?_⟩
    exact safe_patchService hstored rfl (pointsAfter_patchService hstored rfl (hdone _).points)
      ⟨rfl, rfl, hdone _⟩

/-- The names of the Services differ behind the name of the cluster. -/
theorem leaderServiceName_ne (name : String) {suffix : String} (h : suffix ≠ "-leader") :
    leaderServiceName name ≠ name ++ suffix := by
  intro heq
  refine h (String.toList_inj.mp ?_)
  have hlist := congrArg String.toList heq
  rw [leaderServiceName, String.toList_append, String.toList_append,
    List.append_cancel_left_eq] at hlist
  exact hlist.symm

/-- The Services: reset, and narrowed at the end. -/
theorem safe_reconcileServices (h : Holding Waking l w) :
    Safe faulty PointsAfter reconcileServices (fun _ => Holding SelectsPrimary) l w := by
  have hmode : l.spec.mode ≠ .cluster := h.1 ▸ h.2.mode
  unfold reconcileServices reconcileReplicatedServices
  rw [safe_bind, safe_get, if_neg hmode, safe_bind, safe_get, safe_bind, safe_wrap]
  have hother : ∀ {what name selector port} {w' : World}, Holding SelectsRole l w' →
      leaderServiceName l.name ≠ name →
      Safe faulty PointsAfter (wrap what (ensureService name selector port))
        (fun _ l' w' => l' = l ∧ Holding SelectsRole l w') l w' :=
    fun h' hname => (safe_wrap (Q := _)).mpr (safe_ensureOtherService h' hname)
  have hrest : ∀ {w'}, Holding SelectsRole l w' → Safe faulty PointsAfter
      (wrap "leader service annotations" reconcileLeaderServiceAnnotations >>= fun _ =>
        doWhen (l.status.currentPrimary ≠ "") updateLeaderServiceSelector)
      (fun _ => Holding SelectsPrimary) l w' := by
    intro w' h'
    rw [safe_bind, safe_wrap]
    refine safe_mono (safe_reconcileLeaderServiceAnnotations h') ?_
    rintro _ _ w'' ⟨rfl, rfl, h''⟩
    rw [safe_doWhen]
    exact ⟨fun _ => safe_updateLeaderServiceSelector rfl h''.toLeaderGround,
      fun hnone => absurd h''.primary hnone⟩
  refine safe_mono (safe_ensureLeaderService h) ?_
  rintro _ _ w₁ ⟨rfl, h₁⟩
  rw [safe_bind]
  refine safe_mono (hother h₁ (leaderServiceName_ne _ (by decide))) ?_
  rintro _ _ w₂ ⟨rfl, h₂⟩
  rw [safe_bind]
  refine safe_mono (hother h₂ (leaderServiceName_ne _ (by decide))) ?_
  rintro _ _ w₃ ⟨rfl, h₃⟩
  rw [safe_bind, safe_doWhen]
  refine ⟨fun _ => ?_, fun _ => hrest h₃⟩
  refine safe_mono (hother h₃ (leaderServiceName_ne _ (by decide))) ?_
  rintro _ _ w₄ ⟨rfl, h₄⟩
  exact hrest h₄

end

/-! ## Labels of pods -/

section

variable {faulty : Cmd → Prop} {l : RedisCluster} {w : World}

theorem SelectsPrimary.withPods (h : SelectsPrimary w) {pods : List Pod}
    (hlabelled : ∀ pod ∈ pods, ∀ value, pod.labels.lookup labelInstance = some value →
      value = pod.name) : SelectsPrimary (w.withPods pods) :=
  ⟨⟨h.mode, h.primary, hlabelled, h.keyed⟩, h.selector⟩

/-- A write of pods only, carried out or not. -/
theorem holding_write {c : Cmd} (h : Holding SelectsPrimary l w)
    (hc : ∀ answer w', Answers w c answer w' → w' = w ∨
      ∃ pods, w' = w.withPods pods ∧ SelectsPrimary w') :
    PointsAfter w c ∧
      ∀ answer w', Handles faulty w c answer w' → Holding SelectsPrimary l w' := by
  have hkeeps : ∀ answer w', Answers w c answer w' → Holding SelectsPrimary l w' := by
    intro answer w' ha
    rcases hc answer w' ha with rfl | ⟨pods, rfl, h'⟩
    · exact h
    · exact ⟨h.1, h'⟩
  refine ⟨fun _ answer w' ha _ => (hkeeps answer w' ha).2.points, fun answer w' hr => ?_⟩
  rcases handles_cases hr with rfl | ⟨answer', ha⟩
  · exact h
  · exact hkeeps answer' w' ha

theorem holding_patchPod {before after : Pod} (h : Holding SelectsPrimary l w)
    (hown : ∀ value, after.labels.lookup labelInstance = some value → value = before.name) :
    PointsAfter w (.patchPod before after) ∧ ∀ answer w',
      Handles faulty w (.patchPod before after) answer w' → Holding SelectsPrimary l w' := by
  refine holding_write h fun answer w' ha => ?_
  rcases answers_patchPod ha with ⟨-, rfl⟩ | rfl
  · exact Or.inl rfl
  refine Or.inr ⟨_, rfl, h.2.withPods fun pod hpod value hvalue => ?_⟩
  obtain ⟨old, hold, rfl⟩ := List.mem_map.mp hpod
  unfold relabelled at hvalue ⊢
  split at hvalue
  next hname =>
    rw [if_pos hname]
    exact (hown value hvalue).trans hname.symm
  next hname =>
    rw [if_neg hname]
    exact h.2.labelled old hold value hvalue

theorem holding_createPod {pod : Pod} (h : Holding SelectsPrimary l w)
    (hown : ∀ value, pod.labels.lookup labelInstance = some value → value = pod.name) :
    PointsAfter w (.createPod pod) ∧ ∀ answer w',
      Handles faulty w (.createPod pod) answer w' → Holding SelectsPrimary l w' := by
  refine holding_write h fun answer w' ha => ?_
  rcases answers_createPod ha with ⟨-, rfl⟩ | ⟨-, rfl⟩
  · exact Or.inl rfl
  refine Or.inr ⟨_, rfl, h.2.withPods fun other hother => ?_⟩
  rcases List.mem_append.mp hother with hold | hnew
  · exact h.2.labelled other hold
  · rw [List.mem_singleton.mp hnew]
    exact hown

/-- The pod of an ordinal gets the instance label of its own name. -/
theorem keeps_ensurePod (r : ClusterReconciler) (layout : ShardLayout) (index : Nat) :
    KeepsUnder (Handles faulty) PointsAfter (Holding SelectsPrimary) (fun _ => True)
      (ensurePod r layout index) := by
  refine enduring_selectsPrimary.routine.keeps_ensurePod (fun _ _ _ _ hr => hr) r ?_ ?_
  · intro l w before after h hname hlabels
    refine holding_patchPod h fun value hvalue => ?_
    rw [hlabels] at hvalue
    rw [hname, ← mergeLabels_get (dataPodLabels_instance l layout index),
      GoMap.get_of_lookup hvalue]
  · intro l w pod h hname hlabels
    refine holding_createPod h fun value hvalue => ?_
    rw [hlabels, dataPodLabels_instance] at hvalue
    rw [hname]
    exact (Option.some.inj hvalue).symm

/-- The role labels of a list of pods, one after the other. -/
theorem keeps_updateDataPodRoleLabels (oldPrimary newPrimary : String) :
    KeepsUnder (Handles faulty) PointsAfter (Holding SelectsPrimary) (fun _ => True)
      (updateDataPodRoleLabels oldPrimary newPrimary) := by
  intro l w h
  unfold updateDataPodRoleLabels
  show Safe faulty PointsAfter _ _ l w
  rw [safe_bind, safe_wrap, safe_listDataPods]
  refine ⟨pointsAfter_of_read rfl, ?_⟩
  -- the labels written are those read here, so it is now that they name their own pods
  refine KeepsUnder.forEach (fun pod hpod => Routine.keeps_doWhen fun _ =>
    Routine.keeps_wrap fun l' w' h' => ?_) l w h
  have hown : ∀ role value, (pod.labels.insert labelRole role).lookup labelInstance = some value →
      value = pod.name := by
    intro role value hvalue
    rw [GoMap.lookup_insert_ne (by decide)] at hvalue
    exact h.2.labelled pod (List.mem_of_mem_filter hpod) value hvalue
  have hpatch : ∀ role,
      PointsAfter w' (.patchPod pod { pod with labels := pod.labels.insert labelRole role }) ∧
        ∀ answer w'', Handles faulty w'
          (.patchPod pod { pod with labels := pod.labels.insert labelRole role }) answer w'' →
          Holding SelectsPrimary l' w'' := fun role => holding_patchPod h' (hown role)
  rw [wp_bind]
  exact ⟨(hpatch _).1, fun answer w'' hr => enduring_selectsPrimary.routine.keeps_local
    (local_ofApi answer) l' w'' ((hpatch _).2 answer w'' hr)⟩

/-! ## Moves of the primary role -/

theorem keeps_promoteListed (pods : List Pod) (candidate : String) :
    KeepsUnder (Handles faulty) PointsAfter (Holding SelectsPrimary) (fun _ => True)
      (promoteListed pods candidate) := by
  intro l w h
  refine (local_promoteListed (R := fun c => ∃ podIP request, c = .post podIP request)
    (fun podIP => ⟨podIP, _, rfl⟩) pods candidate).wp (J := Holding SelectsPrimary l) ?_ ?_ h
    (fun _ _ h' => h') fun _ _ _ => trivial
  · rintro w' _ - ⟨podIP, request, rfl⟩
    exact pointsAfter_of_read rfl
  · rintro w' _ answer w'' h' ⟨podIP, request, rfl⟩ hr
    rcases handles_cases hr with rfl | ⟨_, rfl⟩ <;> exact h'

/-- A new primary is recorded and the leader Service narrowed to it. -/
theorem safe_takeOver {what what' : String} {status : RedisClusterStatus} {last : Op Unit}
    (h : Holding SelectsPrimary l w) (hprimary : status.currentPrimary ≠ "")
    (hlast : KeepsUnder (Handles faulty) PointsAfter (Holding SelectsPrimary)
      (fun _ => True) last) :
    Safe faulty PointsAfter (do
      wrap what (patchStatus status)
      wrap what' updateLeaderServiceSelector
      last) (fun _ => Holding SelectsPrimary) l w := by
  obtain ⟨rfl, h⟩ := h
  rw [safe_bind, safe_wrap, safe_patchStatus rfl]
  refine ⟨enduring_selectsPrimary.pointsAfter_patchStatus h status, ?_⟩
  have hground : LeaderGround (w.store { w.cluster with status := status }) :=
    ⟨h.mode, hprimary, h.labelled, h.keyed⟩
  rw [safe_bind, safe_wrap]
  exact safe_mono (safe_updateLeaderServiceSelector rfl hground) fun _ l' w' h' => hlast l' w' h'

theorem annotates_selectsPrimary : Routine.Annotates (Handles faulty) PointsAfter
    (Holding SelectsPrimary) (fun _ => True) := fun after lock h hspec =>
  enduring_selectsPrimary.safe_patchCluster h lock (by rw [hspec])

theorem keeps_failover : KeepsUnder (Handles faulty) PointsAfter (Holding SelectsPrimary)
    (fun _ => True) failover := by
  intro l w h
  unfold failover
  rw [wp_bind, wp_get, wp_bind]
  refine wp_context.mpr (wp_post
    (Routine.keeps_setFence annotates_selectsPrimary l.status.currentPrimary l w h) ?_)
  intro _ l₁ w₁ h₁
  show Safe faulty PointsAfter _ _ l₁ w₁
  rw [safe_bind, safe_get, safe_bind, safe_mapOrder]
  refine ⟨pointsAfter_of_read rfl, fun order => safe_ite.mpr ⟨fun _ => trivial, fun hsome => ?_⟩⟩
  rw [safe_bind, safe_wrap, safe_listClusterPods]
  refine ⟨pointsAfter_of_read rfl, ?_⟩
  rw [safe_bind]
  refine safe_mono (keeps_promoteListed w₁.pods _ l₁ w₁ h₁) fun _ l₂ w₂ h₂ => ?_
  rw [safe_bind, safe_get]
  exact safe_takeOver h₂ hsome
    (Routine.keeps_wrap (Routine.keeps_clearFence annotates_selectsPrimary _))

theorem keeps_switchover : KeepsUnder (Handles faulty) PointsAfter (Holding SelectsPrimary)
    (fun _ => True) switchover := by
  intro l w h
  unfold switchover
  rw [wp_bind, wp_get]
  refine wp_ite.mpr ⟨fun _ => trivial, fun _ => ?_⟩
  rw [wp_bind]
  refine wp_context.mpr (wp_post
    (Routine.keeps_setFence annotates_selectsPrimary l.status.currentPrimary l w h) ?_)
  intro _ l₁ w₁ h₁
  show Safe faulty PointsAfter _ _ l₁ w₁
  rw [safe_bind, safe_get, safe_bind, safe_mapOrder]
  refine ⟨pointsAfter_of_read rfl, fun order => safe_ite.mpr ⟨fun _ => trivial, fun hsome => ?_⟩⟩
  rw [safe_bind, safe_wrap, safe_listClusterPods]
  refine ⟨pointsAfter_of_read rfl, ?_⟩
  rw [safe_bind]
  refine safe_mono (keeps_promoteListed w₁.pods _ l₁ w₁ h₁) fun promoted l₂ w₂ h₂ => ?_
  refine safe_ite.mpr ⟨fun _ => trivial, fun _ => ?_⟩
  rw [safe_bind, safe_get]
  exact safe_takeOver h₂ hsome
    (Routine.keeps_wrap (Routine.keeps_clearFence annotates_selectsPrimary _))

theorem keeps_adoptSentinelMaster (objectNamespace masterHost : String) :
    KeepsUnder (Handles faulty) PointsAfter (Holding SelectsPrimary) (fun _ => True)
      (adoptSentinelMaster objectNamespace masterHost) := by
  intro l w h
  unfold adoptSentinelMaster
  show Safe faulty PointsAfter _ _ l w
  rw [safe_bind, safe_wrap, safe_listDataPods]
  refine ⟨pointsAfter_of_read rfl, ?_⟩
  rw [safe_bind, safe_get]
  refine safe_ite.mpr ⟨fun _ => trivial, fun hsome => safe_ite.mpr ⟨fun _ => h, fun _ => ?_⟩⟩
  exact safe_takeOver h hsome (Routine.keeps_wrap (keeps_updateDataPodRoleLabels _ _))

/-! ## The pass -/

/-- Once the Services are reconciled, the rest of the pass keeps the selector on
    the recorded primary. -/
theorem passRule_selectsPrimary (r : ClusterReconciler) :
    PassRule r (Handles faulty) PointsAfter (Holding SelectsPrimary) (fun _ => True)
      Cmd.Modest where
  toRoutine := enduring_selectsPrimary.routine
  modest _ hc := hc
  object after lock h hmode _ _ := enduring_selectsPrimary.safe_patchCluster h lock hmode
  refetch stored w' h hr := by
    rcases hr with ⟨hok, rfl⟩ | ⟨-, ⟨message, herr⟩, -⟩
    · cases hok
      exact ⟨rfl, h.2⟩
    · cases herr
  ensurePod := keeps_ensurePod r
  switchover := keeps_switchover
  shards _ h hmode := absurd (h.1 ▸ hmode) h.2.mode
  adopt objectNamespace masterHost h _ := keeps_adoptSentinelMaster objectNamespace masterHost _ _ h

/-- Hibernation points the leader Service at no pod. -/
theorem keeps_clearLeaderServiceSelector :
    KeepsUnder (Handles faulty) PointsAfter (Holding Resting) (fun _ => True)
      clearLeaderServiceSelector := by
  rintro _ w ⟨rfl, h⟩
  unfold clearLeaderServiceSelector
  show Safe faulty PointsAfter _ _ w.cluster w
  rw [safe_bind, safe_get, safe_bind]
  refine safe_getService (pointsAfter_of_read rfl) ?_ fun message => trivial
  cases hlookup : w.services.lookup (leaderServiceName w.cluster.name) with
  | none => exact ⟨rfl, h⟩
  | some svc =>
    have hname := h.keyed _ svc hlookup
    have hstored : w.services.lookup svc.name = some svc := by rw [hname, hlookup]
    have hnobody : (w.withService { svc with
        selector := instanceSelector w.cluster.name "none" }).LeaderPoints := by
      intro other hother pod hpod hselects
      obtain rfl := World.eq_of_mem_leaderService hother hname
      have hlabel := Service.selects_lookup hselects GoMap.lookup_insert_self
      exact absurd (h.labelled pod hpod _ hlabel).symm (h.named pod hpod)
    exact safe_patchService hstored rfl (pointsAfter_patchService hstored rfl hnobody)
      ⟨rfl, h.toLeaderGround.withService _, h.named, hnobody⟩

/-- A pass over a cluster that hibernates. -/
theorem safe_reconcileWithServices_asleep (r : ClusterReconciler) (h : Resting w)
    (hon : isHibernationEnabled w.cluster = true) :
    Safe faulty PointsAfter (reconcileWithServices r) (fun _ _ _ => True) w.cluster w := by
  have R : Routine (Handles faulty) PointsAfter (Holding Resting) (fun _ => True) Cmd.Modest :=
    enduring_resting.routine
  unfold reconcileWithServices reconcileWith
  rw [safe_bind, safe_wrap]
  refine R.wp_local (local_reconcileGlobalResources fun _ => trivial) (l := w.cluster) ⟨rfl, h⟩ ?_
  intro _ w₁ h₁
  rw [safe_bind, safe_wrap]
  have hsleep : isHibernationEnabled w.cluster = true →
      wp (Handles faulty) PointsAfter hibernate (fun _ => Holding Resting) (fun _ _ => True)
        w.cluster w₁ :=
    fun _ => R.keeps_hibernate (fun _ => trivial) keeps_clearLeaderServiceSelector _ _ h₁
  refine safe_mono (R.wp_reconcileHibernation h₁ hsleep) ?_
  rintro hibernating l₂ w₂ ⟨-, hawake⟩
  refine safe_ite.mpr ⟨fun _ => trivial, fun hoff => ?_⟩
  exact absurd (hon.symm.trans (hawake (by simpa using hoff)).1) (by decide)

/-- A pass over one that does not. -/
theorem safe_reconcileWithServices_awake (r : ClusterReconciler) (h : Waking w)
    (hoff : isHibernationEnabled w.cluster = false) :
    Safe faulty PointsAfter (reconcileWithServices r) (fun _ _ _ => True) w.cluster w := by
  have R : Routine (Handles faulty) PointsAfter (Holding Waking) (fun _ => True) Cmd.Modest :=
    enduring_waking.routine
  unfold reconcileWithServices reconcileWith reconcileAwakeWith
  rw [safe_bind, safe_wrap]
  refine R.wp_local (local_reconcileGlobalResources fun _ => trivial) (l := w.cluster) ⟨rfl, h⟩ ?_
  intro _ w₁ h₁
  rw [safe_bind, safe_wrap]
  have hsleep : isHibernationEnabled w.cluster = true →
      wp (Handles faulty) PointsAfter hibernate (fun _ => Holding Waking) (fun _ _ => True)
        w.cluster w₁ := fun hon => absurd (hon.symm.trans hoff) (by decide)
  refine safe_mono (R.wp_reconcileHibernation h₁ hsleep) ?_
  rintro hibernating l₂ w₂ ⟨-, hawake⟩
  refine safe_ite.mpr ⟨fun _ => trivial, fun hno => ?_⟩
  rw [safe_bind, safe_wrap]
  refine safe_mono (R.wp_reconcileMaintenance (hawake (by simpa using hno)).2) ?_
  rintro maintenance l₃ w₃ ⟨-, h₃⟩
  rw [safe_bind, safe_wrap]
  refine R.wp_local (local_runSubstep trivial) h₃ fun _ w₄ h₄ => ?_
  rw [safe_bind, safe_wrap]
  refine safe_mono (safe_reconcileServices h₄) fun _ l₅ w₅ h₅ => ?_
  have htopology : ∀ statuses, KeepsUnder (Handles faulty) PointsAfter
      (Holding SelectsPrimary) (fun _ => True) (topologyReady maintenance statuses) := by
    intro statuses l w h
    have hmode : l.spec.mode ≠ .cluster := h.1 ▸ h.2.mode
    unfold topologyReady
    rw [wp_bind, wp_get, if_neg fun hcluster => hmode hcluster.2]
    exact h
  exact safe_mono ((passRule_selectsPrimary r).keeps_afterServices maintenance htopology
    (fun _ l w h _ => keeps_failover l w h) l₅ w₅ h₅) fun _ _ _ _ => trivial

end

/-! ## When the Service strays -/

/-- A Service that selects by role selects every pod of the role. -/
theorem Service.selects_of_role {svc : Service} {pod : Pod} {name role : String}
    (hselector : ∀ key, svc.selector.lookup key = (roleSelector name role).lookup key)
    (hcluster : pod.labels.lookup labelCluster = some name)
    (hrole : pod.labels.lookup labelRole = some role) : svc.selects pod = true := by
  have hkeys : ∀ key value, (roleSelector name role).lookup key = some value →
      pod.labels.lookup key = some value := by
    intro key value hkey
    by_cases hr : key = labelRole
    · subst hr
      rw [roleSelector, GoMap.lookup_insert_self] at hkey
      rw [hrole, hkey]
    · rw [roleSelector, GoMap.lookup_insert_ne hr] at hkey
      by_cases hc : key = labelCluster
      · subst hc
        rw [GoMap.lookup_insert_self] at hkey
        rw [hcluster, hkey]
      · rw [GoMap.lookup_insert_ne hc] at hkey
        cases hkey
  simp only [Service.selects, Bool.and_eq_true, decide_eq_true_eq, List.all_eq_true]
  refine ⟨GoMap.len_pos_iff.mpr ⟨labelRole, GoMap.mem_iff_lookup.mpr ⟨role, ?_⟩⟩, ?_⟩
  · rw [hselector labelRole, roleSelector, GoMap.lookup_insert_self]
  · intro label hlabel
    exact hkeys label.1 label.2 ((hselector label.1).symm.trans (GoMap.mem_pairs.mp hlabel))

/-- A leader Service that selects by role points at the primary only if no other
    pod is labelled as one. -/
theorem World.LeaderPoints.primaryAlone {svc : Service} (h : w.LeaderPoints)
    (hsvc : w.leaderService = some svc) (hselector : ∀ key,
      svc.selector.lookup key = (roleSelector w.cluster.name labelRolePrimary).lookup key) :
    w.PrimaryAlone :=
  fun pod hpod hcluster hrole =>
    h svc hsvc pod hpod (Service.selects_of_role hselector hcluster hrole)

/-- The guard on writes of Services alone. -/
def ServicesPoint (w : World) (c : Cmd) : Prop :=
  match c with
  | .createService _ | .patchService .. => PointsAfter w c
  | _ => True

theorem lenient_servicesPoint : Lenient ServicesPoint where
  quiet w c hc := by
    cases c <;> first | exact trivial | exact hc.elim
  patchStatus _ _ _ := trivial

section

variable {faulty : Cmd → Prop} {l : RedisCluster} {w : World}

/-- What is written when the leader Service is reset shows the role labels. -/
theorem primaryAlone_of_ensureService (hl : l = w.cluster) (hkeyed : w.KeyedServices)
    (hpoints : w.LeaderPoints) {Q : Outcome Unit}
    (h : Safe faulty ServicesPoint (ensureService (leaderServiceName l.name)
      (roleSelector l.name labelRolePrimary) 6379) Q l w) : w.PrimaryAlone := by
  subst hl
  have hwritten : ∀ svc : Service, svc.name = leaderServiceName w.cluster.name →
      svc.selector = roleSelector w.cluster.name labelRolePrimary →
      (w.withService svc).LeaderPoints → w.PrimaryAlone := by
    intro svc hname hselector hp
    have halone : (w.withService svc).PrimaryAlone :=
      hp.primaryAlone (World.leaderService_withService hname) fun key => by rw [hselector]; rfl
    exact halone
  unfold ensureService at h
  rw [safe_bind, safe_ask] at h
  have hanswer := h.2 _ w (Or.inl ⟨rfl, rfl⟩)
  cases hlookup : w.services.lookup (leaderServiceName w.cluster.name) with
  | none =>
    rw [hlookup] at hanswer
    change Safe faulty ServicesPoint (if _ then _ else _) Q w.cluster w at hanswer
    rw [if_neg (not_not.mpr rfl), safe_bind, safe_ask] at hanswer
    refine hwritten
      { name := leaderServiceName w.cluster.name
        selector := roleSelector w.cluster.name labelRolePrimary
        ports := [tcpPort "redis" 6379] } rfl rfl (hanswer.1 rfl (.ok ()) _ ?_ rfl)
    simp only [Answers, hlookup]
    exact ⟨trivial, rfl⟩
  | some existing =>
    have hname := hkeyed _ existing hlookup
    have hstored : w.services.lookup existing.name = some existing := by rw [hname, hlookup]
    rw [hlookup] at hanswer
    change Safe faulty ServicesPoint (if _ then _ else _) Q w.cluster w at hanswer
    by_cases hsame : existing.selector.deepEqual
        (roleSelector w.cluster.name labelRolePrimary) = true ∧
          existing.ports = [tcpPort "redis" 6379]
    · exact hpoints.primaryAlone hlookup (GoMap.lookup_of_deepEqual hsame.1)
    · rw [if_neg hsame, safe_bind, safe_ask] at hanswer
      refine hwritten { existing with
        selector := roleSelector w.cluster.name labelRolePrimary
        ports := [tcpPort "redis" 6379] } hname rfl (hanswer.1 rfl (.ok ()) _ ?_ rfl)
      simp only [Answers, hstored]
      exact ⟨trivial, rfl⟩

/-- A pass over a cluster that is awake resets the leader Service. -/
theorem primaryAlone_of_safe (r : ClusterReconciler) (hmode : w.cluster.spec.mode ≠ .cluster)
    (hkeyed : w.KeyedServices) (hpoints : w.LeaderPoints)
    (hoff : isHibernationEnabled w.cluster = false)
    (h : Safe faulty ServicesPoint (reconcileWithServices r) (fun _ _ _ => True) w.cluster w) :
    w.PrimaryAlone := by
  have hP := lenient_servicesPoint
  unfold reconcileWithServices reconcileWith reconcileGlobalResources reconcileAwakeWith at h
  simp only [safe_bind, safe_wrap, safe_runSubstep, hP.quiet w (.substep _) trivial, true_and] at h
  obtain ⟨l₁, h₁, hiff₁⟩ := @safe_reconcileHibernation_awake faulty _ _ w hP rfl hoff _
  replace h := hiff₁.mp h
  rw [if_neg Bool.false_ne_true, safe_bind, safe_wrap] at h
  obtain ⟨l₂, h₂, hiff₂⟩ := @safe_reconcileMaintenance faulty _ _ (w.store l₁) hP rfl _
  replace h := hiff₂.mp h
  rw [safe_bind, safe_wrap, safe_runSubstep, safe_bind, safe_wrap] at h
  replace h := h.2
  -- what came first has settled phase and conditions at most
  obtain ⟨hname, hspec, hprimary⟩ : l₂.name = w.cluster.name ∧ l₂.spec = w.cluster.spec ∧
      l₂.status.currentPrimary = w.cluster.status.currentPrimary := by
    obtain ⟨phase, conditions, rfl⟩ := h₁.trans h₂
    exact ⟨rfl, rfl, rfl⟩
  have hthere : Narrows w (w.store l₂) :=
    ⟨rfl, fun _ hpod => hpod, hname, congrArg _ hspec, hprimary⟩
  have hback : Narrows (w.store l₂) w :=
    ⟨rfl, fun _ hpod => hpod, hname.symm, congrArg _ hspec.symm, hprimary.symm⟩
  have hreplicated : ¬ l₂.spec.mode = .cluster := by rwa [hspec]
  unfold reconcileServices reconcileReplicatedServices at h
  rw [safe_bind, safe_get, if_neg hreplicated, safe_bind, safe_get, safe_bind, safe_wrap] at h
  have halone : (w.store l₂).PrimaryAlone :=
    primaryAlone_of_ensureService rfl hkeyed (leaderPoints_narrows hpoints hthere) h
  exact primaryAlone_narrows halone hback

/-- The first request of a pass is a write that changes nothing here. -/
theorem leaderPoints_of_safe (r : ClusterReconciler)
    (h : Safe faulty PointsAfter (reconcileWithServices r) (fun _ _ _ => True) w.cluster w) :
    w.LeaderPoints := by
  unfold reconcileWithServices reconcileWith reconcileGlobalResources at h
  rw [safe_bind, safe_wrap, safe_bind, safe_wrap, safe_runSubstep] at h
  exact h.1 rfl (.ok ()) w rfl rfl

/-- **The leader Service and the primary.**  After every write of a pass that does
    not itself change `status.currentPrimary`, the leader Service selects nobody
    but the primary: exactly if it does so before the pass, and the pass finds the
    cluster hibernating or no other pod labelled `redis.io/role=primary`. -/
theorem leaderService_points_iff (r : ClusterReconciler) (hmode : w.cluster.spec.mode ≠ .cluster)
    (hprimary : w.cluster.status.currentPrimary ≠ "") (hpods : w.OwnPods)
    (hkeyed : w.KeyedServices) :
    (∀ w' c, Prog.Issues (Handles faulty) (reconcileWithServices r w.cluster) w w' c →
        PointsAfter w' c) ↔
      w.LeaderPoints ∧ (isHibernationEnabled w.cluster = true ∨ w.PrimaryAlone) := by
  have hsafe : (∀ w' c, Prog.Issues (Handles faulty) (reconcileWithServices r w.cluster) w w' c →
      PointsAfter w' c) ↔
      Safe faulty PointsAfter (reconcileWithServices r) (fun _ _ _ => True) w.cluster w := by
    refine ⟨fun h => Prog.wp_iff.mpr ⟨h, fun a w' _ => ?_⟩, fun h => (Prog.wp_iff.mp h).1⟩
    cases a <;> trivial
  rw [hsafe]
  have hground : LeaderGround w := ⟨hmode, hprimary, hpods.labelled, hkeyed⟩
  constructor
  · intro h
    have hpoints := leaderPoints_of_safe r h
    refine ⟨hpoints, ?_⟩
    cases hon : isHibernationEnabled w.cluster with
    | true => exact Or.inl rfl
    | false =>
      have hservices : Safe faulty ServicesPoint (reconcileWithServices r) (fun _ _ _ => True)
          w.cluster w := by
        refine Act.wp_mono h (fun w' c hc => ?_) (fun _ _ _ h' => h') fun _ _ h' => h'
        cases c <;> first | exact trivial | exact hc
      exact Or.inr (primaryAlone_of_safe r hmode hkeyed hpoints hon hservices)
  · rintro ⟨hpoints, hcase⟩
    cases hon : isHibernationEnabled w.cluster with
    | true =>
      refine safe_reconcileWithServices_asleep r ⟨hground, fun pod hpod hnone => ?_, hpoints⟩ hon
      obtain ⟨suffix, hname⟩ := hpods.named pod hpod
      have hdash : '-' ∈ "none".toList := by
        rw [← hnone, hname]
        simp
      exact absurd hdash (by decide)
    | false =>
      have halone := hcase.resolve_left (by rw [hon]; decide)
      exact safe_reconcileWithServices_awake r ⟨hground, halone, hpoints⟩ hon

end

/-! ## A stale label -/

/-- A pod of cluster `c` with a role label. -/
def rolePod (name role : String) : Pod where
  name := name
  labels := podLabels "c" name role
  controlled := true

/-- Cluster `c` with two instances and primary `c-1`, its leader Service narrowed
    to it. -/
def narrowedWorld (pods : List Pod) : World :=
  World.withService
    { cluster := { name := "c", spec := { instances := 2 }, status := { currentPrimary := "c-1" } }
      pods := pods }
    { name := "c-leader", selector := instanceSelector "c" "c-1", ports := [tcpPort "redis" 6379] }

theorem narrowedWorld_keyed (pods : List Pod) : (narrowedWorld pods).KeyedServices :=
  World.KeyedServices.withService (w := { cluster := { name := "c" } }) (fun _ _ h => (nomatch h)) _

theorem narrowedWorld_own (role role' : String) :
    (narrowedWorld [rolePod "c-0" role, rolePod "c-1" role']).OwnPods := by
  refine ⟨List.forall_mem_cons.mpr ⟨⟨"0", (by decide : "c-0" = "c" ++ "-" ++ "0")⟩,
    List.forall_mem_singleton.mpr ⟨"1", (by decide : "c-1" = "c" ++ "-" ++ "1")⟩⟩,
    List.forall_mem_cons.mpr ⟨?_, List.forall_mem_singleton.mpr ?_⟩⟩
  all_goals
    intro value hvalue
    exact (Option.some.inj hvalue).symm

/-- With the labels of the last failover brought up to date the Service keeps to
    the primary. -/
theorem leaderService_points_fresh :
    (narrowedWorld [rolePod "c-0" labelRoleReplica, rolePod "c-1" labelRolePrimary]).PrimaryAlone ∧
      ∀ w' c, Prog.Issues (Handles fun _ => True)
        (reconcileWithServices newTemplate (narrowedWorld
          [rolePod "c-0" labelRoleReplica, rolePod "c-1" labelRolePrimary]).cluster)
        (narrowedWorld [rolePod "c-0" labelRoleReplica, rolePod "c-1" labelRolePrimary]) w' c →
        PointsAfter w' c := by
  have halone : (narrowedWorld
      [rolePod "c-0" labelRoleReplica, rolePod "c-1" labelRolePrimary]).PrimaryAlone := by
    decide +kernel
  exact ⟨halone, (leaderService_points_iff newTemplate (by decide) (by decide)
    (narrowedWorld_own _ _) (narrowedWorld_keyed _)).mpr ⟨by decide +kernel, Or.inr halone⟩⟩

/-- A write after which the leader Service selects someone else. -/
def strays (q : World × Cmd) : Bool :=
  let after := (q.1.answer q.2).2
  q.2.Writes && decide (after.cluster.status.currentPrimary = q.1.cluster.status.currentPrimary) &&
    !decide after.LeaderPoints

theorem not_pointsAfter_of_strays {c : Cmd} (h : strays (w, c) = true) : ¬ PointsAfter w c := by
  simp only [strays, Bool.and_eq_true, decide_eq_true_eq, Bool.not_eq_true',
    decide_eq_false_iff_not] at h
  obtain ⟨⟨hwrites, hprimary⟩, hpoints⟩ := h
  exact fun hafter => hpoints (hafter hwrites _ _ (w.answers_answer c) hprimary)

/-- After a failover from `c-0` to `c-1` the labels are those of before.  The next
    pass resets the leader Service to the role label, and with that to `c-0`. -/
theorem leaderService_strays :
    (narrowedWorld [rolePod "c-0" labelRolePrimary,
        rolePod "c-1" labelRoleReplica]).LeaderPoints ∧
      ∃ w' c, Prog.Issues (Handles fun _ => False)
        (reconcileWithServices newTemplate (narrowedWorld
          [rolePod "c-0" labelRolePrimary, rolePod "c-1" labelRoleReplica]).cluster)
        (narrowedWorld [rolePod "c-0" labelRolePrimary, rolePod "c-1" labelRoleReplica]) w' c ∧
        ¬ PointsAfter w' c := by
  refine ⟨by decide +kernel, ?_⟩
  have hany : (Prog.trace World.answer (reconcileWithServices newTemplate (narrowedWorld
      [rolePod "c-0" labelRolePrimary, rolePod "c-1" labelRoleReplica]).cluster)
      (narrowedWorld [rolePod "c-0" labelRolePrimary, rolePod "c-1" labelRoleReplica])).any
        strays = true := by decide +kernel
  obtain ⟨⟨w', c⟩, hmem, hstrays⟩ := List.any_eq_true.mp hany
  exact ⟨w', c, Prog.issues_of_mem_trace (World.handles_answer _) hmem,
    not_pointsAfter_of_strays hstrays⟩

end RedisOperator
