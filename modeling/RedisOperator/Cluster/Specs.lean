/-
  RedisOperator.Cluster.Specs

  Reading the controller's actions against the world.  `Safe faulty P x Q`
  says that `x`, whatever its requests are answered, issues only requests that
  meet `P`, and meets `Q` if it returns; an error ends a pass and is always
  fine.  `CanReturn faulty x Q` says that some answers let `x` return with
  `Q`.  Every combinator and every small function has its equation here, so
  that proofs about a pass never unfold them.
-/

import RedisOperator.Cluster.World

namespace RedisOperator

open Lib Act

/-- What is said of a result, the copy of the object and the world. -/
abbrev Outcome (α : Type) := α → RedisCluster → World → Prop

/-- Requests meet `P`, and a return meets `Q`. -/
def Safe (faulty : Cmd → Prop) (P : World → Cmd → Prop) {α : Type} (x : Op α)
    (Q : Outcome α) (l : RedisCluster) (w : World) : Prop :=
  Act.wp (Handles faulty) P x Q (fun _ _ => True) l w

/-- Some answers let the action return with `Q`. -/
def CanReturn (faulty : Cmd → Prop) {α : Type} (x : Op α)
    (Q : Outcome α) (l : RedisCluster) (w : World) : Prop :=
  Act.may (Handles faulty) (fun _ _ => False) x Q l w

section

variable {faulty : Cmd → Prop} {P : World → Cmd → Prop} {l : RedisCluster} {w : World}
variable {α β : Type}

/-! ## Combinators -/

variable {Q : Outcome α}

@[simp] theorem safe_pure {a : α} : Safe faulty P (pure a) Q l w ↔ Q a l w := Iff.rfl

@[simp] theorem safe_fail {err : String} : Safe faulty P (Act.fail err) Q l w ↔ True := Iff.rfl

@[simp] theorem safe_get {Q : Outcome RedisCluster} :
    Safe faulty P Act.get Q l w ↔ Q l l w := Iff.rfl

@[simp] theorem safe_set {l' : RedisCluster} {Q : Outcome Unit} :
    Safe faulty P (Act.set l') Q l w ↔ Q () l' w := Iff.rfl

@[simp] theorem safe_ofApi_ok {a : α} : Safe faulty P (ofApi (.ok a)) Q l w ↔ Q a l w := Iff.rfl

variable {x : Op α}

@[simp] theorem safe_bind {f : α → Op β} {Q : Outcome β} :
    Safe faulty P (x >>= f) Q l w ↔
      Safe faulty P x (fun a l' w' => Safe faulty P (f a) Q l' w') l w := wp_bind

@[simp] theorem safe_wrap {what : String} :
    Safe faulty P (wrap what x) Q l w ↔ Safe faulty P x Q l w := wp_context

@[simp] theorem safe_ite {c : Prop} [Decidable c] {y : Op α} :
    Safe faulty P (if c then x else y) Q l w ↔
      (c → Safe faulty P x Q l w) ∧ (¬ c → Safe faulty P y Q l w) := wp_ite

@[simp] theorem safe_doWhen {c : Prop} [Decidable c] {x : Op Unit} {Q : Outcome Unit} :
    Safe faulty P (doWhen c x) Q l w ↔
      (c → Safe faulty P x Q l w) ∧ (¬ c → Q () l w) := safe_ite

theorem safe_loop_cons {A γ : Type} {f : A → β → Op (A ⊕ γ)} {a : A} {x : β} {xs : List β}
    {Q : Outcome (A ⊕ γ)} :
    Safe faulty P (Act.loop f a (x :: xs)) Q l w ↔
      Safe faulty P (f a x) (fun r l' w' =>
        Sum.elim (fun a' => Safe faulty P (Act.loop f a' xs) Q l' w')
          (fun g => Q (.inr g) l' w') r) l w := wp_loop_cons

variable {Q' : Outcome α}

theorem safe_mono
    (h : Safe faulty P x Q l w) (hQ : ∀ a l w, Q a l w → Q' a l w) : Safe faulty P x Q' l w :=
  wp_post h hQ

theorem safe_of_only {R : Cmd → Prop} (h : Only R x) (hP : ∀ w c, R c → P w c) :
    Safe faulty P x (fun _ _ _ => True) l w :=
  wp_mono (h.wp _) hP (fun _ _ _ h => h) (fun _ _ h => h)

/-- A statement about what is left adds to any other. -/
theorem safe_and (h : Safe faulty P x Q l w) (h' : Safe faulty (fun _ _ => True) x Q' l w) :
    Safe faulty P x (fun a l w => Q a l w ∧ Q' a l w) l w :=
  wp_mono (wp_and h h') (fun _ _ hc => hc.1) (fun _ _ _ hq => hq) fun _ _ _ => trivial

/-- Without a guard every action is safe; only the outcome matters. -/
theorem safe_total (hQ : ∀ a l w, Q a l w) : Safe faulty (fun _ _ => True) x Q l w :=
  wp_mono ((Only.all x).wp _) (fun _ _ _ => trivial) (fun a l w _ => hQ a l w)
    (fun _ _ h => h)

@[simp] theorem canReturn_pure {a : α} : CanReturn faulty (pure a) Q l w ↔ Q a l w := Iff.rfl

@[simp] theorem canReturn_get {Q : Outcome RedisCluster} :
    CanReturn faulty Act.get Q l w ↔ Q l l w := Iff.rfl

@[simp] theorem canReturn_bind {f : α → Op β} {Q : Outcome β} :
    CanReturn faulty (x >>= f) Q l w ↔
      CanReturn faulty x (fun a l' w' => CanReturn faulty (f a) Q l' w') l w := may_bind

@[simp] theorem canReturn_wrap {what : String} :
    CanReturn faulty (wrap what x) Q l w ↔ CanReturn faulty x Q l w := may_context

@[simp] theorem canReturn_ite {c : Prop} [Decidable c] {y : Op α} :
    CanReturn faulty (if c then x else y) Q l w ↔
      (c ∧ CanReturn faulty x Q l w) ∨ (¬ c ∧ CanReturn faulty y Q l w) := may_ite

@[simp] theorem canReturn_doWhen {c : Prop} [Decidable c] {x : Op Unit} {Q : Outcome Unit} :
    CanReturn faulty (doWhen c x) Q l w ↔
      (c ∧ CanReturn faulty x Q l w) ∨ (¬ c ∧ Q () l w) := canReturn_ite

theorem canReturn_mono (h : CanReturn faulty x Q l w) (hQ : ∀ a l w, Q a l w → Q' a l w) :
    CanReturn faulty x Q' l w :=
  may_post h hQ

/-- A request that is answered lets the action go on. -/
theorem canReturn_ask {c : Cmd} {Q : Outcome (Reply c)} (r : Reply c)
    (w' : World) (h : Answers w c r w') (hQ : Q r l w') : CanReturn faulty (ask c) Q l w :=
  Or.inr ⟨r, w', Or.inl h, hQ⟩

/-! ## Requests -/

theorem safe_ask {c : Cmd} {Q : Outcome (Reply c)} :
    Safe faulty P (ask c) Q l w ↔ P w c ∧ ∀ r w', Handles faulty w c r w' → Q r l w' := Iff.rfl

@[simp] theorem safe_now {Q : Outcome Nat} :
    Safe faulty P now Q l w ↔ P w .now ∧ Q w.clock l w := by
  refine and_congr_right fun _ => ⟨fun h => h w.clock w (Or.inl ⟨rfl, rfl⟩), ?_⟩
  rintro h r w' (⟨rfl, rfl⟩ | ⟨-, hfail, -⟩)
  · exact h
  · exact hfail.elim

@[simp] theorem safe_mapOrder {Q : Outcome MapOrder} :
    Safe faulty P (ask .mapOrder) Q l w ↔ P w .mapOrder ∧ ∀ order, Q order l w := by
  refine and_congr_right fun _ => ⟨fun h order => h order w (Or.inl rfl), ?_⟩
  rintro h r w' (rfl | ⟨-, hfail, -⟩)
  · exact h r
  · exact hfail.elim

@[simp] theorem safe_runSubstep {step : Substep} {Q : Outcome Unit} :
    Safe faulty P (runSubstep step) Q l w ↔ P w (.substep step) ∧ Q () l w := by
  unfold runSubstep
  rw [safe_bind, safe_ask]
  refine and_congr_right fun _ => ⟨fun h => h (.ok ()) w (Or.inl rfl), ?_⟩
  rintro h r w' (rfl | ⟨-, hfail, -⟩)
  · cases r with
    | ok _ => exact h
    | error err => trivial
  · exact hfail.elim

/-- The list of pods, with what an error leads to. -/
theorem wp_listClusterPods {F : String → World → Prop} {Q : Outcome (List Pod)} :
    wp (Handles faulty) P listClusterPods Q F l w ↔
      P w .listPods ∧ Q w.pods l w ∧ (faulty .listPods → ∀ message, F message w) := by
  unfold listClusterPods
  rw [wp_bind]
  refine and_congr_right fun _ => ⟨fun h => ⟨?_, fun hf message => ?_⟩, ?_⟩
  · exact h (.ok w.pods) w (Or.inl ⟨rfl, rfl⟩)
  · exact h (.error ⟨.other, message⟩) w (Or.inr ⟨hf, ⟨message, rfl⟩, Or.inl rfl⟩)
  · rintro ⟨hok, herr⟩ r w' (⟨rfl, rfl⟩ | ⟨hf, ⟨message, rfl⟩, rfl | ⟨_, -, rfl⟩⟩)
    · exact hok
    · exact herr hf message
    · exact herr hf message

theorem wp_listDataPods {F : String → World → Prop} {Q : Outcome (List Pod)} :
    wp (Handles faulty) P listDataPods Q F l w ↔
      P w .listPods ∧ Q w.dataPods l w ∧ (faulty .listPods → ∀ message, F message w) := by
  unfold listDataPods
  rw [wp_bind, wp_listClusterPods]
  rfl

@[simp] theorem safe_listClusterPods {Q : Outcome (List Pod)} :
    Safe faulty P listClusterPods Q l w ↔ P w .listPods ∧ Q w.pods l w := by
  unfold Safe
  rw [wp_listClusterPods]
  simp

@[simp] theorem safe_listDataPods {Q : Outcome (List Pod)} :
    Safe faulty P listDataPods Q l w ↔ P w .listPods ∧ Q w.dataPods l w := by
  unfold Safe
  rw [wp_listDataPods]
  simp

@[simp] theorem safe_listSentinelPods {Q : Outcome (List Pod)} :
    Safe faulty P listSentinelPods Q l w ↔
      P w .listPods ∧ Q (w.pods.filter fun pod => !pod.isData) l w := by
  unfold listSentinelPods
  rw [safe_bind, safe_listClusterPods]
  rfl

theorem canReturn_listClusterPods {Q : Outcome (List Pod)}
    (h : Q w.pods l w) : CanReturn faulty listClusterPods Q l w := by
  unfold listClusterPods
  rw [canReturn_bind]
  exact canReturn_ask _ _ ⟨rfl, rfl⟩ h

theorem canReturn_listDataPods {Q : Outcome (List Pod)}
    (h : Q w.dataPods l w) : CanReturn faulty listDataPods Q l w := by
  unfold listDataPods
  rw [canReturn_bind]
  exact canReturn_listClusterPods h

theorem canReturn_now {Q : Outcome Nat} (h : Q w.clock l w) :
    CanReturn faulty now Q l w :=
  canReturn_ask _ _ ⟨rfl, rfl⟩ h

/-! ## Writes to the cluster object -/

/-- The world with another stored cluster. -/
def World.store (w : World) (cluster : RedisCluster) : World := { w with cluster := cluster }

@[simp] theorem World.store_dataPods (w : World) (c : RedisCluster) :
    (w.store c).dataPods = w.dataPods := rfl

/-- The world with another list of pods. -/
def World.withPods (w : World) (pods : List Pod) : World := { w with pods := pods }

/-- A patched pod has its new labels; the others are as they were. -/
def relabelled (before after : Pod) (pod : Pod) : Pod :=
  if pod.name = before.name then
    { pod with labels := after.labels, controlled := after.controlled }
  else pod

theorem relabelled_name (before after pod : Pod) :
    (relabelled before after pod).name = pod.name := by
  unfold relabelled
  split <;> rfl

theorem answers_patchPod {before after : Pod} {answer : Api Unit} {w' : World}
    (h : Answers w (.patchPod before after) answer w') :
    ((∃ err, answer = .error err) ∧ w' = w) ∨
      w' = w.withPods (w.pods.map (relabelled before after)) := by
  cases hfind : w.findPod before.name with
  | none =>
    simp only [Answers, hfind] at h
    exact Or.inl ⟨⟨_, h.1⟩, h.2⟩
  | some pod =>
    simp only [Answers, hfind] at h
    exact Or.inr h.2

theorem answers_createPod {pod : Pod} {answer : Api Unit} {w' : World}
    (h : Answers w (.createPod pod) answer w') :
    ((∃ err, answer = .error err) ∧ w' = w) ∨
      w.findPod pod.name = none ∧ w' = w.withPods (w.pods ++ [pod]) := by
  cases hfind : w.findPod pod.name with
  | none =>
    simp only [Answers, hfind] at h
    exact Or.inr ⟨rfl, h.2⟩
  | some other =>
    simp only [Answers, hfind] at h
    exact Or.inl ⟨⟨_, h.1⟩, h.2⟩

/-- A status patch computed from the stored object. -/
theorem safe_patchStatus {status : RedisClusterStatus} {Q : Outcome Unit} (hl : l = w.cluster) :
    Safe faulty P (patchStatus status) Q l w ↔
      P w (.patchStatus l { l with status := status }) ∧
        Q () { l with status := status } (w.store { l with status := status }) := by
  subst hl
  unfold patchStatus
  rw [safe_bind, safe_get, safe_bind, safe_ask]
  refine and_congr_right fun _ => ⟨fun h => ?_, ?_⟩
  · exact h (.ok { w.cluster with status := status }) (w.store { w.cluster with status := status })
      (Or.inl (by simp [Answers, World.store]))
  · rintro h r w' (⟨hr, rfl⟩ | ⟨-, ⟨message, rfl⟩, -⟩)
    · simp only [mergeStatus_self] at hr
      subst hr
      simpa [World.store] using h
    · trivial

/-- A patch of annotations or spec computed from the stored object. -/
theorem safe_patchCluster {after : RedisCluster} {optimisticLock : Bool}
    {Q : Outcome Unit} (hl : l = w.cluster) :
    Safe faulty P (patchCluster after optimisticLock) Q l w ↔
      P w (.patchCluster l after optimisticLock) ∧
        Q () { l with annotations := after.annotations, spec := after.spec }
          (w.store { l with annotations := after.annotations, spec := after.spec }) := by
  subst hl
  unfold patchCluster
  rw [safe_bind, safe_get, safe_bind, safe_ask]
  refine and_congr_right fun _ => ⟨fun h => ?_, ?_⟩
  · exact h (.ok { w.cluster with annotations := after.annotations, spec := after.spec })
      (w.store { w.cluster with annotations := after.annotations, spec := after.spec })
      (Or.inl (by simp [Answers, World.store]))
  · rintro h r w' (ha | ⟨-, ⟨message, rfl⟩, -⟩)
    · simp only [Answers, ne_eq, not_true_eq_false, and_false, ↓reduceIte, mergeCluster_self] at ha
      obtain ⟨rfl, rfl⟩ := ha
      exact h
    · trivial

theorem canReturn_patchStatus {status : RedisClusterStatus} {Q : Outcome Unit} (hl : l = w.cluster)
    (h : Q () { l with status := status } (w.store { l with status := status })) :
    CanReturn faulty (patchStatus status) Q l w := by
  subst hl
  unfold patchStatus
  rw [canReturn_bind, canReturn_get, canReturn_bind]
  refine canReturn_ask (.ok { w.cluster with status := status })
    (w.store { w.cluster with status := status }) ?_ h
  simp [Answers, World.store]

/-- A patch without a lock can always be carried out. -/
theorem canReturn_patchCluster {after : RedisCluster} {Q : Outcome Unit}
    (h : Q () (mergeCluster l after w.cluster) (w.store (mergeCluster l after w.cluster))) :
    CanReturn faulty (patchCluster after false) Q l w := by
  unfold patchCluster
  rw [canReturn_bind, canReturn_get, canReturn_bind]
  refine canReturn_ask (.ok (mergeCluster l after w.cluster))
    (w.store (mergeCluster l after w.cluster)) ?_ h
  simp [Answers, World.store]

/-! ## Posts and deletions -/

variable {request : Post} {podIP : String}

@[simp] theorem safe_post {Q : Outcome (Except PostError Unit)} :
    Safe faulty P (ask (.post podIP request)) Q l w ↔
      P w (.post podIP request) ∧ ∀ r, Q r l w := by
  refine and_congr_right fun _ => ⟨fun h r => h r w (Or.inl rfl), ?_⟩
  rintro h r w' (rfl | ⟨-, hfail, -⟩)
  · exact h r
  · exact hfail.elim

@[simp] theorem safe_postClusterJSON {Q : Outcome (Except PostError Unit)} :
    Safe faulty P (postClusterJSON podIP request) Q l w ↔
      (podIP = "" → Q (.error noPodIP) l w) ∧
        (podIP ≠ "" → P w (.post podIP request) ∧ ∀ r, Q r l w) := by
  unfold postClusterJSON
  rw [safe_ite, safe_pure, safe_post]

@[simp] theorem safe_postOrFail {Q : Outcome Unit} :
    Safe faulty P (postOrFail podIP request) Q l w ↔
      (podIP ≠ "" → P w (.post podIP request) ∧ Q () l w) := by
  unfold postOrFail
  rw [safe_bind, safe_postClusterJSON]
  constructor
  · intro h hip
    exact ⟨(h.2 hip).1, (h.2 hip).2 (.ok ())⟩
  · intro h
    refine ⟨fun _ => trivial, fun hip => ⟨(h hip).1, ?_⟩⟩
    rintro (err | _)
    · trivial
    · exact (h hip).2

/-- A deletion; what it does to the list of pods is left open. -/
theorem safe_deletePod {name : String} {reason : DeleteReason}
    {Q : Outcome Unit} (hP : P w (.deletePod name reason))
    (hQ : ∀ pods, Q () l (w.withPods pods)) :
    Safe faulty P (deletePod name reason) Q l w := by
  unfold deletePod
  rw [safe_bind, safe_ask]
  refine ⟨hP, ?_⟩
  have hdone : ∀ (r : Api Unit) (pods : List Pod),
      Safe faulty P (ignoreNotFound r) Q l (w.withPods pods) := by
    intro r pods
    cases r with
    | ok _ => exact hQ pods
    | error err =>
      show Safe faulty P (if err.reason = .notFound then pure () else Act.fail err.message) Q l _
      rw [safe_ite]
      exact ⟨fun _ => hQ pods, fun _ => trivial⟩
  have hpods : ∀ r w', Answers w (.deletePod name reason) r w' → ∃ pods, w' = w.withPods pods := by
    intro r w' h
    cases hfind : w.findPod name with
    | none =>
      simp only [Answers, hfind] at h
      exact ⟨w.pods, h.2⟩
    | some pod =>
      simp only [Answers, hfind] at h
      rcases h.2 with h | h
      · exact ⟨w.pods, h⟩
      · exact ⟨_, h⟩
  rintro r w' (h | ⟨-, -, rfl | ⟨r', h⟩⟩)
  · obtain ⟨pods, rfl⟩ := hpods r w' h
    exact hdone r pods
  · exact hdone r w'.pods
  · obtain ⟨pods, rfl⟩ := hpods r' w' h
    exact hdone r pods

theorem canReturn_deletePod {name : String} {reason : DeleteReason}
    {Q : Outcome Unit} (hQ : Q () l w) :
    CanReturn faulty (deletePod name reason) Q l w := by
  unfold deletePod
  rw [canReturn_bind]
  cases hfind : w.findPod name with
  | none =>
    refine canReturn_ask (found "pods" name none) w ?_ ?_
    · simp [Answers, hfind]
    · exact hQ
  | some pod =>
    refine canReturn_ask (.ok ()) w ?_ ?_
    · simp [Answers, hfind]
    · exact hQ

end

end RedisOperator
