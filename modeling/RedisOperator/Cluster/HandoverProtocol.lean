/-
  RedisOperator.Cluster.HandoverProtocol

  The coordinated handover of a shard: two annotations, the fence on the owner
  and the marker `owner/heir`, that tell an instance manager to keep Redis up.
  Begin and finish write both under a lock.  `setFence` escalates a planned
  fence to a hard one with two writes that carry no lock, so it is the marker
  in its copy that counts, not the one that is stored.
-/

import RedisOperator.Cluster.FenceProtocol
import RedisOperator.Instance.RoleManager

namespace RedisOperator

open Lib Act

/-! ## Resume -/

/-- When `resumeClusterHandover` may ask for a promotion: the object it acts on
    carries marker and fence, the owner is out of service, and the polls show
    the heir right behind the owner. -/
def MayPromoteHeir (cluster : RedisCluster) (pods : List Pod)
    (statuses : Statuses) (podIP : String) : Prop :=
  ∃ owner heir : String, ∃ ownerPod ∈ pods, ∃ heirPod ∈ pods,
    clusterHandoverPods cluster = (owner, heir) ∧ owner ≠ "" ∧
    owner ∈ getFencedPods cluster ∧ heir ∉ getFencedPods cluster ∧
    ownerPod.name = owner ∧ isPodRunningAndReady ownerPod = false ∧
    heirPod.name = heir ∧ heirPod.podIP = podIP ∧
    (statuses.get owner).connected = true ∧ (statuses.get owner).role = .master ∧
    (statuses.get heir).connected = true ∧ (statuses.get heir).role = .slave ∧
    (statuses.get heir).primaryNodeID = (statuses.get owner).nodeID ∧
    (statuses.get heir).masterLinkStatus = .up

/-- The condition on the requests of a resume. -/
def ResumeGuard (cluster : RedisCluster) (pods : List Pod)
    (statuses : Statuses) : Cmd → Prop
  | .post podIP .promote => MayPromoteHeir cluster pods statuses podIP
  | _ => True

section

variable {S : Type} {H : Prog.Handler Cmd Reply S} {l : RedisCluster} {s : S}

/-- Finishing a handover asks for no promotion. -/
theorem wp_finish_guard {P : Cmd → Prop}
    (hP : ∀ before after lock, P (.patchCluster before after lock))
    (owner : String) {Q : Unit → RedisCluster → S → Prop} (hQ : ∀ l s, Q () l s) :
    wp H (fun _ => P) (finishClusterHandover owner) Q (fun _ _ => True) l s := by
  unfold finishClusterHandover
  rw [wp_bind, wp_get]
  exact wp_context.mpr (wp_patchCluster_request (fun _ => hP _ _ _) hQ)

/-- Whoever answers, a promotion is asked for under its condition only. -/
theorem wp_resumeClusterHandover (pods : List Pod) (statuses : Statuses)
    (H : Prog.Handler Cmd Reply S) (l : RedisCluster) (s : S) :
    wp H (fun _ => ResumeGuard l pods statuses) (resumeClusterHandover pods statuses)
      (fun _ _ _ => True) (fun _ _ => True) l s := by
  unfold resumeClusterHandover
  rw [wp_bind, wp_get]
  refine wp_ite.mpr ⟨fun _ => trivial, fun howner => ?_⟩
  have hcancel : wp H (fun _ => ResumeGuard l pods statuses)
      (finishClusterHandover (clusterHandoverPods l).1 >>= fun _ => pure false)
      (fun _ _ _ => True) (fun _ _ => True) l s := by
    rw [wp_bind]
    exact wp_finish_guard (fun _ _ _ => trivial) _ fun _ _ => trivial
  cases hownerPod : (podsByName pods).lookup (clusterHandoverPods l).1 with
  | none => exact hcancel
  | some ownerPod =>
  cases hheirPod : (podsByName pods).lookup (clusterHandoverPods l).2 with
  | none => exact hcancel
  | some heirPod =>
  obtain ⟨hownerMem, hownerName⟩ := podsByName_lookup hownerPod
  obtain ⟨hheirMem, hheirName⟩ := podsByName_lookup hheirPod
  dsimp only
  rw [wp_bind]
  unfold advanceHandover
  refine wp_ite.mpr ⟨fun _ => wp_finish_guard (fun _ _ _ => trivial) _ fun _ _ => trivial,
    fun hfenced => ?_⟩
  refine wp_ite.mpr ⟨fun _ => trivial, fun hconnected => ?_⟩
  refine wp_ite.mpr ⟨fun _ => wp_finish_guard (fun _ _ _ => trivial) _ fun _ _ => trivial,
    fun _ => ?_⟩
  refine wp_ite.mpr ⟨fun _ => trivial, fun hheir => ?_⟩
  refine wp_ite.mpr ⟨fun _ => trivial, fun hready => ?_⟩
  refine wp_context.mpr ?_
  -- all the tests before the promotion have been passed
  obtain ⟨hmaster, hslave, hnode, hlink, hip⟩ := not_not.mp hheir
  simp only [not_or, not_not, Bool.not_eq_false] at hfenced hconnected
  have hmay : MayPromoteHeir l pods statuses heirPod.podIP :=
    ⟨_, _, ownerPod, hownerMem, heirPod, hheirMem, rfl, howner, hfenced.1, hfenced.2, hownerName,
      by simpa using hready, hheirName, rfl, hconnected.1, hmaster, hconnected.2, hslave, hnode,
      hlink⟩
  unfold postOrFail postClusterJSON
  rw [wp_bind]
  refine wp_ite.mpr ⟨fun hno => absurd hno hip, fun _ => ⟨hmay, fun r _ _ => ?_⟩⟩
  cases r with
  | ok _ => trivial
  | error err => trivial

end

/-! ## Patches among edits -/

/-- Someone else replaces the object. -/
def Edits (w w' : World) : Prop := ∃ cluster, w' = w.store cluster

/-- Before each request others may edit the object; requests meet `G` when
    they are answered. -/
def Among (faulty : Cmd → Prop) (G : World → Cmd → Prop) : Prog.Handler Cmd Reply World :=
  Prog.interleave Edits (Prog.restrict G (Handles faulty))

section

variable {faulty : Cmd → Prop} {G : World → Cmd → Prop} {l : RedisCluster} {w : World}

/-- A patch that succeeds was merged into what was stored then; with a lock
    that was the copy. -/
theorem wp_patchCluster_among {after : RedisCluster} {lock : Bool} {Q : Outcome Unit}
    (h : ∀ stored, G (w.store stored) (.patchCluster l after lock) → (lock = true → l = stored) →
      Q () (mergeCluster l after stored) (w.store (mergeCluster l after stored))) :
    wp (Among faulty G) (fun _ _ => True) (patchCluster after lock) Q (fun _ _ => True) l w := by
  unfold patchCluster
  rw [wp_bind, wp_get, wp_bind]
  refine ⟨trivial, ?_⟩
  rintro r w' ⟨w₁, ⟨stored, rfl⟩, hG, hanswers | ⟨-, ⟨message, rfl⟩, -⟩⟩
  · simp only [Answers] at hanswers
    split at hanswers
    next =>
      obtain ⟨⟨message, rfl⟩, -⟩ := hanswers
      trivial
    next hgo =>
      obtain ⟨rfl, rfl⟩ := hanswers
      refine h stored hG fun hlock => ?_
      by_contra hstale
      exact hgo ⟨hlock, hstale⟩
  · trivial

/-! ## Begin and finish -/

/-- Answered or failed, in any world, the request changes no fence but this one. -/
def ChangesOnly (owner : String) (c : Cmd) : Prop :=
  ∀ (faulty : Cmd → Prop) (w : World) (r : Reply c) (w' : World), Handles faulty w c r w' →
    (getFencedPods w'.cluster).filter (fun name => name != owner) =
      (getFencedPods w.cluster).filter (fun name => name != owner)

/-- A locked write does, if what it aims at does. -/
theorem FenceWrite.changesOnly {write : FenceWrite} {owner : String} (hlocked : write.locked = true)
    (h : (fencedNames write.annotations.fencedInstances).filter (fun name => name != owner) =
      (getFencedPods write.copy).filter (fun name => name != owner)) :
    ChangesOnly owner write.request := by
  intro faulty w r w' hhandles
  rcases FenceWrite.handles_request hhandles with rfl | rfl
  · rfl
  · change (getFencedPods (write.patched w.cluster)).filter _ = _
    by_cases hfresh : write.copy = w.cluster
    · rw [← hfresh, FenceWrite.getFencedPods_patched_fresh, h]
    · rw [FenceWrite.getFencedPods_patched_same (Or.inl ⟨hlocked, hfresh⟩)]

/-- Every request of begin and finish changes the owner's fence only. -/
theorem FenceOp.changesOnly {op : FenceOp} {owner heir : String}
    (hop : op = .beginHandover owner heir ∨ op = .finishHandover owner) {c : Cmd}
    (h : op.Issues c) : ChangesOnly owner c := by
  obtain ⟨write, hof, rfl⟩ := h
  rcases hop with rfl | rfl
  · cases write with
    | beginHandover copy o h =>
      obtain ⟨heq, -⟩ := hof
      cases heq
      refine FenceWrite.changesOnly rfl ?_
      simp [FenceWrite.annotations, fencedNames, FenceWrite.copy]
    | escalate => obtain ⟨_, heq, -⟩ := hof; cases heq
    | fence => obtain ⟨heq, -⟩ := hof; cases heq
    | unfence => cases hof
    | finishHandover => cases hof
  · cases write with
    | finishHandover copy o =>
      cases hof
      refine FenceWrite.changesOnly rfl ?_
      simp [FenceWrite.annotations, FenceWrite.copy]
    | escalate => obtain ⟨_, heq, -⟩ := hof; cases heq
    | fence => obtain ⟨heq, -⟩ := hof; cases heq
    | unfence => cases hof
    | beginHandover => obtain ⟨heq, -⟩ := hof; cases heq

/-- A begin that succeeds appends the owner to the list of its copy. -/
theorem wp_beginClusterHandover (owner heir : String) :
    wp (Among faulty G) (fun _ _ => True) (beginClusterHandover owner heir)
      (fun _ l' _ => owner ∉ getFencedPods l ∧ getFencedPods l' = getFencedPods l ++ [owner])
      (fun _ _ => True) l w := by
  unfold beginClusterHandover
  rw [wp_bind, wp_get]
  refine wp_ite.mpr ⟨fun _ => trivial, fun _ => ?_⟩
  refine wp_ite.mpr ⟨fun _ => trivial, fun hfree => ?_⟩
  refine wp_context.mpr (wp_patchCluster_among fun stored _ hlock => ?_)
  rw [← hlock rfl, mergeCluster_self]
  exact ⟨fun howner => hfree (Or.inl howner), rfl⟩

/-- A finish that succeeds takes the owner out of the list of its copy. -/
theorem wp_finishClusterHandover (owner : String) :
    wp (Among faulty G) (fun _ _ => True) (finishClusterHandover owner)
      (fun _ _ w' =>
        getFencedPods w'.cluster = (getFencedPods l).filter fun name => name != owner)
      (fun _ _ => True) l w := by
  unfold finishClusterHandover
  rw [wp_bind, wp_get]
  refine wp_context.mpr (wp_patchCluster_among fun stored _ hlock => ?_)
  rw [← hlock rfl, mergeCluster_self]
  exact fencedNames_fencedValue _

/-! ## Escalation -/

/-- A patch of the object is computed from a copy that knows the marker, if
    the stored object has one on this owner. -/
def KnowsMarker (owner : String) (w : World) : Cmd → Prop
  | .patchCluster before _ _ =>
    (clusterHandoverPods w.cluster).1 = owner → (clusterHandoverPods before).1 = owner
  | _ => True

/-- `setFence` that succeeds leaves a hard fence: in what is stored right
    after its last write, or, if it has nothing to write, in its copy. -/
def HardFences (faulty : Cmd → Prop) (G : World → Cmd → Prop) (owner : String) (l : RedisCluster)
    (w : World) : Prop :=
  Act.wp (Among faulty G) (fun _ _ => True) (setFence owner)
    (fun _ l' w' => (l' = w'.cluster ∨ (l' = l ∧ w' = w)) ∧ requiresHardFence owner l' = true ∧
      (clusterHandoverPods l').1 ≠ owner)
    (fun _ _ => True) l w

theorem clusterHandoverPods_no_marker {cluster : RedisCluster}
    (h : cluster.annotations.clusterHandover = "") : clusterHandoverPods cluster = ("", "") := by
  unfold clusterHandoverPods
  rw [h]
  split <;> rfl

/-- A patch of the fences leaves the stored marker alone. -/
theorem clusterHandoverPods_merge_fences (copy stored : RedisCluster)
    (fences : Option FencedInstances) :
    clusterHandoverPods (mergeCluster copy
      { copy with annotations := { copy.annotations with fencedInstances := fences } } stored) =
      clusterHandoverPods stored := by
  simp only [clusterHandoverPods, mergeCluster, pick_same]

theorem requiresHardFence_iff {podName : String} {cluster : RedisCluster} :
    requiresHardFence podName cluster = true ↔
      podName ∈ getFencedPods cluster ∧ (clusterHandoverPods cluster).1 ≠ podName := by
  simp [requiresHardFence, isFenced]

/-- If every patch knows the marker, the fence is hard. -/
theorem hardFences_of_knowsMarker {owner : String} (howner : owner ≠ "") :
    HardFences faulty (KnowsMarker owner) owner l w := by
  -- the second half, from a copy without a marker on the owner
  have hfence : ∀ (l₁ : RedisCluster) (w₁ : World), (clusterHandoverPods l₁).1 ≠ owner →
      wp (Among faulty (KnowsMarker owner)) (fun _ _ => True)
        (Act.get >>= fun current : RedisCluster =>
          doWhen (owner ∉ getFencedPods current) (setFencedPods (getFencedPods current ++ [owner])))
        (fun _ l' w' => (l' = w'.cluster ∨ (l' = l₁ ∧ w' = w₁)) ∧
          requiresHardFence owner l' = true ∧ (clusterHandoverPods l').1 ≠ owner)
        (fun _ _ => True) l₁ w₁ := by
    intro l₁ w₁ hmarker
    rw [wp_bind, wp_get]
    refine wp_ite.mpr ⟨fun _ => ?_, fun hknown => ?_⟩
    · unfold setFencedPods
      rw [wp_bind, wp_get]
      refine wp_patchCluster_among fun stored hknows _ => ?_
      -- the stored marker survives the patch; it does not name the owner
      have hstored : (clusterHandoverPods stored).1 ≠ owner := fun h => hmarker (hknows h)
      have hlist : getFencedPods (mergeCluster l₁ { l₁ with annotations := { l₁.annotations with
          fencedInstances := fencedValue (getFencedPods l₁ ++ [owner]) } } stored) =
          getFencedPods l₁ ++ [owner] := by
        rw [getFencedPods_mergeCluster, if_neg (fencedInstances_ne_append l₁ owner)]
        exact fencedNames_fencedValue _
      rw [requiresHardFence_iff, clusterHandoverPods_merge_fences, hlist]
      exact ⟨Or.inl rfl, ⟨List.mem_append_right _ List.mem_cons_self, hstored⟩, hstored⟩
    · exact ⟨Or.inr ⟨rfl, rfl⟩, requiresHardFence_iff.mpr ⟨not_not.mp hknown, hmarker⟩, hmarker⟩
  unfold HardFences setFence
  rw [wp_bind, wp_get, wp_bind]
  refine wp_ite.mpr ⟨fun hplanned => ?_, fun hmarker => hfence l w hmarker⟩
  refine wp_context.mpr (wp_patchCluster_among fun stored _ _ => ?_)
  -- the copy has a marker, so the patch removes the stored one
  have hpresent : l.annotations.clusterHandover ≠ "" := by
    intro hnone
    rw [clusterHandoverPods_no_marker hnone] at hplanned
    exact howner hplanned.symm
  have hgone : (mergeCluster l
      { l with annotations := { l.annotations with clusterHandover := "" } }
      stored).annotations.clusterHandover = "" := by
    simp [mergeCluster, pick, hpresent]
  refine wp_post (hfence _ _ ?_) ?_
  · rw [clusterHandoverPods_no_marker hgone]
    exact howner.symm
  · rintro _ l' w' ⟨hlast | ⟨rfl, rfl⟩, hhard⟩
    · exact ⟨Or.inl hlast, hhard⟩
    · exact ⟨Or.inl rfl, hhard⟩

end

/-! ## The protocol -/

/-- What the handover protocol promises, for every copy, every world and every
    answer; edits of others come before any request. -/
structure HandoverSafe (faulty : Cmd → Prop) (owner heir : String) (l : RedisCluster) (w : World) :
    Prop where
  /-- the heir is promoted over a fenced, drained owner only -/
  promotes : ∀ (pods : List Pod) (statuses : Statuses) (S : Type)
    (H : Prog.Handler Cmd Reply S) (s : S),
    Act.wp H (fun _ => ResumeGuard l pods statuses) (resumeClusterHandover pods statuses)
      (fun _ _ _ => True) (fun _ _ => True) l s
  /-- begin and finish touch the owner's fence only -/
  changesOnly : ∀ op, op = FenceOp.beginHandover owner heir ∨ op = FenceOp.finishHandover owner →
    ∀ (S : Type) (H : Prog.Handler Cmd Reply S) (s : S),
    Act.wp H (fun _ => ChangesOnly owner) op.run (fun _ _ _ => True) (fun _ _ => True) l s
  /-- a finish from any copy with the fences a begin left restores the list -/
  restores : Act.wp (Among faulty fun _ _ => True) (fun _ _ => True)
    (beginClusterHandover owner heir)
    (fun _ l₁ _ => ∀ (l₂ : RedisCluster) (w₂ : World), getFencedPods l₂ = getFencedPods l₁ →
      Act.wp (Among faulty fun _ _ => True) (fun _ _ => True) (finishClusterHandover owner)
        (fun _ _ w₃ => getFencedPods w₃.cluster = getFencedPods l) (fun _ _ => True) l₂ w₂)
    (fun _ _ => True) l w
  /-- a fence on the owner is hard, if the patches know the marker -/
  hardFences : HardFences faulty (KnowsMarker owner) owner l w

/-- The handover protocol keeps its promises; the one on `setFence` in every
    run in which no patch misses a marker on the owner. -/
theorem handover_safe (faulty : Cmd → Prop) {owner : String} (howner : owner ≠ "") (heir : String)
    (l : RedisCluster) (w : World) : HandoverSafe faulty owner heir l w where
  promotes pods statuses _ H s := wp_resumeClusterHandover pods statuses H l s
  changesOnly op hop _ H s :=
    Act.wp_mono (op.wp_run H l s) (fun _ _ hissues => FenceOp.changesOnly hop hissues)
      (fun _ _ _ _ => trivial) fun _ _ _ => trivial
  restores := by
    refine Act.wp_post (wp_beginClusterHandover owner heir) ?_
    rintro _ l₁ w₁ ⟨hnew, hlist⟩ l₂ w₂ hsame
    refine Act.wp_post (wp_finishClusterHandover owner) fun _ _ w₃ hfinish => ?_
    rw [hfinish, hsame, hlist, List.filter_append]
    have hkept : (getFencedPods l).filter (fun name => name != owner) = getFencedPods l :=
      List.filter_eq_self.mpr fun name hname => by
        simpa using fun heq : name = owner => hnew (heq ▸ hname)
    simp [hkept]
  hardFences := hardFences_of_knowsMarker howner

/-- A copy from before a handover. -/
def staleCopy : RedisCluster where
  name := "c"
  spec := { mode := .cluster }

/-- The stored object, with the handover begun. -/
def handingOver : World where
  cluster :=
    { name := "c"
      spec := { mode := .cluster }
      annotations :=
        { fencedInstances := some (.pods ["c-0"]), clusterHandover := "c-0/c-1" } }

/-- The protocol from a handover that has begun. -/
theorem handover_safe_handingOver :
    "c-0" ≠ "" ∧ HandoverSafe (fun _ => False) "c-0" "c-1" handingOver.cluster handingOver :=
  ⟨by decide, handover_safe _ (by decide) _ _ _⟩

/-- From the stale copy the fence on the owner stays a planned one: the marker
    is still there, and Redis is not stopped. -/
theorem stale_setFence_not_hard :
    ¬ HardFences (fun _ => False) (fun _ _ => True) "c-0" staleCopy handingOver := by
  intro h
  unfold HardFences setFence at h
  rw [Act.wp_bind, Act.wp_get, Act.wp_bind] at h
  have hfence := (Act.wp_ite.mp h).2 (by decide)
  rw [Act.wp_pure, Act.wp_bind, Act.wp_get] at hfence
  have hpatch := (Act.wp_ite.mp hfence).1 (by decide)
  unfold setFencedPods patchCluster at hpatch
  simp only [Act.wp_bind, Act.wp_get] at hpatch
  have hanswer := hpatch.2 (.ok (mergeCluster staleCopy { staleCopy with annotations :=
    { staleCopy.annotations with fencedInstances := fencedValue ["c-0"] } }
    handingOver.cluster)) _ ⟨handingOver, ⟨handingOver.cluster, rfl⟩, trivial, Or.inl ⟨rfl, rfl⟩⟩
  have hmarker : (clusterHandoverPods handingOver.cluster).1 = "c-0" := by decide
  exact hanswer.2.2 (by rw [clusterHandoverPods_merge_fences, hmarker])

end RedisOperator
