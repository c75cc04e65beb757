/-
  RedisOperator.Cluster.FenceProtocol

  The fencing annotation as a shared variable.  The operator's writes to it
  are merge patches computed from a copy of the object that may be old; other
  people edit the annotation at any time.  A write of `setFence` or
  `clearFence` carries the whole list of the copy and no lock, so what the
  copy did not know is lost; the writes of a handover are refused unless the
  copy is the stored object.
-/

import RedisOperator.Cluster.Footprints
import Mathlib.Data.Finset.Card

namespace RedisOperator

open Lib Act

/-! ## Writes -/

/-- The operations that write the annotation. -/
inductive FenceOp
  | setFence (podName : String)
  | clearFence (podName : String)
  | beginHandover (owner heir : String)
  | finishHandover (owner : String)

/-- The operation as the controller performs it. -/
def FenceOp.run : FenceOp → Op Unit
  | .setFence podName => RedisOperator.setFence podName
  | .clearFence podName => RedisOperator.clearFence podName
  | .beginHandover owner heir => beginClusterHandover owner heir
  | .finishHandover owner => finishClusterHandover owner

/-- A patch one of them sends, with the copy it is computed from. -/
inductive FenceWrite
  /-- the first write of `setFence`: the handover marker goes -/
  | escalate (copy : RedisCluster)
  | fence (copy : RedisCluster) (podName : String)
  | unfence (copy : RedisCluster) (podName : String)
  | beginHandover (copy : RedisCluster) (owner heir : String)
  | finishHandover (copy : RedisCluster) (owner : String)

namespace FenceWrite

/-- The copy. -/
def copy : FenceWrite → RedisCluster
  | escalate copy | fence copy _ | unfence copy _ | beginHandover copy .. | finishHandover copy _ =>
    copy

/-- Does the patch carry the resource version? -/
def locked : FenceWrite → Bool
  | beginHandover .. | finishHandover .. => true
  | _ => false

/-- The annotations the patch aims at. -/
def annotations : FenceWrite → Annotations
  | escalate copy => { copy.annotations with clusterHandover := "" }
  | fence copy podName =>
    { copy.annotations with fencedInstances := fencedValue (getFencedPods copy ++ [podName]) }
  | unfence copy podName =>
    { copy.annotations with
      fencedInstances := fencedValue ((getFencedPods copy).filter fun p => p != podName) }
  | beginHandover copy owner heir =>
    { copy.annotations with
      fencedInstances := some (.pods (getFencedPods copy ++ [owner]))
      clusterHandover := owner ++ "/" ++ heir }
  | finishHandover copy owner =>
    { copy.annotations with
      fencedInstances := fencedValue ((getFencedPods copy).filter fun name => name != owner)
      clusterHandover := "" }

/-- The patch as a request. -/
def request (write : FenceWrite) : Cmd :=
  .patchCluster write.copy { write.copy with annotations := write.annotations } write.locked

/-- What the stored object is after the patch: a locked one is refused unless
    the copy is the stored object. -/
def patched (write : FenceWrite) (stored : RedisCluster) : RedisCluster :=
  if write.locked = true ∧ write.copy ≠ stored then stored
  else mergeCluster write.copy { write.copy with annotations := write.annotations } stored

/-- The write is one the operation can come to. -/
def Of (op : FenceOp) : FenceWrite → Prop
  | escalate copy => ∃ podName, op = .setFence podName ∧ (clusterHandoverPods copy).1 = podName
  | fence copy podName => op = .setFence podName ∧ podName ∉ getFencedPods copy
  | unfence _ podName => op = .clearFence podName
  | beginHandover copy owner heir =>
    op = .beginHandover owner heir ∧ copy.annotations.clusterHandover = "" ∧
      owner ∉ getFencedPods copy ∧ heir ∉ getFencedPods copy
  | finishHandover _ owner => op = .finishHandover owner

end FenceWrite

/-- The request is a write of the operation. -/
def FenceOp.Issues (op : FenceOp) (c : Cmd) : Prop :=
  ∃ write : FenceWrite, write.Of op ∧ c = write.request

section

variable {S : Type} {H : Prog.Handler Cmd Reply S} {l : RedisCluster} {s : S}

/-- A patch is a request computed from the local copy, and that is all. -/
theorem wp_patchCluster_request {P : S → Cmd → Prop} {after : RedisCluster} {lock : Bool}
    (hP : ∀ s, P s (.patchCluster l after lock)) {Q : Unit → RedisCluster → S → Prop}
    (hQ : ∀ l' s', Q () l' s') :
    wp H P (patchCluster after lock) Q (fun _ _ => True) l s := by
  unfold patchCluster
  rw [wp_bind, wp_get, wp_bind]
  refine ⟨hP s, fun r s' _ => ?_⟩
  cases r with
  | ok stored => exact hQ stored s'
  | error err => trivial

/-- Whoever answers, and whatever the local copy is, an operation sends its
    own writes only. -/
theorem FenceOp.wp_run (op : FenceOp) (H : Prog.Handler Cmd Reply S) (l : RedisCluster) (s : S) :
    wp H (fun _ => op.Issues) op.run (fun _ _ _ => True) (fun _ _ => True) l s := by
  cases op with
  | setFence podName =>
    -- the part after the escalation, from whatever copy it left
    have hfence : ∀ l s, wp H (fun _ => (FenceOp.setFence podName).Issues)
        (Act.get >>= fun current : RedisCluster =>
          doWhen (podName ∉ getFencedPods current)
            (setFencedPods (getFencedPods current ++ [podName])))
        (fun _ _ _ => True) (fun _ _ => True) l s := by
      intro l s
      rw [wp_bind, wp_get]
      refine wp_ite.mpr ⟨fun hnew => ?_, fun _ => trivial⟩
      unfold setFencedPods
      rw [wp_bind, wp_get]
      exact wp_patchCluster_request (fun _ => ⟨.fence l podName, ⟨rfl, hnew⟩, rfl⟩)
        fun _ _ => trivial
    unfold FenceOp.run RedisOperator.setFence
    rw [wp_bind, wp_get, wp_bind]
    refine wp_ite.mpr ⟨fun howner => ?_, fun _ => hfence l s⟩
    refine wp_context.mpr ?_
    exact wp_patchCluster_request (fun _ => ⟨.escalate l, ⟨podName, rfl, howner⟩, rfl⟩) hfence
  | clearFence podName =>
    unfold FenceOp.run RedisOperator.clearFence setFencedPods
    rw [wp_bind, wp_get, wp_bind, wp_get]
    exact wp_patchCluster_request (fun _ => ⟨.unfence l podName, rfl, rfl⟩) fun _ _ => trivial
  | beginHandover owner heir =>
    unfold FenceOp.run beginClusterHandover
    rw [wp_bind, wp_get]
    refine wp_ite.mpr ⟨fun _ => trivial, fun hfree => ?_⟩
    refine wp_ite.mpr ⟨fun _ => trivial, fun hnone => ?_⟩
    refine wp_context.mpr (wp_patchCluster_request (fun _ => ?_) fun _ _ => trivial)
    exact ⟨.beginHandover l owner heir, ⟨rfl, not_not.mp hfree, not_or.mp hnone⟩, rfl⟩
  | finishHandover owner =>
    unfold FenceOp.run finishClusterHandover
    rw [wp_bind, wp_get]
    refine wp_context.mpr (wp_patchCluster_request (fun _ => ?_) fun _ _ => trivial)
    exact ⟨.finishHandover l owner, rfl, rfl⟩

end

/-- The stored object after a write is answered. -/
theorem FenceWrite.answers_request {write : FenceWrite} {w w' : World} {r : Api RedisCluster}
    (h : Answers w write.request r w') : w' = w.store (write.patched w.cluster) := by
  simp only [FenceWrite.request, Answers] at h
  unfold FenceWrite.patched
  split at h
  next hconflict => rw [if_pos hconflict, h.2]; rfl
  next hgo => rw [if_neg hgo, h.2]; rfl

/-! ## The list after a write -/

/-- The names an annotation fences. -/
def fencedNames : Option FencedInstances → List String
  | some (.pods names _) => names
  | _ => []

theorem getFencedPods_eq (cluster : RedisCluster) :
    getFencedPods cluster = fencedNames cluster.annotations.fencedInstances := rfl

@[simp] theorem fencedNames_fencedValue (pods : List String) :
    fencedNames (fencedValue pods) = pods := by
  unfold fencedValue
  by_cases hnil : pods = []
  · simp [hnil, fencedNames]
  · simp [hnil, fencedNames]

/-- A merge patch leaves the annotation alone, or writes the one it aims at. -/
theorem getFencedPods_mergeCluster (before after stored : RedisCluster) :
    getFencedPods (mergeCluster before after stored) =
      if before.annotations.fencedInstances = after.annotations.fencedInstances then
        getFencedPods stored
      else getFencedPods after := by
  simp only [getFencedPods_eq, mergeCluster, pick]
  split <;> rfl

/-- A patch that is refused, or does not mention the annotation, leaves the list alone. -/
theorem FenceWrite.getFencedPods_patched_same {write : FenceWrite} {stored : RedisCluster}
    (h : (write.locked = true ∧ write.copy ≠ stored) ∨
      write.copy.annotations.fencedInstances = write.annotations.fencedInstances) :
    getFencedPods (write.patched stored) = getFencedPods stored := by
  unfold FenceWrite.patched
  split
  · rfl
  next hgo => rw [getFencedPods_mergeCluster, if_pos (h.resolve_left hgo)]

/-- Otherwise the list is the one the patch carries. -/
theorem FenceWrite.getFencedPods_patched_sent {write : FenceWrite} {stored : RedisCluster}
    (hgo : ¬ (write.locked = true ∧ write.copy ≠ stored))
    (hsent : write.copy.annotations.fencedInstances ≠ write.annotations.fencedInstances) :
    getFencedPods (write.patched stored) = fencedNames write.annotations.fencedInstances := by
  unfold FenceWrite.patched
  rw [if_neg hgo, getFencedPods_mergeCluster, if_neg hsent, getFencedPods_eq]

/-- A patch computed from the stored object writes what it aims at. -/
theorem FenceWrite.getFencedPods_patched_fresh (write : FenceWrite) :
    getFencedPods (write.patched write.copy) = fencedNames write.annotations.fencedInstances := by
  unfold FenceWrite.patched
  rw [if_neg fun h => h.2 rfl, mergeCluster_self]
  rfl

/-- The list grows, so the annotation changes. -/
theorem fencedInstances_ne_append (copy : RedisCluster) (podName : String) :
    copy.annotations.fencedInstances ≠ fencedValue (getFencedPods copy ++ [podName]) := by
  intro heq
  have hlist := congrArg (fun a => (fencedNames a).length) heq
  simp [← getFencedPods_eq] at hlist

/-! ## Names placed by someone else -/

/-- The stored object, and the names someone else put into the annotation and
    did not take out again. -/
structure FenceState where
  stored : RedisCluster
  held : Finset String

namespace FenceState

/-- The annotation still has what others put there. -/
def Kept (s : FenceState) : Prop := ∀ name ∈ s.held, name ∈ getFencedPods s.stored

/-- Someone else replaces the object: names that are new in the annotation are
    theirs, names that are gone are no longer. -/
def edit (s : FenceState) (new : RedisCluster) : FenceState where
  stored := new
  held := (getFencedPods new).toFinset.filter fun name =>
    name ∈ s.held ∨ name ∉ getFencedPods s.stored

/-- The operator's patch is carried out. -/
def write (s : FenceState) (write : FenceWrite) : FenceState :=
  { s with stored := write.patched s.stored }

end FenceState

/-- What a write has to meet so that no name of someone else is lost: the copy
    has them all, and none of them is the one that is taken out. -/
def FenceWrite.Keeps (s : FenceState) : FenceWrite → Prop
  | .escalate _ => True
  | .fence copy podName => ∀ name ∈ s.held, name ∈ getFencedPods copy ∨ name = podName
  | .unfence copy podName =>
    -- nothing is sent if the copy's annotation would not change
    copy.annotations.fencedInstances =
        fencedValue ((getFencedPods copy).filter fun p => p != podName) ∨
      ∀ name ∈ s.held, name ∈ getFencedPods copy ∧ name ≠ podName
  | .beginHandover .. => True
  | .finishHandover copy owner => copy ≠ s.stored ∨ owner ∉ s.held

/-- Steps of the annotation, with a condition on the operator's writes. -/
inductive FenceStep (ok : FenceState → FenceWrite → Prop) : FenceState → FenceState → Prop
  | edit (s : FenceState) (new : RedisCluster) : FenceStep ok s (s.edit new)
  | write (s : FenceState) (op : FenceOp) (write : FenceWrite) (hof : write.Of op)
      (hok : ok s write) : FenceStep ok s (s.write write)

/-- The stored object after a write is answered or has failed. -/
theorem FenceWrite.handles_request {faulty : Cmd → Prop} {write : FenceWrite} {w w' : World}
    {r : Api RedisCluster} (h : Handles faulty w write.request r w') :
    w' = w ∨ w' = w.store (write.patched w.cluster) := by
  rcases h with h | ⟨-, -, h | ⟨answer, h⟩⟩
  · exact Or.inr (FenceWrite.answers_request h)
  · exact Or.inl h
  · exact Or.inr (FenceWrite.answers_request h)

/-- Requests are answered from the stored object, or fail; before each of them
    others may have edited it. -/
def FenceHandles : Prog.Handler Cmd Reply FenceState := fun s c r s' =>
  ∃ s₁, Relation.ReflTransGen (fun s t => ∃ new, t = s.edit new) s s₁ ∧
    ∃ (faulty : Cmd → Prop) (w w' : World), w.cluster = s₁.stored ∧ Handles faulty w c r w' ∧
      s' = ⟨w'.cluster, s₁.held⟩

/-- An operation that runs among edits of others, from any copy, is a sequence
    of steps. -/
theorem FenceOp.run_steps (op : FenceOp) (l : RedisCluster) (s : FenceState) :
    wp FenceHandles (fun t _ => Relation.ReflTransGen (FenceStep fun _ _ => True) s t) op.run
      (fun _ _ t => Relation.ReflTransGen (FenceStep fun _ _ => True) s t)
      (fun _ t => Relation.ReflTransGen (FenceStep fun _ _ => True) s t) l s := by
  refine wp_invariant ?_ (op.wp_run FenceHandles l s) .refl
  rintro t c r t' hreach ⟨write, hof, rfl⟩ ⟨t₁, hedits, faulty, w, w', hw, hhandles, rfl⟩
  have hedited : Relation.ReflTransGen (FenceStep fun _ _ => True) t t₁ := by
    refine hedits.lift id ?_
    rintro u v ⟨new, rfl⟩
    exact .edit u new
  refine hreach.trans (hedited.trans ?_)
  rcases FenceWrite.handles_request hhandles with rfl | rfl
  · rw [hw]
  · -- the patch was carried out, answered or not
    rw [hw]
    exact .single (.write t₁ op write hof trivial)

theorem FenceState.kept_edit (s : FenceState) (new : RedisCluster) : (s.edit new).Kept := by
  intro name hname
  exact List.mem_toFinset.mp (Finset.mem_filter.mp hname).1

/-- A write that does not touch the list keeps the names of others. -/
theorem FenceState.kept_write_same {s : FenceState} {write : FenceWrite} (hs : s.Kept)
    (h : (write.locked = true ∧ write.copy ≠ s.stored) ∨
      write.copy.annotations.fencedInstances = write.annotations.fencedInstances) :
    (s.write write).Kept := by
  intro name hname
  have hlist := FenceWrite.getFencedPods_patched_same h
  exact hlist ▸ hs name hname

/-- A write that is sent keeps the names of others if it carries them. -/
theorem FenceState.kept_write_sent {s : FenceState} (write : FenceWrite)
    (hgo : ¬ (write.locked = true ∧ write.copy ≠ s.stored))
    (hsent : write.copy.annotations.fencedInstances ≠ write.annotations.fencedInstances) :
    (s.write write).Kept ↔
      ∀ name ∈ s.held, name ∈ fencedNames write.annotations.fencedInstances := by
  unfold FenceState.Kept
  rw [← FenceWrite.getFencedPods_patched_sent hgo hsent]
  rfl

/-- A write keeps the names of others exactly under its condition. -/
theorem FenceState.kept_write_iff {s : FenceState} {op : FenceOp} {write : FenceWrite}
    (hof : write.Of op) (hs : s.Kept) : (s.write write).Kept ↔ write.Keeps s := by
  cases write with
  | escalate copy =>
    -- the patch is about the marker only
    exact iff_of_true (kept_write_same hs (Or.inr rfl)) trivial
  | fence copy podName =>
    rw [kept_write_sent (.fence copy podName) (fun h => nomatch h.1)
      (fencedInstances_ne_append copy podName)]
    simp [FenceWrite.annotations, FenceWrite.Keeps]
  | unfence copy podName =>
    by_cases hsame : copy.annotations.fencedInstances =
        fencedValue ((getFencedPods copy).filter fun p => p != podName)
    · exact iff_of_true (kept_write_same hs (Or.inr hsame)) (Or.inl hsame)
    · rw [kept_write_sent (.unfence copy podName) (fun h => nomatch h.1) hsame]
      simp [FenceWrite.annotations, FenceWrite.Keeps, hsame]
  | beginHandover copy owner heir =>
    refine iff_of_true ?_ trivial
    by_cases hfresh : copy = s.stored
    · subst hfresh
      have hsent : s.stored.annotations.fencedInstances ≠
          some (.pods (getFencedPods s.stored ++ [owner])) := by
        intro heq
        have hlist : (getFencedPods s.stored).length = (getFencedPods s.stored ++ [owner]).length :=
          congrArg (fun a => (fencedNames a).length) heq
        simp at hlist
      rw [kept_write_sent (.beginHandover s.stored owner heir) (fun h => h.2 rfl) hsent]
      exact fun name hname => List.mem_append_left _ (hs name hname)
    · -- the lock
      exact kept_write_same hs (Or.inl ⟨rfl, hfresh⟩)
  | finishHandover copy owner =>
    by_cases hfresh : copy = s.stored
    · subst hfresh
      simp only [FenceWrite.Keeps, ne_eq, not_true_eq_false, false_or]
      by_cases hsame : s.stored.annotations.fencedInstances =
          fencedValue ((getFencedPods s.stored).filter fun name => name != owner)
      · refine iff_of_true (kept_write_same hs (Or.inr hsame)) fun howner => ?_
        -- the annotation would change if the owner were in it
        have hmem := hs owner howner
        rw [getFencedPods_eq, hsame, fencedNames_fencedValue] at hmem
        simp at hmem
      · rw [kept_write_sent (.finishHandover s.stored owner) (fun h => h.2 rfl) hsame]
        simp only [FenceWrite.annotations, fencedNames_fencedValue, List.mem_filter, bne_iff_ne,
          ne_eq]
        exact ⟨fun h howner => (h owner howner).2 rfl,
          fun h name hname => ⟨hs name hname, fun heq => h (heq ▸ hname)⟩⟩
    · exact iff_of_true (kept_write_same hs (Or.inl ⟨rfl, hfresh⟩)) (Or.inl hfresh)

/-- In every run whose writes meet their condition, a name that someone else
    put into the annotation stays there until someone else takes it out. -/
theorem external_fences_kept {s s' : FenceState} (hs : s.Kept)
    (hrun : Relation.ReflTransGen (FenceStep fun s write => write.Keeps s) s s') : s'.Kept := by
  induction hrun with
  | refl => exact hs
  | tail _ hstep ih =>
    cases hstep with
    | edit new => exact FenceState.kept_edit _ new
    | write op write hof hok => exact (FenceState.kept_write_iff hof ih).mpr hok

/-- A cluster without fences. -/
def unfencedCluster : RedisCluster where
  name := "c"

/-- The same after someone fenced `c-1` by hand. -/
def manuallyFenced : RedisCluster where
  name := "c"
  annotations := { fencedInstances := some (.pods ["c-1"]) }

/-- With a fresh copy the fence set by hand survives the operator's. -/
theorem external_fences_kept_manuallyFenced :
    (((⟨unfencedCluster, ∅⟩ : FenceState).edit manuallyFenced).write
      (.fence manuallyFenced "c-0")).Kept :=
  external_fences_kept (s := ⟨unfencedCluster, ∅⟩) (fun name hname => absurd hname (by simp))
    (.tail (.single (.edit _ manuallyFenced))
      (.write _ (.setFence "c-0") (.fence manuallyFenced "c-0") ⟨rfl, by decide⟩
        fun name hname => Or.inl (FenceState.kept_edit _ manuallyFenced name hname)))

/-- With a copy from before, it is lost. -/
theorem stale_setFence_drops_manual_fence :
    ∃ s', Relation.ReflTransGen (FenceStep fun _ _ => True) ⟨unfencedCluster, ∅⟩ s' ∧
      ¬ s'.Kept := by
  have hof : (FenceWrite.fence unfencedCluster "c-0").Of (.setFence "c-0") := ⟨rfl, by decide⟩
  refine ⟨_, .tail (.single (.edit _ manuallyFenced)) (.write _ _ _ hof trivial), ?_⟩
  rw [FenceState.kept_write_iff hof (FenceState.kept_edit _ manuallyFenced)]
  intro hkeeps
  have hlost := hkeeps "c-1" (by decide)
  exact absurd hlost (by decide)

end RedisOperator
