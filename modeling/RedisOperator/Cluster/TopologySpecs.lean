/-
  RedisOperator.Cluster.TopologySpecs

  When bootstrap and reshard let a pass go on.  Both have several exits that
  report `ready` before the topology was looked at; `BootstrapPass` and
  `ReshardPass` collect them.  The slots a pass counts as assigned are those
  some polled pod reports, whatever order maps are visited in.
-/

import RedisOperator.Cluster.LayoutFacts
import RedisOperator.Cluster.PassSpecs
import RedisOperator.Cluster.WorkloadSpecs

namespace RedisOperator

open Lib

/-! ## What was polled -/

namespace World

variable {w : World}

/-- The entry of a pod that has an address. -/
def entryOf (w : World) (pod : Pod) : InstanceStatus :=
  match w.answers pod.podIP with
  | none => {}
  | some response => instanceStatusOf response w.clock

theorem pollOne_lookup (m : Statuses) (pod : Pod) (name : String) :
    (w.pollOne m pod).lookup name =
      if pod.podIP ≠ "" ∧ name = pod.name then some (w.entryOf pod) else m.lookup name := by
  unfold pollOne entryOf
  by_cases hip : pod.podIP = ""
  · simp [hip]
  · rw [if_neg hip]
    cases w.answers pod.podIP <;> simp [hip, GoMap.lookup_insert]

/-- An entry of the poll belongs to a data pod with an address. -/
theorem polled_lookup {name : String} {st : InstanceStatus} (h : w.polled.lookup name = some st) :
    ∃ pod ∈ w.dataPods, pod.podIP ≠ "" ∧ pod.name = name ∧ st = w.entryOf pod := by
  have hfold : ∀ (pods : List Pod) (m : Statuses),
      (pods.foldl w.pollOne m).lookup name = some st → m.lookup name = some st ∨
        ∃ pod ∈ pods, pod.podIP ≠ "" ∧ pod.name = name ∧ st = w.entryOf pod := by
    intro pods
    induction pods with
    | nil => exact fun m h => Or.inl h
    | cons pod pods ih =>
      intro m h
      rcases ih _ h with h | ⟨p, hp, h⟩
      · rw [pollOne_lookup] at h
        split at h
        · rename_i hpod
          exact Or.inr ⟨pod, List.mem_cons_self .., hpod.1, hpod.2.symm, (Option.some.inj h).symm⟩
        · exact Or.inl h
      · exact Or.inr ⟨p, List.mem_cons_of_mem _ hp, h⟩
  rcases hfold w.dataPods ∅ h with h | h
  · cases h
  · exact h

end World

/-! ## Slots a pass counts -/

/-- The number of slots the polled pods cover. -/
def coveredSlots (statuses : Statuses) : Nat :=
  ((List.range 16384).filter fun slot : Nat => calculateSlotCoverage statuses slot).length

theorem coveredSlots_eq_iff {statuses : Statuses} :
    coveredSlots statuses = 16384 ↔
      ∀ slot, IsSlot slot → calculateSlotCoverage statuses slot = true := by
  have hall : coveredSlots statuses = 16384 ↔
      ∀ slot < 16384, calculateSlotCoverage statuses (slot : Nat) = true :=
    length_filter_range_eq_iff _ _
  rw [hall]
  constructor
  · rintro h slot ⟨h0, h1⟩
    have := h slot.toNat (by omega)
    rwa [Int.toNat_of_nonneg h0] at this
  · intro h slot hs
    exact h slot ⟨by omega, by omega⟩

/-- Every polled pod is placed, so the slots assigned are the slots covered. -/
theorem deriveSlotsAssigned_eq (order : MapOrder) (cluster : RedisCluster) {pods : List Pod}
    {statuses : Statuses} (hpods : ∀ pod ∈ pods, pod.name ≠ "")
    (hkeys : ∀ name ∈ statuses, ∃ pod ∈ pods, pod.name = name) :
    deriveSlotsAssigned (planShardLayout order cluster pods statuses) statuses =
      coveredSlots statuses := by
  unfold deriveSlotsAssigned coveredSlots calculateSlotCoverage
  refine congrArg List.length (List.filter_congr fun slot _ => ?_)
  rw [Bool.eq_iff_iff, List.any_eq_true, List.any_eq_true]
  refine exists_congr fun p => and_congr_right fun hp => ?_
  obtain ⟨pod, hpod, hname⟩ := hkeys p.1 (GoMap.mem_of_lookup (GoMap.mem_pairs.mp hp))
  have hplaced : p.1 ∈ (planShardLayout order cluster pods statuses).shardOf :=
    planShardLayout_places order cluster pods statuses hpods
      (mem_layoutNames.mpr (Or.inr ⟨pod, hpod, hname.symm⟩))
  rw [Bool.and_eq_true, decide_eq_true hplaced]
  simp

/-! ## Bootstrap -/

section

variable {faulty : Cmd → Prop} {l : RedisCluster} {w : World}
variable {statuses : Statuses}

/-- Bootstrap reports `ready` without looking at the topology. -/
def SkipsBootstrap (l : RedisCluster) (w : World) (statuses : Statuses) : Prop :=
  l.spec.desiredDataInstances = 0 ∨
  (0 < l.spec.desiredDataInstances ∧ l.annotations.clusterHandover = "" ∧
    ((w.dataPods.length : Int) < l.spec.desiredDataInstances ∨
      (expectedNames l).all (usablePod (podsByName w.dataPods) statuses) = false))

/-- Orders to instances leave the stored objects alone. -/
theorem safe_orders {α β : Type} {f : β → Op Unit} {xs : List β} {k : Op α} {Q : Outcome α}
    (hf : ∀ x ∈ xs, Safe faulty (fun _ _ => True) (f x) (fun _ l' w' => l' = l ∧ w' = w) l w)
    (hk : Safe faulty (fun _ _ => True) k Q l w) :
    Safe faulty (fun _ _ => True) (Act.forEach f xs >>= fun _ => k) Q l w := by
  rw [safe_bind]
  refine safe_mono (Act.wp_forEach (fun l' w' => l' = l ∧ w' = w) ?_ ⟨rfl, rfl⟩) ?_
  · rintro x hx _ _ ⟨rfl, rfl⟩
    exact hf x hx
  · rintro _ _ _ ⟨rfl, rfl⟩
    exact hk

theorem safe_fillShardSlots (layout : ShardLayout) (byName : GoMap String Pod)
    (ranges : List SlotRange) (state : BootstrapState) (shardIndex : Nat) :
    Safe faulty (fun _ _ => True) (fillShardSlots layout byName ranges state shardIndex)
      (fun result l' w' => result.elim (fun _ => l' = l ∧ w' = w)
        (fun ready => ready = false ∧ l' = l ∧ w' = w)) l w := by
  unfold fillShardSlots
  dsimp only
  rw [safe_ite, safe_pure]
  refine ⟨fun _ => ⟨rfl, rfl, rfl⟩, fun _ => safe_orders (fun range _ => ?_) ⟨rfl, rfl⟩⟩
  unfold addSlotRange
  rw [safe_wrap, safe_postOrFail]
  exact fun _ => ⟨trivial, rfl, rfl⟩

theorem safe_placeReplica (layout : ShardLayout) (byName : GoMap String Pod)
    (performedAction : Bool) (podName : String) :
    Safe faulty (fun _ _ => True) (placeReplica layout byName statuses performedAction podName)
      (fun result l' w' => result.elim (fun _ => l' = l ∧ w' = w)
        (fun ready => ready = false ∧ l' = l ∧ w' = w)) l w := by
  unfold placeReplica
  dsimp only
  simp only [safe_ite, safe_pure, Sum.elim_inl, Sum.elim_inr, and_self, implies_true, true_and]
  intro _ _ _ _ _
  rw [safe_bind, safe_postClusterJSON]
  refine ⟨fun _ => trivial, fun _ => ⟨trivial, fun r => ?_⟩⟩
  split
  · exact ⟨rfl, rfl⟩
  · exact ⟨rfl, rfl, rfl⟩
  · trivial

/-- Bootstrap's loops only post; they report `ready` for a complete cluster. -/
theorem safe_shapeCluster (cluster : RedisCluster) (layout : ShardLayout)
    (byName : GoMap String Pod) :
    Safe faulty (fun _ _ => True) (shapeCluster cluster layout byName statuses)
      (fun ready l' w' => ready = true →
        l' = l ∧ w' = w ∧ cluster.status.clusterState = .ok ∧
          cluster.status.slotsAssigned = 16384) l w := by
  unfold shapeCluster
  dsimp only
  rw [safe_bind]
  refine safe_mono (Act.wp_loop (fun _ l' w' => l' = l ∧ w' = w)
    (fun ready l' w' => ready = false ∧ l' = l ∧ w' = w) ?_ ⟨rfl, rfl⟩) ?_
  · rintro shard _ state _ _ ⟨rfl, rfl⟩
    exact safe_fillShardSlots layout byName _ state shard
  · rintro (state | ready) l' w' h
    · obtain ⟨rfl, rfl⟩ := h
      show Safe faulty _ (Act.loop _ _ _ >>= _) _ l' w'
      rw [safe_bind]
      refine safe_mono (Act.wp_loop (fun _ l'' w'' => l'' = l' ∧ w'' = w')
        (fun ready l'' w'' => ready = false ∧ l'' = l' ∧ w'' = w') ?_ ⟨rfl, rfl⟩) ?_
      · rintro name _ acted _ _ ⟨rfl, rfl⟩
        exact safe_placeReplica layout byName acted name
      · rintro (acted | ready) l'' w'' h
        · obtain ⟨rfl, rfl⟩ := h
          show Safe faulty _ (if acted = true then pure false else pure _) _ l'' w''
          rw [safe_ite, safe_pure, safe_pure]
          refine ⟨fun _ h => absurd h Bool.false_ne_true, fun _ hready => ⟨rfl, rfl, ?_⟩⟩
          simpa using hready
        · exact fun hready => absurd hready (by rw [h.1]; exact Bool.false_ne_true)
    · exact fun hready => absurd hready (by rw [h.1]; exact Bool.false_ne_true)

theorem safe_resumeClusterHandover (pods : List Pod) :
    Safe faulty (fun _ _ => True) (resumeClusterHandover pods statuses)
      (fun ready _ _ => ready = false) l w := by
  have hdone : ∀ x : Op Unit, Safe faulty (fun _ _ => True)
      (x >>= fun _ => (pure false : Op Bool)) (fun ready _ _ => ready = false) l w := by
    intro x
    rw [safe_bind]
    exact safe_total fun _ _ _ => rfl
  unfold resumeClusterHandover
  rw [safe_bind, safe_get]
  dsimp only
  rw [safe_ite, safe_fail]
  refine ⟨fun _ => trivial, fun _ => ?_⟩
  split
  · exact hdone _
  · exact hdone _

/-- Bootstrap lets a pass go on when it was skipped, or when the cluster is complete. -/
theorem safe_reconcileClusterBootstrap :
    Safe faulty (fun _ _ => True) (reconcileClusterBootstrap statuses)
      (fun ready l' w' => ready = true → l' = l ∧ w' = w ∧
        (SkipsBootstrap l w statuses ∨
          ((expectedNames l).all (usablePod (podsByName w.dataPods) statuses) = true ∧
            0 < l.spec.desiredDataInstances ∧
            l.status.clusterState = .ok ∧ l.status.slotsAssigned = 16384))) l w := by
  unfold reconcileClusterBootstrap
  rw [safe_bind, safe_get]
  dsimp only
  rw [safe_ite, safe_pure, safe_bind, safe_wrap, safe_listDataPods]
  refine ⟨fun hzero _ => ⟨rfl, rfl, Or.inl (Or.inl hzero)⟩, fun hzero => ⟨trivial, ?_⟩⟩
  rw [safe_ite]
  refine ⟨fun _ => safe_mono (safe_resumeClusterHandover _) fun ready _ _ hr h => ?_,
    fun hhand => ?_⟩
  · rw [hr] at h
    cases h
  rw [ne_eq, not_not] at hhand
  rw [safe_ite, safe_pure, safe_ite, safe_fail, safe_ite, safe_pure]
  refine ⟨fun hfew _ => ⟨rfl, rfl, Or.inl (Or.inr ⟨by omega, hhand, Or.inl hfew⟩)⟩, fun hfew =>
    ⟨fun _ => trivial, fun hneg => ⟨fun husable _ =>
      ⟨rfl, rfl, Or.inl (Or.inr ⟨by omega, hhand, Or.inr husable⟩)⟩, fun husable => ?_⟩⟩⟩
  refine safe_orders (fun name _ => ?_) ?_
  · unfold meetPod
    rw [safe_wrap, safe_postOrFail]
    exact fun _ => ⟨trivial, rfl, rfl⟩
  · rw [safe_bind, safe_mapOrder]
    refine ⟨trivial, fun order => safe_mono (safe_shapeCluster l _ _) fun ready l' w' h hready =>
      ?_⟩
    obtain ⟨hl, hw, hok, hslots⟩ := h hready
    exact ⟨hl, hw, Or.inr ⟨by simpa using husable, by omega, hok, hslots⟩⟩

/-! ## Reshard -/

/-- Reshard reports `ready` without looking for misplaced slots. -/
def SkipsReshard (l : RedisCluster) (w : World) (statuses : Statuses) : Prop :=
  (statuses.len : Int) < l.spec.desiredDataInstances ∨
  l.status.clusterState ≠ .ok ∨ l.status.slotsAssigned < 16384 ∨
  ∃ order, let primaries := desiredPrimaryPods l (planShardLayout order l w.dataPods statuses)
    "" ∉ primaries ∧ primaries.all (usablePod (podsByName w.dataPods) statuses) = false ∧
      (statuses.len : Int) ≤ l.spec.desiredDataInstances

/-- Reshard looked, and every slot is where it should be. -/
def Settled (l : RedisCluster) (w : World) (statuses : Statuses) : Prop :=
  16384 ≤ l.status.slotsAssigned ∧
  ∃ order visit, let primaries := desiredPrimaryPods l (planShardLayout order l w.dataPods statuses)
    "" ∉ primaries ∧
    nextMove (slotOwner visit statuses)
      (primaries.zip (calculateClusterSlotRanges primaries.length)) = none

theorem safe_moveSegment (cluster : RedisCluster) (byName : GoMap String Pod)
    (target source : String) (segment : SlotRange) :
    Safe faulty (fun _ _ => True) (moveSegment cluster byName statuses target source segment)
      (fun ready _ _ => ready = false) l w := by
  unfold moveSegment
  dsimp only
  rw [safe_ite, safe_bind, safe_ite, safe_pure, safe_ite, safe_pure, safe_ite, safe_bind, safe_bind]
  exact ⟨fun _ => safe_total fun _ _ _ => rfl, fun _ =>
    ⟨fun _ => rfl, fun _ => ⟨fun _ => rfl, fun _ =>
    ⟨fun _ => safe_total fun _ _ _ => rfl, fun _ => safe_total fun _ _ _ => rfl⟩⟩⟩⟩

theorem safe_reconcileClusterReshard (hmode : l.spec.mode = .cluster) :
    Safe faulty (fun _ _ => True) (reconcileClusterReshard statuses)
      (fun ready l' w' => ready = true → l' = l ∧ w' = w ∧
        (SkipsReshard l w statuses ∨ Settled l w statuses)) l w := by
  unfold reconcileClusterReshard
  rw [safe_bind, safe_get]
  dsimp only
  rw [if_neg (by simp [hmode]), safe_ite, safe_pure, safe_ite, safe_pure]
  refine ⟨fun h _ => ⟨rfl, rfl, Or.inl (Or.inl h)⟩, fun hlen =>
    ⟨fun h _ => ⟨rfl, rfl, Or.inl (Or.inr (h.imp id Or.inl))⟩, fun hstate => ?_⟩⟩
  rw [not_or, not_not] at hstate
  rw [safe_bind, safe_wrap, safe_listDataPods, safe_bind, safe_mapOrder]
  refine ⟨trivial, trivial, fun order => ?_⟩
  rw [safe_ite, safe_pure, safe_ite, safe_pure]
  refine ⟨fun _ h => absurd h Bool.false_ne_true, fun hled =>
    ⟨fun husable hready => ⟨rfl, rfl, Or.inl (Or.inr (Or.inr (Or.inr
      ⟨order, hled, husable, of_decide_eq_true hready⟩)))⟩, fun _ => ?_⟩⟩
  rw [safe_bind, safe_mapOrder]
  refine ⟨trivial, fun visit => ?_⟩
  split
  · rename_i hnext
    exact fun _ => ⟨rfl, rfl, Or.inr ⟨by omega, order, visit, hled, hnext⟩⟩
  · refine safe_mono (safe_moveSegment l _ _ _ _) fun ready _ _ hr h => ?_
    rw [hr] at h
    cases h

/-! ## Both -/

end

end RedisOperator
