/-
  RedisOperator.Cluster.SlotFilling

  The first loop of bootstrap: every slot that no polled pod serves is assigned
  to the primary of the shard whose target range it is in.

    * the target ranges partition the slots, in order and evenly
      (`calculateClusterSlotRanges_partition`);
    * the scan of a range reports separated runs (`uncoveredRuns_separated`);
    * after shard `k` the posts cover the gaps below the start of shard `k + 1`
      (`FilledBelow.step`), while the coverage the loop keeps follows the posts.

  The posts of a pass are read from the log of its requests.
-/

import RedisOperator.Cluster.LayoutShape
import RedisOperator.Cluster.TopologySpecs

namespace RedisOperator

open Lib Act

/-! ## Target ranges -/

/-- The ranges partition the slots in order, and their sizes differ by one at most. -/
structure PartitionsSlots (ranges : List SlotRange) : Prop where
  covers : ∀ slot, IsSlot slot ↔ ∃ r ∈ ranges, r.Contains slot
  ordered : ranges.Pairwise fun a b => a.stop < b.start
  balanced : ∀ a ∈ ranges, ∀ b ∈ ranges, a.stop - a.start ≤ b.stop - b.start + 1

theorem shardStart_succ (n k : Nat) :
    shardStart n (k + 1) = shardStart n k + 16384 / n + if k < 16384 % n then 1 else 0 := by
  unfold shardStart
  rw [Nat.succ_mul]
  split <;> omega

/-- The target range of shard `k`. -/
def targetRange (n k : Nat) : SlotRange := ⟨shardStart n k, (shardStart n (k + 1) : Int) - 1⟩

theorem calculateClusterSlotRanges_eq (n : Nat) :
    calculateClusterSlotRanges n = (List.range n).map (targetRange n) := by
  refine List.ext_getElem? fun k => ?_
  by_cases hk : k < n
  · rw [calculateClusterSlotRanges_getElem? hk, List.getElem?_map, List.getElem?_range hk]
    rfl
  · rw [List.getElem?_eq_none (by simpa using hk), List.getElem?_eq_none (by simpa using hk)]

theorem calculateClusterSlotRanges_partition {n : Nat} (hn : 0 < n) :
    PartitionsSlots (calculateClusterSlotRanges n) := by
  rw [calculateClusterSlotRanges_eq]
  refine ⟨?_, ?_, ?_⟩
  · intro slot
    constructor
    · intro hslot
      obtain ⟨k, hk, hcontains⟩ := exists_shard_of_slot hn hslot
      exact ⟨targetRange n k, List.mem_map_of_mem (List.mem_range.mpr hk), hcontains⟩
    · rintro ⟨r, hr, hstart, hstop⟩
      obtain ⟨k, hk, rfl⟩ := List.mem_map.mp hr
      have hlast : shardStart n (k + 1) ≤ shardStart n n :=
        shardStart_mono (Nat.succ_le_of_lt (List.mem_range.mp hk))
      rw [shardStart_self hn] at hlast
      simp only [targetRange] at hstart hstop
      exact ⟨by omega, by omega⟩
  · rw [List.pairwise_map]
    refine List.pairwise_lt_range.imp ?_
    intro i j hij
    have hmono : shardStart n (i + 1) ≤ shardStart n j := shardStart_mono (Nat.succ_le_of_lt hij)
    simp only [targetRange]
    omega
  · rintro a ha b hb
    obtain ⟨i, -, rfl⟩ := List.mem_map.mp ha
    obtain ⟨j, -, rfl⟩ := List.mem_map.mp hb
    simp only [targetRange, shardStart_succ]
    split <;> split <;> omega

/-! ## The scan reports separated runs -/

variable {run : Option Int}

theorem run_lt_succ {slot : Int} (hrun : ∀ a ∈ run, a < slot) :
    ∀ a ∈ some (run.getD slot), a < slot + 1 := by
  rintro a ⟨⟩
  cases run with
  | none => exact Int.lt_succ slot
  | some b =>
    have := hrun b rfl
    simp only [Option.getD_some]
    omega

/-- No run starts before the one the scan is in. -/
theorem le_start_uncoveredRuns {coverage : Int → Bool} {slot : Int} {n : Nat}
    (hrun : ∀ a ∈ run, a < slot) :
    ∀ r ∈ uncoveredRuns coverage slot run n, run.getD slot ≤ r.start := by
  induction n generalizing slot run with
  | zero =>
    intro r hr
    cases run with
    | none => simp [uncoveredRuns] at hr
    | some a =>
      simp only [uncoveredRuns, List.mem_singleton] at hr
      simp [hr]
  | succ n ih =>
    intro r hr
    unfold uncoveredRuns at hr
    split at hr
    · cases run with
      | none =>
        have := ih (by simp) r hr
        simp only [Option.getD_none] at this ⊢
        omega
      | some a =>
        have ha := hrun a rfl
        rcases List.mem_cons.mp hr with rfl | hr
        · exact Int.le_refl _
        · have := ih (by simp) r hr
          simp only [Option.getD_none, Option.getD_some] at this ⊢
          omega
    · have := ih (run_lt_succ hrun) r hr
      exact this

theorem uncoveredRuns_separated {coverage : Int → Bool} {slot : Int} {n : Nat}
    (hrun : ∀ a ∈ run, a < slot) :
    (uncoveredRuns coverage slot run n).Pairwise fun a b => a.stop < b.start := by
  induction n generalizing slot run with
  | zero =>
    cases run with
    | none => exact List.Pairwise.nil
    | some a => exact List.pairwise_singleton _ _
  | succ n ih =>
    unfold uncoveredRuns
    split
    · cases run with
      | none => exact ih (by simp)
      | some a =>
        refine List.Pairwise.cons ?_ (ih (by simp))
        intro r hr
        have := le_start_uncoveredRuns (by simp) r hr
        simp only [Option.getD_none] at this ⊢
        omega
    · exact ih (run_lt_succ hrun)

theorem foldl_markCovered (rs : List SlotRange) (coverage : Int → Bool) (slot : Int) :
    rs.foldl markCovered coverage slot = true ↔
      coverage slot = true ∨ ∃ r ∈ rs, r.Contains slot := by
  induction rs generalizing coverage with
  | nil => simp
  | cons r rs ih =>
    rw [List.foldl_cons, ih]
    simp only [markCovered, Bool.or_eq_true, decide_eq_true_eq, List.mem_cons, exists_eq_or_imp]
    tauto

/-! ## The gaps are filled shard by shard -/

/-- The posts assign every slot that nobody serves, once, to the address of the
    shard it belongs to. -/
structure FillsGaps (n : Nat) (statuses : Statuses) (address : Nat → String)
    (posts : List (String × SlotRange)) : Prop where
  disjoint : posts.Pairwise fun a b => ∀ slot, ¬ (a.2.Contains slot ∧ b.2.Contains slot)
  union : ∀ slot, (∃ p ∈ posts, p.2.Contains slot) ↔
    IsSlot slot ∧ ∀ name st, statuses.lookup name = some st →
      ∀ r ∈ st.slotsServed, ¬ r.Contains slot
  targets : ∀ p ∈ posts, p.2.start ≤ p.2.stop ∧ ∃ k < n, ∃ target,
    (calculateClusterSlotRanges n)[k]? = some target ∧
      target.start ≤ p.2.start ∧ p.2.stop ≤ target.stop ∧ p.1 = address k

/-- What the loop has done before it comes to shard `k`. -/
structure FilledBelow (n : Nat) (statuses : Statuses) (address : Nat → String)
    (k : Nat) (coverage : Int → Bool) (posts : List (String × SlotRange)) : Prop where
  coverage_iff : ∀ slot, coverage slot = true ↔
    calculateSlotCoverage statuses slot = true ∨ ∃ p ∈ posts, p.2.Contains slot
  gaps : ∀ slot, (∃ p ∈ posts, p.2.Contains slot) ↔
    (0 ≤ slot ∧ slot < shardStart n k) ∧ calculateSlotCoverage statuses slot = false
  disjoint : posts.Pairwise fun a b => ∀ slot, ¬ (a.2.Contains slot ∧ b.2.Contains slot)
  targets : ∀ p ∈ posts, p.2.start ≤ p.2.stop ∧ ∃ k < n, ∃ target,
    (calculateClusterSlotRanges n)[k]? = some target ∧
      target.start ≤ p.2.start ∧ p.2.stop ≤ target.stop ∧ p.1 = address k

section

variable {n : Nat} {statuses : Statuses} {address : Nat → String}

theorem filledBelow_zero :
    FilledBelow n statuses address 0 (calculateSlotCoverage statuses) [] where
  coverage_iff slot := by simp
  gaps slot := by
    rw [shardStart_zero]
    simp only [List.not_mem_nil, false_and, exists_false, false_iff]
    omega
  disjoint := List.Pairwise.nil
  targets p hp := (nomatch hp)

/-- One shard: its gaps are posted to its primary. -/
theorem FilledBelow.step {k : Nat} {coverage : Int → Bool} {posts : List (String × SlotRange)}
    (h : FilledBelow n statuses address k coverage posts) (hk : k < n) :
    FilledBelow n statuses address (k + 1)
      ((calculateUncoveredSlotRanges (targetRange n k) coverage).foldl markCovered coverage)
      (posts ++ (calculateUncoveredSlotRanges (targetRange n k) coverage).map
        fun r => (address k, r)) := by
  have hlast : shardStart n (k + 1) ≤ 16384 := by
    rw [← shardStart_self (Nat.lt_of_le_of_lt (Nat.zero_le k) hk)]
    exact shardStart_mono (Nat.succ_le_of_lt hk)
  have hmono : shardStart n k ≤ shardStart n (k + 1) := shardStart_mono (Nat.le_succ k)
  -- the slots the new posts cover
  have hnew : ∀ slot, (∃ r ∈ calculateUncoveredSlotRanges (targetRange n k) coverage,
      r.Contains slot) ↔ ((shardStart n k : Int) ≤ slot ∧ slot < shardStart n (k + 1)) ∧
        calculateSlotCoverage statuses slot = false := by
    intro slot
    rw [mem_calculateUncoveredSlotRanges]
    simp only [targetRange, SlotRange.Contains]
    constructor
    · rintro ⟨⟨h1, h2⟩, -, hfree⟩
      refine ⟨⟨h1, by omega⟩, ?_⟩
      by_contra hserved
      have := (h.coverage_iff slot).mpr (Or.inl (by simpa using hserved))
      rw [hfree] at this
      cases this
    · rintro ⟨⟨h1, h2⟩, hfree⟩
      refine ⟨⟨h1, by omega⟩, ⟨by omega, by omega⟩, ?_⟩
      by_contra hcovered
      rcases (h.coverage_iff slot).mp (by simpa using hcovered) with hserved | hposted
      · rw [hfree] at hserved
        cases hserved
      · have := ((h.gaps slot).mp hposted).1.2
        omega
  have hposts : ∀ slot, (∃ p ∈ posts ++ (calculateUncoveredSlotRanges (targetRange n k)
      coverage).map fun r => (address k, r), p.2.Contains slot) ↔
      (∃ p ∈ posts, p.2.Contains slot) ∨
        ∃ r ∈ calculateUncoveredSlotRanges (targetRange n k) coverage, r.Contains slot := by
    intro slot
    simp only [List.mem_append, List.mem_map, or_and_right, exists_or]
    refine or_congr_right ?_
    constructor
    · rintro ⟨p, ⟨r, hr, rfl⟩, hc⟩
      exact ⟨r, hr, hc⟩
    · rintro ⟨r, hr, hc⟩
      exact ⟨(address k, r), ⟨r, hr, rfl⟩, hc⟩
  refine ⟨?_, ?_, ?_, ?_⟩
  · intro slot
    rw [foldl_markCovered, h.coverage_iff, hposts, or_assoc]
  · intro slot
    rw [hposts, hnew, h.gaps, ← or_and_right]
    refine and_congr_left fun _ => ?_
    omega
  · rw [List.pairwise_append]
    refine ⟨h.disjoint, ?_, ?_⟩
    · rw [List.pairwise_map]
      refine List.Pairwise.imp ?_ (uncoveredRuns_separated (by simp))
      rintro a b hab slot ⟨⟨-, ha⟩, hb, -⟩
      exact absurd (Int.le_trans hb ha) (Int.not_le.mpr hab)
    · rintro p hp q hq slot ⟨hcp, hcq⟩
      obtain ⟨r, hr, rfl⟩ := List.mem_map.mp hq
      have hbelow := ((h.gaps slot).mp ⟨p, hp, hcp⟩).1.2
      have habove := ((hnew slot).mp ⟨r, hr, hcq⟩).1.1
      omega
  · intro p hp
    rcases List.mem_append.mp hp with hp | hp
    · exact h.targets p hp
    · obtain ⟨r, hr, rfl⟩ := List.mem_map.mp hp
      have hproper := calculateUncoveredSlotRanges_proper r hr
      have hfirst := ((hnew r.start).mp ⟨r, hr, Int.le_refl _, hproper⟩).1.1
      have hend := ((hnew r.stop).mp ⟨r, hr, hproper, Int.le_refl _⟩).1.2
      refine ⟨hproper, k, hk, targetRange n k, calculateClusterSlotRanges_getElem? hk, hfirst, ?_,
        rfl⟩
      simp only [targetRange]
      omega

theorem FilledBelow.fillsGaps {coverage : Int → Bool} {posts : List (String × SlotRange)}
    (hn : 0 < n) (h : FilledBelow n statuses address n coverage posts) :
    FillsGaps n statuses address posts where
  disjoint := h.disjoint
  union slot := by
    rw [h.gaps, shardStart_self hn]
    have hslot : (0 ≤ slot ∧ slot < (16384 : Nat)) ↔ IsSlot slot := by
      unfold IsSlot
      omega
    rw [hslot]
    refine and_congr_right fun hs => ?_
    rw [← Bool.not_eq_true, calculateSlotCoverage_iff, not_and]
    constructor
    · intro hnone name st hst r hr hc
      exact hnone hs ⟨name, st, hst, r, hr, hc⟩
    · rintro hnone - ⟨name, st, hst, r, hr, hc⟩
      exact hnone name st hst r hr hc
  targets := h.targets

end

/-! ## The posts of a pass -/

/-- The range a request assigns, and the address it goes to. -/
def addSlotsPost (entry : Sigma Reply) : Option (String × SlotRange) :=
  match entry.1 with
  | .post podIP (.addSlots range) => some (podIP, range)
  | _ => none

/-- The assignments in a log, in the order they were made. -/
def addSlotsPosts (log : List (Sigma Reply)) : List (String × SlotRange) :=
  log.reverse.filterMap addSlotsPost

theorem addSlotsPosts_cons (entry : Sigma Reply) (log : List (Sigma Reply)) :
    addSlotsPosts (entry :: log) = addSlotsPosts log ++ (addSlotsPost entry).toList := by
  unfold addSlotsPosts
  rw [List.reverse_cons, List.filterMap_append]
  cases h : addSlotsPost entry <;> simp [h]

section

variable {faulty : Cmd → Prop} {l : RedisCluster} {s : World × List (Sigma Reply)}

/-- A post lengthens the log by one; without an address nothing is sent. -/
theorem wp_postClusterJSON_recorded {podIP : String} {request : Post}
    {Q : Except PostError Unit → RedisCluster → World × List (Sigma Reply) → Prop}
    (hnone : Q (.error noPodIP) l s)
    (hsent : ∀ (reply : Except PostError Unit) (w : World),
      Q reply l (w, ⟨.post podIP request, reply⟩ :: s.2)) :
    wp (Prog.record (Handles faulty)) (fun _ _ => True) (postClusterJSON podIP request) Q
      (fun _ _ => True) l s := by
  unfold postClusterJSON
  rw [wp_ite]
  refine ⟨fun _ => hnone, fun _ => ⟨trivial, ?_⟩⟩
  rintro reply ⟨w, log⟩ ⟨-, rfl⟩
  exact hsent reply w

/-- A post that has to succeed. -/
theorem wp_postOrFail_recorded {podIP : String} {request : Post}
    {Q : Unit → RedisCluster → World × List (Sigma Reply) → Prop}
    (hQ : ∀ w, Q () l (w, ⟨.post podIP request, .ok ()⟩ :: s.2)) :
    wp (Prog.record (Handles faulty)) (fun _ _ => True) (postOrFail podIP request) Q
      (fun _ _ => True) l s := by
  unfold postOrFail
  rw [wp_bind]
  refine wp_postClusterJSON_recorded trivial ?_
  rintro (err | ⟨⟩) w
  · trivial
  · exact hQ w

/-- The ranges handed to a pod are posted to its address, in order. -/
theorem wp_addSlotRanges (podName podIP : String) (rs : List SlotRange) :
    wp (Prog.record (Handles faulty)) (fun _ _ => True)
      (Act.forEach (addSlotRange podName podIP) rs)
      (fun _ l' s' => l' = l ∧ addSlotsPosts s'.2 = addSlotsPosts s.2 ++ rs.map fun r => (podIP, r))
      (fun _ _ => True) l s := by
  induction rs generalizing s with
  | nil => exact ⟨rfl, by simp⟩
  | cons r rs ih =>
    show wp _ _ (addSlotRange podName podIP r >>= fun _ => Act.forEach _ rs) _ _ l s
    unfold addSlotRange
    rw [wp_bind]
    refine wp_context.mpr (wp_postOrFail_recorded fun w => ?_)
    refine wp_post ih ?_
    rintro - l' s' ⟨rfl, hposts⟩
    refine ⟨rfl, ?_⟩
    rw [hposts, addSlotsPosts_cons, List.append_assoc]
    rfl

theorem wp_fillShardSlots {layout : ShardLayout} {byName : GoMap String Pod} {n k : Nat}
    {statuses : Statuses} {state : BootstrapState} (hk : k < n)
    (h : FilledBelow n statuses (fun k => (byName.get (layout.primaryOf.get k)).podIP) k
      state.coverage (addSlotsPosts s.2))
    (hprimary : layout.primaryOf.get k ≠ "") :
    wp (Prog.record (Handles faulty)) (fun _ _ => True)
      (fillShardSlots layout byName (calculateClusterSlotRanges n) state k)
      (fun result _ s' => result.elim
        (fun state' => FilledBelow n statuses
          (fun k => (byName.get (layout.primaryOf.get k)).podIP) (k + 1) state'.coverage
          (addSlotsPosts s'.2)) fun _ => False)
      (fun _ _ => True) l s := by
  have htarget : (calculateClusterSlotRanges n).getD k default = targetRange n k := by
    rw [List.getD_eq_getElem?_getD, calculateClusterSlotRanges_getElem? hk]
    rfl
  unfold fillShardSlots
  dsimp only
  rw [if_neg hprimary, wp_bind, htarget]
  refine wp_post (wp_addSlotRanges _ _ _) ?_
  rintro - l' s' ⟨rfl, hposts⟩
  show FilledBelow n statuses _ (k + 1) _ (addSlotsPosts s'.2)
  rw [hposts]
  exact h.step hk

/-- Pointing replicas at primaries assigns no slots. -/
theorem wp_placeReplica_recorded (layout : ShardLayout) (byName : GoMap String Pod)
    (statuses : Statuses) (performedAction : Bool) (podName : String) :
    wp (Prog.record (Handles faulty)) (fun _ _ => True)
      (placeReplica layout byName statuses performedAction podName)
      (fun result _ s' => result.elim
        (fun _ => addSlotsPosts s'.2 = addSlotsPosts s.2)
        fun _ => addSlotsPosts s'.2 = addSlotsPosts s.2)
      (fun _ _ => True) l s := by
  have hlog : ∀ podIP nodeID reply,
      addSlotsPosts (⟨.post podIP (.replicate nodeID), reply⟩ :: s.2) = addSlotsPosts s.2 := by
    intro podIP nodeID reply
    rw [addSlotsPosts_cons]
    exact List.append_nil _
  unfold placeReplica
  dsimp only
  simp only [wp_ite, wp_pure, Sum.elim_inl, Sum.elim_inr, implies_true, true_and]
  intro _ _ _ _ _
  rw [wp_bind]
  refine wp_postClusterJSON_recorded trivial ?_
  intro reply w
  split
  · exact hlog _ _ _
  · exact hlog _ _ _
  · trivial

theorem wp_shapeCluster {cluster : RedisCluster} {layout : ShardLayout} {byName : GoMap String Pod}
    {statuses : Statuses} {w : World}
    (hprimary : ∀ k < desiredShardCount cluster, layout.primaryOf.get k ≠ "") :
    wp (Prog.record (Handles faulty)) (fun _ _ => True)
      (shapeCluster cluster layout byName statuses)
      (fun _ _ s' => FillsGaps (desiredShardCount cluster) statuses
        (fun k => (byName.get (layout.primaryOf.get k)).podIP) (addSlotsPosts s'.2))
      (fun _ _ => True) l (w, []) := by
  have hpos := desiredShardCount_pos cluster
  unfold shapeCluster
  dsimp only
  rw [wp_bind]
  refine wp_post (wp_loop_range
    (fun k state _ s => FilledBelow (desiredShardCount cluster) statuses
      (fun k => (byName.get (layout.primaryOf.get k)).podIP) k state.coverage (addSlotsPosts s.2))
    (fun _ _ _ => False) ?_ filledBelow_zero) ?_
  · intro k hk state l s h
    exact wp_fillShardSlots hk h (hprimary k hk)
  · rintro (state | ready) l' s' h
    · have hfills := FilledBelow.fillsGaps hpos h
      show wp _ _ (Act.loop _ _ _ >>= _) _ _ l' s'
      rw [wp_bind]
      -- the second loop leaves the assignments as they are
      refine wp_post (wp_loop (fun _ _ s'' => addSlotsPosts s''.2 = addSlotsPosts s'.2)
        (fun _ _ s'' => addSlotsPosts s''.2 = addSlotsPosts s'.2) ?_ rfl) ?_
      · intro name _ acted l'' s'' hposts
        rw [← hposts]
        exact wp_placeReplica_recorded layout byName statuses acted name
      · rintro (acted | ready) l'' s'' hposts
        · show wp _ _ (if acted = true then pure false else pure _) _ _ l'' s''
          have hdone : FillsGaps (desiredShardCount cluster) statuses
              (fun k => (byName.get (layout.primaryOf.get k)).podIP) (addSlotsPosts s''.2) := by
            rw [show addSlotsPosts s''.2 = addSlotsPosts s'.2 from hposts]
            exact hfills
          exact wp_ite.mpr ⟨fun _ => hdone, fun _ => hdone⟩
        · show FillsGaps _ _ _ (addSlotsPosts s''.2)
          rw [show addSlotsPosts s''.2 = addSlotsPosts s'.2 from hposts]
          exact hfills
    · exact h.elim

end

/-- **Bootstrap fills exactly the gaps**, for every shard count, every poll and
    every layout that gives each shard a primary: where no request fails, the
    assignments of the pass are disjoint, cover just the slots nobody serves,
    and each lies in the target range of the shard whose primary receives it;
    and the target ranges partition the slots, in order and evenly. -/
theorem shapeCluster_fillsGaps (faulty : Cmd → Prop) (cluster l l' : RedisCluster)
    (layout : ShardLayout) (byName : GoMap String Pod) (statuses : Statuses)
    (w w' : World) (ready : Bool) (log : List (Sigma Reply))
    (hprimary : ∀ k < desiredShardCount cluster, layout.primaryOf.get k ≠ "")
    (hreturn : Prog.Returns (Prog.record (Handles faulty))
      (shapeCluster cluster layout byName statuses l) (w, []) (.ok (ready, l')) (w', log)) :
    FillsGaps (desiredShardCount cluster) statuses
        (fun k => (byName.get (layout.primaryOf.get k)).podIP) (addSlotsPosts log) ∧
      PartitionsSlots (calculateClusterSlotRanges (desiredShardCount cluster)) := by
  have hpos := desiredShardCount_pos cluster
  exact ⟨(Prog.wp_iff.mp (wp_shapeCluster hprimary)).2 _ _ hreturn,
    calculateClusterSlotRanges_partition hpos⟩

/-- `c-0` serves all slots but the last three, and `c-2` leads the shard they are in. -/
def gapStatuses : Statuses :=
  (((∅ : Statuses).insert "c-0" (answeredMaster "id0" [⟨-1, 16380⟩])).insert
    "c-1" (answeredMaster "id1" [])).insert "c-2" (answeredMaster "id2" [])

def gapPods : List Pod :=
  [{ namedPod "c-0" with podIP := "10.0.0.1" }, { namedPod "c-1" with podIP := "10.0.0.2" },
    { namedPod "c-2" with podIP := "10.0.0.3" }]

def gapWorld : World where
  cluster := shardedCluster 0
  pods := gapPods

def gapLayout : ShardLayout := planShardLayout .stored (shardedCluster 0) gapPods gapStatuses

theorem gapPods_fillsGaps :
    ∃ ready l' w' log, Prog.Returns (Prog.record (Handles fun _ => False))
        (shapeCluster (shardedCluster 0) gapLayout (podsByName gapPods) gapStatuses
          (shardedCluster 0)) (gapWorld, []) (.ok (ready, l')) (w', log) ∧
      FillsGaps (desiredShardCount (shardedCluster 0)) gapStatuses
        (fun k => ((podsByName gapPods).get (gapLayout.primaryOf.get k)).podIP)
        (addSlotsPosts log) := by
  have hprimary : ∀ k < desiredShardCount (shardedCluster 0), gapLayout.primaryOf.get k ≠ "" := by
    decide +kernel
  have hok : (Prog.run World.answer (shapeCluster (shardedCluster 0) gapLayout (podsByName gapPods)
      gapStatuses (shardedCluster 0)) gapWorld).1.isOk = true := by decide +kernel
  obtain ⟨⟨ready, l'⟩, hdone⟩ := exists_returns_of_answer hok
  obtain ⟨log, hreturns⟩ := (Prog.returns_track_iff (g := [])).mp hdone
  exact ⟨ready, l', _, log, hreturns,
    (shapeCluster_fillsGaps _ _ _ _ _ _ _ _ _ _ _ hprimary hreturns).1⟩

end RedisOperator
