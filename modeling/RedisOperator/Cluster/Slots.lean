/-
  RedisOperator.Cluster.Slots

  Hash-slot arithmetic of `cluster_bootstrap.go`: the target range of every
  shard, which slots the polled pods cover, and the maximal uncovered runs
  inside a range.  A `[16384]bool` array is a predicate on slot numbers.
-/

import RedisOperator.Api.Types

namespace RedisOperator

open Lib

/-- The slots of a range. -/
def SlotRange.Contains (r : SlotRange) (slot : Int) : Prop := r.start ≤ slot ∧ slot ≤ r.stop

instance (r : SlotRange) (slot : Int) : Decidable (r.Contains slot) :=
  inferInstanceAs (Decidable (_ ∧ _))

/-- A hash slot. -/
def IsSlot (slot : Int) : Prop := 0 ≤ slot ∧ slot ≤ 16383

instance (slot : Int) : Decidable (IsSlot slot) := inferInstanceAs (Decidable (_ ∧ _))

/-! ## Target ranges -/

/-- The loop of `calculateClusterSlotRanges` from shard `i` on, with `count`
    shards to go and `start` the next free slot. -/
def slotRangesFrom (base remainder : Nat) (i : Nat) (start : Int) : Nat → List SlotRange
  | 0 => []
  | count + 1 =>
    let size : Int := if i < remainder then base + 1 else base
    let stop := start + size - 1
    ⟨start, stop⟩ :: slotRangesFrom base remainder (i + 1) (stop + 1) count

/-- `calculateClusterSlotRanges`. -/
def calculateClusterSlotRanges (primaryCount : Nat) : List SlotRange :=
  slotRangesFrom (16384 / primaryCount) (16384 % primaryCount) 0 0 primaryCount

/-- First slot of shard `i` out of `n`. -/
def shardStart (n i : Nat) : Nat := i * (16384 / n) + min i (16384 % n)

theorem length_slotRangesFrom (base remainder i : Nat) (start : Int) (count : Nat) :
    (slotRangesFrom base remainder i start count).length = count := by
  induction count generalizing i start with
  | zero => rfl
  | succ count ih => simp [slotRangesFrom, ih]

@[simp] theorem length_calculateClusterSlotRanges (n : Nat) :
    (calculateClusterSlotRanges n).length = n :=
  length_slotRangesFrom ..

theorem slotRangesFrom_getElem? (base remainder i : Nat) (start : Int) (count k : Nat)
    (hstart : start = (i * base + min i remainder : Nat)) (hk : k < count) :
    (slotRangesFrom base remainder i start count)[k]? =
      some ⟨((i + k) * base + min (i + k) remainder : Nat),
        (((i + k + 1) * base + min (i + k + 1) remainder : Nat) : Int) - 1⟩ := by
  induction count generalizing i start k with
  | zero => omega
  | succ count ih =>
    have hnext : start + (if i < remainder then (base : Int) + 1 else base) - 1 + 1
        = ((i + 1) * base + min (i + 1) remainder : Nat) := by
      rw [hstart, Nat.succ_mul]
      split <;> omega
    cases k with
    | zero =>
      simp only [slotRangesFrom, List.getElem?_cons_zero, Nat.add_zero]
      congr 2
      omega
    | succ k =>
      simp only [slotRangesFrom, List.getElem?_cons_succ]
      rw [ih (i + 1) _ k hnext (by omega)]
      have e1 : i + 1 + k = i + (k + 1) := by omega
      rw [e1]

variable {n : Nat}

/-- The closed form of a shard's target range. -/
theorem calculateClusterSlotRanges_getElem? {k : Nat} (hk : k < n) :
    (calculateClusterSlotRanges n)[k]? =
      some ⟨(shardStart n k : Int), (shardStart n (k + 1) : Int) - 1⟩ := by
  unfold calculateClusterSlotRanges
  rw [slotRangesFrom_getElem? _ _ 0 0 n k (by simp) hk]
  simp [shardStart]

theorem shardStart_zero (n : Nat) : shardStart n 0 = 0 := by simp [shardStart]

theorem shardStart_self (hn : 0 < n) : shardStart n n = 16384 := by
  unfold shardStart
  rw [Nat.min_eq_right (Nat.le_of_lt (Nat.mod_lt _ hn))]
  exact Nat.div_add_mod 16384 n

theorem shardStart_mono {i j : Nat} (h : i ≤ j) : shardStart n i ≤ shardStart n j := by
  unfold shardStart
  have hmul : i * (16384 / n) ≤ j * (16384 / n) := Nat.mul_le_mul_right _ h
  omega

variable {slot : Int}

/-- Every slot lies in the target range of some shard. -/
theorem exists_shard_of_slot (hn : 0 < n) (hs : IsSlot slot) :
    ∃ k < n, (shardStart n k : Int) ≤ slot ∧ slot ≤ (shardStart n (k + 1) : Int) - 1 := by
  -- the last shard whose start is not beyond the slot
  have key : ∀ m ≤ n, (shardStart n m : Int) ≤ slot ∨
      ∃ k < m, (shardStart n k : Int) ≤ slot ∧ slot ≤ (shardStart n (k + 1) : Int) - 1 := by
    intro m hm
    induction m with
    | zero =>
      left
      rw [shardStart_zero]
      exact_mod_cast hs.1
    | succ m ih =>
      rcases ih (by omega) with h | ⟨k, hk, h⟩
      · by_cases hlt : (shardStart n (m + 1) : Int) ≤ slot
        · exact Or.inl hlt
        · exact Or.inr ⟨m, by omega, h, by omega⟩
      · exact Or.inr ⟨k, by omega, h⟩
  rcases key n (Nat.le_refl n) with h | h
  · rw [shardStart_self hn] at h
    have := hs.2
    omega
  · exact h

/-! ## Coverage -/

/-- `calculateSlotCoverage`: the slots some polled pod serves. -/
def calculateSlotCoverage (statuses : Statuses) (slot : Int) : Bool :=
  statuses.pairs.any fun p => p.2.slotsServed.any fun r =>
    decide (max r.start 0 ≤ slot ∧ slot ≤ min r.stop 16383)

/-- The coverage after slots `r` were assigned. -/
def markCovered (coverage : Int → Bool) (r : SlotRange) (slot : Int) : Bool :=
  coverage slot || decide (r.Contains slot)

/-- The scan of `calculateUncoveredSlotRanges`: `slot` is the next slot, `n`
    the number of slots left, `run` the start of the uncovered run it is in. -/
def uncoveredRuns (coverage : Int → Bool) (slot : Int) (run : Option Int) :
    Nat → List SlotRange
  | 0 =>
    match run with
    | none => []
    | some rangeStart => [⟨rangeStart, slot - 1⟩]
  | n + 1 =>
    if coverage slot then
      match run with
      | none => uncoveredRuns coverage (slot + 1) none n
      | some rangeStart => ⟨rangeStart, slot - 1⟩ :: uncoveredRuns coverage (slot + 1) none n
    else uncoveredRuns coverage (slot + 1) (some (run.getD slot)) n

/-- `calculateUncoveredSlotRanges`. -/
def calculateUncoveredSlotRanges (target : SlotRange) (coverage : Int → Bool) : List SlotRange :=
  let start := max target.start 0
  let stop := min target.stop 16383
  uncoveredRuns coverage start none (stop - start + 1).toNat

theorem calculateSlotCoverage_iff {statuses : Statuses} :
    calculateSlotCoverage statuses slot = true ↔
      IsSlot slot ∧
        ∃ name st, statuses.lookup name = some st ∧ ∃ r ∈ st.slotsServed, r.Contains slot := by
  unfold calculateSlotCoverage
  rw [List.any_eq_true]
  constructor
  · rintro ⟨⟨name, st⟩, hmem, h⟩
    obtain ⟨r, hr, hdec⟩ := List.any_eq_true.mp h
    have hb := of_decide_eq_true hdec
    refine ⟨⟨by omega, by omega⟩, name, st, GoMap.mem_pairs.mp hmem, r, hr, ?_⟩
    exact ⟨by omega, by omega⟩
  · rintro ⟨hslot, name, st, hlook, r, hr, hc⟩
    refine ⟨(name, st), GoMap.mem_pairs.mpr hlook, List.any_eq_true.mpr ⟨r, hr, ?_⟩⟩
    have h1 := hslot.1
    have h2 := hslot.2
    have h3 := hc.1
    have h4 := hc.2
    exact decide_eq_true ⟨by omega, by omega⟩

variable {coverage : Int → Bool}

/-- The slots the scan reports: the run it starts in, and every uncovered slot ahead. -/
theorem mem_uncoveredRuns {run : Option Int} (hrun : ∀ a ∈ run, a < slot) {x : Int} :
    (∃ r ∈ uncoveredRuns coverage slot run n, r.Contains x) ↔
      (∃ a ∈ run, a ≤ x ∧ x < slot) ∨ (slot ≤ x ∧ x < slot + n ∧ coverage x = false) := by
  induction n generalizing slot run with
  | zero =>
    cases run with
    | none => simp [uncoveredRuns]; omega
    | some a =>
      simp only [uncoveredRuns, List.mem_singleton, exists_eq_left, SlotRange.Contains,
        Option.mem_def, Option.some.injEq, exists_eq_left']
      omega
  | succ n ih =>
    by_cases hc : coverage slot = true
    · have ih0 := @ih (slot + 1) none (by simp)
      have hsplit : (slot + 1 ≤ x ∧ x < slot + 1 + n ∧ coverage x = false) ↔
          (slot ≤ x ∧ x < slot + (n + 1 : Nat) ∧ coverage x = false) := by
        constructor
        · rintro ⟨h1, h2, h3⟩
          exact ⟨by omega, by push_cast; omega, h3⟩
        · rintro ⟨h1, h2, h3⟩
          have : x ≠ slot := by
            rintro rfl
            rw [hc] at h3
            cases h3
          push_cast at h2
          exact ⟨by omega, by omega, h3⟩
      cases run with
      | none =>
        simp only [uncoveredRuns, hc, ↓reduceIte]
        rw [ih0, hsplit]
        simp
      | some a =>
        simp only [uncoveredRuns, hc, ↓reduceIte, List.mem_cons, exists_eq_or_imp]
        rw [ih0, hsplit]
        simp only [SlotRange.Contains, Option.mem_def, Option.some.injEq, exists_eq_left',
          reduceCtorEq, false_and, exists_false, false_or]
        constructor
        · rintro (h | h)
          · exact Or.inl ⟨h.1, by omega⟩
          · exact Or.inr h
        · rintro (h | h)
          · exact Or.inl ⟨h.1, by omega⟩
          · exact Or.inr h
    · have hc' : coverage slot = false := by simpa using hc
      have hlt : run.getD slot < slot + 1 := by
        cases run with
        | none => exact Int.lt_succ slot
        | some a =>
          have := hrun a rfl
          simp only [Option.getD_some]
          omega
      have ih1 := @ih (slot + 1) (some (run.getD slot)) (by
        intro a ha
        simp only [Option.mem_def, Option.some.injEq] at ha
        omega)
      simp only [uncoveredRuns, hc', Bool.false_eq_true, ↓reduceIte]
      rw [ih1]
      simp only [Option.mem_def, Option.some.injEq, exists_eq_left']
      constructor
      · rintro (⟨h1, h2⟩ | ⟨h1, h2, h3⟩)
        · by_cases hx : x = slot
          · subst hx
            exact Or.inr ⟨Int.le_refl _, by push_cast; omega, hc'⟩
          · cases run with
            | none =>
              simp only [Option.getD_none] at h1
              omega
            | some a => exact Or.inl ⟨a, rfl, h1, by omega⟩
        · exact Or.inr ⟨by omega, by push_cast; omega, h3⟩
      · rintro (⟨a, rfl, h1, h2⟩ | ⟨h1, h2, h3⟩)
        · exact Or.inl ⟨h1, by omega⟩
        · by_cases hx : x = slot
          · left
            cases run with
            | none =>
              simp only [Option.getD_none]
              omega
            | some a =>
              have := hrun a rfl
              simp only [Option.getD_some]
              omega
          · push_cast at h2
            exact Or.inr ⟨by omega, by omega, h3⟩

/-- `calculateUncoveredSlotRanges` reports exactly the uncovered slots of the target. -/
theorem mem_calculateUncoveredSlotRanges {target : SlotRange} {x : Int} :
    (∃ r ∈ calculateUncoveredSlotRanges target coverage, r.Contains x) ↔
      target.Contains x ∧ IsSlot x ∧ coverage x = false := by
  unfold calculateUncoveredSlotRanges
  rw [mem_uncoveredRuns (by simp)]
  simp only [Option.mem_def, reduceCtorEq, false_and, exists_false, false_or, SlotRange.Contains,
    IsSlot]
  constructor
  · rintro ⟨h1, h2, h3⟩
    exact ⟨⟨by omega, by omega⟩, ⟨by omega, by omega⟩, h3⟩
  · rintro ⟨⟨h1, h2⟩, ⟨h3, h4⟩, h5⟩
    exact ⟨by omega, by omega, h5⟩

/-- No reported range is empty. -/
theorem uncoveredRuns_proper {run : Option Int} (hrun : ∀ a ∈ run, a < slot) :
    ∀ r ∈ uncoveredRuns coverage slot run n, r.start ≤ r.stop := by
  induction n generalizing slot run with
  | zero =>
    intro r hr
    cases run with
    | none => simp [uncoveredRuns] at hr
    | some a =>
      simp only [uncoveredRuns, List.mem_singleton] at hr
      subst hr
      have := hrun a rfl
      show a ≤ slot - 1
      omega
  | succ n ih =>
    intro r hr
    by_cases hc : coverage slot = true
    · cases run with
      | none =>
        simp only [uncoveredRuns, hc, ↓reduceIte] at hr
        exact ih (by simp) r hr
      | some a =>
        simp only [uncoveredRuns, hc, ↓reduceIte, List.mem_cons] at hr
        rcases hr with rfl | hr
        · have := hrun a rfl
          show a ≤ slot - 1
          omega
        · exact ih (by simp) r hr
    · simp only [uncoveredRuns, hc, Bool.false_eq_true, ↓reduceIte] at hr
      refine ih ?_ r hr
      intro a ha
      cases run with
      | none =>
        simp only [Option.getD_none, Option.mem_def, Option.some.injEq] at ha
        omega
      | some b =>
        have := hrun b rfl
        simp only [Option.getD_some, Option.mem_def, Option.some.injEq] at ha
        omega

theorem calculateUncoveredSlotRanges_proper {target : SlotRange} :
    ∀ r ∈ calculateUncoveredSlotRanges target coverage, r.start ≤ r.stop :=
  uncoveredRuns_proper (by simp)

end RedisOperator
