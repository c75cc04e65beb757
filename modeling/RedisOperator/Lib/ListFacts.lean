/-
  RedisOperator.Lib.ListFacts

  Positions in sorted lists: which elements are among the first `k`, and what
  is left when they are taken away.  Lists of pairs with distinct keys.
-/


namespace Lib

/-- Removing the first `k` elements by value leaves the rest. -/
theorem filter_notMem_take {α : Type} [DecidableEq α] {xs : List α} (h : xs.Nodup) (k : Nat) :
    (xs.filter fun x => decide (x ∉ xs.take k)) = xs.drop k := by
  induction xs generalizing k with
  | nil => simp
  | cons x xs ih =>
    obtain ⟨hx, hxs⟩ := List.nodup_cons.mp h
    cases k with
    | zero => simp
    | succ k =>
      rw [List.take_succ_cons, List.drop_succ_cons, ← ih hxs k, List.filter_cons]
      simp only [List.mem_cons, true_or, not_true_eq_false, decide_false, Bool.false_eq_true,
        ↓reduceIte]
      refine List.filter_congr fun y hy => ?_
      have hne : y ≠ x := fun hh => hx (hh ▸ hy)
      simp [hne]

/-- Where at most one element fits, the search finds it. -/
theorem find?_eq_some_iff_of_unique {α : Type} {p : α → Bool} {xs : List α}
    (h : ∀ a ∈ xs, ∀ b ∈ xs, p a = true → p b = true → a = b) {x : α} :
    xs.find? p = some x ↔ x ∈ xs ∧ p x = true := by
  refine ⟨fun hf => ⟨List.mem_of_find?_eq_some hf, List.find?_some hf⟩, fun ⟨hx, hp⟩ => ?_⟩
  obtain ⟨y, hy⟩ := Option.isSome_iff_exists.mp (List.find?_isSome.mpr ⟨x, hx, hp⟩)
  rw [hy, h y (List.mem_of_find?_eq_some hy) x hx (List.find?_some hy) hp]

theorem map_fst_zip_eq_take {α β : Type} (xs : List α) (ys : List β) :
    (xs.zip ys).map Prod.fst = xs.take ys.length := by
  induction xs generalizing ys <;> cases ys <;> simp [*]

theorem map_snd_zip_eq_take {α β : Type} (xs : List α) (ys : List β) :
    (xs.zip ys).map Prod.snd = ys.take xs.length := by
  induction xs generalizing ys <;> cases ys <;> simp [*]

/-- In an increasing list, an element is among the first `k` exactly when at
    most `k` elements do not exceed it. -/
theorem mem_take_iff_length_filter_le {xs : List Nat} (h : xs.Pairwise (· < ·)) {x : Nat}
    (hx : x ∈ xs) (k : Nat) :
    x ∈ xs.take k ↔ (xs.filter fun y => decide (y ≤ x)).length ≤ k := by
  induction xs generalizing k with
  | nil => cases hx
  | cons a xs ih =>
    obtain ⟨ha, hxs⟩ := List.pairwise_cons.mp h
    rcases List.mem_cons.mp hx with rfl | hmem
    · have hnone : (xs.filter fun y => decide (y ≤ x)) = [] := by
        rw [List.filter_eq_nil_iff]
        intro y hy
        simpa using ha y hy
      cases k with
      | zero => simp
      | succ k => simp [hnone]
    · have hlt : a < x := ha x hmem
      have hle : a ≤ x := Nat.le_of_lt hlt
      cases k with
      | zero => simp [hle]
      | succ k =>
        rw [List.take_succ_cons, List.mem_cons, ih hxs hmem k]
        have hne : x ≠ a := by omega
        simp [hle, hne]

/-- Whatever comes after an element of a decreasing list is below it, so it is at
    least as large as their number. -/
theorem length_le_head_of_decreasing {x : Nat} {xs : List Nat}
    (h : (x :: xs).Pairwise (· > ·)) : xs.length ≤ x := by
  induction xs generalizing x with
  | nil => exact Nat.zero_le x
  | cons y ys ih =>
    obtain ⟨hx, hys⟩ := List.pairwise_cons.mp h
    have hlt : y < x := hx y List.mem_cons_self
    have hle := ih hys
    rw [List.length_cons]
    omega

/-- Of a decreasing list, all but the last `d` elements are at least `d`. -/
theorem le_of_mem_take_decreasing {xs : List Nat} (h : xs.Pairwise (· > ·)) {d x : Nat}
    (hx : x ∈ xs.take (xs.length - d)) : d ≤ x := by
  induction xs with
  | nil => simp at hx
  | cons y ys ih =>
    by_cases hshort : ys.length + 1 ≤ d
    · rw [List.length_cons, Nat.sub_eq_zero_of_le hshort] at hx
      cases hx
    · rw [List.length_cons, show ys.length + 1 - d = (ys.length - d) + 1 by omega,
        List.take_succ_cons] at hx
      rcases List.mem_cons.mp hx with rfl | hmem
      · have hle := length_le_head_of_decreasing h
        omega
      · exact ih (List.pairwise_cons.mp h).2 hmem

theorem length_filter_range_eq_iff (p : Nat → Bool) (n : Nat) :
    ((List.range n).filter p).length = n ↔ ∀ i < n, p i = true := by
  have h : ((List.range n).filter p).length = (List.range n).length ↔
      ∀ i ∈ List.range n, p i = true :=
    List.length_filter_eq_length_iff
  rw [List.length_range] at h
  simpa using h

/-- Looking up a key in a list of pairs with distinct keys. -/
theorem lookup_eq_some_iff_mem {α β : Type} [BEq α] [LawfulBEq α] {l : List (α × β)}
    (hdistinct : (l.map Prod.fst).Nodup) {a : α} {b : β} :
    l.lookup a = some b ↔ (a, b) ∈ l := by
  induction l with
  | nil => simp
  | cons pair l ih =>
    obtain ⟨a', b'⟩ := pair
    rw [List.map_cons, List.nodup_cons] at hdistinct
    rw [List.lookup_cons, List.mem_cons]
    by_cases ha : a = a'
    · subst ha
      have hnot : (a, b) ∉ l := fun hmem =>
        hdistinct.1 (List.mem_map.mpr ⟨(a, b), hmem, rfl⟩)
      simp only [BEq.rfl, Prod.mk.injEq, true_and, hnot, or_false]
      exact ⟨fun h => (Option.some.inj h).symm, fun h => congrArg some h.symm⟩
    · have hbeq : (a == a') = false := beq_eq_false_iff_ne.mpr ha
      rw [hbeq]
      simp only [Prod.mk.injEq, ha, false_and, false_or]
      exact ih hdistinct.2

/-- The lowest index below `n` at which `f` is smallest. -/
def LeastAt (n : Nat) (f : Nat → Nat) (s : Nat) : Prop :=
  s < n ∧ ∀ t < n, f s < f t ∨ (f s = f t ∧ s ≤ t)

instance (n : Nat) (f : Nat → Nat) (s : Nat) : Decidable (LeastAt n f s) :=
  inferInstanceAs (Decidable (_ ∧ _))

theorem LeastAt.unique {n : Nat} {f : Nat → Nat} {s t : Nat} (hs : LeastAt n f s)
    (ht : LeastAt n f t) : s = t := by
  have h₁ := hs.2 t ht.1
  have h₂ := ht.2 s hs.1
  omega

/-- Going through the indices and keeping the first smallest finds it. -/
theorem leastAt_foldl_range (f : Nat → Nat) {n : Nat} (hn : 0 < n) :
    LeastAt n f ((List.range n).foldl (fun s t => if f t < f s then t else s) 0) := by
  induction n with
  | zero => exact absurd hn (Nat.lt_irrefl 0)
  | succ n ih =>
    rw [List.range_succ, List.foldl_append, List.foldl_cons, List.foldl_nil]
    rcases Nat.eq_zero_or_pos n with rfl | hpos
    · refine ⟨by simp, fun t ht => ?_⟩
      obtain rfl : t = 0 := by omega
      exact Or.inr ⟨by simp, by simp⟩
    · obtain ⟨hlt, hleast⟩ := ih hpos
      split
      next hless =>
        refine ⟨Nat.lt_succ_self n, fun t ht => ?_⟩
        rcases (by omega : t < n ∨ t = n) with htn | rfl
        · have := hleast t htn
          omega
        · exact Or.inr ⟨rfl, Nat.le_refl _⟩
      next hnot =>
        refine ⟨by omega, fun t ht => ?_⟩
        rcases (by omega : t < n ∨ t = n) with htn | rfl
        · exact hleast t htn
        · omega

end Lib
