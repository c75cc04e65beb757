/-
  RedisOperator.Lib.Greedy

  Greedy seating.  Agents ask for numbered seats in the order of a ranked list
  of wishes and get a seat when they have none and it is free; then every agent
  still standing takes the lowest free seat.
-/

import Mathlib.Data.List.Perm.Subperm

namespace Lib

namespace Greedy

variable {A : Type} [DecidableEq A]

/-- Does the agent have a seat? -/
def seated (seats : List (A × Nat)) (a : A) : Bool := seats.any fun p => decide (p.1 = a)

/-- Is the seat taken? -/
def taken (seats : List (A × Nat)) (s : Nat) : Bool := seats.any fun p => decide (p.2 = s)

/-- One wish. -/
def sit (seats : List (A × Nat)) (wish : A × Nat) : List (A × Nat) :=
  if seated seats wish.1 = true ∨ taken seats wish.2 = true then seats else wish :: seats

/-- The lowest free seat. -/
def lowestFree (seats : List (A × Nat)) : Nat :=
  ((List.range (seats.length + 1)).find? fun s => !taken seats s).getD 0

/-- An agent without a seat takes the lowest free one. -/
def sitAnywhere (seats : List (A × Nat)) (a : A) : List (A × Nat) :=
  if seated seats a = true then seats else (a, lowestFree seats) :: seats

/-- Everybody's seat. -/
def seating (wishes : List (A × Nat)) (agents : List A) : List (A × Nat) :=
  agents.foldl sitAnywhere (wishes.foldl sit [])

variable {seats : List (A × Nat)}

theorem seated_iff {a : A} : seated seats a = true ↔ ∃ s, (a, s) ∈ seats := by
  simp [seated]

omit [DecidableEq A] in
theorem taken_iff {s : Nat} : taken seats s = true ↔ ∃ a, (a, s) ∈ seats := by
  simp [taken]

/-- Some number up to the length of a list is not in it. -/
theorem exists_range_notMem (xs : List Nat) : ∃ s ∈ List.range (xs.length + 1), s ∉ xs := by
  by_contra hall
  have hsub : List.range (xs.length + 1) ⊆ xs := by
    intro s hs
    by_contra hmem
    exact hall ⟨s, hs, hmem⟩
  have hle := (List.subperm_of_subset List.nodup_range hsub).length_le
  rw [List.length_range] at hle
  omega

omit [DecidableEq A] in
theorem exists_free (seats : List (A × Nat)) :
    ∃ s ∈ List.range (seats.length + 1), taken seats s = false := by
  obtain ⟨s, hs, hmem⟩ := exists_range_notMem (seats.map Prod.snd)
  rw [List.length_map] at hs
  refine ⟨s, hs, Bool.eq_false_iff.mpr fun ht => hmem ?_⟩
  obtain ⟨a, ha⟩ := taken_iff.mp ht
  exact List.mem_map.mpr ⟨(a, s), ha, rfl⟩

omit [DecidableEq A] in
/-- The lowest free seat is free, and every lower one is taken. -/
theorem lowestFree_spec (seats : List (A × Nat)) :
    taken seats (lowestFree seats) = false ∧
      ∀ s < lowestFree seats, taken seats s = true := by
  unfold lowestFree
  cases hf : (List.range (seats.length + 1)).find? fun s => !taken seats s with
  | none =>
    obtain ⟨s, hs, hfree⟩ := exists_free seats
    have := List.find?_eq_none.mp hf s hs
    simp [hfree] at this
  | some t =>
    obtain ⟨hfree, -, hlow⟩ := List.find?_range_eq_some.mp hf
    refine ⟨by simpa using hfree, fun s hs => ?_⟩
    simpa using hlow s hs

omit [DecidableEq A] in
/-- A free seat below which all are taken is the lowest free seat. -/
theorem eq_lowestFree {s : Nat} (hfree : taken seats s = false)
    (hlow : ∀ t < s, taken seats t = true) : s = lowestFree seats := by
  obtain ⟨hfree', hlow'⟩ := lowestFree_spec seats
  rcases Nat.lt_trichotomy s (lowestFree seats) with hlt | heq | hgt
  · rw [hlow' s hlt] at hfree
    cases hfree
  · exact heq
  · rw [hlow _ hgt] at hfree'
    cases hfree'

/-- Nobody shares a seat. -/
theorem nodup_seating (wishes : List (A × Nat)) (agents : List A) :
    ((seating wishes agents).map Prod.snd).Nodup := by
  have hfresh : ∀ {seats : List (A × Nat)} {a : A} {s : Nat}, taken seats s = false →
      (seats.map Prod.snd).Nodup → (((a, s) :: seats).map Prod.snd).Nodup := by
    intro seats a s hfree hnd
    rw [List.map_cons, List.nodup_cons]
    refine ⟨?_, hnd⟩
    intro hmem
    obtain ⟨⟨b, t⟩, hb, rfl⟩ := List.mem_map.mp hmem
    rw [taken_iff.mpr ⟨b, hb⟩] at hfree
    cases hfree
  refine List.foldlRecOn (motive := fun seats : List (A × Nat) =>
    (seats.map Prod.snd).Nodup) _ _ ?_ ?_
  · refine List.foldlRecOn (motive := fun seats : List (A × Nat) => (seats.map Prod.snd).Nodup) _ _
      List.nodup_nil ?_
    intro seats hnd wish _
    unfold sit
    split
    · exact hnd
    · rename_i hguard
      rw [not_or] at hguard
      exact hfresh (by simpa using hguard.2) hnd
  · intro seats hnd a _
    unfold sitAnywhere
    split
    · exact hnd
    · exact hfresh (lowestFree_spec seats).1 hnd

variable {wishes : List (A × Nat)}

/-- Where nobody wishes for a seat from `bound` on, one of those is taken only
    when every seat below it is. -/
theorem taken_of_beyond {agents : List A} {bound : Nat}
    (hwishes : ∀ wish ∈ wishes, wish.2 < bound) {a : A} {s : Nat}
    (hs : (a, s) ∈ seating wishes agents) (hbeyond : bound ≤ s) :
    ∀ t < s, taken (seating wishes agents) t = true := by
  -- taken seats stay taken, and a seat beyond the bound was the lowest free one
  have hmono : ∀ {seats : List (A × Nat)} {p : A × Nat} {t : Nat}, taken seats t = true →
      taken (p :: seats) t = true := by
    intro seats p t ht
    obtain ⟨b, hb⟩ := taken_iff.mp ht
    exact taken_iff.mpr ⟨b, List.mem_cons_of_mem _ hb⟩
  suffices h : ∀ p ∈ seating wishes agents, bound ≤ p.2 →
      ∀ t < p.2, taken (seating wishes agents) t = true from h (a, s) hs hbeyond
  refine List.foldlRecOn (motive := fun seats : List (A × Nat) =>
    ∀ p ∈ seats, bound ≤ p.2 → ∀ t < p.2, taken seats t = true) _ _ ?_ ?_
  · -- the wishes alone seat nobody beyond the bound
    have hlow : ∀ p ∈ wishes.foldl sit [], p.2 < bound := by
      refine List.foldlRecOn (motive := fun seats : List (A × Nat) =>
        ∀ p ∈ seats, p.2 < bound) _ _ (by simp) ?_
      intro seats h wish hwish p hp
      unfold sit at hp
      split at hp
      · exact h p hp
      · rcases List.mem_cons.mp hp with rfl | hp
        · exact hwishes _ hwish
        · exact h p hp
    intro p hp hb
    exact absurd (hlow p hp) (Nat.not_lt.mpr hb)
  · intro seats h agent _ p hp hb t ht
    unfold sitAnywhere at hp ⊢
    split at hp
    · rename_i hseated
      rw [if_pos hseated]
      exact h p hp hb t ht
    · rename_i hseated
      rw [if_neg hseated]
      rcases List.mem_cons.mp hp with rfl | hp
      · exact hmono ((lowestFree_spec seats).2 t ht)
      · exact hmono (h p hp hb t ht)

/-- A wish is granted, or the agent or the seat is taken already. -/
theorem seated_or_taken {wish : A × Nat} (h : wish ∈ wishes) :
    seated (wishes.foldl sit []) wish.1 = true ∨ taken (wishes.foldl sit []) wish.2 = true := by
  have hmono : ∀ (ws seats : List (A × Nat)), seats ⊆ ws.foldl sit seats := by
    intro ws
    induction ws with
    | nil => exact fun seats _ hs => hs
    | cons w ws ih =>
      intro seats p hp
      refine ih _ ?_
      unfold sit
      split
      · exact hp
      · exact List.mem_cons_of_mem _ hp
  obtain ⟨before, after, rfl⟩ := List.append_of_mem h
  rw [List.foldl_append, List.foldl_cons]
  have hkeep := hmono after (sit (before.foldl sit []) wish)
  rw [seated_iff, taken_iff]
  by_cases hgranted : seated (before.foldl sit []) wish.1 = true ∨
      taken (before.foldl sit []) wish.2 = true
  · rw [sit, if_pos hgranted] at hkeep ⊢
    rw [seated_iff, taken_iff] at hgranted
    exact hgranted.imp (fun ⟨s, hs⟩ => ⟨s, hkeep hs⟩) fun ⟨a, ha⟩ => ⟨a, hkeep ha⟩
  · rw [sit, if_neg hgranted] at hkeep ⊢
    exact Or.inl ⟨wish.2, hkeep (List.mem_cons_self ..)⟩

/-- Agents who wish for one seat each, all different, get it. -/
theorem seating_fits {home : A → Nat} {agents : List A}
    (hwishes : ∀ wish ∈ wishes, wish.1 ∈ agents ∧ wish.2 = home wish.1)
    (hall : ∀ a ∈ agents, (a, home a) ∈ wishes)
    (hinj : ∀ a ∈ agents, ∀ b ∈ agents, home a = home b → a = b) :
    ∀ seat ∈ seating wishes agents, seat.2 = home seat.1 := by
  have hfit : ∀ seat ∈ wishes.foldl sit [], seat.1 ∈ agents ∧ seat.2 = home seat.1 := by
    refine List.foldlRecOn (motive := fun seats : List (A × Nat) =>
      ∀ seat ∈ seats, seat.1 ∈ agents ∧ seat.2 = home seat.1) _ _ (by simp) ?_
    intro seats h wish hwish seat hseat
    unfold sit at hseat
    split at hseat
    · exact h seat hseat
    · rcases List.mem_cons.mp hseat with rfl | hseat
      · exact hwishes _ hwish
      · exact h seat hseat
  have hseated : ∀ a ∈ agents, seated (wishes.foldl sit []) a = true := by
    intro a ha
    refine (seated_or_taken (hall a ha)).elim id fun htaken => ?_
    obtain ⟨b, hb⟩ := taken_iff.mp htaken
    obtain ⟨hmem, heq⟩ := hfit _ hb
    obtain rfl := hinj a ha b hmem heq
    exact seated_iff.mpr ⟨_, hb⟩
  -- nobody is left standing
  have hrest : ∀ rest : List A, (∀ a ∈ rest, a ∈ agents) →
      rest.foldl sitAnywhere (wishes.foldl sit []) = wishes.foldl sit [] := by
    intro rest
    induction rest with
    | nil => exact fun _ => rfl
    | cons a rest ih =>
      intro hsub
      rw [List.foldl_cons, sitAnywhere, if_pos (hseated a (hsub a (List.mem_cons_self ..)))]
      exact ih fun b hb => hsub b (List.mem_cons_of_mem _ hb)
  intro seat hseat
  rw [seating, hrest agents fun _ ha => ha] at hseat
  exact (hfit seat hseat).2

end Greedy

end Lib
