/-
  RedisOperator.Cluster.LayoutFacts

  What holds of the planner's state after every step, whatever the poll
  returned: memberships agree with `shardOf`, a planned primary is a surviving
  pod of the shard it leads, and an owner that survives leads its shard.  One
  lemma per primitive step, one per loop, and `planShardLayout_sound` for the
  result.
-/

import RedisOperator.Cluster.Layout
import RedisOperator.Lib.Greedy
import RedisOperator.Lib.ListFacts

namespace RedisOperator

open Lib

/-! ## Primitive steps -/

namespace ShardLayout

variable (l : ShardLayout) (name : String) (shard : Nat)

@[simp] theorem assign_shardOf : (l.assign name shard).shardOf = l.shardOf.insert name shard := rfl
@[simp] theorem assign_primaryOf : (l.assign name shard).primaryOf = l.primaryOf := rfl
@[simp] theorem assign_ownerOf : (l.assign name shard).ownerOf = l.ownerOf := rfl
@[simp] theorem setPrimary_shardOf : (l.setPrimary shard name).shardOf = l.shardOf := rfl
@[simp] theorem setPrimary_members : (l.setPrimary shard name).members = l.members := rfl
@[simp] theorem setPrimary_ownerOf : (l.setPrimary shard name).ownerOf = l.ownerOf := rfl
@[simp] theorem move_shardOf : (l.move name shard).shardOf = l.shardOf.insert name shard := rfl
@[simp] theorem move_primaryOf : (l.move name shard).primaryOf = l.primaryOf := rfl
@[simp] theorem move_ownerOf : (l.move name shard).ownerOf = l.ownerOf := rfl

theorem assign_members_get (s : Nat) :
    (l.assign name shard).members.get s =
      if s = shard then l.members.get shard ++ [name] else l.members.get s :=
  GoMap.get_insert

theorem setPrimary_primaryOf_get (s : Nat) :
    (l.setPrimary shard name).primaryOf.get s =
      if s = shard then name else l.primaryOf.get s :=
  GoMap.get_insert

/-- The pod joins the shard and leads it. -/
def fill (l : ShardLayout) (pair : Nat × String) : ShardLayout :=
  (l.assign pair.2 pair.1).setPrimary pair.1 pair.2

theorem fill_primaryOf_get (pair : Nat × String) (s : Nat) :
    (l.fill pair).primaryOf.get s = if s = pair.1 then pair.2 else l.primaryOf.get s := by
  unfold fill
  rw [setPrimary_primaryOf_get, assign_primaryOf]

theorem move_members_get (s : Nat) :
    (l.move name shard).members.get s =
      let left := fun t => if t = l.shardOf.get name
        then (l.members.get (l.shardOf.get name)).erase name else l.members.get t
      if s = shard then left shard ++ [name] else left s := by
  show GoMap.get (GoMap.insert _ _ _) s = _
  rw [GoMap.get_insert, GoMap.get_insert, GoMap.get_insert]

end ShardLayout

/-! ## The invariant -/

namespace PlanEnv

variable (e : PlanEnv) (names : List String)

/-- The planner's invariant. -/
structure Sound (l : ShardLayout) : Prop where
  no_empty : "" ∉ names
  members_iff : ∀ {name s}, name ∈ l.members.get s ↔ l.shardOf.lookup name = some s
  members_nodup : ∀ s, (l.members.get s).Nodup
  placed_mem : ∀ {name s}, l.shardOf.lookup name = some s → name ∈ names
  primary_placed : ∀ {s}, l.primaryOf.get s ≠ "" → l.shardOf.lookup (l.primaryOf.get s) = some s
  primary_survives : ∀ {s}, l.primaryOf.get s ≠ "" → e.doomed (l.primaryOf.get s) = false
  owner_placed : ∀ {s o}, l.ownerOf.lookup s = some o → l.shardOf.lookup o = some s
  owner_serves : ∀ {s o}, l.ownerOf.lookup s = some o → (e.statuses.get o).slotsServed ≠ []
  owner_primary : ∀ {s o}, l.ownerOf.lookup s = some o → e.doomed o = false →
    l.primaryOf.get s = o

variable {e names} {l : ShardLayout}

theorem sound_empty (hne : "" ∉ names) : Sound e names {} where
  no_empty := hne
  members_iff := by simp
  members_nodup _ := by simp
  placed_mem h := by simp at h
  primary_placed h := by simp at h
  primary_survives h := by simp at h
  owner_placed h := by simp at h
  owner_serves h := by simp at h
  owner_primary h := by simp at h

variable {s : Nat} {name : String}

variable (h : Sound e names l)
include h

theorem Sound.not_primary_of_unplaced
    (hnew : name ∉ l.shardOf) (hp : l.primaryOf.get s ≠ "") : l.primaryOf.get s ≠ name := by
  rintro rfl
  exact hnew (GoMap.mem_of_lookup (h.primary_placed hp))

/-- A shard nobody was assigned to has no primary. -/
theorem Sound.primary_of_unused (hu : l.used s = false) :
    l.primaryOf.get s = "" := by
  by_contra hp
  have hmem := h.members_iff.mpr (h.primary_placed hp)
  have hs : s ∉ l.members := by simpa [ShardLayout.used] using hu
  rw [GoMap.get_of_not_mem hs] at hmem
  cases hmem

theorem Sound.members_of_unused (hu : l.used s = false)
    (name : String) : l.shardOf.lookup name ≠ some s := by
  intro hl
  have hmem := h.members_iff.mpr hl
  have hs : s ∉ l.members := by simpa [ShardLayout.used] using hu
  rw [GoMap.get_of_not_mem hs] at hmem
  cases hmem

theorem Sound.assign (shard : Nat) (hmem : name ∈ names)
    (hnew : name ∉ l.shardOf) : Sound e names (l.assign name shard) where
  no_empty := h.no_empty
  members_iff := by
    intro n s
    rw [ShardLayout.assign_members_get, ShardLayout.assign_shardOf, GoMap.lookup_insert]
    have hnone : l.shardOf.lookup name = none := GoMap.lookup_eq_none.mpr hnew
    by_cases hn : n = name
    · subst hn
      by_cases hs : s = shard
      · simp [hs]
      · have hiff : n ∈ l.members.get s ↔ l.shardOf.lookup n = some s := h.members_iff
        simp [hs, hiff, hnone, Ne.symm hs]
    · by_cases hs : s = shard
      · subst hs
        simp [hn, h.members_iff]
      · simp [hn, hs, h.members_iff]
  members_nodup := by
    intro s
    rw [ShardLayout.assign_members_get]
    split
    · rw [List.nodup_append]
      refine ⟨h.members_nodup shard, List.nodup_singleton _, ?_⟩
      rintro a ha b hb rfl
      rw [List.mem_singleton] at hb
      subst hb
      exact hnew (GoMap.mem_of_lookup (h.members_iff.mp ha))
    · exact h.members_nodup s
  placed_mem := by
    intro n s hl
    rw [ShardLayout.assign_shardOf, GoMap.lookup_insert] at hl
    split at hl
    · rename_i hn
      exact hn ▸ hmem
    · exact h.placed_mem hl
  primary_placed := by
    intro s hp
    rw [ShardLayout.assign_primaryOf] at hp ⊢
    rw [ShardLayout.assign_shardOf, GoMap.lookup_insert_ne (h.not_primary_of_unplaced hnew hp)]
    exact h.primary_placed hp
  primary_survives := h.primary_survives
  owner_placed := by
    intro s o ho
    have hne : o ≠ name := by
      rintro rfl
      exact hnew (GoMap.mem_of_lookup (h.owner_placed ho))
    rw [ShardLayout.assign_shardOf, GoMap.lookup_insert_ne hne]
    exact h.owner_placed ho
  owner_serves := h.owner_serves
  owner_primary := h.owner_primary

variable {shard : Nat}

/-- A shard without a primary takes one of its surviving members. -/
theorem Sound.setPrimary
    (hplaced : l.shardOf.lookup name = some shard) (hlive : e.doomed name = false)
    (hfree : l.primaryOf.get shard = "") : Sound e names (l.setPrimary shard name) where
  no_empty := h.no_empty
  members_iff := h.members_iff
  members_nodup := h.members_nodup
  placed_mem := h.placed_mem
  primary_placed := by
    intro s
    rw [ShardLayout.setPrimary_primaryOf_get, ShardLayout.setPrimary_shardOf]
    by_cases hs : s = shard
    · simp [hs, hplaced]
    · simpa [hs] using h.primary_placed
  primary_survives := by
    intro s
    rw [ShardLayout.setPrimary_primaryOf_get]
    split
    · exact fun _ => hlive
    · exact h.primary_survives
  owner_placed := h.owner_placed
  owner_serves := h.owner_serves
  owner_primary := by
    intro s o ho hd
    rw [ShardLayout.setPrimary_primaryOf_get]
    split
    · rename_i hs
      subst hs
      -- a surviving owner would already lead the shard
      have hp := h.owner_primary ho hd
      rw [hfree] at hp
      exact absurd (h.placed_mem (h.owner_placed ho)) (hp ▸ h.no_empty)
    · exact h.owner_primary ho hd

/-- An unplaced slot owner claims a shard nobody is in. -/
theorem Sound.claim (hmem : name ∈ names)
    (hnew : name ∉ l.shardOf) (hserves : (e.statuses.get name).slotsServed ≠ [])
    (hunused : l.used shard = false) : Sound e names (e.claim l name shard) := by
  have hassign := h.assign shard hmem hnew
  have hplaced : (l.assign name shard).shardOf.lookup name = some shard := by simp
  have hfree : l.primaryOf.get shard = "" := h.primary_of_unused hunused
  -- the shard's own entry is the new one; entries of other shards are untouched
  have howner : ∀ {s o}, (l.ownerOf.insert shard name).lookup s = some o →
      (s = shard ∧ o = name) ∨ (s ≠ shard ∧ l.ownerOf.lookup s = some o) := by
    intro s o ho
    rw [GoMap.lookup_insert] at ho
    split at ho
    · exact Or.inl ⟨by assumption, (Option.some.inj ho).symm⟩
    · exact Or.inr ⟨by assumption, ho⟩
  unfold PlanEnv.claim
  by_cases hd : e.doomed name = true
  · rw [if_pos hd]
    exact
      { hassign with
        owner_placed := by
          intro s o ho
          rcases howner ho with ⟨rfl, rfl⟩ | ⟨-, ho⟩
          · exact hplaced
          · exact hassign.owner_placed ho
        owner_serves := by
          intro s o ho
          rcases howner ho with ⟨rfl, rfl⟩ | ⟨-, ho⟩
          · exact hserves
          · exact h.owner_serves ho
        owner_primary := by
          intro s o ho hlive
          rcases howner ho with ⟨rfl, rfl⟩ | ⟨-, ho⟩
          · rw [hd] at hlive
            cases hlive
          · exact h.owner_primary ho hlive }
  · have hlive : e.doomed name = false := by simpa using hd
    rw [if_neg hd]
    have hset := hassign.setPrimary hplaced hlive hfree
    exact
      { hset with
        owner_placed := by
          intro s o ho
          rcases howner ho with ⟨rfl, rfl⟩ | ⟨-, ho⟩
          · exact hplaced
          · exact hassign.owner_placed ho
        owner_serves := by
          intro s o ho
          rcases howner ho with ⟨rfl, rfl⟩ | ⟨-, ho⟩
          · exact hserves
          · exact h.owner_serves ho
        owner_primary := by
          intro s o ho hl
          rcases howner ho with ⟨rfl, rfl⟩ | ⟨hs, ho⟩
          · exact GoMap.get_insert_self
          · exact (GoMap.get_insert_ne hs).trans (h.owner_primary ho hl) }

/-- A surviving pod that leads no shard moves to another one. -/
theorem Sound.move {source : Nat} (shard : Nat)
    (hplaced : l.shardOf.lookup name = some source) (hlive : e.doomed name = false)
    (hnot : ∀ s, l.primaryOf.get s ≠ name) : Sound e names (l.move name shard) := by
  have hget : l.shardOf.get name = source := GoMap.get_of_lookup hplaced
  have hmem : name ∈ names := h.placed_mem hplaced
  have howner : ∀ {s o}, l.ownerOf.lookup s = some o → o ≠ name := by
    rintro s o ho rfl
    exact hnot s (h.owner_primary ho hlive)
  have herase : ∀ {n}, n ∈ (l.members.get source).erase name ↔
      n ≠ name ∧ l.shardOf.lookup n = some source := by
    intro n
    rw [(h.members_nodup source).mem_erase_iff, h.members_iff]
  refine
    { no_empty := h.no_empty
      members_iff := ?_
      members_nodup := ?_
      placed_mem := ?_
      primary_placed := ?_
      primary_survives := h.primary_survives
      owner_placed := ?_
      owner_serves := h.owner_serves
      owner_primary := h.owner_primary }
  · intro n s
    rw [ShardLayout.move_members_get, ShardLayout.move_shardOf, GoMap.lookup_insert, hget]
    by_cases hn : n = name
    · subst hn
      by_cases hs : s = shard
      · simp [hs]
      · by_cases hsrc : s = source
        · subst hsrc
          simp [hs, herase, Ne.symm hs]
        · simp [hs, hsrc, h.members_iff, hplaced, Ne.symm hsrc, Ne.symm hs]
    · by_cases hs : s = shard
      · subst hs
        by_cases hsrc : s = source
        · simp [hn, hsrc, herase]
        · simp [hn, hsrc, h.members_iff]
      · by_cases hsrc : s = source
        · subst hsrc
          simp [hn, hs, herase]
        · simp [hn, hs, hsrc, h.members_iff]
  · intro s
    rw [ShardLayout.move_members_get, hget]
    have hleft : ∀ t, (if t = source then (l.members.get source).erase name
        else l.members.get t).Nodup := by
      intro t
      split
      · exact (h.members_nodup source).erase _
      · exact h.members_nodup t
    have hnotin : ∀ t, name ∉ (if t = source then (l.members.get source).erase name
        else l.members.get t) := by
      intro t
      split
      · rw [herase]
        exact fun hh => hh.1 rfl
      · rw [h.members_iff, hplaced]
        rintro ⟨⟩
        contradiction
    by_cases hs : s = shard
    · simp only [hs, ↓reduceIte]
      rw [List.nodup_append]
      refine ⟨hleft shard, List.nodup_singleton _, ?_⟩
      rintro a ha b hb rfl
      rw [List.mem_singleton] at hb
      subst hb
      exact hnotin shard ha
    · simp only [hs, ↓reduceIte]
      exact hleft s
  · intro n s hl
    rw [ShardLayout.move_shardOf, GoMap.lookup_insert] at hl
    split at hl
    · rename_i hn
      exact hn ▸ hmem
    · exact h.placed_mem hl
  · intro s hp
    rw [ShardLayout.move_shardOf, ShardLayout.move_primaryOf, GoMap.lookup_insert_ne (hnot s)]
    exact h.primary_placed hp
  · intro s o ho
    rw [ShardLayout.move_shardOf, GoMap.lookup_insert_ne (howner ho)]
    exact h.owner_placed ho

omit h

/-! ## The search for an unused shard -/

theorem exists_unused (l : ShardLayout) :
    ∃ s ∈ List.range (l.members.keys.length + 1), l.used s = false := by
  obtain ⟨s, hs, hmem⟩ := Greedy.exists_range_notMem l.members.keys
  exact ⟨s, hs, by simpa [ShardLayout.used, GoMap.mem_keys] using hmem⟩

theorem used_lowestUnused (l : ShardLayout) : l.used l.lowestUnused = false := by
  obtain ⟨s, hs, hu⟩ := exists_unused l
  unfold ShardLayout.lowestUnused
  cases hf : (List.range (l.members.keys.length + 1)).find? fun shard => !l.used shard with
  | none =>
    have := List.find?_eq_none.mp hf s hs
    simp [hu] at this
  | some t =>
    have := List.find?_some hf
    simpa using this

theorem used_of_lt_lowestUnused (l : ShardLayout) (hs : s < l.lowestUnused) : l.used s = true := by
  unfold ShardLayout.lowestUnused at hs
  cases hf : (List.range (l.members.keys.length + 1)).find? fun shard => !l.used shard with
  | none => simp [hf] at hs
  | some t =>
    rw [hf, Option.getD_some] at hs
    have := (List.find?_range_eq_some.mp hf).2.2 s hs
    simpa using this

/-! ## Slot owners -/

theorem mem_owners :
    name ∈ e.owners names ↔ name ∈ names ∧ (e.statuses.get name).slotsServed ≠ [] := by
  simp [PlanEnv.owners]

variable {m : OwnerMatch}

theorem mem_ownerMatches {statuses : Statuses} {ranges : List SlotRange}
    (h : m ∈ ownerMatches statuses ranges name) : m.pod = name ∧ m.shard < ranges.length := by
  obtain ⟨hmem, -⟩ := List.mem_filter.mp h
  obtain ⟨⟨target, shard⟩, hidx, rfl⟩ := List.mem_map.mp hmem
  refine ⟨rfl, ?_⟩
  have := List.mem_zipIdx hidx
  simpa using this.2.1

theorem mem_rankOwnersByOverlap {owners : List String} {statuses : Statuses}
    {ranges : List SlotRange} (h : m ∈ rankOwnersByOverlap owners statuses ranges) :
    m.pod ∈ owners ∧ m.shard < ranges.length := by
  rw [rankOwnersByOverlap, List.mem_insertionSort] at h
  obtain ⟨name, hname, hm⟩ := List.mem_flatMap.mp h
  obtain ⟨rfl, hlt⟩ := mem_ownerMatches hm
  exact ⟨hname, hlt⟩

/-- Every placed pod owns the shard it is placed in. -/
def AllOwners (l : ShardLayout) : Prop :=
  ∀ {name s}, l.shardOf.lookup name = some s → l.ownerOf.lookup s = some name

theorem claim_shardOf (l : ShardLayout) (name : String) (shard : Nat) :
    (e.claim l name shard).shardOf = l.shardOf.insert name shard := by
  unfold PlanEnv.claim
  split <;> rfl

theorem claim_ownerOf (l : ShardLayout) (name : String) (shard : Nat) :
    (e.claim l name shard).ownerOf = l.ownerOf.insert shard name := by
  unfold PlanEnv.claim
  split <;> rfl

theorem claim_members (l : ShardLayout) (name : String) (shard : Nat) :
    (e.claim l name shard).members = (l.assign name shard).members := by
  unfold PlanEnv.claim
  split <;> rfl

theorem AllOwners.claim (h : AllOwners l) (hs : Sound e names l)
    (hunused : l.used shard = false) : AllOwners (e.claim l name shard) := by
  intro n s hl
  rw [claim_shardOf, GoMap.lookup_insert] at hl
  rw [claim_ownerOf, GoMap.lookup_insert]
  split at hl
  · rename_i hn
    obtain rfl := Option.some.inj hl
    simp [hn]
  · have hne : s ≠ shard := by
      rintro rfl
      exact hs.members_of_unused hunused n hl
    rw [if_neg hne]
    exact h hl

theorem claimMatch_sound (h : Sound e names l) (ho : AllOwners l) (hm : m.pod ∈ e.owners names) :
    Sound e names (e.claimMatch l m) ∧ AllOwners (e.claimMatch l m) := by
  unfold PlanEnv.claimMatch
  split
  · exact ⟨h, ho⟩
  · rename_i hguard
    rw [not_or] at hguard
    have hunused : l.used m.shard = false := by simpa using hguard.2
    obtain ⟨hmem, hserves⟩ := mem_owners.mp hm
    exact ⟨h.claim hmem hguard.1 hserves hunused, ho.claim h hunused⟩

theorem claimLeftover_sound (h : Sound e names l) (ho : AllOwners l) (hn : name ∈ e.owners names) :
    Sound e names (e.claimLeftover l name) ∧ AllOwners (e.claimLeftover l name) := by
  unfold PlanEnv.claimLeftover
  split
  · exact ⟨h, ho⟩
  · rename_i hnew
    obtain ⟨hmem, hserves⟩ := mem_owners.mp hn
    exact ⟨h.claim hmem hnew hserves (used_lowestUnused l), ho.claim h (used_lowestUnused l)⟩

theorem claimed_sound (hne : "" ∉ names) :
    Sound e names (e.claimed names) ∧ AllOwners (e.claimed names) := by
  refine List.foldlRecOn (motive := fun l => Sound e names l ∧ AllOwners l) _ _ ?_ ?_
  · refine List.foldlRecOn (motive := fun l => Sound e names l ∧ AllOwners l) _ _
      ⟨sound_empty hne, ?_⟩ ?_
    · intro name s hl
      simp at hl
    · rintro l ⟨hs, ho⟩ m hm
      exact claimMatch_sound hs ho (mem_rankOwnersByOverlap hm).1
  · rintro l ⟨hs, ho⟩ name hn
    exact claimLeftover_sound hs ho hn

/-! ## Followers and free pods -/

/-- A list of pods that are still to be placed. -/
structure Unplaced (names : List String) (l : ShardLayout) (free : List String) : Prop where
  nodup : free.Nodup
  mem : ∀ n ∈ free, n ∈ names
  new : ∀ n ∈ free, n ∉ l.shardOf

variable {free : List String}

theorem Unplaced.assign_tail
    (h : Unplaced names l (name :: free)) (shard : Nat) :
    Unplaced names (l.assign name shard) free where
  nodup := h.nodup.of_cons
  mem n hn := h.mem n (List.mem_cons_of_mem _ hn)
  new n hn := by
    rw [ShardLayout.assign_shardOf, GoMap.mem_insert, not_or]
    refine ⟨?_, h.new n (List.mem_cons_of_mem _ hn)⟩
    rintro rfl
    exact (List.nodup_cons.mp h.nodup).1 hn

theorem Unplaced.sublist {free' : List String} (h : Unplaced names l free)
    (hsub : free'.Sublist free) : Unplaced names l free' where
  nodup := h.nodup.sublist hsub
  mem n hn := h.mem n (hsub.subset hn)
  new n hn := h.new n (hsub.subset hn)

theorem Sound.inherit (h : Sound e names l)
    (hplaced : l.shardOf.lookup name = some shard) : Sound e names (e.inherit l shard name) := by
  unfold PlanEnv.inherit
  split
  · rename_i hc
    exact h.setPrimary hplaced hc.2 hc.1
  · exact h

theorem inherit_shardOf (l : ShardLayout) (shard : Nat) (name : String) :
    (e.inherit l shard name).shardOf = l.shardOf := by
  unfold PlanEnv.inherit
  split <;> rfl

theorem inherit_ownerOf (l : ShardLayout) (shard : Nat) (name : String) :
    (e.inherit l shard name).ownerOf = l.ownerOf := by
  unfold PlanEnv.inherit
  split <;> rfl

/-- What one step of the follower loop does with a pod: nothing if it is
    placed, otherwise place it in a shard or set it aside. -/
theorem placeFollower_cases (e : PlanEnv) (l : ShardLayout) (free : List String) (name : String) :
    (name ∈ l.shardOf ∧ e.placeFollower (l, free) name = (l, free)) ∨
    (name ∉ l.shardOf ∧ ∃ shard l', e.placeFollower (l, free) name = (l', free) ∧
      (l' = l.assign name shard ∨ l' = e.inherit (l.assign name shard) shard name)) ∨
    (name ∉ l.shardOf ∧ e.placeFollower (l, free) name = (l, free ++ [name])) := by
  unfold PlanEnv.placeFollower
  by_cases hp : name ∈ l.shardOf
  · exact Or.inl ⟨hp, by simp [hp]⟩
  · simp only [hp, ↓reduceIte, false_and, false_or, not_false_eq_true, true_and]
    cases e.followedShard l name with
    | some shard => exact Or.inl ⟨shard, _, rfl, Or.inr rfl⟩
    | none =>
      cases e.labelledShard name with
      | some shard =>
        refine Or.inl ⟨shard, _, rfl, ?_⟩
        by_cases hlab : e.primaryLabel.get name = true
        · exact Or.inr (if_pos hlab)
        · exact Or.inl (if_neg hlab)
      | none => exact Or.inr rfl

theorem Sound.placeFollower (h : Sound e names l) (free : List String)
    (hmem : name ∈ names) : Sound e names (e.placeFollower (l, free) name).1 := by
  rcases placeFollower_cases e l free name with ⟨-, heq⟩ | ⟨hnew, shard, l', heq, hl'⟩ | ⟨-, heq⟩
  · rwa [heq]
  · rw [heq]
    have hassign := h.assign shard hmem hnew
    rcases hl' with rfl | rfl
    · exact hassign
    · exact hassign.inherit (by simp)
  · rwa [heq]

/-- The step places at most the pod whose turn it is, and sets it aside if it does not. -/
theorem placeFollower_free (e : PlanEnv) (l : ShardLayout) (free : List String) (name : String) :
    (∀ n, n ≠ name → (n ∈ (e.placeFollower (l, free) name).1.shardOf ↔ n ∈ l.shardOf)) ∧
      (e.placeFollower (l, free) name).2 =
        if name ∈ (e.placeFollower (l, free) name).1.shardOf then free else free ++ [name] := by
  rcases placeFollower_cases e l free name with ⟨hin, heq⟩ | ⟨-, shard, l', heq, hl'⟩ | ⟨hnew, heq⟩
  · rw [heq]
    exact ⟨fun _ _ => Iff.rfl, (if_pos hin).symm⟩
  · have hshard : l'.shardOf = l.shardOf.insert name shard := by
      rcases hl' with rfl | rfl
      · rfl
      · rw [inherit_shardOf, ShardLayout.assign_shardOf]
    rw [heq]
    dsimp only
    rw [hshard, if_pos (GoMap.mem_insert.mpr (Or.inl rfl))]
    exact ⟨fun n hn => GoMap.mem_insert.trans (or_iff_right hn), rfl⟩
  · rw [heq]
    exact ⟨fun _ _ => Iff.rfl, (if_neg hnew).symm⟩

/-- The pods of a list that have no shard. -/
def outside (l : ShardLayout) (names : List String) : List String :=
  names.filter fun name => decide (name ∉ l.shardOf)

/-- The free pods are the ones the follower loop does not place, in order. -/
theorem followed_free (hnodup : names.Nodup) :
    (e.followed names).2 = outside (e.followed names).1 names := by
  have hfold : ∀ (rest done free : List String) (l : ShardLayout), (done ++ rest).Nodup →
      free = outside l done → (rest.foldl e.placeFollower (l, free)).2 =
        outside (rest.foldl e.placeFollower (l, free)).1 (done ++ rest) := by
    intro rest
    induction rest with
    | nil => exact fun done free l _ hfree => by simpa using hfree
    | cons name rest ih =>
      intro done free l hdone hfree
      obtain ⟨hother, hstep⟩ := placeFollower_free e l free name
      have hsame : outside (e.placeFollower (l, free) name).1 done = free := by
        rw [hfree]
        refine List.filter_congr fun n hn => decide_eq_decide.mpr (not_congr ?_)
        rw [← hfree]
        refine hother n ?_
        rintro rfl
        exact (List.nodup_append.mp hdone).2.2 n hn n (List.mem_cons_self ..) rfl
      have hfree' : (e.placeFollower (l, free) name).2 =
          outside (e.placeFollower (l, free) name).1 (done ++ [name]) := by
        rw [hstep, outside, List.filter_append, ← outside, hsame]
        split
        · rename_i hin
          simp [hin]
        · rename_i hout
          simp [hout]
      simpa using ih (done ++ [name]) _ _ (by simpa using hdone) hfree'
  simpa [PlanEnv.followed] using hfold names [] [] (e.claimed names) (by simpa using hnodup) rfl

theorem followed_sound (hne : "" ∉ names) (hnodup : names.Nodup) :
    Sound e names (e.followed names).1 ∧
    Unplaced names (e.followed names).1 (e.followed names).2 := by
  refine ⟨List.foldlRecOn (motive := fun acc : ShardLayout × List String => Sound e names acc.1)
    _ _ (claimed_sound hne).1 fun acc h name hname => h.placeFollower acc.2 hname, ?_⟩
  rw [followed_free hnodup]
  refine ⟨hnodup.filter _, fun n hn => List.mem_of_mem_filter hn, fun n hn => ?_⟩
  exact of_decide_eq_true (List.mem_filter.mp hn).2

/-! ## Survivors -/

/-- The shards of a list that have no primary yet. -/
def unled (l : ShardLayout) (shards : List Nat) : List Nat :=
  shards.filter fun s => decide (l.primaryOf.get s = "")

variable {shards : List Nat}

/-- A step that sets the primary of `shard` does not change which of the other shards are unled. -/
theorem unled_congr {l' : ShardLayout}
    (h : ∀ s ∈ shards, l'.primaryOf.get s = l.primaryOf.get s) : unled l' shards = unled l shards :=
  List.filter_congr fun s hs => by rw [h s hs]

/-- The fill loop gives the unled shards to the survivors, in order. -/
theorem foldl_fillShard_eq (hnodup : shards.Nodup) (l : ShardLayout) (survivors : List String) :
    shards.foldl fillShard (l, survivors) =
      (((unled l shards).zip survivors).foldl ShardLayout.fill l,
        survivors.drop (unled l shards).length) := by
  induction shards generalizing l survivors with
  | nil => simp [unled]
  | cons shard shards ih =>
    obtain ⟨hshard, hnodup'⟩ := List.nodup_cons.mp hnodup
    rw [List.foldl_cons]
    by_cases hp : l.primaryOf.get shard = ""
    · have hunled : unled l (shard :: shards) = shard :: unled l shards := by simp [unled, hp]
      cases survivors with
      | nil => simpa [fillShard] using ih hnodup' l []
      | cons name survivors =>
        have hstep : fillShard (l, name :: survivors) shard = (l.fill (shard, name), survivors) :=
          if_neg (not_not.mpr hp)
        have hrest : unled (l.fill (shard, name)) shards = unled l shards := by
          refine unled_congr fun s hs => ?_
          rw [ShardLayout.fill_primaryOf_get, if_neg fun hh : s = shard => hshard (hh ▸ hs)]
        rw [hstep, ih hnodup', hrest, hunled]
        rfl
    · have hunled : unled l (shard :: shards) = unled l shards := by simp [unled, hp]
      have hstep : fillShard (l, survivors) shard = (l, survivors) := by
        cases survivors with
        | nil => rfl
        | cons name survivors => exact if_pos hp
      rw [hstep, hunled, ih hnodup']

/-- What the pairs of the fill loop are: pods that survive and are not placed,
    for different shards that nobody leads. -/
structure Fills (e : PlanEnv) (names : List String) (l : ShardLayout)
    (pairs : List (Nat × String)) : Prop where
  unplaced : Unplaced names l (pairs.map Prod.snd)
  live : ∀ pair ∈ pairs, e.doomed pair.2 = false
  nodup : (pairs.map Prod.fst).Nodup
  unled : ∀ pair ∈ pairs, l.primaryOf.get pair.1 = ""

variable {pairs : List (Nat × String)}

theorem Fills.tail {pair : Nat × String}
    (h : Fills e names l (pair :: pairs)) : Fills e names (l.fill pair) pairs where
  unplaced := by
    have htail := h.unplaced.assign_tail pair.1
    exact ⟨htail.nodup, htail.mem, htail.new⟩
  live p hp := h.live p (List.mem_cons_of_mem _ hp)
  nodup := h.nodup.of_cons
  unled p hp := by
    have hne : p.1 ≠ pair.1 := fun heq =>
      (List.nodup_cons.mp h.nodup).1 (heq ▸ List.mem_map_of_mem hp)
    rw [ShardLayout.fill_primaryOf_get, if_neg hne]
    exact h.unled p (List.mem_cons_of_mem _ hp)

theorem Fills.sound_fill {pair : Nat × String}
    (h : Fills e names l (pair :: pairs)) (hs : Sound e names l) : Sound e names (l.fill pair) :=
  (hs.assign pair.1 (h.unplaced.mem _ (List.mem_cons_self ..))
    (h.unplaced.new _ (List.mem_cons_self ..))).setPrimary (by simp)
    (h.live pair (List.mem_cons_self ..)) (h.unled pair (List.mem_cons_self ..))

theorem Fills.sound (h : Fills e names l pairs)
    (hs : Sound e names l) : Sound e names (pairs.foldl ShardLayout.fill l) := by
  induction pairs generalizing l with
  | nil => exact hs
  | cons pair pairs ih => exact ih h.tail (h.sound_fill hs)

theorem mem_foldl_fill_shardOf : name ∈ (pairs.foldl ShardLayout.fill l).shardOf ↔
      name ∈ pairs.map Prod.snd ∨ name ∈ l.shardOf := by
  induction pairs generalizing l with
  | nil => simp
  | cons pair pairs ih =>
    rw [List.foldl_cons, ih, List.map_cons, List.mem_cons]
    simp only [ShardLayout.fill, ShardLayout.setPrimary_shardOf, ShardLayout.assign_shardOf,
      GoMap.mem_insert]
    tauto

/-- The shards that are filled get their pods, and the others keep what they had. -/
theorem foldl_fill_primaryOf_get {pairs : List (Nat × String)} {l : ShardLayout}
    (hnodup : (pairs.map Prod.fst).Nodup) :
    (∀ name, (s, name) ∈ pairs → (pairs.foldl ShardLayout.fill l).primaryOf.get s = name) ∧
      (s ∉ pairs.map Prod.fst →
        (pairs.foldl ShardLayout.fill l).primaryOf.get s = l.primaryOf.get s) := by
  induction pairs generalizing l with
  | nil => exact ⟨fun _ hno => (List.not_mem_nil hno).elim, fun _ => rfl⟩
  | cons pair pairs ih =>
    rw [List.map_cons, List.nodup_cons] at hnodup
    obtain ⟨hin, hout⟩ := ih (l := l.fill pair) hnodup.2
    rw [List.foldl_cons]
    refine ⟨fun name hmem => ?_, fun hnot => ?_⟩
    · rcases List.mem_cons.mp hmem with rfl | hmem
      · rw [hout hnodup.1, ShardLayout.fill_primaryOf_get, if_pos rfl]
      · exact hin name hmem
    · rw [List.map_cons, List.mem_cons, not_or] at hnot
      rw [hout hnot.2, ShardLayout.fill_primaryOf_get, if_neg hnot.1]

/-- The wanted shards the follower loop leaves without a primary. -/
def vacant (e : PlanEnv) (names : List String) : List Nat :=
  unled (e.followed names).1 (List.range e.shardCount)

/-- The free pods the fill stage may hand out. -/
def survivors (e : PlanEnv) (names : List String) : List String :=
  (e.followed names).2.filter fun name => !(e.doomed name)

/-- The vacant shards with the survivor each is given. -/
def fills (e : PlanEnv) (names : List String) : List (Nat × String) :=
  (e.vacant names).zip (e.survivors names)

theorem filled_eq (e : PlanEnv) (names : List String) :
    e.filled names = ((e.fills names).foldl ShardLayout.fill (e.followed names).1,
      (e.survivors names).drop (e.vacant names).length) :=
  foldl_fillShard_eq List.nodup_range _ _

theorem vacant_nodup : (e.vacant names).Nodup := List.nodup_range.filter _

theorem map_fst_fills : (e.fills names).map Prod.fst =
    (e.vacant names).take (e.survivors names).length := map_fst_zip_eq_take ..

theorem map_snd_fills : (e.fills names).map Prod.snd =
    (e.survivors names).take (e.vacant names).length := map_snd_zip_eq_take ..

theorem unplaced_survivors (hne : "" ∉ names) (hnodup : names.Nodup) :
    Unplaced names (e.followed names).1 (e.survivors names) :=
  (followed_sound hne hnodup).2.sublist List.filter_sublist

theorem fills_spec (hne : "" ∉ names) (hnodup : names.Nodup) :
    Fills e names (e.followed names).1 (e.fills names) where
  unplaced := by
    rw [map_snd_fills]
    exact (unplaced_survivors hne hnodup).sublist (List.take_sublist ..)
  live pair hpair := by
    have hmem := (List.mem_filter.mp (List.of_mem_zip hpair).2).2
    simpa using hmem
  nodup := by
    rw [map_fst_fills]
    exact vacant_nodup.sublist (List.take_sublist ..)
  unled pair hpair := of_decide_eq_true (List.mem_filter.mp (List.of_mem_zip hpair).1).2

theorem mem_filled_shardOf : name ∈ (e.filled names).1.shardOf ↔
    name ∈ (e.survivors names).take (e.vacant names).length ∨
      name ∈ (e.followed names).1.shardOf := by
  rw [filled_eq, ← map_snd_fills]
  exact mem_foldl_fill_shardOf

theorem filled_sound (hne : "" ∉ names) (hnodup : names.Nodup) :
    Sound e names (e.filled names).1 ∧ Unplaced names (e.filled names).1 (e.filled names).2 := by
  have hun := unplaced_survivors (e := e) hne hnodup
  have hrest := hun.sublist (List.drop_sublist (e.vacant names).length _)
  refine ⟨?_, ?_, ?_, ?_⟩
  · rw [filled_eq]
    exact (fills_spec hne hnodup).sound (followed_sound hne hnodup).1
  · rw [filled_eq]
    exact hrest.nodup
  · rw [filled_eq]
    exact hrest.mem
  · intro name hname hplaced
    rw [filled_eq] at hname
    rcases mem_filled_shardOf.mp hplaced with htaken | hplaced
    · exact List.disjoint_take_drop hun.nodup (Nat.le_refl _) htaken hname
    · exact hrest.new name hname hplaced

/-! ## Heirs -/

/-- A surviving member of a shard with several members that does not lead it. -/
def Spare (e : PlanEnv) (l : ShardLayout) (name : String) : Prop :=
  ∃ s, name ∈ l.members.get s ∧ 1 < (l.members.get s).length ∧ name ≠ l.primaryOf.get s ∧
    e.doomed name = false

/-- The loop invariant of `spareSurvivor`: nothing found yet and no visited
    entry had a spare, or a spare is at hand. -/
def SpareFound (e : PlanEnv) (l : ShardLayout) (visited : List (Nat × List String))
    (best : String × Nat) : Prop :=
  (best = ("", 1) ∧ ∀ s ms, (s, ms) ∈ visited → ∀ name ∈ ms, 1 < ms.length →
    name ≠ l.primaryOf.get s → e.doomed name = true) ∨
  (1 ≤ best.2 ∧ Spare e l best.1)

theorem spareStep_found {visited : List (Nat × List String)} {best : String × Nat}
    {ms : List String} (h : SpareFound e l visited best) (hms : l.members.get s = ms) :
    SpareFound e l (visited ++ [(s, ms)]) (l.spareStep e.doomed best (s, ms)) := by
  have hbest : 1 ≤ best.2 := by
    rcases h with ⟨rfl, -⟩ | ⟨h, -⟩
    · exact Nat.le_refl 1
    · exact h
  unfold ShardLayout.spareStep
  by_cases hlen : ms.length ≤ best.2
  · rw [if_pos hlen]
    rcases h with ⟨rfl, hnone⟩ | h
    · refine Or.inl ⟨rfl, ?_⟩
      intro s' ms' hmem
      rcases List.mem_append.mp hmem with hmem | hmem
      · exact hnone s' ms' hmem
      · obtain ⟨rfl, rfl⟩ := Prod.mk.inj (List.mem_singleton.mp hmem)
        intro name _ hlt
        exact absurd hlt (Nat.not_lt.mpr hlen)
    · exact Or.inr h
  · rw [if_neg hlen]
    have hlt : 1 < ms.length := by omega
    dsimp only
    cases hf : ms.find? fun name => name != l.primaryOf.get s && !e.doomed name with
    | some name =>
      have hpred := List.find?_some hf
      simp only [Bool.and_eq_true, bne_iff_ne, ne_eq, Bool.not_eq_eq_eq_not, Bool.not_true]
        at hpred
      refine Or.inr ⟨Nat.le_of_lt hlt, s, ?_, ?_, hpred.1, hpred.2⟩
      · rw [hms]
        exact List.mem_of_find?_eq_some hf
      · rw [hms]
        exact hlt
    | none =>
      rcases h with ⟨rfl, hnone⟩ | h
      · refine Or.inl ⟨rfl, ?_⟩
        intro s' ms' hmem
        rcases List.mem_append.mp hmem with hmem | hmem
        · exact hnone s' ms' hmem
        · obtain ⟨rfl, rfl⟩ := Prod.mk.inj (List.mem_singleton.mp hmem)
          intro name hname _ hne
          have := List.find?_eq_none.mp hf name hname
          simpa [hne] using this
      · exact Or.inr h

theorem foldl_spareStep_found {entries visited : List (Nat × List String)} {best : String × Nat}
    (h : SpareFound e l visited best) (hms : ∀ s ms, (s, ms) ∈ entries → l.members.get s = ms) :
    SpareFound e l (visited ++ entries) (entries.foldl (l.spareStep e.doomed) best) := by
  induction entries generalizing visited best with
  | nil => simpa using h
  | cons entry entries ih =>
    obtain ⟨s, ms⟩ := entry
    have hstep := spareStep_found h (hms s ms (List.mem_cons_self ..))
    have := ih hstep fun s' ms' hmem => hms s' ms' (List.mem_cons_of_mem _ hmem)
    simpa using this

/-- `spareSurvivor` finds a spare when there is one, and a spare only. -/
theorem spareSurvivor_spec (h : Sound e names l) (order : MapOrder) :
    (l.spareSurvivor order e.doomed ≠ "" → Spare e l (l.spareSurvivor order e.doomed)) ∧
    (l.spareSurvivor order e.doomed = "" → ∀ name, ¬ Spare e l name) := by
  have hperm := order.visitMembers_perm l.members.pairs
  have hms : ∀ s ms, (s, ms) ∈ order.visitMembers l.members.pairs → l.members.get s = ms :=
    fun s ms hmem => GoMap.get_of_lookup (GoMap.mem_pairs.mp (hperm.mem_iff.mp hmem))
  have hstart : SpareFound e l [] ("", 1) := Or.inl ⟨rfl, by simp⟩
  have hfound := foldl_spareStep_found hstart hms
  rw [List.nil_append] at hfound
  rcases hfound with ⟨hbest, hnone⟩ | ⟨-, hspare⟩
  · have hempty : l.spareSurvivor order e.doomed = "" := congrArg Prod.fst hbest
    refine ⟨fun hh => absurd hempty hh, ?_⟩
    rintro - name ⟨s, hmem, hlen, hne, hlive⟩
    have hlook : l.members.lookup s = some (l.members.get s) := by
      unfold GoMap.get at hmem ⊢
      cases hl : l.members.lookup s with
      | none =>
        rw [hl] at hmem
        cases hmem
      | some ms => rfl
    have hin := hperm.mem_iff.mpr (GoMap.mem_pairs.mpr hlook)
    rw [hnone s _ hin name hmem hlen hne] at hlive
    cases hlive
  · refine ⟨fun _ => hspare, fun hempty => ?_⟩
    obtain ⟨s, hmem, -⟩ := hspare
    have := h.placed_mem (h.members_iff.mp hmem)
    exact absurd (hempty ▸ this) h.no_empty

/-- A spare leads no shard at all. -/
theorem Sound.spare_not_primary (h : Sound e names l) (hs : Spare e l name)
    (s : Nat) : l.primaryOf.get s ≠ name := by
  rintro rfl
  obtain ⟨t, hmem, -, hne, -⟩ := hs
  have hplaced := h.members_iff.mp hmem
  by_cases hp : l.primaryOf.get s = ""
  · rw [hp] at hplaced
    exact h.no_empty (h.placed_mem hplaced)
  · have heq : s = t := Option.some.inj ((h.primary_placed hp).symm.trans hplaced)
    exact hne (heq ▸ rfl)

/-- A spare takes over a shard without a primary. -/
theorem Sound.promoteSpare (h : Sound e names l) (hs : Spare e l name)
    (hfree : l.primaryOf.get shard = "") :
    Sound e names ((l.move name shard).setPrimary shard name) := by
  have hnot := h.spare_not_primary hs
  obtain ⟨source, hmem, -, -, hlive⟩ := hs
  exact (h.move shard (h.members_iff.mp hmem) hlive hnot).setPrimary (by simp) hlive hfree

theorem borrowHeirs_sound (order : MapOrder) (h : Sound e names l) :
    Sound e names (e.borrowHeirs order l shards) := by
  induction shards generalizing l with
  | nil => exact h
  | cons shard shards ih =>
    unfold PlanEnv.borrowHeirs
    split
    · exact ih h
    · rename_i hguard
      rw [not_or, not_not] at hguard
      dsimp only
      split
      · exact h
      · rename_i hheir
        exact ih (h.promoteSpare ((spareSurvivor_spec h order).1 hheir) hguard.1)

/-- Borrowing heirs moves pods between shards and places no new one. -/
theorem mem_borrowHeirs_shardOf (order : MapOrder) (h : Sound e names l)
    : name ∈ (e.borrowHeirs order l shards).shardOf ↔ name ∈ l.shardOf := by
  induction shards generalizing l with
  | nil => rfl
  | cons shard shards ih =>
    unfold PlanEnv.borrowHeirs
    split
    · exact ih h
    · rename_i hguard
      rw [not_or, not_not] at hguard
      dsimp only
      split
      · rfl
      · rename_i hheir
        have hspare := (spareSurvivor_spec h order).1 hheir
        rw [ih (h.promoteSpare hspare hguard.1), ShardLayout.setPrimary_shardOf,
          ShardLayout.move_shardOf, GoMap.mem_insert, or_iff_right_of_imp]
        rintro rfl
        obtain ⟨source, hmem, -⟩ := hspare
        exact GoMap.mem_of_lookup (h.members_iff.mp hmem)

theorem borrowHeirs_ownerOf (order : MapOrder) :
    (e.borrowHeirs order l shards).ownerOf = l.ownerOf := by
  induction shards generalizing l with
  | nil => rfl
  | cons shard shards ih =>
    unfold PlanEnv.borrowHeirs
    split
    · exact ih
    · dsimp only
      split
      · rfl
      · exact ih

/-! ## The rest of the free pods -/

theorem foldl_spreadFree_sound (h : Sound e names l)
    (hun : Unplaced names l free) : Sound e names (free.foldl e.spreadFree l) := by
  induction free generalizing l with
  | nil => exact h
  | cons name free ih =>
    exact ih (h.assign _ (hun.mem name (List.mem_cons_self ..))
      (hun.new name (List.mem_cons_self ..))) (hun.assign_tail _)

theorem foldl_spreadFree_primaryOf : (free.foldl e.spreadFree l).primaryOf = l.primaryOf := by
  induction free generalizing l with
  | nil => rfl
  | cons name free ih => exact ih

theorem foldl_spreadFree_ownerOf : (free.foldl e.spreadFree l).ownerOf = l.ownerOf := by
  induction free generalizing l with
  | nil => rfl
  | cons name free ih => exact ih

theorem mem_foldl_spreadFree_shardOf :
    name ∈ (free.foldl e.spreadFree l).shardOf ↔ name ∈ free ∨ name ∈ l.shardOf := by
  induction free generalizing l with
  | nil => simp
  | cons n free ih =>
    rw [List.foldl_cons, ih]
    simp only [PlanEnv.spreadFree, ShardLayout.assign_shardOf, GoMap.mem_insert, List.mem_cons]
    tauto

/-- The pods left for the last loop are the ones not placed yet. -/
theorem unplaced_borrowed (order : MapOrder) (hne : "" ∉ names) (hnodup : names.Nodup) :
    Unplaced names (e.borrowed order names)
      ((e.filled names).2 ++ (e.followed names).2.filter e.doomed) := by
  have hunfol := (followed_sound (e := e) hne hnodup).2
  obtain ⟨hfil, hunfil⟩ := filled_sound (e := e) hne hnodup
  have hlive : ∀ n ∈ e.survivors names, e.doomed n = false := by
    intro n hn
    simpa using (List.mem_filter.mp hn).2
  refine ⟨?_, ?_, ?_⟩
  · rw [List.nodup_append]
    refine ⟨hunfil.nodup, hunfol.nodup.filter _, ?_⟩
    rintro a ha b hb rfl
    rw [filled_eq] at ha
    have hd := hlive a (List.mem_of_mem_drop ha)
    rw [(List.mem_filter.mp hb).2] at hd
    cases hd
  · intro n hn
    rcases List.mem_append.mp hn with hn | hn
    · exact hunfil.mem n hn
    · exact hunfol.mem n (List.mem_filter.mp hn).1
  · intro n hn
    rw [PlanEnv.borrowed, mem_borrowHeirs_shardOf order hfil]
    rcases List.mem_append.mp hn with hn | hn
    · exact hunfil.new n hn
    · obtain ⟨hin, hd⟩ := List.mem_filter.mp hn
      intro hpl
      rcases mem_filled_shardOf.mp hpl with hpl | hpl
      · rw [hlive n (List.mem_of_mem_take hpl)] at hd
        cases hd
      · exact hunfol.new n hin hpl

theorem spread_sound (order : MapOrder) (hne : "" ∉ names) (hnodup : names.Nodup) :
    Sound e names (e.spread order names) :=
  foldl_spreadFree_sound (borrowHeirs_sound order (filled_sound hne hnodup).1)
    (unplaced_borrowed order hne hnodup)

/-- The planner places every pod. -/
theorem spread_covers (order : MapOrder) (hne : "" ∉ names) (hnodup : names.Nodup)
    (h : name ∈ names) : name ∈ (e.spread order names).shardOf := by
  unfold PlanEnv.spread
  rw [mem_foldl_spreadFree_shardOf, PlanEnv.borrowed,
    mem_borrowHeirs_shardOf order (filled_sound hne hnodup).1, List.mem_append, List.mem_filter,
    mem_filled_shardOf, filled_eq]
  by_cases hplaced : name ∈ (e.followed names).1.shardOf
  · exact Or.inr (Or.inr hplaced)
  · have hfree : name ∈ (e.followed names).2 := by
      rw [followed_free hnodup]
      exact List.mem_filter.mpr ⟨h, decide_eq_true hplaced⟩
    by_cases hd : e.doomed name = true
    · exact Or.inl (Or.inr ⟨hfree, hd⟩)
    -- a free survivor is taken by a shard or left for the last loop
    · have hin : name ∈ e.survivors names := List.mem_filter.mpr ⟨hfree, by simpa using hd⟩
      rw [← List.take_append_drop (e.vacant names).length (e.survivors names),
        List.mem_append] at hin
      exact hin.elim (fun htaken => Or.inr (Or.inl htaken)) fun hleft => Or.inl (Or.inl hleft)

theorem planReplicaMoves_shardOf (l : ShardLayout) (replicasPerShard : Int) :
    (e.planReplicaMoves l replicasPerShard).shardOf = l.shardOf := by
  unfold PlanEnv.planReplicaMoves
  dsimp only
  split <;> rfl

theorem sortByIndex_perm (c : String) (ns : List String) : (sortByIndex c ns).Perm ns :=
  List.perm_insertionSort ..

/-- Sorting the members and planning replica moves keep the invariant. -/
theorem layout_sound (order : MapOrder) (replicasPerShard : Int) (hne : "" ∉ names)
    (hnodup : names.Nodup) : Sound e names (e.layout order names replicasPerShard) := by
  have h := spread_sound (e := e) order hne hnodup
  have hget : ∀ s, ((e.spread order names).members.mapValues (sortByIndex e.clusterName)).get s
      = sortByIndex e.clusterName ((e.spread order names).members.get s) := by
    intro s
    unfold GoMap.get
    rw [GoMap.lookup_mapValues]
    cases (e.spread order names).members.lookup s <;> rfl
  have hsorted : Sound e names { e.spread order names with
      members := (e.spread order names).members.mapValues (sortByIndex e.clusterName) } :=
    { h with
      members_iff := by
        intro name s
        dsimp only
        rw [hget, (sortByIndex_perm ..).mem_iff]
        exact h.members_iff
      members_nodup := by
        intro s
        dsimp only
        rw [hget, (sortByIndex_perm ..).nodup_iff]
        exact h.members_nodup s }
  unfold PlanEnv.layout PlanEnv.planReplicaMoves
  dsimp only
  split
  · exact hsorted
  · exact { hsorted with }

theorem planReplicaMoves_primaryOf (l : ShardLayout) (replicasPerShard : Int) :
    (e.planReplicaMoves l replicasPerShard).primaryOf = l.primaryOf := by
  unfold PlanEnv.planReplicaMoves
  dsimp only
  split <;> rfl

/-- The primaries are final once heirs are borrowed. -/
theorem layout_primaryOf (order : MapOrder) (replicasPerShard : Int) :
    (e.layout order names replicasPerShard).primaryOf = (e.borrowed order names).primaryOf := by
  rw [PlanEnv.layout, planReplicaMoves_primaryOf]
  exact foldl_spreadFree_primaryOf

end PlanEnv

/-! ## The planner's input and result -/

theorem desiredShardCount_pos (cluster : RedisCluster) : 0 < desiredShardCount cluster := by
  unfold desiredShardCount
  split
  · decide
  · omega

theorem labelOf_eq_collect (pods : List Pod) : labelOf pods =
    GoMap.collect (fun pod => (parseShardLabel pod).map fun index => (pod.name, index)) pods := by
  unfold labelOf GoMap.collect
  congr 1
  funext m pod
  dsimp only
  cases parseShardLabel pod <;> rfl

theorem primaryLabel_eq_collect (pods : List Pod) : primaryLabel pods =
    GoMap.collect (fun pod =>
      some (pod.name, decide (pod.labels.get labelShardRole = labelRolePrimary))) pods := rfl

theorem podByNodeID_eq_collect (order : MapOrder) (statuses : Statuses) :
    podByNodeID order statuses = GoMap.collect
      (fun p : String × InstanceStatus =>
        if p.2.nodeID = "" then none else some (p.2.nodeID, p.1))
      (order.visitStatuses statuses.pairs) := by
  unfold podByNodeID GoMap.collect
  congr 1
  funext m p
  dsimp only
  split <;> rfl

variable {name : String}

/-- Node ids name the pods that report them, whatever order the map is visited in. -/
theorem podByNodeID_lookup {statuses : Statuses} (order : MapOrder)
    {id : String} (h : (podByNodeID order statuses).lookup id = some name) :
    ∃ st, statuses.lookup name = some st ∧ st.nodeID = id ∧ id ≠ "" := by
  rw [podByNodeID_eq_collect] at h
  obtain ⟨p, hp, he⟩ := GoMap.of_lookup_collect h
  have hlook := GoMap.mem_pairs.mp ((order.visitStatuses_perm _).mem_iff.mp hp)
  split at he
  · cases he
  · rename_i hne
    cases he
    exact ⟨p.2, hlook, rfl, hne⟩

theorem podByNodeID_mem {statuses : Statuses} (order : MapOrder)
    {st : InstanceStatus} (hl : statuses.lookup name = some st) (hne : st.nodeID ≠ "") :
    st.nodeID ∈ podByNodeID order statuses := by
  rw [podByNodeID_eq_collect]
  exact GoMap.mem_collect_of_mem ((order.visitStatuses_perm _).mem_iff.mpr (GoMap.mem_pairs.mpr hl))
    (if_neg hne)

theorem mem_layoutNames {cluster : RedisCluster} {pods : List Pod} :
    name ∈ layoutNames cluster pods ↔
      (∃ i < cluster.spec.desiredDataInstances.toNat, name = podNameForIndex cluster.name i) ∨
      ∃ pod ∈ pods, name = pod.name := by
  have hfold : ∀ (pods : List Pod) (acc : List String),
      name ∈ pods.foldl (fun names pod => if pod.name ∈ names then names else names ++ [pod.name])
        acc ↔ name ∈ acc ∨ ∃ pod ∈ pods, name = pod.name := by
    intro pods
    induction pods with
    | nil => simp
    | cons pod pods ih =>
      intro acc
      rw [List.foldl_cons, ih]
      by_cases hp : pod.name ∈ acc
      · rw [if_pos hp]
        constructor
        · rintro (h | ⟨p, hp', h⟩)
          · exact Or.inl h
          · exact Or.inr ⟨p, List.mem_cons_of_mem _ hp', h⟩
        · rintro (h | ⟨p, hp', h⟩)
          · exact Or.inl h
          · rcases List.mem_cons.mp hp' with rfl | hp'
            · exact Or.inl (h ▸ hp)
            · exact Or.inr ⟨p, hp', h⟩
      · rw [if_neg hp]
        simp only [List.mem_append, List.mem_cons, exists_eq_or_imp]
        tauto
  unfold layoutNames sortByIndex
  rw [List.mem_insertionSort, hfold, List.mem_map]
  simp only [List.mem_range, eq_comm]

theorem layoutNames_nodup (cluster : RedisCluster) (pods : List Pod) :
    (layoutNames cluster pods).Nodup := by
  have hfold : ∀ (pods : List Pod) (acc : List String), acc.Nodup →
      (pods.foldl (fun names pod => if pod.name ∈ names then names else names ++ [pod.name])
        acc).Nodup := by
    intro pods
    induction pods with
    | nil => exact fun _ h => h
    | cons pod pods ih =>
      intro acc hacc
      rw [List.foldl_cons]
      apply ih
      split
      · exact hacc
      · rename_i hnew
        rw [List.nodup_append]
        refine ⟨hacc, List.nodup_singleton _, ?_⟩
        rintro a ha b hb rfl
        exact hnew (List.mem_singleton.mp hb ▸ ha)
  unfold layoutNames sortByIndex
  rw [(List.perm_insertionSort ..).nodup_iff]
  exact hfold _ _ (List.nodup_range.map (podNameForIndex_injective _))

/-- The invariant of the planner's result, for every pod list without nameless pods. -/
theorem planShardLayout_sound (order : MapOrder) (cluster : RedisCluster) (pods : List Pod)
    (statuses : Statuses) (hpods : ∀ pod ∈ pods, pod.name ≠ "") :
    (planEnv order cluster pods statuses).Sound (layoutNames cluster pods)
      (planShardLayout order cluster pods statuses) := by
  refine PlanEnv.layout_sound order _ ?_ (layoutNames_nodup cluster pods)
  rw [mem_layoutNames]
  rintro (⟨i, -, h⟩ | ⟨pod, hpod, h⟩)
  · exact podNameForIndex_ne_empty _ _ h.symm
  · exact hpods pod hpod h.symm

/-- Every expected and every existing pod has a shard. -/
theorem planShardLayout_places (order : MapOrder) (cluster : RedisCluster) (pods : List Pod)
    (statuses : Statuses) (hpods : ∀ pod ∈ pods, pod.name ≠ "")
    (h : name ∈ layoutNames cluster pods) :
    name ∈ (planShardLayout order cluster pods statuses).shardOf := by
  have hne := (planShardLayout_sound order cluster pods statuses hpods).no_empty
  unfold planShardLayout PlanEnv.layout
  rw [PlanEnv.planReplicaMoves_shardOf]
  exact PlanEnv.spread_covers order hne (layoutNames_nodup cluster pods) h

end RedisOperator
