/-
  RedisOperator.Lib.GoMap

  Finite maps as Go programs use them: a lookup of a missing key yields the
  zero value, and a `range` loop visits every entry once in an order nothing
  may be assumed about.  The carrier is Mathlib's `AList` at a constant value
  type; the order of its entries stands for the order of the loop, so a
  statement over every `GoMap` is a statement over every visiting order.
-/

import Mathlib.Algebra.Group.Int.Defs
import Mathlib.Algebra.Group.Nat.Defs
import Mathlib.Data.List.AList
import Mathlib.Data.List.Induction
import Mathlib.Data.String.Basic

namespace Lib

/-- A Go map: entries with distinct keys. -/
def GoMap (κ ν : Type) : Type := AList fun _ : κ => ν

namespace GoMap

variable {κ ν : Type}

instance : EmptyCollection (GoMap κ ν) := inferInstanceAs (EmptyCollection (AList _))
instance : Inhabited (GoMap κ ν) := ⟨∅⟩
instance : Membership κ (GoMap κ ν) := inferInstanceAs (Membership κ (AList _))
-- `AList`'s own instance rewrites in its data, and evaluation stops there
instance [DecidableEq κ] [DecidableEq ν] : DecidableEq (GoMap κ ν) := fun m m' =>
  decidable_of_iff (m.entries = m'.entries) AList.ext_iff.symm

/-- The keys, each once. -/
def keys (m : GoMap κ ν) : List κ := AList.keys m

/-- The entries in the order a `range` loop visits them. -/
def pairs (m : GoMap κ ν) : List (κ × ν) := m.entries.map fun e => (e.1, e.2)

/-- `len(m)`. -/
def len (m : GoMap κ ν) : Nat := m.entries.length

theorem length_pairs (m : GoMap κ ν) : m.pairs.length = m.len := by simp [pairs, len]

@[simp] theorem not_mem_empty {k : κ} : k ∉ (∅ : GoMap κ ν) := AList.notMem_empty k

theorem mem_keys {m : GoMap κ ν} {k : κ} : k ∈ m.keys ↔ k ∈ m := AList.mem_keys.symm

theorem eq_empty_of_keys {m : GoMap κ ν} (h : m.keys = []) : m = ∅ :=
  AList.ext (List.map_eq_nil_iff.mp h)

theorem keys_nodup (m : GoMap κ ν) : m.keys.Nodup := AList.keys_nodup m

variable [DecidableEq κ]

/-- `v, ok := m[k]`. -/
def lookup (m : GoMap κ ν) (k : κ) : Option ν := AList.lookup k m

/-- `m[k]`: the entry, or the zero value. -/
def get [Inhabited ν] (m : GoMap κ ν) (k : κ) : ν := (m.lookup k).getD default

/-- `m[k] = v`. -/
def insert (m : GoMap κ ν) (k : κ) (v : ν) : GoMap κ ν := AList.insert k v m

/-- `delete(m, k)`. -/
def erase (m : GoMap κ ν) (k : κ) : GoMap κ ν := AList.erase k m

instance (k : κ) (m : GoMap κ ν) : Decidable (k ∈ m) :=
  inferInstanceAs (Decidable (k ∈ (show AList _ from m)))

/-- Replace every value, keeping keys and order. -/
def mapValues {ν' : Type} (f : ν → ν') (m : GoMap κ ν) : GoMap κ ν' where
  entries := m.entries.map fun e => ⟨e.1, f e.2⟩
  nodupKeys := by
    have hkeys : (m.entries.map fun e => (⟨e.1, f e.2⟩ : Sigma fun _ : κ => ν')).keys
        = m.entries.keys := by
      simp [List.keys, Function.comp_def]
    rw [List.NodupKeys, hkeys]
    exact m.nodupKeys

section Lookup

variable {m : GoMap κ ν} {k k' : κ} {v : ν}

@[simp] theorem lookup_empty : (∅ : GoMap κ ν).lookup k = none := rfl

@[simp] theorem lookup_insert_self : (m.insert k v).lookup k = some v := AList.lookup_insert m

theorem lookup_insert_ne (h : k' ≠ k) : (m.insert k v).lookup k' = m.lookup k' :=
  AList.lookup_insert_ne h

theorem lookup_insert : (m.insert k v).lookup k' = if k' = k then some v else m.lookup k' := by
  by_cases h : k' = k
  · subst h
    simp
  · simp [h, lookup_insert_ne h]

@[simp] theorem lookup_erase_self : (m.erase k).lookup k = none := AList.lookup_erase k m

theorem lookup_erase_ne (h : k' ≠ k) : (m.erase k).lookup k' = m.lookup k' :=
  AList.lookup_erase_ne h

theorem lookup_eq_none : m.lookup k = none ↔ k ∉ m := AList.lookup_eq_none

theorem lookup_isSome : (m.lookup k).isSome = true ↔ k ∈ m := AList.lookup_isSome

theorem mem_iff_lookup : k ∈ m ↔ ∃ v, m.lookup k = some v := by
  rw [← lookup_isSome, Option.isSome_iff_exists]

theorem mem_of_lookup (h : m.lookup k = some v) : k ∈ m := mem_iff_lookup.mpr ⟨v, h⟩

@[simp] theorem mem_insert : k' ∈ m.insert k v ↔ k' = k ∨ k' ∈ m := AList.mem_insert m

theorem mem_pairs : (k, v) ∈ m.pairs ↔ m.lookup k = some v := by
  unfold pairs
  constructor
  · intro h
    obtain ⟨e, he, heq⟩ := List.mem_map.mp h
    obtain ⟨rfl, rfl⟩ := Prod.mk.inj heq
    exact AList.mem_lookup_iff.mpr he
  · intro h
    exact List.mem_map.mpr ⟨⟨k, v⟩, AList.mem_lookup_iff.mp h, rfl⟩

theorem lookup_mapValues {ν' : Type} (f : ν → ν') (m : GoMap κ ν) (k : κ) :
    (mapValues f m).lookup k = (m.lookup k).map f := by
  cases h : m.lookup k with
  | none =>
    rw [lookup_eq_none, ← mem_keys] at h
    rw [Option.map_none, lookup_eq_none, ← mem_keys]
    simpa [mapValues, keys, AList.keys, List.keys, Function.comp_def] using h
  | some v =>
    have hv : (⟨k, v⟩ : Sigma fun _ : κ => ν) ∈ m.entries := AList.mem_lookup_iff.mp h
    exact AList.mem_lookup_iff.mpr (List.mem_map.mpr ⟨_, hv, rfl⟩)

end Lookup

section Get

variable [Inhabited ν] {m : GoMap κ ν} {k k' : κ} {v : ν}

@[simp] theorem get_empty_string : (∅ : GoMap κ String).get k = "" := rfl

@[simp] theorem get_empty_list {α : Type} : (∅ : GoMap κ (List α)).get k = [] := rfl

@[simp] theorem get_insert_self : (m.insert k v).get k = v := by
  simp [get]

theorem get_insert_ne (h : k' ≠ k) : (m.insert k v).get k' = m.get k' := by
  simp [get, lookup_insert_ne h]

theorem get_insert : (m.insert k v).get k' = if k' = k then v else m.get k' := by
  by_cases h : k' = k
  · subst h
    simp
  · simp [h, get_insert_ne h]

theorem get_of_lookup (h : m.lookup k = some v) : m.get k = v := by
  simp [get, h]

theorem get_of_not_mem (h : k ∉ m) : m.get k = default := by
  simp [get, lookup_eq_none.mpr h]

end Get

/-! ## Maps built by a loop -/

section Collect

variable {β : Type}

/-- The loop `for x in xs { if e := entry(x); ok { m[e.key] = e.value } }`. -/
def collect (entry : β → Option (κ × ν)) (xs : List β) : GoMap κ ν :=
  xs.foldl (fun m x => match entry x with
    | some e => m.insert e.1 e.2
    | none => m) ∅

variable {entry : β → Option (κ × ν)} {xs : List β} {k : κ} {v : ν}

/-- What a collected map holds was put there for one of the elements. -/
theorem of_lookup_collect (h : (collect entry xs).lookup k = some v) :
    ∃ x ∈ xs, entry x = some (k, v) := by
  induction xs using List.reverseRecOn with
  | nil => exact absurd h (by simp [collect])
  | append_singleton xs x ih =>
    rw [collect, List.foldl_append, List.foldl_cons, List.foldl_nil, ← collect] at h
    cases hx : entry x with
    | none =>
      rw [hx] at h
      obtain ⟨y, hy, he⟩ := ih h
      exact ⟨y, List.mem_append_left _ hy, he⟩
    | some e =>
      rw [hx] at h
      by_cases hk : k = e.1
      · subst hk
        rw [lookup_insert_self, Option.some_inj] at h
        subst h
        exact ⟨x, by simp, hx⟩
      · rw [lookup_insert_ne hk] at h
        obtain ⟨y, hy, he⟩ := ih h
        exact ⟨y, List.mem_append_left _ hy, he⟩

theorem mem_collect_of_mem {x : β} (hx : x ∈ xs) (he : entry x = some (k, v)) :
    k ∈ collect entry xs := by
  induction xs using List.reverseRecOn with
  | nil => exact absurd hx List.not_mem_nil
  | append_singleton xs y ih =>
    rw [collect, List.foldl_append, List.foldl_cons, List.foldl_nil, ← collect]
    rcases List.mem_append.mp hx with hx | hx
    · cases entry y with
      | none => exact ih hx
      | some e => exact mem_insert.mpr (Or.inr (ih hx))
    · rw [List.mem_singleton.mp hx] at he
      rw [he]
      exact mem_insert.mpr (Or.inl rfl)

/-- Where the elements with one key agree on its value, that is the value. -/
theorem lookup_collect {x : β} (hx : x ∈ xs) (he : entry x = some (k, v))
    (hsame : ∀ y ∈ xs, ∀ v', entry y = some (k, v') → v' = v) :
    (collect entry xs).lookup k = some v := by
  obtain ⟨v', hv'⟩ := mem_iff_lookup.mp (mem_collect_of_mem hx he)
  obtain ⟨y, hy, hey⟩ := of_lookup_collect hv'
  rw [hv', hsame y hy v' hey]

/-- Then the order of the elements does not matter either. -/
theorem lookup_collect_perm {ys : List β} (hperm : xs.Perm ys)
    (hsame : ∀ x ∈ xs, ∀ y ∈ xs, ∀ k v v', entry x = some (k, v) → entry y = some (k, v') → v = v')
    (k : κ) : (collect entry xs).lookup k = (collect entry ys).lookup k := by
  cases h : (collect entry xs).lookup k with
  | some v =>
    obtain ⟨x, hx, he⟩ := of_lookup_collect h
    exact (lookup_collect (hperm.mem_iff.mp hx) he fun y hy v' hey =>
      hsame y (hperm.mem_iff.mpr hy) x hx k v' v hey he).symm
  | none =>
    cases h' : (collect entry ys).lookup k with
    | none => rfl
    | some v =>
      obtain ⟨y, hy, he⟩ := of_lookup_collect h'
      exact absurd (mem_collect_of_mem (hperm.mem_iff.mpr hy) he) (lookup_eq_none.mp h)

/-- Where each element has a key of its own, the key has that element's entry. -/
theorem lookup_collect_key {key : β → κ} (hkey : ∀ x k v, entry x = some (k, v) → k = key x)
    (hnodup : (xs.map key).Nodup) {x : β} (hx : x ∈ xs) :
    (collect entry xs).lookup (key x) = (entry x).map Prod.snd := by
  cases he : entry x with
  | some e =>
    obtain ⟨k, v⟩ := e
    obtain rfl := hkey x k v he
    refine lookup_collect hx he fun y hy v' hey => ?_
    rw [List.inj_on_of_nodup_map hnodup hy hx (hkey y _ v' hey).symm, he] at hey
    exact (Prod.mk.inj (Option.some.inj hey)).2.symm
  | none =>
    cases hl : (collect entry xs).lookup (key x) with
    | none => rfl
    | some v =>
      obtain ⟨y, hy, hey⟩ := of_lookup_collect hl
      rw [List.inj_on_of_nodup_map hnodup hy hx (hkey y _ v hey).symm, he] at hey
      cases hey

end Collect

omit [DecidableEq κ] in
theorem map_fst_pairs (m : GoMap κ ν) : m.pairs.map Prod.fst = m.keys := by
  simp [pairs, keys, AList.keys, List.keys, Function.comp_def]

/-- A loop that may write each visited key leaves the others alone. -/
theorem lookup_foldl_of_not_mem {f : GoMap κ ν → κ × ν → GoMap κ ν}
    (hf : ∀ m e k, k ≠ e.1 → (f m e).lookup k = m.lookup k) {es : List (κ × ν)} {k : κ}
    (h : k ∉ es.map Prod.fst) (m : GoMap κ ν) : (es.foldl f m).lookup k = m.lookup k := by
  induction es generalizing m with
  | nil => rfl
  | cons e es ih =>
    rw [List.map_cons, List.mem_cons, not_or] at h
    rw [List.foldl_cons, ih h.2, hf m e k h.1]

/-- What such a loop establishes of a visited key it establishes for good. -/
theorem lookup_foldl_of_mem {f : GoMap κ ν → κ × ν → GoMap κ ν}
    (hf : ∀ m e k, k ≠ e.1 → (f m e).lookup k = m.lookup k) {es : List (κ × ν)}
    (hnodup : (es.map Prod.fst).Nodup) {e : κ × ν} (he : e ∈ es) {p : Option ν → Prop}
    (hp : ∀ m, p ((f m e).lookup e.1)) (m : GoMap κ ν) : p ((es.foldl f m).lookup e.1) := by
  induction es generalizing m with
  | nil => exact absurd he List.not_mem_nil
  | cons e' es ih =>
    rw [List.map_cons, List.nodup_cons] at hnodup
    rw [List.foldl_cons]
    rcases List.mem_cons.mp he with rfl | he
    · rw [lookup_foldl_of_not_mem hf hnodup.1]
      exact hp m
    · exact ih hnodup.2 he (f m e')

/-! ## Equality as maps -/

/-- `reflect.DeepEqual` of two maps: as many entries, and each one found in the other. -/
def deepEqual [DecidableEq ν] (m m' : GoMap κ ν) : Bool :=
  decide (m.len = m'.len) && m.pairs.all fun e => decide (m'.lookup e.1 = some e.2)

/-- Maps that are equal have the same entries, whatever their order. -/
theorem lookup_of_deepEqual [DecidableEq ν] {m m' : GoMap κ ν} (h : m.deepEqual m' = true) (k : κ) :
    m.lookup k = m'.lookup k := by
  simp only [deepEqual, Bool.and_eq_true, decide_eq_true_eq, List.all_eq_true] at h
  obtain ⟨hlen, hall⟩ := h
  have hsub : m.keys ⊆ m'.keys := by
    intro k hk
    obtain ⟨v, hv⟩ := mem_iff_lookup.mp (mem_keys.mp hk)
    exact mem_keys.mpr (mem_of_lookup (hall (k, v) (mem_pairs.mpr hv)))
  -- distinct keys, and no fewer of them: all keys
  have hperm : m.keys.Perm m'.keys := by
    refine (List.subperm_of_subset m.keys_nodup hsub).perm_of_length_le ?_
    simpa [keys, AList.keys, List.keys, len] using Nat.le_of_eq hlen.symm
  cases hv : m.lookup k with
  | some v => exact (hall (k, v) (mem_pairs.mpr hv)).symm
  | none =>
    rw [eq_comm, lookup_eq_none, ← mem_keys, ← hperm.mem_iff, mem_keys]
    exact lookup_eq_none.mp hv

theorem len_pos_iff {m : GoMap κ ν} : 0 < m.len ↔ ∃ k, k ∈ m := by
  rw [← length_pairs, List.length_pos_iff_exists_mem]
  constructor
  · rintro ⟨⟨k, v⟩, h⟩
    exact ⟨k, mem_of_lookup (mem_pairs.mp h)⟩
  · rintro ⟨k, hk⟩
    obtain ⟨v, hv⟩ := mem_iff_lookup.mp hk
    exact ⟨(k, v), mem_pairs.mpr hv⟩

end GoMap

end Lib
