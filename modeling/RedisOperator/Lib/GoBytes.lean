/-
  RedisOperator.Lib.GoBytes

  Go strings as the bytes they are.  A Go string need not be UTF-8, and
  `strings.TrimSpace` decodes it rune by rune: it cuts off, from both ends,
  byte sequences that encode white space, and stops at any other byte.

  `trimSpaceBytes_eq_self` says which strings it leaves alone.
-/


namespace Lib

/-- A Go string or byte slice. -/
abbrev Bytes : Type := List UInt8

/-- The bytes of a text. -/
def bytesOf (s : String) : Bytes := s.toUTF8.toList

/-! ## Cutting codes off the front -/

section

variable {α : Type} [BEq α] [LawfulBEq α]

/-- What follows the first of the codes that the list begins with. -/
def stripOne (codes : List (List α)) (xs : List α) : Option (List α) :=
  codes.findSome? fun code => if code.isPrefixOf xs then some (xs.drop code.length) else none

/-- Cut codes off the front while there is one, at most `fuel` times. -/
def strip (codes : List (List α)) : Nat → List α → List α
  | 0, xs => xs
  | fuel + 1, xs =>
    match stripOne codes xs with
    | none => xs
    | some rest => strip codes fuel rest

variable {codes : List (List α)} {xs : List α}

theorem stripOne_eq_none : stripOne codes xs = none ↔ ∀ code ∈ codes, ¬ code <+: xs := by
  simp [stripOne, List.findSome?_eq_none_iff]

theorem stripOne_eq_some {rest : List α} (h : stripOne codes xs = some rest) :
    ∃ code ∈ codes, xs = code ++ rest := by
  obtain ⟨code, hcode, hfound⟩ := List.exists_of_findSome?_eq_some h
  split at hfound
  next hfront =>
    obtain ⟨rest', rfl⟩ := List.isPrefixOf_iff_prefix.mp hfront
    simp only [List.drop_left, Option.some.injEq] at hfound
    exact ⟨code, hcode, by rw [hfound]⟩
  · cases hfound

/-- What is left is an end of the list. -/
theorem strip_suffix (fuel : Nat) (xs : List α) : strip codes fuel xs <:+ xs := by
  induction fuel generalizing xs with
  | zero => exact List.suffix_rfl
  | succ fuel ih =>
    unfold strip
    split
    · exact List.suffix_rfl
    next rest hrest =>
      obtain ⟨code, -, rfl⟩ := stripOne_eq_some hrest
      exact (ih rest).trans (List.suffix_append code rest)

/-- Only a list that begins with no code stays as it is. -/
theorem strip_eq_self (hcodes : [] ∉ codes) {fuel : Nat} (hfuel : xs.length ≤ fuel) :
    strip codes fuel xs = xs ↔ ∀ code ∈ codes, ¬ code <+: xs := by
  rw [← stripOne_eq_none]
  cases fuel with
  | zero =>
    obtain rfl : xs = [] := List.length_eq_zero_iff.mp (Nat.le_zero.mp hfuel)
    have hnone : ∀ code ∈ codes, ¬ code <+: [] := by
      intro code hcode hfront
      rw [List.prefix_nil] at hfront
      exact hcodes (hfront ▸ hcode)
    exact iff_of_true rfl (stripOne_eq_none.mpr hnone)
  | succ fuel =>
    unfold strip
    split
    next hnone => exact iff_of_true rfl hnone
    next rest hrest =>
      rw [hrest]
      refine iff_of_false ?_ (by simp)
      obtain ⟨code, hcode, rfl⟩ := stripOne_eq_some hrest
      intro hself
      have hle : (strip codes fuel rest).length ≤ rest.length := (strip_suffix fuel rest).length_le
      rw [hself, List.length_append] at hle
      have hempty : code = [] := List.length_eq_zero_iff.mp (by omega)
      exact hcodes (hempty ▸ hcode)

end

/-! ## White space -/

/-- The runes of `unicode.IsSpace`, in UTF-8. -/
def spaceRunes : List Bytes :=
  [[0x09], [0x0a], [0x0b], [0x0c], [0x0d], [0x20], [0xc2, 0x85], [0xc2, 0xa0], [0xe1, 0x9a, 0x80],
    [0xe2, 0x80, 0x80], [0xe2, 0x80, 0x81], [0xe2, 0x80, 0x82], [0xe2, 0x80, 0x83],
    [0xe2, 0x80, 0x84], [0xe2, 0x80, 0x85], [0xe2, 0x80, 0x86], [0xe2, 0x80, 0x87],
    [0xe2, 0x80, 0x88], [0xe2, 0x80, 0x89], [0xe2, 0x80, 0x8a], [0xe2, 0x80, 0xa8],
    [0xe2, 0x80, 0xa9], [0xe2, 0x80, 0xaf], [0xe2, 0x81, 0x9f], [0xe3, 0x80, 0x80]]

/-- `strings.TrimLeftFunc` with `unicode.IsSpace`. -/
def trimLeftBytes (bs : Bytes) : Bytes := strip spaceRunes bs.length bs

/-- `strings.TrimRightFunc` with `unicode.IsSpace`. -/
def trimRightBytes (bs : Bytes) : Bytes :=
  (strip (spaceRunes.map List.reverse) bs.length bs.reverse).reverse

/-- `strings.TrimSpace`. -/
def trimSpaceBytes (bs : Bytes) : Bytes := trimRightBytes (trimLeftBytes bs)

/-- The string neither begins nor ends with white space. -/
def NoOuterSpace (bs : Bytes) : Prop := ∀ rune ∈ spaceRunes, ¬ rune <+: bs ∧ ¬ rune <:+ bs

instance (bs : Bytes) : Decidable (NoOuterSpace bs) :=
  inferInstanceAs (Decidable (∀ rune ∈ spaceRunes, ¬ rune <+: bs ∧ ¬ rune <:+ bs))

section

variable {bs : Bytes}

theorem trimLeftBytes_suffix : trimLeftBytes bs <:+ bs := strip_suffix _ _

theorem trimRightBytes_prefix : trimRightBytes bs <+: bs := by
  rw [← List.reverse_suffix]
  simpa [trimRightBytes] using strip_suffix bs.length bs.reverse

theorem trimLeftBytes_eq_self : trimLeftBytes bs = bs ↔ ∀ rune ∈ spaceRunes, ¬ rune <+: bs :=
  strip_eq_self (by decide) (Nat.le_refl _)

theorem trimRightBytes_eq_self : trimRightBytes bs = bs ↔ ∀ rune ∈ spaceRunes, ¬ rune <:+ bs := by
  have hstrip : strip (spaceRunes.map List.reverse) bs.length bs.reverse = bs.reverse ↔
      ∀ rune ∈ spaceRunes.map List.reverse, ¬ rune <+: bs.reverse :=
    strip_eq_self (by decide) (by simp)
  rw [trimRightBytes, ← List.reverse_inj, List.reverse_reverse, hstrip, List.forall_mem_map]
  simp only [List.reverse_prefix]

/-- Trimming changes exactly the strings with white space at an end. -/
theorem trimSpaceBytes_eq_self : trimSpaceBytes bs = bs ↔ NoOuterSpace bs := by
  have hboth : trimSpaceBytes bs = bs ↔ trimLeftBytes bs = bs ∧ trimRightBytes bs = bs := by
    constructor
    · intro h
      have hright : (trimSpaceBytes bs).length ≤ (trimLeftBytes bs).length :=
        trimRightBytes_prefix.length_le
      rw [h] at hright
      have hleft : trimLeftBytes bs = bs := trimLeftBytes_suffix.eq_of_length_le hright
      refine ⟨hleft, ?_⟩
      rwa [trimSpaceBytes, hleft] at h
    · rintro ⟨hleft, hright⟩
      rw [trimSpaceBytes, hleft, hright]
  rw [hboth, trimLeftBytes_eq_self, trimRightBytes_eq_self]
  exact ⟨fun h rune hrune => ⟨h.1 rune hrune, h.2 rune hrune⟩,
    fun h => ⟨fun rune hrune => (h rune hrune).1, fun rune hrune => (h rune hrune).2⟩⟩

end

end Lib
