/-
  RedisOperator.Lib.LineFormat

  Texts made of lines, and lines that begin with a tag which says what the rest
  is about.  Nothing is escaped, so such a text can be read back only if no line
  contains a line break; then it determines its lines (`unlines_injective`),
  and the lines of one tag are those of its section, provided that no tag is
  the beginning of another (`bodiesOf_sectionLines`).
-/

import Mathlib.Data.String.Basic

namespace Lib

/-! ## Lines -/

/-- Every line with its line break. -/
def unlines (lines : List (List Char)) : List Char := lines.flatMap fun line => line ++ ['\n']

/-- A text without line breaks. -/
def SingleLine (line : List Char) : Prop := '\n' ∉ line

/-- A first line can be cut off again. -/
theorem eq_of_append_lineBreak {line line' rest rest' : List Char} (h : SingleLine line)
    (h' : SingleLine line') (heq : line ++ '\n' :: rest = line' ++ '\n' :: rest') :
    line = line' ∧ rest = rest' := by
  induction line generalizing line' with
  | nil =>
    cases line' with
    | nil => exact ⟨rfl, (List.cons.inj heq).2⟩
    | cons c line' =>
      exact absurd (List.cons.inj heq).1 fun hc => h' (hc ▸ List.mem_cons_self)
  | cons c line ih =>
    cases line' with
    | nil => exact absurd (List.cons.inj heq).1 fun hc => h (hc ▸ List.mem_cons_self)
    | cons c' line' =>
      obtain ⟨rfl, htail⟩ := List.cons.inj heq
      obtain ⟨rfl, hrest⟩ := ih (fun hc => h (List.mem_cons_of_mem _ hc))
        (fun hc => h' (List.mem_cons_of_mem _ hc)) htail
      exact ⟨rfl, hrest⟩

/-- The lines of a text, and what stands after the last line break. -/
theorem splitOn_unlines {lines : List (List Char)} (h : ∀ line ∈ lines, SingleLine line) :
    (unlines lines).splitOn '\n' = lines ++ [[]] := by
  have htext : unlines lines = ['\n'].intercalate (lines ++ [[]]) := by
    induction lines with
    | nil => rfl
    | cons line lines ih =>
      obtain ⟨first, rest, hrest⟩ := List.exists_cons_of_ne_nil
        (List.append_ne_nil_of_right_ne_nil lines (List.cons_ne_nil ([] : List Char) []))
      have hcons : unlines (line :: lines) = line ++ ['\n'] ++ unlines lines := by
        simp [unlines]
      rw [hcons, ih fun l hl => h l (List.mem_cons_of_mem _ hl), List.cons_append, hrest,
        List.intercalate_cons_cons]
  rw [htext]
  refine List.splitOn_intercalate '\n' (fun line hline => ?_) (by simp)
  rcases List.mem_append.mp hline with hline | hline
  · exact h line hline
  · simp [List.mem_singleton.mp hline]

/-- A text determines its lines. -/
theorem unlines_injective {lines lines' : List (List Char)} (h : ∀ line ∈ lines, SingleLine line)
    (h' : ∀ line ∈ lines', SingleLine line) (heq : unlines lines = unlines lines') :
    lines = lines' := by
  induction lines generalizing lines' with
  | nil =>
    cases lines' with
    | nil => rfl
    | cons line' lines' => simp [unlines] at heq
  | cons line lines ih =>
    cases lines' with
    | nil => simp [unlines] at heq
    | cons line' lines' =>
      have hcons : line ++ '\n' :: unlines lines = line' ++ '\n' :: unlines lines' := by
        simpa [unlines] using heq
      obtain ⟨rfl, hrest⟩ := eq_of_append_lineBreak (h _ List.mem_cons_self)
        (h' _ List.mem_cons_self) hcons
      rw [ih (fun l hl => h l (List.mem_cons_of_mem _ hl))
        (fun l hl => h' l (List.mem_cons_of_mem _ hl)) hrest]

/-! ## Keys and values -/

/-- A line `key=value` determines both if the value has no equals sign. -/
theorem eq_of_key_value {key key' value value' : List Char} (h : '=' ∉ value) (h' : '=' ∉ value')
    (heq : key ++ '=' :: value = key' ++ '=' :: value') : key = key' ∧ value = value' := by
  induction key generalizing key' with
  | nil =>
    cases key' with
    | nil => exact ⟨rfl, (List.cons.inj heq).2⟩
    | cons c key' => exact absurd (by rw [(List.cons.inj heq).2]; simp) h
  | cons c key ih =>
    cases key' with
    | nil => exact absurd (by rw [← (List.cons.inj heq).2]; simp) h'
    | cons c' key' =>
      obtain ⟨rfl, hrest⟩ := List.cons.inj heq
      obtain ⟨rfl, hvalue⟩ := ih hrest
      exact ⟨rfl, hvalue⟩

/-! ## Tagged lines -/

section

variable {α : Type} [DecidableEq α]

/-- A section: a tag, and what follows it on each of its lines. -/
abbrev LineSection (α : Type) : Type := List α × List (List α)

/-- The lines of all sections. -/
def sectionLines (sections : List (LineSection α)) : List (List α) :=
  sections.flatMap fun s => s.2.map (s.1 ++ ·)

/-- What follows a tag, line by line. -/
def bodiesOf (tag : List α) (lines : List (List α)) : List (List α) :=
  lines.filterMap fun line => if tag <+: line then some (line.drop tag.length) else none

/-- No tag is the beginning of another. -/
def TagsApart (tags : List (List α)) : Prop :=
  tags.Pairwise fun tag tag' => ¬ tag <+: tag' ∧ ¬ tag' <+: tag

instance (tags : List (List α)) : Decidable (TagsApart tags) :=
  inferInstanceAs (Decidable (tags.Pairwise fun tag tag' => ¬ tag <+: tag' ∧ ¬ tag' <+: tag))

theorem bodiesOf_append (tag : List α) (lines lines' : List (List α)) :
    bodiesOf tag (lines ++ lines') = bodiesOf tag lines ++ bodiesOf tag lines' :=
  List.filterMap_append

/-- The lines of a section carry its tag. -/
theorem bodiesOf_self (tag : List α) (bodies : List (List α)) :
    bodiesOf tag (bodies.map (tag ++ ·)) = bodies := by
  simp [bodiesOf, List.filterMap_map]

/-- The lines of another section do not. -/
theorem bodiesOf_other {tag tag' : List α} (h : ¬ tag <+: tag') (h' : ¬ tag' <+: tag)
    (bodies : List (List α)) : bodiesOf tag (bodies.map (tag' ++ ·)) = [] := by
  refine List.filterMap_eq_nil_iff.mpr fun line hline => if_neg ?_
  obtain ⟨body, -, rfl⟩ := List.mem_map.mp hline
  intro hfront
  rcases List.prefix_or_prefix_of_prefix hfront (List.prefix_append tag' body) with hp | hp
  · exact h hp
  · exact h' hp

theorem bodiesOf_foreign {tag : List α} {sections : List (LineSection α)}
    (h : ∀ s ∈ sections, ¬ tag <+: s.1 ∧ ¬ s.1 <+: tag) :
    bodiesOf tag (sectionLines sections) = [] := by
  induction sections with
  | nil => rfl
  | cons s sections ih =>
    obtain ⟨htag, htag'⟩ := h s List.mem_cons_self
    rw [sectionLines, List.flatMap_cons, bodiesOf_append, bodiesOf_other htag htag', ← sectionLines,
      ih fun s' hs' => h s' (List.mem_cons_of_mem _ hs')]
    rfl

/-- The lines of a tag are those of its section. -/
theorem bodiesOf_sectionLines {sections : List (LineSection α)}
    (hapart : TagsApart (sections.map Prod.fst)) {s : LineSection α} (hs : s ∈ sections) :
    bodiesOf s.1 (sectionLines sections) = s.2 := by
  induction sections with
  | nil => cases hs
  | cons first sections ih =>
    obtain ⟨hfirst, hrest⟩ := List.pairwise_cons.mp hapart
    rw [sectionLines, List.flatMap_cons, bodiesOf_append, ← sectionLines]
    rcases List.mem_cons.mp hs with rfl | hs
    · rw [bodiesOf_self, bodiesOf_foreign fun s' hs' => hfirst _ (List.mem_map_of_mem hs'),
        List.append_nil]
    · obtain ⟨h, h'⟩ := hfirst _ (List.mem_map_of_mem hs)
      rw [bodiesOf_other h' h, ih hrest hs, List.nil_append]

end

end Lib
