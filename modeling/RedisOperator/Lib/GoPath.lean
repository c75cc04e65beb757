/-
  RedisOperator.Lib.GoPath

  Slash-separated paths as Go's `path` package treats them: splitting,
  joining and `path.Clean`.  A segment is a list of characters.
-/

import RedisOperator.Lib.GoText

namespace Lib

/-- One component of a path. -/
abbrev Segment := List Char

/-- `strings.Split(p, "/")`. -/
def splitSlash : List Char → List Segment
  | [] => [[]]
  | c :: cs =>
    if c = '/' then [] :: splitSlash cs
    else
      match splitSlash cs with
      | [] => [[c]]
      | seg :: segs => (c :: seg) :: segs

/-- Segments joined by slashes. -/
def joinSlash : List Segment → List Char
  | [] => []
  | [seg] => seg
  | seg :: segs => seg ++ '/' :: joinSlash segs

/-- One segment of `path.Clean`, on the segments written so far, last first. -/
def cleanStep (rooted : Bool) (out : List Segment) (seg : Segment) : List Segment :=
  if seg = [] ∨ seg = ['.'] then out
  else if seg = ['.', '.'] then
    match out with
    | [] => if rooted then [] else [seg]
    | top :: rest => if top = ['.', '.'] then seg :: out else rest
  else seg :: out

/-- `path.Clean`: whether the result starts with a slash, and its segments. -/
def cleanPath (p : List Char) : Bool × List Segment :=
  let rooted := p.head? == some '/'
  (rooted, ((splitSlash p).foldl (cleanStep rooted) []).reverse)

/-- `filepath.Join`. -/
def joinPath (elems : List (List Char)) : Bool × List Segment :=
  cleanPath (joinSlash (elems.dropWhile (· = [])))

/-- A name of a file in a directory. -/
structure FileName (seg : Segment) : Prop where
  ne_nil : seg ≠ []
  no_slash : '/' ∉ seg
  ne_dot : seg ≠ ['.']
  ne_dotdot : seg ≠ ['.', '.']

/-- A segment that names a file: not empty, no slash, no blank, not a dot name. -/
structure PlainSegment (seg : Segment) : Prop where
  ne_nil : seg ≠ []
  no_slash : '/' ∉ seg
  ne_dot : seg ≠ ['.']
  ne_dotdot : seg ≠ ['.', '.']
  no_blank : ∀ c ∈ seg, isSpace c = false

variable {seg : Segment}

theorem PlainSegment.fileName (h : PlainSegment seg) : FileName seg :=
  ⟨h.ne_nil, h.no_slash, h.ne_dot, h.ne_dotdot⟩

/-! ## Splitting and joining -/

theorem splitSlash_of_no_slash (h : '/' ∉ seg) : splitSlash seg = [seg] := by
  induction seg with
  | nil => rfl
  | cons c cs ih =>
    rw [List.mem_cons, not_or] at h
    simp [splitSlash, Ne.symm h.1, ih h.2]

theorem splitSlash_ne_nil (cs : List Char) : splitSlash cs ≠ [] := by
  cases cs with
  | nil => simp [splitSlash]
  | cons c cs =>
    unfold splitSlash
    split
    · simp
    · split <;> simp

/-- The parts of a path on both sides of a slash are split apart. -/
theorem splitSlash_append (cs ds : List Char) :
    splitSlash (cs ++ '/' :: ds) = splitSlash cs ++ splitSlash ds := by
  induction cs with
  | nil => simp [splitSlash]
  | cons c cs ih =>
    rw [List.cons_append, splitSlash, splitSlash, ih]
    obtain ⟨first, segs, hsplit⟩ := List.exists_cons_of_ne_nil (splitSlash_ne_nil cs)
    rw [hsplit]
    by_cases hc : c = '/' <;> simp [hc]

variable {segs : List Segment}

theorem splitSlash_joinSlash (hne : segs ≠ [])
    (h : ∀ seg ∈ segs, '/' ∉ seg) : splitSlash (joinSlash segs) = segs := by
  induction segs with
  | nil => exact absurd rfl hne
  | cons seg segs ih =>
    have hseg := h seg (List.mem_cons_self ..)
    cases segs with
    | nil => exact splitSlash_of_no_slash hseg
    | cons seg' segs =>
      rw [joinSlash, splitSlash_append, splitSlash_of_no_slash hseg,
        ih (by simp) fun s hs => h s (List.mem_cons_of_mem _ hs)]
      · rfl
      · simp

theorem joinSlash_cons (hne : segs ≠ []) (seg : Segment) :
    joinSlash (seg :: segs) = seg ++ '/' :: joinSlash segs := by
  cases segs with
  | nil => exact absurd rfl hne
  | cons seg' segs => rfl

theorem joinSlash_append {init : List Segment} (hne : init ≠ []) (last : Segment) :
    joinSlash (init ++ [last]) = joinSlash init ++ '/' :: last := by
  induction init with
  | nil => exact absurd rfl hne
  | cons seg init ih =>
    cases init with
    | nil => rfl
    | cons seg' init =>
      have hne' : seg' :: init ≠ [] := List.cons_ne_nil _ _
      have hlong : seg' :: init ++ [last] ≠ [] := List.cons_ne_nil _ _
      rw [List.cons_append, joinSlash_cons hlong, ih hne', joinSlash_cons hne',
        List.append_assoc]
      rfl

theorem head?_joinSlash (h : seg ≠ []) : (joinSlash (seg :: segs)).head? = seg.head? := by
  obtain ⟨c, cs, rfl⟩ := List.exists_cons_of_ne_nil h
  cases segs <;> simp [joinSlash]

/-! ## Cleaning -/

theorem cleanStep_fileName {rooted : Bool} {out : List Segment}
    (h : FileName seg) : cleanStep rooted out seg = seg :: out := by
  simp [cleanStep, h.ne_nil, h.ne_dot, h.ne_dotdot]

theorem foldl_cleanStep_fileName {rooted : Bool} {out : List Segment}
    (h : ∀ seg ∈ segs, FileName seg) : segs.foldl (cleanStep rooted) out = segs.reverse ++ out := by
  induction segs generalizing out with
  | nil => rfl
  | cons seg segs ih =>
    rw [List.foldl_cons, cleanStep_fileName (h seg (List.mem_cons_self ..)),
      ih fun s hs => h s (List.mem_cons_of_mem _ hs)]
    simp

/-- A name at the end of a path is the last segment of the cleaned path. -/
theorem getLast?_cleanPath (h : FileName seg) (cs : List Char) :
    (cleanPath (cs ++ '/' :: seg)).2.getLast? = some seg := by
  unfold cleanPath
  dsimp only
  rw [splitSlash_append, splitSlash_of_no_slash h.no_slash, List.foldl_append, List.foldl_cons,
    List.foldl_nil,
    cleanStep_fileName h]
  simp

/-- Where a path leads whose last segment need not be a name; a `..` at the root
    leads nowhere. -/
def followLast (init : List Segment) (last : Segment) : List Segment :=
  if last = [] ∨ last = ['.'] then init
  else if last = ['.', '.'] then init.dropLast
  else init ++ [last]

/-- Cleaning a path of names with another last segment. -/
theorem cleanPath_joinSlash_append {init : List Segment} {last : Segment}
    (hinit : ∀ seg ∈ init, FileName seg) (hlast : '/' ∉ last) :
    cleanPath (joinSlash (init ++ [last])) =
      (false, if last = ['.', '.'] ∧ init = [] then [last] else followLast init last) := by
  have hroot : ((joinSlash (init ++ [last])).head? == some '/') = false := by
    cases init with
    | nil =>
      cases last with
      | nil => rfl
      | cons c cs =>
        rw [List.mem_cons, not_or] at hlast
        simp [joinSlash, Ne.symm hlast.1]
    | cons seg init =>
      have hseg := hinit seg (List.mem_cons_self ..)
      obtain ⟨c, cs, rfl⟩ := List.exists_cons_of_ne_nil hseg.ne_nil
      have hslash := hseg.no_slash
      rw [List.mem_cons, not_or] at hslash
      rw [List.cons_append, head?_joinSlash hseg.ne_nil]
      simp [Ne.symm hslash.1]
  have hsplit : splitSlash (joinSlash (init ++ [last])) = init ++ [last] := by
    refine splitSlash_joinSlash (by simp) fun seg hseg => ?_
    rcases List.mem_append.mp hseg with hseg | hseg
    · exact (hinit seg hseg).no_slash
    · rw [List.mem_singleton.mp hseg]
      exact hlast
  have hfold : (init ++ [last]).foldl (cleanStep false) [] =
      cleanStep false init.reverse last := by
    rw [List.foldl_append, foldl_cleanStep_fileName hinit, List.append_nil]
    rfl
  unfold cleanPath
  rw [hroot, hsplit]
  dsimp only
  rw [hfold]
  congr 1
  unfold cleanStep followLast
  by_cases hskip : last = [] ∨ last = ['.']
  · have hne : last ≠ ['.', '.'] := by
      rcases hskip with rfl | rfl <;> decide
    rw [if_pos hskip, if_neg fun h => hne h.1, if_pos hskip, List.reverse_reverse]
  · rw [if_neg hskip, if_neg hskip]
    by_cases hup : last = ['.', '.']
    · rw [if_pos hup, if_pos hup]
      -- a name is taken back, the root has none
      rcases List.eq_nil_or_concat init with rfl | ⟨init, top, rfl⟩
      · have hroot : last = ['.', '.'] ∧ ([] : List Segment) = [] := ⟨hup, rfl⟩
        rw [if_pos hroot]
        rfl
      · have htop := (hinit top (by simp)).ne_dotdot
        rw [if_neg (by simp), List.concat_eq_append, List.reverse_append]
        simp [htop]
    · rw [if_neg hup, if_neg hup, if_neg fun h => hup h.1, List.reverse_cons, List.reverse_reverse]

/-- Cleaning a joined list of names gives the names back. -/
theorem cleanPath_joinSlash (hne : segs ≠ [])
    (h : ∀ seg ∈ segs, FileName seg) : cleanPath (joinSlash segs) = (false, segs) := by
  obtain rfl | ⟨init, last, rfl⟩ := List.eq_nil_or_concat segs
  · exact absurd rfl hne
  rw [List.concat_eq_append] at h ⊢
  have hlast := h last (by simp)
  rw [cleanPath_joinSlash_append (fun seg hseg => h seg (List.mem_append_left _ hseg))
    hlast.no_slash, if_neg fun hc => hlast.ne_dotdot hc.1, followLast,
    if_neg fun hc => hc.elim hlast.ne_nil hlast.ne_dot, if_neg hlast.ne_dotdot]

/-! ## Blanks at the ends -/

/-- The text without the blanks at its end. -/
def trimRight (cs : List Char) : List Char := (cs.reverse.dropWhile isSpace).reverse

theorem trimSpace_eq (cs : List Char) : trimSpace cs = trimRight (cs.dropWhile isSpace) := rfl

theorem dropWhile_append_slash (cs ds : List Char) :
    (cs ++ '/' :: ds).dropWhile isSpace = cs.dropWhile isSpace ++ '/' :: ds := by
  induction cs with
  | nil => rfl
  | cons c cs ih =>
    rw [List.cons_append, List.dropWhile_cons, List.dropWhile_cons]
    split
    · exact ih
    · rfl

/-- Blanks at the front of a path belong to its first segment. -/
theorem dropWhile_joinSlash (seg : Segment) (segs : List Segment) :
    (joinSlash (seg :: segs)).dropWhile isSpace = joinSlash (seg.dropWhile isSpace :: segs) := by
  cases segs with
  | nil => rfl
  | cons seg' segs => exact dropWhile_append_slash seg _

/-- Blanks at the end of a path belong to its last segment. -/
theorem trimRight_joinSlash (init : List Segment) (last : Segment) :
    trimRight (joinSlash (init ++ [last])) = joinSlash (init ++ [trimRight last]) := by
  by_cases hne : init = []
  · rw [hne]
    rfl
  · have hreverse : (joinSlash init ++ '/' :: last).reverse =
        last.reverse ++ '/' :: (joinSlash init).reverse := by simp
    rw [joinSlash_append hne, joinSlash_append hne, trimRight, hreverse, dropWhile_append_slash,
      trimRight]
    simp

theorem trimRight_isPrefixOf (cs : List Char) : trimRight cs <+: cs := by
  rw [trimRight, ← List.reverse_suffix, List.reverse_reverse]
  exact List.dropWhile_suffix _

/-- No blank is left at the end. -/
theorem getLast?_trimRight {cs : List Char} {c : Char} (h : (trimRight cs).getLast? = some c) :
    isSpace c = false := by
  rw [trimRight, List.getLast?_reverse] at h
  have hhead := List.head?_dropWhile_not isSpace cs.reverse
  rw [h] at hhead
  simpa using hhead

theorem trimRight_eq_self {cs : List Char} (h : ∀ c, cs.getLast? = some c → isSpace c = false) :
    trimRight cs = cs := by
  rw [trimRight, dropWhile_isSpace_eq_self, List.reverse_reverse]
  rw [List.head?_reverse]
  exact h

end Lib
