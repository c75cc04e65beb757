/-
  RedisOperator.Lib.GoURL

  What Go's `url.Parse` makes of a URL with a plain authority: `scheme://host`,
  no user info, port or brackets in the host, and then a path, a query or a
  fragment.  Texts are the runes of the Go string.

  The main facts are about what follows the host when it is meant as a literal
  path: it is read as it was written if every character stands for itself
  (`parseFrom_of_literal`), and as a shorter path, or not at all, if one does not
  (`length_lt_of_parseFrom`).
-/

import RedisOperator.Lib.GoText

namespace Lib

/-! ## Percent-escapes -/

/-- `ishex` and `unhex`. -/
def hexValue (c : Char) : Option Nat :=
  if '0' ≤ c ∧ c ≤ '9' then some (c.toNat - '0'.toNat)
  else if 'a' ≤ c ∧ c ≤ 'f' then some (c.toNat - 'a'.toNat + 10)
  else if 'A' ≤ c ∧ c ≤ 'F' then some (c.toNat - 'A'.toNat + 10)
  else none

/-- A character that was written as such, or a byte that was escaped. -/
abbrev Piece : Type := Char ⊕ Nat

/-- The pieces of a text; `none` if an escape is malformed. -/
def pieces : List Char → Option (List Piece)
  | [] => some []
  | c :: rest =>
    if c = '%' then
      match rest with
      | high :: low :: rest =>
        match hexValue high, hexValue low with
        | some x, some y => (pieces rest).map (Sum.inr (16 * x + y) :: ·)
        | _, _ => none
      | _ => none
    else (pieces rest).map (Sum.inl c :: ·)

/-- The bytes at the front. -/
def leadingBytes : List Piece → List Nat
  | .inr byte :: rest => byte :: leadingBytes rest
  | _ => []

/-- A continuation byte of UTF-8. -/
def isContinuation (byte : Nat) : Bool := decide (0x80 ≤ byte ∧ byte < 0xc0)

/-- `utf8.DecodeRune` from a byte and those after it: the rune, and how many
    bytes after the first it takes.  A byte that starts no rune is U+FFFD. -/
def decodeRune (byte : Nat) : List Nat → Char × Nat
  | b₁ :: b₂ :: b₃ :: _ =>
    let code := (byte - 0xf0) * 0x40000 + (b₁ - 0x80) * 0x1000 + (b₂ - 0x80) * 0x40 + (b₃ - 0x80)
    if 0xf0 ≤ byte ∧ [b₁, b₂, b₃].all isContinuation ∧ 0x10000 ≤ code ∧ code ≤ 0x10ffff then
      (Char.ofNat code, 3)
    else decodeShort byte [b₁, b₂]
  | next => decodeShort byte next
where
  /-- Runes of at most three bytes. -/
  decodeShort (byte : Nat) : List Nat → Char × Nat
    | b₁ :: b₂ :: _ =>
      let code := (byte - 0xe0) * 0x1000 + (b₁ - 0x80) * 0x40 + (b₂ - 0x80)
      if 0xe0 ≤ byte ∧ byte < 0xf0 ∧ [b₁, b₂].all isContinuation ∧ 0x800 ≤ code ∧
          ¬ (0xd800 ≤ code ∧ code < 0xe000) then
        (Char.ofNat code, 2)
      else decodePair byte [b₁]
    | next => decodePair byte next
  /-- Runes of at most two bytes. -/
  decodePair (byte : Nat) : List Nat → Char × Nat
    | b₁ :: _ =>
      if 0xc2 ≤ byte ∧ byte < 0xe0 ∧ isContinuation b₁ then
        (Char.ofNat ((byte - 0xc0) * 0x40 + (b₁ - 0x80)), 1)
      else decodeSingle byte
    | [] => decodeSingle byte
  /-- ASCII, or no rune at all. -/
  decodeSingle (byte : Nat) : Char × Nat :=
    (if byte < 0x80 then Char.ofNat byte else Char.ofNat 0xfffd, 0)

/-- The runes of a text; the first argument counts the bytes that belong to the
    rune before.  A character written as such never continues an escaped byte. -/
def runesFrom : Nat → List Piece → List Char
  | _, [] => []
  | 0, .inl c :: rest => c :: runesFrom 0 rest
  | 0, .inr byte :: rest =>
    let (c, taken) := decodeRune byte (leadingBytes rest)
    c :: runesFrom taken rest
  | taken + 1, _ :: rest => runesFrom taken rest

/-- `unescape`, for a path or a fragment. -/
def unescape (cs : List Char) : Option (List Char) := (pieces cs).map (runesFrom 0)

theorem pieces_cons {c : Char} (hc : c ≠ '%') (cs : List Char) :
    pieces (c :: cs) = (pieces cs).map (Sum.inl c :: ·) := by
  rw [pieces.eq_def]
  exact if_neg hc

theorem unescape_cons {c : Char} (hc : c ≠ '%') (cs : List Char) :
    unescape (c :: cs) = (unescape cs).map (c :: ·) := by
  rw [unescape, pieces_cons hc, unescape, Option.map_map, Option.map_map]
  rfl

variable {cs : List Char}

theorem unescape_of_no_percent (h : '%' ∉ cs) : unescape cs = some cs := by
  induction cs with
  | nil => rfl
  | cons c cs ih =>
    rw [List.mem_cons, not_or] at h
    rw [unescape_cons (Ne.symm h.1), ih h.2]
    rfl

theorem length_runesFrom_le (taken : Nat) (ps : List Piece) :
    (runesFrom taken ps).length ≤ ps.length := by
  fun_induction runesFrom taken ps with
  | case1 => exact Nat.le_refl _
  | case2 c rest ih | case3 byte rest c taken _ ih => exact Nat.succ_le_succ ih
  | case4 taken p rest ih => exact Nat.le_succ_of_le ih

theorem length_pieces_le {ps : List Piece} (h : pieces cs = some ps) :
    ps.length ≤ cs.length ∧ ('%' ∈ cs → ps.length < cs.length) := by
  fun_induction pieces cs generalizing ps with
  | case1 =>
    cases h
    exact ⟨Nat.le_refl _, fun hmem => nomatch hmem⟩
  | case2 high low rest x y _ _ ih =>
    obtain ⟨ps, hps, rfl⟩ := Option.map_eq_some_iff.mp h
    have := (ih hps).1
    simp only [List.length_cons]
    omega
  | case3 | case4 => exact nomatch h
  | case5 c rest hc ih =>
    obtain ⟨ps, hps, rfl⟩ := Option.map_eq_some_iff.mp h
    obtain ⟨hle, hlt⟩ := ih hps
    refine ⟨Nat.succ_le_succ hle, fun hmem => Nat.succ_lt_succ (hlt ?_)⟩
    exact (List.mem_cons.mp hmem).resolve_left (Ne.symm hc)

/-- Reading escapes makes a text shorter. -/
theorem length_unescape_le {ds : List Char} (h : unescape cs = some ds) :
    ds.length ≤ cs.length ∧ ('%' ∈ cs → ds.length < cs.length) := by
  obtain ⟨ps, hps, rfl⟩ := Option.map_eq_some_iff.mp h
  have hrunes := length_runesFrom_le 0 ps
  obtain ⟨hle, hlt⟩ := length_pieces_le hps
  exact ⟨Nat.le_trans hrunes hle, fun hmem => Nat.lt_of_le_of_lt hrunes (hlt hmem)⟩

/-! ## Cutting at a separator -/

theorem cut_cons {sep c : Char} (hc : c ≠ sep) (cs : List Char) :
    cut sep (c :: cs) = (c :: (cut sep cs).1, (cut sep cs).2) := by
  simp only [cut, if_neg hc]

theorem cut_of_not_mem {sep : Char} (h : sep ∉ cs) : cut sep cs = (cs, [], false) := by
  induction cs with
  | nil => rfl
  | cons c cs ih =>
    rw [List.mem_cons, not_or] at h
    rw [cut, if_neg (Ne.symm h.1), ih h.2]

theorem length_cut_le (sep : Char) (cs : List Char) :
    (cut sep cs).1.length ≤ cs.length ∧ (sep ∈ cs → (cut sep cs).1.length < cs.length) := by
  induction cs with
  | nil => exact ⟨Nat.le_refl _, fun hmem => nomatch hmem⟩
  | cons c cs ih =>
    by_cases hc : c = sep
    · rw [cut, if_pos hc]
      exact ⟨Nat.zero_le _, fun _ => Nat.succ_pos _⟩
    · rw [cut_cons hc]
      refine ⟨Nat.succ_le_succ ih.1, fun hmem => Nat.succ_lt_succ (ih.2 ?_)⟩
      exact (List.mem_cons.mp hmem).resolve_left (Ne.symm hc)

/-! ## URLs -/

/-- A byte `url.Parse` refuses: ASCII control characters. -/
def isControl (c : Char) : Bool := decide (c.toNat < 0x20 ∨ c.toNat = 0x7f)

/-- A character of a scheme after its first one. -/
def schemeChar (c : Char) : Bool := c.isAlphanum || c == '+' || c == '-' || c == '.'

/-- A character of a host that needs no escape and has no meaning in an authority. -/
def hostChar (c : Char) : Bool := c.isAlphanum || ['-', '.', '_', '~', '$'].contains c

/-- A URL `scheme://host` with what follows. -/
structure PlainURL where
  scheme : List Char
  host : List Char
  rest : List Char
  scheme_letter : ∃ c, scheme.head? = some c ∧ c.isAlpha = true
  scheme_plain : ∀ c ∈ scheme, schemeChar c = true
  host_plain : ∀ c ∈ host, hostChar c = true
  rest_begins : ∀ c, rest.head? = some c → c = '/' ∨ c = '?' ∨ c = '#'

/-- Its text. -/
def PlainURL.text (u : PlainURL) : List Char := u.scheme ++ "://".toList ++ u.host ++ u.rest

/-- `url.Parse` from the end of the host on: host and path. -/
def parseFrom (host rest : List Char) : Option (List Char × List Char) :=
  let (raw, fragment, _) := cut '#' rest
  if raw.any isControl then none
  else do
    let path ← unescape (cut '?' raw).1
    let _ ← unescape fragment
    some (host, path)

/-- `url.Parse`: host and path, `none` for an error. -/
def PlainURL.parse (u : PlainURL) : Option (List Char × List Char) := parseFrom u.host u.rest

/-- A function that reads plain URLs as `url.Parse` does.  Nothing is said about
    other texts, nor about the texts of errors. -/
def ParsesURLs (parseURL : String → Except String (String × String)) : Prop :=
  ∀ u : PlainURL,
    match u.parse with
    | some (host, path) =>
      parseURL (String.ofList u.text) = .ok (String.ofList host, String.ofList path)
    | none => ∃ err, parseURL (String.ofList u.text) = .error err

/-! ## Literal paths -/

/-- The character stands for itself in the path of a URL. -/
def isLiteral (c : Char) : Bool := !isControl c && c != '#' && c != '?' && c != '%'

theorem parseFrom_of_literal (host : List Char) (h : ∀ c ∈ cs, isLiteral c = true) :
    parseFrom host cs = some (host, cs) := by
  have hnot {sep : Char} (hsep : isLiteral sep = false) : sep ∉ cs := fun hmem =>
    Bool.false_ne_true (hsep.symm.trans (h sep hmem))
  have hcontrol : cs.any isControl = false := by
    rw [List.any_eq_false]
    intro c hc hcontrol
    have := h c hc
    rw [isLiteral, hcontrol] at this
    exact nomatch this
  rw [parseFrom, cut_of_not_mem (hnot (by decide))]
  simp only [hcontrol, Bool.false_eq_true, if_false]
  rw [cut_of_not_mem (hnot (by decide)), unescape_of_no_percent (hnot (by decide))]
  rfl

/-- What is read of a text with a character that does not stand for itself is shorter. -/
theorem length_lt_of_parseFrom {host host' path : List Char}
    (hparse : parseFrom host cs = some (host', path)) (h : ∃ c ∈ cs, isLiteral c = false) :
    path.length < cs.length := by
  obtain ⟨hraw, hfragment⟩ := length_cut_le '#' cs
  obtain ⟨hpath, hquery⟩ := length_cut_le '?' (cut '#' cs).1
  rw [parseFrom] at hparse
  dsimp only at hparse
  split at hparse
  · exact nomatch hparse
  rename_i hcontrol
  obtain ⟨path', hunescape, hrest⟩ := Option.bind_eq_some_iff.mp hparse
  obtain ⟨_, -, hsome⟩ := Option.bind_eq_some_iff.mp hrest
  cases hsome
  obtain ⟨hle, hescape⟩ := length_unescape_le hunescape
  -- one of the three steps cuts something off
  by_cases hmem : '#' ∈ cs
  · have := hfragment hmem
    omega
  rw [cut_of_not_mem hmem] at hcontrol hpath hquery hle hescape
  dsimp only at hcontrol hpath hquery hle hescape
  by_cases hmem' : '?' ∈ cs
  · have := hquery hmem'
    omega
  rw [cut_of_not_mem hmem'] at hle hescape
  refine hescape ?_
  obtain ⟨c, hc, hliteral⟩ := h
  have hc' : isControl c = false := Bool.eq_false_iff.mpr fun h' =>
    hcontrol (List.any_eq_true.mpr ⟨c, hc, h'⟩)
  rw [isLiteral, hc'] at hliteral
  simp only [Bool.not_false, Bool.true_and, Bool.and_eq_false_iff, bne_eq_false_iff_eq] at hliteral
  rcases hliteral with (rfl | rfl) | rfl
  · exact absurd hc hmem
  · exact absurd hc hmem'
  · exact hc

theorem parseFrom_slash (host cs : List Char) :
    parseFrom host ('/' :: cs) = (parseFrom host cs).map fun (host, path) =>
      (host, '/' :: path) := by
  have hcontrol (ds : List Char) : ('/' :: ds).any isControl = ds.any isControl := rfl
  rw [parseFrom, parseFrom, cut_cons (by decide)]
  dsimp only
  rw [hcontrol, cut_cons (by decide), unescape_cons (by decide)]
  split
  · rfl
  · cases unescape (cut '?' (cut '#' cs).1).1 with
    | none => rfl
    | some path =>
      cases unescape (cut '#' cs).2.1 with
      | none => rfl
      | some fragment => rfl

/-! ## A reader of plain URLs -/

/-- Host and rest of a text that may be a plain URL. -/
def splitHost (text : List Char) : Option (List Char × List Char) :=
  match (cut ':' text).2.1 with
  | '/' :: '/' :: rest => some (rest.takeWhile hostChar, rest.dropWhile hostChar)
  | _ => none

/-- `url.Parse` as far as plain URLs go. -/
def parsePlain (text : String) : Except String (String × String) :=
  match (splitHost text.toList).bind fun (host, rest) => parseFrom host rest with
  | some (host, path) => .ok (String.ofList host, String.ofList path)
  | none => .error "parse error"

theorem cut_append {sep : Char} (h : sep ∉ cs) (ds : List Char) :
    cut sep (cs ++ sep :: ds) = (cs, ds, true) := by
  induction cs with
  | nil => rw [List.nil_append, cut, if_pos rfl]
  | cons c cs ih =>
    rw [List.mem_cons, not_or] at h
    rw [List.cons_append, cut_cons (Ne.symm h.1), ih h.2]

/-- The host ends where the rest begins. -/
theorem PlainURL.host_rest (u : PlainURL) :
    (u.host ++ u.rest).takeWhile hostChar = u.host ∧
      (u.host ++ u.rest).dropWhile hostChar = u.rest := by
  have hrest : u.rest.takeWhile hostChar = [] ∧ u.rest.dropWhile hostChar = u.rest := by
    cases hu : u.rest with
    | nil => exact ⟨rfl, rfl⟩
    | cons c cs =>
      have hc : hostChar c = false := by
        rcases u.rest_begins c (by rw [hu]; rfl) with rfl | rfl | rfl <;> decide
      rw [List.takeWhile_cons, List.dropWhile_cons, hc]
      exact ⟨rfl, rfl⟩
  rw [List.takeWhile_append_of_pos u.host_plain, List.dropWhile_append_of_pos u.host_plain,
    hrest.1, hrest.2, List.append_nil]
  exact ⟨rfl, rfl⟩

theorem PlainURL.splitHost_text (u : PlainURL) : splitHost u.text = some (u.host, u.rest) := by
  have hcolon : ':' ∉ u.scheme := fun hmem => absurd (u.scheme_plain ':' hmem) (by decide)
  have htext : u.text = u.scheme ++ ':' :: '/' :: '/' :: (u.host ++ u.rest) := by
    simp only [PlainURL.text, List.append_assoc]
    rfl
  rw [splitHost, htext, cut_append hcolon]
  exact congrArg some (Prod.ext u.host_rest.1 u.host_rest.2)

theorem parsesURLs_parsePlain : ParsesURLs parsePlain := by
  intro u
  have hsplit : (splitHost (String.ofList u.text).toList).bind
      (fun (host, rest) => parseFrom host rest) = u.parse := by
    rw [String.toList_ofList, u.splitHost_text]
    rfl
  cases hu : u.parse with
  | none =>
    refine ⟨"parse error", ?_⟩
    rw [parsePlain, hsplit, hu]
  | some parsed =>
    change parsePlain _ = _
    rw [parsePlain, hsplit, hu]

end Lib
