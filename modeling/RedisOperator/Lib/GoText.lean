/-
  RedisOperator.Lib.GoText

  The pieces of Go's `strconv` and `strings` that name handling uses:
  decimal formatting of non-negative numbers, `strconv.Atoi`, prefixes and
  `strings.Cut`.  Texts are read as lists of characters.
-/

import Mathlib.Data.String.Basic

namespace Lib

/-- Largest value of a 64-bit `int`. -/
def maxInt : Nat := 2 ^ 63 - 1

/-- A non-empty run of decimal digits, as a number. -/
def decimal (ds : List Char) : Option Nat :=
  if ds ≠ [] ∧ ds.all Char.isDigit = true then some (Nat.ofDigitChars 10 ds 0) else none

/-- `strconv.Atoi`: the value and whether the error is nil.  A syntax error
    yields `0`, a range error the nearest `int`. -/
def atoi : List Char → Int × Bool
  | '-' :: ds =>
    match decimal ds with
    | none => (0, false)
    | some n => if n ≤ maxInt + 1 then (-(n : Int), true) else (-((maxInt : Int) + 1), false)
  | '+' :: ds =>
    match decimal ds with
    | none => (0, false)
    | some n => if n ≤ maxInt then ((n : Int), true) else ((maxInt : Int), false)
  | ds =>
    match decimal ds with
    | none => (0, false)
    | some n => if n ≤ maxInt then ((n : Int), true) else ((maxInt : Int), false)

theorem decimal_toDigits (n : Nat) : decimal (Nat.toDigits 10 n) = some n := by
  have hdigits : (Nat.toDigits 10 n).all Char.isDigit = true := by
    rw [List.all_eq_true]
    intro c hc
    exact Nat.isDigit_of_mem_toDigits (by omega) (by omega) hc
  simp only [decimal, ne_eq, Nat.toDigits_ne_nil, not_false_eq_true, hdigits, and_self, ↓reduceIte,
    Nat.ofDigitChars_ten_toDigits]

/-- Formatting a number with `%d` and reading it back. -/
theorem atoi_toDigits {n : Nat} (hn : n ≤ maxInt) :
    atoi (Nat.toDigits 10 n) = ((n : Int), true) := by
  have hd : ∀ c ∈ Nat.toDigits 10 n, c.isDigit = true := fun c hc =>
    Nat.isDigit_of_mem_toDigits (by omega) (by omega) hc
  unfold atoi
  split
  · rename_i ds heq
    have := hd '-' (by rw [heq]; exact List.mem_cons_self ..)
    simp at this
  · rename_i ds heq
    have := hd '+' (by rw [heq]; exact List.mem_cons_self ..)
    simp at this
  · simp [decimal_toDigits, hn]

/-- One character inside the quotes of `%q`, for printable text and ASCII
    control characters. -/
def quoteChar (c : Char) : List Char :=
  if c = '"' then ['\\', '"']
  else if c = '\\' then ['\\', '\\']
  else if c = '\n' then ['\\', 'n']
  else if c = '\r' then ['\\', 'r']
  else if c = '\t' then ['\\', 't']
  else if c.toNat = 7 then ['\\', 'a']
  else if c.toNat = 8 then ['\\', 'b']
  else if c.toNat = 11 then ['\\', 'v']
  else if c.toNat = 12 then ['\\', 'f']
  else if c.toNat < 32 ∨ c.toNat = 127 then
    ['\\', 'x', Nat.digitChar (c.toNat / 16), Nat.digitChar (c.toNat % 16)]
  else [c]

/-- `fmt.Sprintf("%q", s)`. -/
def quote (cs : List Char) : String := String.ofList ('"' :: cs.flatMap quoteChar ++ ['"'])

/-- The text of `Atoi`'s error: a failed parse yields `0` exactly when the
    syntax was wrong. -/
def atoiError (cs : List Char) : String :=
  "strconv.Atoi: parsing " ++ quote cs ++ ": " ++
    (if (atoi cs).1 = 0 then "invalid syntax" else "value out of range")

/-- `strings.Split(s, "\r\n")`. -/
def splitLines : List Char → List (List Char)
  | [] => [[]]
  | '\r' :: '\n' :: rest => [] :: splitLines rest
  | c :: rest =>
    match splitLines rest with
    | [] => [[c]]
    | line :: lines => (c :: line) :: lines

/-- `unicode.IsSpace`. -/
def isSpace (c : Char) : Bool :=
  decide (9 ≤ c.toNat ∧ c.toNat ≤ 13) || decide (0x2000 ≤ c.toNat ∧ c.toNat ≤ 0x200a) ||
    decide (c.toNat ∈ [0x20, 0x85, 0xa0, 0x1680, 0x2028, 0x2029, 0x202f, 0x205f, 0x3000])

/-- `strings.TrimSpace`. -/
def trimSpace (cs : List Char) : List Char :=
  ((cs.dropWhile isSpace).reverse.dropWhile isSpace).reverse

theorem dropWhile_isSpace_eq_self {cs : List Char}
    (h : ∀ c, cs.head? = some c → isSpace c = false) : cs.dropWhile isSpace = cs := by
  cases cs with
  | nil => rfl
  | cons c cs => rw [List.dropWhile_cons, h c rfl, if_neg Bool.false_ne_true]

/-- A text without a blank at either end stays as it is. -/
theorem trimSpace_eq_self {cs : List Char} (hhead : ∀ c, cs.head? = some c → isSpace c = false)
    (hlast : ∀ c, cs.getLast? = some c → isSpace c = false) : trimSpace cs = cs := by
  rw [trimSpace, dropWhile_isSpace_eq_self hhead, dropWhile_isSpace_eq_self, List.reverse_reverse]
  rw [List.head?_reverse]
  exact hlast

theorem trimSpace_of_no_blank {cs : List Char} (h : ∀ c ∈ cs, isSpace c = false) :
    trimSpace cs = cs :=
  trimSpace_eq_self (fun c hc => h c (List.mem_of_mem_head? hc))
    fun c hc => h c (List.mem_of_getLast? hc)

/-- `strings.Cut(s, sep)` for a one-character separator: before, after, found. -/
def cut (sep : Char) : List Char → List Char × List Char × Bool
  | [] => ([], [], false)
  | c :: cs =>
    if c = sep then ([], cs, true)
    else
      let (before, after, found) := cut sep cs
      (c :: before, after, found)

end Lib
