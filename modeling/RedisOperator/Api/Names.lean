/-
  RedisOperator.Api.Names

  How pods, volume claims and shards are named, and how an ordinal is read
  back from a pod name.
-/

import RedisOperator.Lib.GoText
import Mathlib.Data.List.TakeWhile

namespace RedisOperator

open Lib

/-- A text without the blanks around it. -/
def trimmed (s : String) : String := String.ofList (trimSpace s.toList)

/-- A character that is no blank keeps a text from being trimmed away. -/
theorem trimmed_ne_empty {s : String} {c : Char} (hc : c ∈ s.toList) (hblank : isSpace c = false) :
    trimmed s ≠ "" := by
  intro h
  have hnil : trimSpace s.toList = [] := String.ofList_eq_empty_iff.mp h
  have hfirst : s.toList.dropWhile isSpace ≠ [] := by
    intro hdrop
    have hspace := List.dropWhile_eq_nil_iff.mp hdrop c hc
    rw [hblank] at hspace
    exact Bool.false_ne_true hspace
  have hlast := List.dropWhile_eq_nil_iff.mp (List.reverse_eq_nil_iff.mp hnil)
    ((s.toList.dropWhile isSpace).head hfirst) (List.mem_reverse.mpr (List.head_mem hfirst))
  exact Bool.false_ne_true ((List.head_dropWhile_not isSpace hfirst).symm.trans hlast)

/-- `podNameForIndex`: `"%s-%d"`. -/
def podNameForIndex (clusterName : String) (index : Nat) : String :=
  clusterName ++ "-" ++ index.repr

/-- `pvcNameForIndex`: `"%s-data-%d"`. -/
def pvcNameForIndex (clusterName : String) (index : Nat) : String :=
  clusterName ++ "-data-" ++ index.repr

/-- `shardName`: `"s%d"`. -/
def shardName (index : Nat) : String := "s" ++ index.repr

/-- `podIndex`: the ordinal behind `clusterName + "-"`.  `Atoi`'s error is
    dropped, as in the source, so a name without an ordinal has index `0`. -/
def podIndex (clusterName podName : String) : Int :=
  (atoi (podName.toList.drop (clusterName.toList.length + 1))).1

/-- Ordinals that fit Go's `int`. -/
def ValidOrdinal (i : Nat) : Prop := i ≤ maxInt

instance (i : Nat) : Decidable (ValidOrdinal i) := inferInstanceAs (Decidable (i ≤ maxInt))

theorem toList_podNameForIndex (c : String) (i : Nat) :
    (podNameForIndex c i).toList = c.toList ++ '-' :: Nat.toDigits 10 i := by
  simp [podNameForIndex, String.toList_append, Nat.toList_repr]

/-- An ordinal survives the round trip through the pod's name. -/
@[simp] theorem podIndex_podNameForIndex {c : String} {i : Nat} (hi : ValidOrdinal i) :
    podIndex c (podNameForIndex c i) = i := by
  unfold podIndex
  rw [toList_podNameForIndex, show c.toList ++ '-' :: Nat.toDigits 10 i
      = (c.toList ++ ['-']) ++ Nat.toDigits 10 i by simp,
    show c.toList.length + 1 = (c.toList ++ ['-']).length by simp, List.drop_left,
    atoi_toDigits hi]

theorem podNameForIndex_injective (c : String) : Function.Injective (podNameForIndex c) := by
  intro i j h
  have hl := congrArg String.toList h
  rw [toList_podNameForIndex, toList_podNameForIndex, List.append_cancel_left_eq] at hl
  have hd : Nat.toDigits 10 i = Nat.toDigits 10 j := (List.cons.inj hl).2
  have := congrArg decimal hd
  simpa [decimal_toDigits] using this

@[simp] theorem podNameForIndex_inj {c : String} {i j : Nat} :
    podNameForIndex c i = podNameForIndex c j ↔ i = j :=
  (podNameForIndex_injective c).eq_iff

theorem podNameForIndex_ne_empty (c : String) (i : Nat) : podNameForIndex c i ≠ "" := by
  intro h
  have := congrArg String.toList h
  rw [toList_podNameForIndex] at this
  simp at this

theorem shardName_injective : Function.Injective shardName := by
  intro i j hij
  have hl := congrArg String.toList hij
  simp only [shardName, String.toList_append, Nat.toList_repr, List.append_cancel_left_eq] at hl
  have := congrArg decimal hl
  simpa [decimal_toDigits] using this

end RedisOperator
