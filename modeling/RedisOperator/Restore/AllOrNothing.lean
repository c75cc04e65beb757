/-
  RedisOperator.Restore.AllOrNothing

  An extraction that is disturbed: any file operation may fail, with part of its
  effect, and the process may be killed at any of them.  Until the promotion the
  AOF directory is not touched.  The promotion removes the old directory before
  it renames the staging directory, so the old content is lost if anything
  happens in between.
-/

import RedisOperator.Restore.Archive

namespace RedisOperator.Restore

open Lib Act

variable {Blob : Type}

/-! ## Disturbed calls -/

/-- What a call that fails, or during which the process is killed, may leave:
    a part of what it removes is gone, a part of what it makes is there. -/
def Disturbed (d : FileTree Blob) : FileCmd Blob → FileTree Blob → Prop
  | .removeAll p, d' => ∀ q, d' q = d q ∨ (p <+: q ∧ d' q = none)
  | .mkdirAll p, d' => ∀ q, q ∉ FileTree.ancestors p → d' q = d q
  | .openTrunc p, d' | .write p _, d' => ∀ q, q ≠ p → d' q = d q
  | .chmod _, d' | .close _, d' | .stat _, d' | .rename _ _, d' => d' = d

/-- A file system where any call may be disturbed. -/
def Faulty (blank : Blob) : Prog.Handler (FileCmd Blob) (FileResp Blob) (FileTree Blob) :=
  fun d c r d' => (r, d') = FileTree.step blank d c ∨ ∃ err, r = .error err ∧ Disturbed d c d'

section

variable (C : Codec Blob) (dataDir : String) {α β : Type}

/-- If the program returns, nothing was disturbed. -/
def Heeds (x : Extract Blob α) : Prop :=
  ∀ n d, Act.wp (Faulty C.blank) (fun _ _ => True) x
    (fun a n' d' => Act.run (FileTree.step C.blank) x n d = (.ok (a, n'), d'))
    (fun _ _ => True) n d

variable {C}

theorem Heeds.bind {x : Extract Blob α} {f : α → Extract Blob β} (hx : Heeds C x)
    (hf : ∀ a, Heeds C (f a)) : Heeds C (x >>= f) := by
  intro n d
  refine wp_bind.mpr (wp_post (hx n d) fun a n' d' hrun => ?_)
  refine wp_post (hf a n' d') fun b n'' d'' hrun' => ?_
  rw [run_bind_ok hrun, hrun']

theorem Heeds.ite {c : Prop} [Decidable c] {x y : Extract Blob α} (hx : c → Heeds C x)
    (hy : ¬ c → Heeds C y) : Heeds C (if c then x else y) := by
  split
  · exact hx ‹_›
  · exact hy ‹_›

end

/-! ## The AOF directory -/

section

variable (C : Codec Blob) (dataDir : String) (archive : Blob) (d : FileTree Blob)

variable (archivePath : String)

variable {C} {archive} {d}

variable (C) (archive) (d)

end

end RedisOperator.Restore
