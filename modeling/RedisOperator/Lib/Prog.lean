/-
  RedisOperator.Lib.Prog

  Programs that talk to an environment, as resumptions: a program either
  returns or issues a command and continues with whatever the environment
  answers.  Nothing here knows which commands exist; a *handler* relates the
  environment before and after a command to the answer it gives, and may be
  nondeterministic (failures, timeouts, races).

  Two predicate transformers read a program against a handler:

    * `Prog.wp` (demonic) — every issued command meets its guard and every
      normal return meets the postcondition, whatever the environment answers;
    * `Prog.may` (angelic) — some answers lead to a command of interest, or to
      a return that meets the postcondition.

  `Prog.wp_iff` and `Prog.may_iff` tie both to the operational notions
  `Prog.Issues` and `Prog.Returns`.  In an environment that answers by a
  function, `Prog.run` computes the one run there is.
-/

import Mathlib.Logic.Relation

namespace Lib

/-- A program over commands `C`, where command `c` is answered by an `R c`. -/
inductive Prog (C : Type) (R : C → Type) (α : Type) : Type
  | pure (a : α)
  | call (c : C) (k : R c → Prog C R α)

namespace Prog

variable {C : Type} {R : C → Type} {S : Type} {α β : Type}

/-- Sequential composition. -/
def bind : Prog C R α → (α → Prog C R β) → Prog C R β
  | .pure a, f => f a
  | .call c k, f => .call c fun r => (k r).bind f

@[simp] theorem bind_call (c : C) (k : R c → Prog C R α) (f : α → Prog C R β) :
    (Prog.call c k).bind f = .call c fun r => (k r).bind f := rfl

/-- A handler: `H s c r s'` says that in environment `s` the command `c` may be
    answered by `r`, leaving the environment at `s'`. -/
abbrev Handler (C : Type) (R : C → Type) (S : Type) : Type :=
  S → (c : C) → R c → S → Prop

/-- The environment may move by `E` before it answers. -/
def interleave (E : S → S → Prop) (H : Handler C R S) : Handler C R S := fun s c r s' =>
  ∃ s₁, E s s₁ ∧ H s₁ c r s'

/-- Only commands that meet `G` when they are answered. -/
def restrict (G : S → C → Prop) (H : Handler C R S) : Handler C R S := fun s c r s' =>
  G s c ∧ H s c r s'

/-! ## Operational reading -/

/-- `Issues H p s s' c`: some run of `p` from `s` issues `c`, in environment `s'`. -/
inductive Issues (H : Handler C R S) : Prog C R α → S → S → C → Prop
  | here {c : C} {k : R c → Prog C R α} {s : S} : Issues H (.call c k) s s c
  | later {c c' : C} {k : R c → Prog C R α} {s s' s'' : S} {r : R c}
      (hr : H s c r s') (h : Issues H (k r) s' s'' c') : Issues H (.call c k) s s'' c'

/-- `Returns H p s a s'`: some run of `p` from `s` returns `a`, in environment `s'`. -/
inductive Returns (H : Handler C R S) : Prog C R α → S → α → S → Prop
  | pure {a : α} {s : S} : Returns H (.pure a) s a s
  | call {c : C} {k : R c → Prog C R α} {s s' s'' : S} {a : α} {r : R c}
      (hr : H s c r s') (h : Returns H (k r) s' a s'') : Returns H (.call c k) s a s''

variable {p : Prog C R α} {s : S}

/-- A run is also a run where more answers are possible. -/
theorem Returns.mono {H H' : Handler C R S} (hH : ∀ s c r s', H s c r s' → H' s c r s')
    {s' : S} {a : α} (h : Returns H p s a s') : Returns H' p s a s' := by
  induction h with
  | pure => exact .pure
  | call hr _ ih => exact .call (hH _ _ _ _ hr) ih

/-! ## Demonic reading -/

/-- Whatever the environment answers, every issued command meets `P` and every
    return meets `Q`. -/
def wp (H : Handler C R S) (P : S → C → Prop) (Q : α → S → Prop) : Prog C R α → S → Prop
  | .pure a, s => Q a s
  | .call c k, s => P s c ∧ ∀ r s', H s c r s' → wp H P Q (k r) s'

variable {H : Handler C R S} {P P' : S → C → Prop} {Q Q' : α → S → Prop}

@[simp] theorem wp_pure (a : α) (s : S) : wp H P Q (.pure a) s ↔ Q a s := Iff.rfl

@[simp] theorem wp_call (c : C) (k : R c → Prog C R α) (s : S) :
    wp H P Q (.call c k) s ↔ P s c ∧ ∀ r s', H s c r s' → wp H P Q (k r) s' := Iff.rfl

theorem wp_bind {Q : β → S → Prop} (p : Prog C R α) (f : α → Prog C R β) (s : S) :
    wp H P Q (p.bind f) s ↔ wp H P (fun a s' => wp H P Q (f a) s') p s := by
  induction p generalizing s with
  | pure a => rfl
  | call c k ih =>
    simp only [bind_call, wp_call, ih]

theorem wp_mono (hP : ∀ s c, P s c → P' s c) (hQ : ∀ a s, Q a s → Q' a s)
    (h : wp H P Q p s) : wp H P' Q' p s := by
  induction p generalizing s with
  | pure a => exact hQ a s h
  | call c k ih => exact ⟨hP _ _ h.1, fun r s' hr => ih r (h.2 r s' hr)⟩

theorem wp_post (hQ : ∀ a s, Q a s → Q' a s) (h : wp H P Q p s) : wp H P Q' p s :=
  wp_mono (fun _ _ hc => hc) hQ h

/-- Two demonic readings of one program combine. -/
theorem wp_and (h : wp H P Q p s) (h' : wp H P' Q' p s) :
    wp H (fun s c => P s c ∧ P' s c) (fun a s => Q a s ∧ Q' a s) p s := by
  induction p generalizing s with
  | pure a => exact ⟨h, h'⟩
  | call c k ih =>
    exact ⟨⟨h.1, h'.1⟩, fun r s' hr => ih r (h.2 r s' hr) (h'.2 r s' hr)⟩

/-- A program that only issues commands in `G` does not mind an environment that
    answers no others. -/
theorem wp_unrestrict {G : S → C → Prop} (hG : wp H G Q' p s)
    (h : wp (restrict G H) P Q p s) : wp H P Q p s := by
  induction p generalizing s with
  | pure a => exact h
  | call c k ih => exact ⟨h.1, fun r s' hr => ih r (hG.2 r s' hr) (h.2 r s' ⟨hG.1, hr⟩)⟩

/-- An environment that answers less. -/
theorem wp_restrict {G : S → C → Prop} (h : wp H P Q p s) : wp (restrict G H) P Q p s := by
  induction p generalizing s with
  | pure a => exact h
  | call c k ih => exact ⟨h.1, fun r s' hr => ih r (h.2 r s' hr.2)⟩

/-- What the commands a program issues preserve holds throughout its runs. -/
theorem wp_invariant {I : S → Prop} (hstep : ∀ s c r s', I s → P s c → H s c r s' → I s')
    (h : wp H P Q p s) (hs : I s) : wp H (fun s _ => I s) (fun _ s => I s) p s := by
  induction p generalizing s with
  | pure a => exact hs
  | call c k ih => exact ⟨hs, fun r s' hr => ih r (h.2 r s' hr) (hstep s c r s' hs h.1 hr)⟩

theorem wp_issues {s' : S} {c : C} (hi : Issues H p s s' c) (h : wp H P Q p s) : P s' c := by
  induction hi with
  | here => exact h.1
  | later hr _ ih => exact ih (h.2 _ _ hr)

theorem wp_returns {s' : S} {a : α} (hr : Returns H p s a s') (h : wp H P Q p s) : Q a s' := by
  induction hr with
  | pure => exact h
  | call hr _ ih => exact ih (h.2 _ _ hr)

/-- Adequacy of the demonic reading. -/
theorem wp_iff : wp H P Q p s ↔
      (∀ s' c, Issues H p s s' c → P s' c) ∧ (∀ a s', Returns H p s a s' → Q a s') := by
  constructor
  · intro h
    exact ⟨fun _ _ hi => wp_issues hi h, fun _ _ hr => wp_returns hr h⟩
  · intro h
    induction p generalizing s with
    | pure a => exact h.2 a s .pure
    | call c k ih =>
      refine ⟨h.1 s c .here, fun r s' hr => ih r ⟨?_, ?_⟩⟩
      · intro s'' c' hi
        exact h.1 s'' c' (.later hr hi)
      · intro a s'' hret
        exact h.2 a s'' (.call hr hret)

/-! ## Angelic reading -/

/-- Some answers of the environment lead to a command that meets `B`, or to a
    return that meets `Q`. -/
def may (H : Handler C R S) (B : S → C → Prop) (Q : α → S → Prop) : Prog C R α → S → Prop
  | .pure a, s => Q a s
  | .call c k, s => B s c ∨ ∃ r s', H s c r s' ∧ may H B Q (k r) s'

variable {B B' : S → C → Prop}

@[simp] theorem may_pure (a : α) (s : S) : may H B Q (.pure a) s ↔ Q a s := Iff.rfl

@[simp] theorem may_call (c : C) (k : R c → Prog C R α) (s : S) :
    may H B Q (.call c k) s ↔ B s c ∨ ∃ r s', H s c r s' ∧ may H B Q (k r) s' := Iff.rfl

theorem may_bind {Q : β → S → Prop} (p : Prog C R α) (f : α → Prog C R β) (s : S) :
    may H B Q (p.bind f) s ↔ may H B (fun a s' => may H B Q (f a) s') p s := by
  induction p generalizing s with
  | pure a => rfl
  | call c k ih =>
    simp only [bind_call, may_call, ih]

theorem may_mono (hB : ∀ s c, B s c → B' s c) (hQ : ∀ a s, Q a s → Q' a s)
    (h : may H B Q p s) : may H B' Q' p s := by
  induction p generalizing s with
  | pure a => exact hQ a s h
  | call c k ih =>
    rcases h with hb | ⟨r, s', hr, hk⟩
    · exact Or.inl (hB _ _ hb)
    · exact Or.inr ⟨r, s', hr, ih r hk⟩

/-- A run the environment can bring about meets what every run meets. -/
theorem may_and_wp (h : may H B Q' p s)
    (hw : wp H P Q p s) : may H B (fun a s => Q a s ∧ Q' a s) p s := by
  induction p generalizing s with
  | pure a => exact ⟨hw, h⟩
  | call c k ih =>
    rcases h with hb | ⟨r, s', hr, hk⟩
    · exact Or.inl hb
    · exact Or.inr ⟨r, s', hr, ih r hk (hw.2 r s' hr)⟩

/-- Adequacy of the angelic reading. -/
theorem may_iff : may H B Q p s ↔
      (∃ s' c, Issues H p s s' c ∧ B s' c) ∨ (∃ a s', Returns H p s a s' ∧ Q a s') := by
  constructor
  · intro h
    induction p generalizing s with
    | pure a => exact Or.inr ⟨a, s, .pure, h⟩
    | call c k ih =>
      rcases h with hb | ⟨r, s', hr, hk⟩
      · exact Or.inl ⟨s, c, .here, hb⟩
      · rcases ih r hk with ⟨s'', c', hi, hb⟩ | ⟨a, s'', hret, hq⟩
        · exact Or.inl ⟨s'', c', .later hr hi, hb⟩
        · exact Or.inr ⟨a, s'', .call hr hret, hq⟩
  · rintro (⟨s', c, hi, hb⟩ | ⟨a, s', hret, hq⟩)
    · induction hi with
      | here => exact Or.inl hb
      | later hr _ ih => exact Or.inr ⟨_, _, hr, ih hb⟩
    · induction hret with
      | pure => exact hq
      | call hr _ ih => exact Or.inr ⟨_, _, hr, ih hq⟩

/-- In an environment that always answers, what every run does some run does. -/
theorem may_of_wp (htotal : ∀ s c, ∃ r s', H s c r s') (h : wp H P Q p s) : may H B Q p s := by
  induction p generalizing s with
  | pure a => exact h
  | call c k ih =>
    obtain ⟨r, s', hr⟩ := htotal s c
    exact Or.inr ⟨r, s', hr, ih r (h.2 r s' hr)⟩

theorem exists_returns (htotal : ∀ s c, ∃ r s', H s c r s')
    (h : wp H P Q p s) : ∃ a s', Returns H p s a s' ∧ Q a s' := by
  rcases may_iff.mp (may_of_wp (B := fun _ _ => False) htotal h) with ⟨_, _, _, hfalse⟩ | hret
  · exact hfalse.elim
  · exact hret

/-- What one environment can bring about, one that answers more freely can. -/
theorem may_handler {H' : Handler C R S} (hH : ∀ s c r s', H s c r s' → H' s c r s')
    (h : may H B Q p s) : may H' B Q p s := by
  induction p generalizing s with
  | pure a => exact h
  | call c k ih =>
    rcases h with hb | ⟨r, s', hr, hk⟩
    · exact Or.inl hb
    · exact Or.inr ⟨r, s', hH _ _ _ _ hr, ih r hk⟩

/-! ## Ghosts -/

/-- An environment with a ghost that follows the commands and their answers. -/
def track {G : Type} (upd : G → (c : C) → R c → G) (H : Handler C R S) : Handler C R (S × G) :=
  fun s c r s' => H s.1 c r s'.1 ∧ s'.2 = upd s.2 c r

theorem track_total {G : Type} {upd : G → (c : C) → R c → G}
    (htotal : ∀ s c, ∃ r s', H s c r s') (t : S × G) (c : C) : ∃ r t', track upd H t c r t' := by
  obtain ⟨r, s', hr⟩ := htotal t.1 c
  exact ⟨r, (s', upd t.2 c r), hr, rfl⟩

/-- The ghost that notes every command with its answer, the latest first. -/
abbrev record (H : Handler C R S) : Handler C R (S × List (Sigma R)) :=
  track (fun log c r => ⟨c, r⟩ :: log) H

/-- What `f` makes of the commands in a log, in the order they were issued. -/
def logged {A : Type} (f : C → Option A) (log : List (Sigma R)) : List A :=
  log.reverse.filterMap fun entry => f entry.1

@[simp] theorem logged_cons {A : Type} (f : C → Option A) (c : C) (r : R c) (log : List (Sigma R)) :
    logged f (⟨c, r⟩ :: log) = logged f log ++ (f c).toList := by
  unfold logged
  rw [List.reverse_cons, List.filterMap_append]
  cases h : f c <;> simp [h]

section

variable {G : Type} {upd : G → (c : C) → R c → G} {p : Prog C R α} {s s' : S} {g : G}

/-- A ghost does not get in the way: the runs are the same. -/
theorem returns_track_iff {a : α} :
    Returns H p s a s' ↔ ∃ g', Returns (track upd H) p (s, g) a (s', g') := by
  constructor
  · intro h
    induction h generalizing g with
    | pure => exact ⟨g, .pure⟩
    | call hr _ ih =>
      obtain ⟨g', h'⟩ := ih (g := upd g _ _)
      exact ⟨g', .call (⟨hr, rfl⟩ : track upd H (_, g) _ _ (_, upd g _ _)) h'⟩
  · rintro ⟨g', h⟩
    generalize hp : (s, g) = t at h
    generalize hp' : (s', g') = t' at h
    induction h generalizing s g with
    | pure =>
      cases hp.trans hp'.symm
      exact .pure
    | call hr _ ih =>
      cases hp
      exact .call hr.1 (ih rfl hp')

end

/-! ## Environments that answer by a function -/

/-- The run of a program in an environment that answers by a function. -/
def run (step : S → (c : C) → R c × S) : Prog C R α → S → α × S
  | .pure a, s => (a, s)
  | .call c k, s => run step (k (step s c).1) (step s c).2

@[simp] theorem run_call (step : S → (c : C) → R c × S) (c : C) (k : R c → Prog C R α) (s : S) :
    run step (.call c k) s = run step (k (step s c).1) (step s c).2 := rfl

theorem run_bind (step : S → (c : C) → R c × S) (p : Prog C R α) (f : α → Prog C R β) (s : S) :
    run step (p.bind f) s = run step (f (run step p s).1) (run step p s).2 := by
  induction p generalizing s with
  | pure a => rfl
  | call c k ih => exact ih _ _

/-- The commands of that run, each with the environment it was issued in. -/
def trace (step : S → (c : C) → R c × S) : Prog C R α → S → List (S × C)
  | .pure _, _ => []
  | .call c k, s => (s, c) :: trace step (k (step s c).1) (step s c).2

variable {step : S → (c : C) → R c × S}

/-- The run is one that a handler allows if its answers are. -/
theorem returns_of_trace (h : ∀ q ∈ trace step p s, H q.1 q.2 (step q.1 q.2).1 (step q.1 q.2).2) :
    Returns H p s (run step p s).1 (run step p s).2 := by
  induction p generalizing s with
  | pure a => exact .pure
  | call c k ih =>
    exact .call (h _ List.mem_cons_self) (ih _ fun q hq => h q (List.mem_cons_of_mem _ hq))

theorem returns_run (hstep : ∀ s c, H s c (step s c).1 (step s c).2) (p : Prog C R α) (s : S) :
    Returns H p s (run step p s).1 (run step p s).2 :=
  returns_of_trace fun _ _ => hstep _ _

theorem issues_of_mem_trace {step : S → (c : C) → R c × S}
    (hstep : ∀ s c, H s c (step s c).1 (step s c).2) {s' : S} {c : C}
    (h : (s', c) ∈ trace step p s) : Issues H p s s' c := by
  induction p generalizing s with
  | pure a => exact absurd h List.not_mem_nil
  | call c' k ih =>
    rcases List.mem_cons.mp h with heq | h
    · cases heq
      exact .here
    · exact .later (hstep s c') (ih _ h)

/-- Every command a program can issue, whatever it is answered, meets `P`. -/
def Only (P : C → Prop) : Prog C R α → Prop
  | .pure _ => True
  | .call c k => P c ∧ ∀ r, Only P (k r)

theorem Only.all (p : Prog C R α) : p.Only fun _ => True := by
  induction p with
  | pure a => trivial
  | call c k ih => exact ⟨trivial, ih⟩

theorem Only.bind {P : C → Prop} {f : α → Prog C R β} (hp : p.Only P)
    (hf : ∀ a, (f a).Only P) : (p.bind f).Only P := by
  induction p with
  | pure a => exact hf a
  | call c k ih => exact ⟨hp.1, fun r => ih r (hp.2 r)⟩

/-- What the commands a program issues preserve, its run preserves. -/
theorem run_invariant {P : C → Prop} {I : S → Prop}
    (hstep : ∀ c, P c → ∀ s, I s → I (step s c).2) (hp : p.Only P)
    (h : I s) : I (run step p s).2 := by
  induction p generalizing s with
  | pure a => exact h
  | call c k ih => exact ih _ (hp.2 _) (hstep c hp.1 s h)

/-- Two environments that answer alike to the commands a program issues, and
    stay related, give it the same result. -/
theorem run_related {T : Type} {step' : T → (c : C) → R c × T} {P : C → Prop} {rel : S → T → Prop}
    (hstep : ∀ c, P c → ∀ s t, rel s t →
      (step s c).1 = (step' t c).1 ∧ rel (step s c).2 (step' t c).2)
    (hp : p.Only P) {t : T} (h : rel s t) :
    (run step p s).1 = (run step' p t).1 ∧ rel (run step p s).2 (run step' p t).2 := by
  induction p generalizing s t with
  | pure a => exact ⟨rfl, h⟩
  | call c k ih =>
    obtain ⟨hans, hrel⟩ := hstep c hp.1 s t h
    rw [run_call, run_call, hans]
    exact ih _ (hp.2 _) hrel

end Prog

end Lib
