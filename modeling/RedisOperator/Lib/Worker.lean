/-
  RedisOperator.Lib.Worker

  A worker that runs one program (`Lib.Prog`) over and over: it starts a run,
  has its commands answered one by one, and starts again when the run is over.
  It may crash between any two commands; what it was about to do is then lost,
  the environment stays as it is.

  `Worker.Sound` is the invariant of such a system: the environment meets `I`,
  and the run that is going on, if any, still issues only commands allowed for a
  run that began where it began.
-/

import RedisOperator.Lib.Prog

namespace Lib

/-- The environment, and what is left of the run that is going on. -/
structure Worker (C : Type) (R : C → Type) (S α : Type) where
  env : S
  rest : Option (Prog C R α) := none

namespace Worker

variable {C : Type} {R : C → Type} {S α : Type}

/-- One step of a worker with the program `job`. -/
inductive Step (H : Prog.Handler C R S) (job : Prog C R α) :
    Worker C R S α → Worker C R S α → Prop
  | start {s : S} : Step H job ⟨s, none⟩ ⟨s, some job⟩
  | call {s s' : S} {c : C} {k : R c → Prog C R α} {r : R c} (hr : H s c r s') :
      Step H job ⟨s, some (.call c k)⟩ ⟨s', some (k r)⟩
  | finish {s : S} {a : α} : Step H job ⟨s, some (.pure a)⟩ ⟨s, none⟩
  | crash {s : S} {p : Prog C R α} : Step H job ⟨s, some p⟩ ⟨s, none⟩

/-- Any number of steps. -/
abbrev Steps (H : Prog.Handler C R S) (job : Prog C R α) :
    Worker C R S α → Worker C R S α → Prop :=
  Relation.ReflTransGen (Step H job)

variable {H : Prog.Handler C R S} {job : Prog C R α}

/-! ## Invariants -/

/-- The environment meets `I`; a run that is going on began in an environment
    `s₀` with `I` and issues only what `P s₀` allows. -/
def Sound (H : Prog.Handler C R S) (P : S → S → C → Prop) (I : S → Prop)
    (w : Worker C R S α) : Prop :=
  I w.env ∧ ∀ p, w.rest = some p → ∃ s₀, I s₀ ∧ Prog.wp H (P s₀) (fun _ _ => True) p w.env

/-- How the environment moves at a command that is allowed. -/
def Moves (H : Prog.Handler C R S) (P : S → S → C → Prop) (I : S → Prop) (s s' : S) : Prop :=
  ∃ s₀ c r, I s₀ ∧ I s ∧ P s₀ s c ∧ H s c r s'

variable {P : S → S → C → Prop} {I : S → Prop}

theorem sound_idle {s : S} (h : I s) : Sound H P I (⟨s, none⟩ : Worker C R S α) :=
  ⟨h, fun _ hp => nomatch hp⟩

theorem sound_step (hjob : ∀ s, I s → Prog.wp H (P s) (fun _ _ => True) job s)
    (hmoves : ∀ s s', Moves H P I s s' → I s') {w w' : Worker C R S α}
    (h : Sound H P I w) (hstep : Step H job w w') :
    Sound H P I w' ∧ (w'.env = w.env ∨ Moves H P I w.env w'.env) := by
  cases hstep with
  | start =>
    refine ⟨⟨h.1, fun p hp => ?_⟩, Or.inl rfl⟩
    cases hp
    exact ⟨_, h.1, hjob _ h.1⟩
  | call hr =>
    obtain ⟨s₀, h₀, hwp⟩ := h.2 _ rfl
    have hmove : Moves H P I _ _ := ⟨s₀, _, _, h₀, h.1, hwp.1, hr⟩
    refine ⟨⟨hmoves _ _ hmove, fun p hp => ?_⟩, Or.inr hmove⟩
    cases hp
    exact ⟨s₀, h₀, hwp.2 _ _ hr⟩
  | finish => exact ⟨sound_idle h.1, Or.inl rfl⟩
  | crash => exact ⟨sound_idle h.1, Or.inl rfl⟩

/-- Along a run the invariant holds, and the environment moves only by allowed commands. -/
theorem sound_steps (hjob : ∀ s, I s → Prog.wp H (P s) (fun _ _ => True) job s)
    (hmoves : ∀ s s', Moves H P I s s' → I s') {w w' : Worker C R S α}
    (h : Sound H P I w) (hsteps : Steps H job w w') :
    Sound H P I w' ∧ Relation.ReflTransGen (Moves H P I) w.env w'.env := by
  induction hsteps with
  | refl => exact ⟨h, .refl⟩
  | tail _ hstep ih =>
    obtain ⟨hsound, hsame | hmove⟩ := sound_step hjob hmoves ih.1 hstep
    · exact ⟨hsound, hsame ▸ ih.2⟩
    · exact ⟨hsound, ih.2.tail hmove⟩

/-! ## Runs -/

/-- Where a run stands that crashed after `n` commands, in an environment that
    answers by a function. -/
def crashed (step : S → (c : C) → R c × S) : Nat → Prog C R α → S → S
  | 0, _, s => s
  | _ + 1, .pure _, s => s
  | n + 1, .call c k, s => crashed step n (k (step s c).1) (step s c).2

variable {step : S → (c : C) → R c × S}

theorem steps_of_crashed
    (hstep : ∀ s c, H s c (step s c).1 (step s c).2) (n : Nat) (p : Prog C R α) (s : S) :
    Steps H job ⟨s, some p⟩ ⟨crashed step n p s, none⟩ := by
  induction n generalizing p s with
  | zero => exact .single .crash
  | succ n ih =>
    cases p with
    | pure a => exact .single .crash
    | call c k => exact .head (.call (hstep s c)) (ih _ _)

theorem steps_of_crash (hstep : ∀ s c, H s c (step s c).1 (step s c).2) (n : Nat) (s : S) :
    Steps H job ⟨s, none⟩ ⟨crashed step n job s, none⟩ :=
  .head .start (steps_of_crashed hstep n job s)

/-- A guard holds at each of the first `n` commands of such a run. -/
def guarded (guard : S → C → Prop) [∀ s c, Decidable (guard s c)]
    (step : S → (c : C) → R c × S) : Nat → Prog C R α → S → Bool
  | 0, _, _ => true
  | _ + 1, .pure _, _ => true
  | n + 1, .call c k, s =>
    decide (guard s c) && guarded guard step n (k (step s c).1) (step s c).2

theorem steps_of_guarded {guard : S → C → Prop} [∀ s c, Decidable (guard s c)]
    (hstep : ∀ s c, H s c (step s c).1 (step s c).2) (n : Nat)
    (p : Prog C R α) (s : S) (h : guarded guard step n p s = true) :
    Steps (Prog.restrict guard H) job ⟨s, some p⟩ ⟨crashed step n p s, none⟩ := by
  induction n generalizing p s with
  | zero => exact .single .crash
  | succ n ih =>
    cases p with
    | pure a => exact .single .crash
    | call c k =>
      rw [guarded, Bool.and_eq_true, decide_eq_true_eq] at h
      exact .head (.call ⟨h.1, hstep s c⟩) (ih _ _ h.2)

/-- `n` whole runs, one after the other. -/
inductive Passes (H : Prog.Handler C R S) (job : Prog C R α) : Nat → S → S → Prop
  | none {s : S} : Passes H job 0 s s
  | next {n : Nat} {s s' s'' : S} {a : α} (h : Prog.Returns H job s a s')
      (hrest : Passes H job n s' s'') : Passes H job (n + 1) s s''

end Worker

end Lib
