/-
  RedisOperator.Lib.Act

  Actions: programs (`Lib.Prog`) with a local variable of type `L` that they
  may overwrite, and which may stop with an error.  This is the shape of a
  procedure that works on its own copy of an object while it talks to the
  environment and returns early on the first failed request.

  `Act.wp` and `Act.may` are the two readings of `Lib.Prog` carried over.
  Each combinator has one equation for both readings, so that proofs about an
  action never unfold the combinators.
-/

import RedisOperator.Lib.Prog

namespace Lib

/-- A program with a local `L` and errors `E`. -/
def Act (L E : Type) (C : Type) (R : C → Type) (α : Type) : Type :=
  L → Prog C R (Except E (α × L))

namespace Act

variable {L E C S : Type} {R : C → Type} {α β γ A : Type}

/-- Return `a`, leave the local alone. -/
protected def pure (a : α) : Act L E C R α := fun l => .pure (.ok (a, l))

/-- Continue after a return, stop after an error. -/
def next (f : α → Act L E C R β) : Except E (α × L) → Prog C R (Except E (β × L))
  | .ok (a, l) => f a l
  | .error e => .pure (.error e)

protected def bind (x : Act L E C R α) (f : α → Act L E C R β) : Act L E C R β :=
  fun l => (x l).bind (next f)

instance : Monad (Act L E C R) where
  pure := Act.pure
  bind := Act.bind

/-- Stop with an error. -/
def fail (e : E) : Act L E C R α := fun _ => .pure (.error e)

/-- Read the local. -/
def get : Act L E C R L := fun l => .pure (.ok (l, l))

/-- Overwrite the local. -/
def set (l : L) : Act L E C R Unit := fun _ => .pure (.ok ((), l))

/-- Issue a command and return its answer. -/
def request (c : C) : Act L E C R (R c) := fun l => .call c fun r => .pure (.ok (r, l))

/-- What `context f` does with the outcome of the wrapped action. -/
def contextResult (f : E → E) : Except E (α × L) → Prog C R (Except E (α × L))
  | .ok al => .pure (.ok al)
  | .error e => .pure (.error (f e))

/-- Rewrite the error of an action. -/
def context (f : E → E) (x : Act L E C R α) : Act L E C R α :=
  fun l => (x l).bind (contextResult f)

/-- What `attempt` does with the outcome of the wrapped action. -/
def attemptResult (l : L) : Except E (α × L) → Prog C R (Except E (Except E α × L))
  | .ok (a, l') => .pure (.ok (.ok a, l'))
  | .error e => .pure (.ok (.error e, l))

/-- Turn an error into a value; the local is then what it was before. -/
def attempt (x : Act L E C R α) : Act L E C R (Except E α) :=
  fun l => (x l).bind (attemptResult l)

/-- Run `f` on each element in turn. -/
def forEach (f : β → Act L E C R Unit) : List β → Act L E C R Unit
  | [] => pure ()
  | x :: xs => f x >>= fun _ => forEach f xs

/-- A loop with an accumulator and an early exit: `f` either hands the
    accumulator on (`Sum.inl`) or leaves the loop with a result (`Sum.inr`). -/
def loop (f : A → β → Act L E C R (A ⊕ γ)) : A → List β → Act L E C R (A ⊕ γ)
  | a, [] => pure (.inl a)
  | a, x :: xs => f a x >>= Sum.elim (fun a' => loop f a' xs) (fun g => pure (.inr g))

/-! ## Demonic reading -/

/-- The postcondition an outcome has to meet: `Q` on a return, `F` on an error. -/
def post (Q : α → L → S → Prop) (F : E → S → Prop) : Except E (α × L) → S → Prop
  | .ok (a, l), s => Q a l s
  | .error e, s => F e s

/-- Whatever the environment answers, issued commands meet `P`, a return meets
    `Q` and an error meets `F`. -/
def wp (H : Prog.Handler C R S) (P : S → C → Prop) (x : Act L E C R α)
    (Q : α → L → S → Prop) (F : E → S → Prop) (l : L) (s : S) : Prop :=
  Prog.wp H P (post Q F) (x l) s

/-- Some answers lead to a command that meets `B`, or to a return that meets `Q`. -/
def may (H : Prog.Handler C R S) (B : S → C → Prop) (x : Act L E C R α)
    (Q : α → L → S → Prop) (l : L) (s : S) : Prop :=
  Prog.may H B (post Q fun _ _ => False) (x l) s

section Demonic

variable {H : Prog.Handler C R S} {P : S → C → Prop} {F : E → S → Prop} {l : L} {s : S}

variable {Q : α → L → S → Prop}

@[simp] theorem wp_pure (a : α) : wp H P (pure a : Act L E C R α) Q F l s ↔ Q a l s := Iff.rfl

@[simp] theorem wp_get {Q : L → L → S → Prop} :
    wp H P (get : Act L E C R L) Q F l s ↔ Q l l s := Iff.rfl

@[simp] theorem wp_set {Q : Unit → L → S → Prop} (l' : L) :
    wp H P (set l' : Act L E C R Unit) Q F l s ↔ Q () l' s := Iff.rfl

@[simp] theorem wp_request {c : C} {Q : R c → L → S → Prop} :
    wp H P (request c : Act L E C R (R c)) Q F l s ↔
      P s c ∧ ∀ r s', H s c r s' → Q r l s' := Iff.rfl

/-- A request in an environment with a ghost. -/
theorem wp_request_track {G : Type} {upd : G → (c : C) → R c → G} {P : S × G → C → Prop}
    {F : E → S × G → Prop} {g : G} {c : C} {Q : R c → L → S × G → Prop} :
    wp (Prog.track upd H) P (request c : Act L E C R (R c)) Q F l (s, g) ↔
      P (s, g) c ∧ ∀ r s', H s c r s' → Q r l (s', upd g c r) := by
  refine and_congr_right fun _ => ⟨fun h r s' hr => h r (s', upd g c r) ⟨hr, rfl⟩, ?_⟩
  rintro h r ⟨s', g'⟩ ⟨hr, hg⟩
  obtain rfl : g' = upd g c r := hg
  exact h r s' hr

variable {x : Act L E C R α}

@[simp] theorem wp_bind {f : α → Act L E C R β} {Q : β → L → S → Prop} :
    wp H P (x >>= f) Q F l s ↔ wp H P x (fun a l' s' => wp H P (f a) Q F l' s') F l s := by
  show Prog.wp H P (post Q F) ((x l).bind (next f)) s ↔ _
  rw [Prog.wp_bind]
  unfold wp
  have hpost : (fun a s' => Prog.wp H P (post Q F) (next f a) s')
      = post (fun a l' s' => Prog.wp H P (post Q F) (f a l') s') F := by
    funext o s'
    rcases o with e | ⟨a, l'⟩ <;> rfl
  rw [hpost]

variable {F' : E → S → Prop} {Q' : α → L → S → Prop}

theorem wp_mono {P' : S → C → Prop} (h : wp H P x Q F l s) (hP : ∀ s c, P s c → P' s c)
    (hQ : ∀ a l s, Q a l s → Q' a l s) (hF : ∀ e s, F e s → F' e s) : wp H P' x Q' F' l s := by
  refine Prog.wp_mono hP ?_ h
  rintro (e | ⟨a, l'⟩) s' hs
  · exact hF e s' hs
  · exact hQ a l' s' hs

theorem wp_post (h : wp H P x Q F l s) (hQ : ∀ a l s, Q a l s → Q' a l s) : wp H P x Q' F l s :=
  wp_mono h (fun _ _ hc => hc) hQ (fun _ _ he => he)

theorem wp_and {P' : S → C → Prop} (h : wp H P x Q F l s) (h' : wp H P' x Q' F' l s) :
    wp H (fun s c => P s c ∧ P' s c) x (fun a l s => Q a l s ∧ Q' a l s)
      (fun e s => F e s ∧ F' e s) l s := by
  refine Prog.wp_mono (fun _ _ hc => hc) ?_ (Prog.wp_and h h')
  rintro (e | ⟨a, l'⟩) s' hs <;> exact hs

theorem wp_unrestrict {G : S → C → Prop}
    (hG : wp H G x Q' F' l s) (h : wp (Prog.restrict G H) P x Q F l s) :
    wp H P x Q F l s := Prog.wp_unrestrict hG h

theorem wp_restrict {G : S → C → Prop} (h : wp H P x Q F l s) :
    wp (Prog.restrict G H) P x Q F l s := Prog.wp_restrict h

theorem wp_invariant {I : S → Prop}
    (hstep : ∀ s c r s', I s → P s c → H s c r s' → I s') (h : wp H P x Q F l s) (hs : I s) :
    wp H (fun s _ => I s) x (fun _ _ s => I s) (fun _ s => I s) l s := by
  refine Prog.wp_mono (fun _ _ hc => hc) ?_ (Prog.wp_invariant hstep h hs)
  rintro (e | ⟨a, l'⟩) s' hs' <;> exact hs'

@[simp] theorem wp_context {f : E → E} :
    wp H P (context f x) Q F l s ↔ wp H P x Q (fun e s' => F (f e) s') l s := by
  show Prog.wp H P (post Q F) ((x l).bind (contextResult f)) s ↔ _
  rw [Prog.wp_bind]
  unfold wp
  have hpost : (fun a s' => Prog.wp H P (post Q F) (contextResult f a) s')
      = post (fun a l' s' => Q a l' s') (fun e s' => F (f e) s') := by
    funext o s'
    rcases o with e | ⟨a, l'⟩ <;> rfl
  rw [hpost]

@[simp] theorem wp_attempt {Q : Except E α → L → S → Prop} : wp H P (attempt x) Q F l s ↔
      wp H P x (fun a l' s' => Q (.ok a) l' s') (fun e s' => Q (.error e) l s') l s := by
  show Prog.wp H P (post Q F) ((x l).bind (attemptResult l)) s ↔ _
  rw [Prog.wp_bind]
  unfold wp
  have hpost : (fun a s' => Prog.wp H P (post Q F) (attemptResult l a) s')
      = post (fun a l' s' => Q (.ok a) l' s') (fun e s' => Q (.error e) l s') := by
    funext o s'
    rcases o with e | ⟨a, l'⟩ <;> rfl
  rw [hpost]

@[simp] theorem wp_ite {c : Prop} [Decidable c] {y : Act L E C R α} :
    wp H P (if c then x else y) Q F l s ↔
      (c → wp H P x Q F l s) ∧ (¬ c → wp H P y Q F l s) := by
  by_cases h : c <;> simp [h]

variable {xs : List β}

/-- The invariant rule for `forEach`. -/
theorem wp_forEach {f : β → Act L E C R Unit} (I : L → S → Prop)
    (hstep : ∀ x ∈ xs, ∀ l s, I l s → wp H P (f x) (fun _ l' s' => I l' s') F l s)
    (h0 : I l s) : wp H P (forEach f xs) (fun _ l' s' => I l' s') F l s := by
  induction xs generalizing l s with
  | nil => exact h0
  | cons x xs ih =>
    show wp H P (f x >>= fun _ => forEach f xs) _ F l s
    rw [wp_bind]
    refine wp_post (hstep x (List.mem_cons_self ..) l s h0) ?_
    intro _ l' s' hI
    exact ih (fun y hy => hstep y (List.mem_cons_of_mem _ hy)) hI

/-- The invariant rule for `forEach`, with an invariant about the elements that
    have been dealt with. -/
theorem wp_forEach_done {f : β → Act L E C R Unit} (I : List β → L → S → Prop)
    (hstep : ∀ done x rest, xs = done ++ x :: rest → ∀ l s, I done l s →
      wp H P (f x) (fun _ l' s' => I (done ++ [x]) l' s') F l s)
    (h0 : I [] l s) : wp H P (forEach f xs) (fun _ l' s' => I xs l' s') F l s := by
  suffices h : ∀ rest done, xs = done ++ rest → ∀ l s, I done l s →
      wp H P (forEach f rest) (fun _ l' s' => I xs l' s') F l s from h xs [] rfl l s h0
  intro rest
  induction rest with
  | nil =>
    intro done hxs l s hI
    rw [List.append_nil] at hxs
    exact hxs ▸ hI
  | cons x rest ih =>
    intro done hxs l s hI
    show wp H P (f x >>= fun _ => forEach f rest) _ F l s
    rw [wp_bind]
    refine wp_post (hstep done x rest hxs l s hI) fun _ l' s' hI' => ?_
    exact ih (done ++ [x]) (by rw [hxs, List.append_assoc]; rfl) l' s' hI'

variable {a : A}

/-- The invariant rule for a fold. -/
theorem wp_foldlM {f : A → β → Act L E C R A} (I : A → L → S → Prop)
    (hstep : ∀ x ∈ xs, ∀ a l s, I a l s → wp H P (f a x) I F l s) (h0 : I a l s) :
    wp H P (xs.foldlM f a) I F l s := by
  induction xs generalizing a l s with
  | nil => exact h0
  | cons x xs ih =>
    rw [List.foldlM_cons, wp_bind]
    refine wp_post (hstep x (List.mem_cons_self ..) a l s h0) ?_
    intro a' l' s' hI
    exact ih (fun y hy => hstep y (List.mem_cons_of_mem _ hy)) hI

/-- A fold whose steps compute a function is the fold of that function. -/
theorem wp_foldlM_iff {f : A → β → Act L E C R A} {g : A → β → A}
    (h : ∀ a x (Q : A → L → S → Prop), wp H P (f a x) Q F l s ↔ Q (g a x) l s)
    {Q : A → L → S → Prop} : wp H P (xs.foldlM f a) Q F l s ↔ Q (xs.foldl g a) l s := by
  induction xs generalizing a with
  | nil => rfl
  | cons x xs ih => rw [List.foldlM_cons, wp_bind, h, ih, List.foldl_cons]

variable {f : A → β → Act L E C R (A ⊕ γ)}

@[simp] theorem wp_loop_nil {Q : A ⊕ γ → L → S → Prop} :
    wp H P (loop f a []) Q F l s ↔ Q (.inl a) l s := Iff.rfl

theorem wp_loop_cons {x : β} {Q : A ⊕ γ → L → S → Prop} : wp H P (loop f a (x :: xs)) Q F l s ↔
      wp H P (f a x) (fun r l' s' =>
        Sum.elim (fun a' => wp H P (loop f a' xs) Q F l' s') (fun g => Q (.inr g) l' s') r)
        F l s := by
  show wp H P (f a x >>= _) Q F l s ↔ _
  rw [wp_bind]
  constructor <;>
  · intro h
    refine wp_post h ?_
    rintro (a' | g) l' s' hs <;> exact hs

/-- The invariant rule for a loop with an early exit. -/
theorem wp_loop (I : A → L → S → Prop) (J : γ → L → S → Prop)
    (hstep : ∀ x ∈ xs, ∀ a l s, I a l s → wp H P (f a x)
      (fun r l' s' => r.elim (fun a' => I a' l' s') (fun g => J g l' s')) F l s) (h0 : I a l s) :
    wp H P (loop f a xs)
      (fun r l' s' => r.elim (fun a' => I a' l' s') (fun g => J g l' s')) F l s := by
  induction xs generalizing a l s with
  | nil => exact h0
  | cons x xs ih =>
    rw [wp_loop_cons]
    refine wp_post (hstep x (List.mem_cons_self ..) a l s h0) ?_
    rintro (a' | g) l' s' hs
    · exact ih (fun y hy => hstep y (List.mem_cons_of_mem _ hy)) hs
    · exact hs

/-- The invariant rule for a loop over the numbers below `n`; the invariant
    knows how far the loop has come. -/
theorem wp_loop_range {f : A → Nat → Act L E C R (A ⊕ γ)} (I : Nat → A → L → S → Prop)
    (J : γ → L → S → Prop) {n : Nat} (hstep : ∀ i < n, ∀ a l s, I i a l s → wp H P (f a i)
      (fun r l' s' => r.elim (fun a' => I (i + 1) a' l' s') (fun g => J g l' s')) F l s)
    (h0 : I 0 a l s) : wp H P (loop f a (List.range n))
      (fun r l' s' => r.elim (fun a' => I n a' l' s') (fun g => J g l' s')) F l s := by
  -- from any point of the range on
  suffices h : ∀ count start, start + count = n → ∀ a l s, I start a l s →
      wp H P (loop f a (List.range' start count))
        (fun r l' s' => r.elim (fun a' => I n a' l' s') (fun g => J g l' s')) F l s by
    rw [List.range_eq_range']
    exact h n 0 (Nat.zero_add n) a l s h0
  intro count
  induction count with
  | zero =>
    rintro start rfl a l s hI
    exact hI
  | succ count ih =>
    intro start hn a l s hI
    rw [List.range'_succ, wp_loop_cons]
    refine wp_post (hstep start (by omega) a l s hI) ?_
    rintro (a' | g) l' s' hs
    · exact ih (start + 1) (by omega) a' l' s' hs
    · exact hs

end Demonic

/-! ## Invariants -/

section Invariants

/-- The action issues commands that meet `P` and keeps `I`; where it stops with
    an error, `J` holds. -/
def KeepsUnder (H : Prog.Handler C R S) (P : S → C → Prop) (I : L → S → Prop) (J : S → Prop)
    (x : Act L E C R α) : Prop :=
  ∀ l s, I l s → wp H P x (fun _ l' s' => I l' s') (fun _ s' => J s') l s

namespace KeepsUnder

variable {H : Prog.Handler C R S} {P : S → C → Prop} {I : L → S → Prop} {J : S → Prop}

theorem pure (a : α) : KeepsUnder H P I J (Pure.pure a : Act L E C R α) := fun _ _ hI => hI

theorem get : KeepsUnder H P I J (Act.get : Act L E C R L) := fun _ _ hI => hI

theorem fail (hIJ : ∀ l s, I l s → J s) (e : E) :
    KeepsUnder H P I J (Act.fail e : Act L E C R α) := hIJ

variable {x : Act L E C R α}

theorem bind {f : α → Act L E C R β} (hx : KeepsUnder H P I J x)
    (hf : ∀ a, KeepsUnder H P I J (f a)) : KeepsUnder H P I J (x >>= f) := by
  intro l s hI
  rw [wp_bind]
  exact wp_post (hx l s hI) fun a l' s' hI' => hf a l' s' hI'

theorem ite {c : Prop} [Decidable c] {y : Act L E C R α} (hx : c → KeepsUnder H P I J x)
    (hy : ¬ c → KeepsUnder H P I J y) : KeepsUnder H P I J (if c then x else y) :=
  fun l s hI => wp_ite.mpr ⟨fun h => hx h l s hI, fun h => hy h l s hI⟩

theorem context (f : E → E) (hx : KeepsUnder H P I J x) :
    KeepsUnder H P I J (Act.context f x) := fun l s hI => wp_context.mpr (hx l s hI)

/-- After a caught error the local is what it was, and `J` gives the invariant back. -/
theorem attempt (hx : KeepsUnder H P I J x)
    (hJ : ∀ l s s', I l s → J s' → I l s') : KeepsUnder H P I J (Act.attempt x) := by
  intro l s hI
  rw [wp_attempt]
  exact wp_mono (hx l s hI) (fun _ _ h => h) (fun _ _ _ h => h) fun _ s' h => hJ l s s' hI h

theorem forEach {f : β → Act L E C R Unit} {xs : List β}
    (hf : ∀ x ∈ xs, KeepsUnder H P I J (f x)) : KeepsUnder H P I J (Act.forEach f xs) :=
  fun _ _ hI => wp_forEach I (fun x hx l s hI => hf x hx l s hI) hI

theorem foldlM {f : A → β → Act L E C R A} {xs : List β}
    (hf : ∀ a, ∀ x ∈ xs, KeepsUnder H P I J (f a x)) (a : A) :
    KeepsUnder H P I J (xs.foldlM f a) :=
  fun _ _ hI => wp_foldlM (fun _ => I) (fun x hx a l s hI => hf a x hx l s hI) hI

theorem loop {f : A → β → Act L E C R (A ⊕ γ)} {xs : List β}
    (hf : ∀ a, ∀ x ∈ xs, KeepsUnder H P I J (f a x)) (a : A) :
    KeepsUnder H P I J (Act.loop f a xs) := by
  intro l s hI
  refine wp_post (wp_loop (fun _ => I) (fun _ => I) (fun x hx a l s hI => ?_) hI) ?_
  · refine wp_post (hf a x hx l s hI) ?_
    rintro (a' | g) l' s' hI' <;> exact hI'
  · rintro (a' | g) l' s' hI' <;> exact hI'

end KeepsUnder

/-- Anything may be answered. -/
def anyAnswer : Prog.Handler C R Unit := fun _ _ _ _ => True

/-- The action only issues commands in `G`, and hands its local on as it is. -/
def KeepsLocal (G : C → Prop) (x : Act L E C R α) : Prop :=
  ∀ l₀, KeepsUnder anyAnswer (fun _ c => G c) (fun l _ => l = l₀) (fun _ => True) x

namespace KeepsLocal

variable {G : C → Prop}

theorem pure (a : α) : KeepsLocal G (Pure.pure a : Act L E C R α) := fun _ => KeepsUnder.pure a

theorem get : KeepsLocal G (Act.get : Act L E C R L) := fun _ => KeepsUnder.get

theorem fail (e : E) : KeepsLocal G (Act.fail e : Act L E C R α) :=
  fun _ => KeepsUnder.fail (fun _ _ _ => trivial) e

theorem request {c : C} (h : G c) : KeepsLocal G (Act.request c : Act L E C R (R c)) :=
  fun _ _ _ hl => ⟨h, fun _ _ _ => hl⟩

variable {x : Act L E C R α}

theorem bind {f : α → Act L E C R β} (hx : KeepsLocal G x)
    (hf : ∀ a, KeepsLocal G (f a)) : KeepsLocal G (x >>= f) :=
  fun l₀ => (hx l₀).bind fun a => hf a l₀

theorem ite {c : Prop} [Decidable c] {y : Act L E C R α} (hx : c → KeepsLocal G x)
    (hy : ¬ c → KeepsLocal G y) : KeepsLocal G (if c then x else y) :=
  fun l₀ => KeepsUnder.ite (fun h => hx h l₀) fun h => hy h l₀

theorem context (f : E → E) (hx : KeepsLocal G x) :
    KeepsLocal G (Act.context f x) := fun l₀ => (hx l₀).context f

theorem attempt (hx : KeepsLocal G x) : KeepsLocal G (Act.attempt x) :=
  fun l₀ => (hx l₀).attempt fun _ _ _ hl _ => hl

theorem forEach {f : β → Act L E C R Unit} {xs : List β} (hf : ∀ x, KeepsLocal G (f x)) :
    KeepsLocal G (Act.forEach f xs) := fun l₀ => KeepsUnder.forEach fun x _ => hf x l₀

theorem foldlM {f : A → β → Act L E C R A} {xs : List β} (hf : ∀ a x, KeepsLocal G (f a x))
    (a : A) : KeepsLocal G (xs.foldlM f a) :=
  fun l₀ => KeepsUnder.foldlM (fun a x _ => hf a x l₀) a

theorem loop {f : A → β → Act L E C R (A ⊕ γ)} {xs : List β} (hf : ∀ a x, KeepsLocal G (f a x))
    (a : A) : KeepsLocal G (Act.loop f a xs) :=
  fun l₀ => KeepsUnder.loop (fun a x _ => hf a x l₀) a

/-- What commands in `G` preserve holds throughout, and the local is the old one. -/
theorem wp {H : Prog.Handler C R S} {P : S → C → Prop} {J : S → Prop}
    {Q : α → L → S → Prop} {F : E → S → Prop} {l : L} {s : S} (hx : KeepsLocal G x)
    (hguard : ∀ s c, J s → G c → P s c) (hstep : ∀ s c r s', J s → G c → H s c r s' → J s')
    (hs : J s) (hQ : ∀ a s', J s' → Q a l s') (hF : ∀ e s', J s' → F e s') :
    Act.wp H P x Q F l s := by
  have hprog : ∀ (p : Prog C R (Except E (α × L))),
      Prog.wp anyAnswer (fun _ c => G c) (post (fun _ l' _ => l' = l) fun _ _ => True) p () →
      ∀ s, J s → Prog.wp H P (post Q F) p s := by
    intro p
    induction p with
    | pure o =>
      intro hp s hs
      rcases o with e | ⟨a, l'⟩
      · exact hF e s hs
      · obtain rfl : l' = l := hp
        exact hQ a s hs
    | call c k ih =>
      intro hp s hs
      exact ⟨hguard s c hs hp.1, fun r s' hr =>
        ih r (hp.2 r () trivial) s' (hstep s c r s' hs hp.1 hr)⟩
  exact hprog (x l) (hx l l () rfl) s hs

end KeepsLocal

end Invariants

section Angelic

variable {H : Prog.Handler C R S} {B : S → C → Prop} {l : L} {s : S}

variable {Q : α → L → S → Prop}

@[simp] theorem may_pure (a : α) : may H B (pure a : Act L E C R α) Q l s ↔ Q a l s := Iff.rfl

@[simp] theorem may_get {Q : L → L → S → Prop} :
    may H B (get : Act L E C R L) Q l s ↔ Q l l s := Iff.rfl

@[simp] theorem may_request {c : C} {Q : R c → L → S → Prop} :
    may H B (request c : Act L E C R (R c)) Q l s ↔
      B s c ∨ ∃ r s', H s c r s' ∧ Q r l s' := Iff.rfl

variable {x : Act L E C R α}

@[simp] theorem may_bind {f : α → Act L E C R β} {Q : β → L → S → Prop} :
    may H B (x >>= f) Q l s ↔ may H B x (fun a l' s' => may H B (f a) Q l' s') l s := by
  show Prog.may H B (post Q fun _ _ => False) ((x l).bind (next f)) s ↔ _
  rw [Prog.may_bind]
  unfold may
  have hpost : (fun a s' => Prog.may H B (post Q fun _ _ => False) (next f a) s')
      = post (fun a l' s' => Prog.may H B (post Q fun _ _ => False) (f a l') s')
          (fun _ _ => False) := by
    funext o s'
    rcases o with e | ⟨a, l'⟩ <;> rfl
  rw [hpost]

variable {Q' : α → L → S → Prop}

theorem may_mono {B' : S → C → Prop} (h : may H B x Q l s) (hB : ∀ s c, B s c → B' s c)
    (hQ : ∀ a l s, Q a l s → Q' a l s) : may H B' x Q' l s := by
  refine Prog.may_mono hB ?_ h
  rintro (e | ⟨a, l'⟩) s' hs
  · exact hs
  · exact hQ a l' s' hs

theorem may_post (h : may H B x Q l s) (hQ : ∀ a l s, Q a l s → Q' a l s) : may H B x Q' l s :=
  may_mono h (fun _ _ hc => hc) hQ

@[simp] theorem may_context {f : E → E} : may H B (context f x) Q l s ↔ may H B x Q l s := by
  show Prog.may H B (post Q fun _ _ => False) ((x l).bind (contextResult f)) s ↔ _
  rw [Prog.may_bind]
  unfold may
  have hpost : (fun a s' => Prog.may H B (post Q fun _ _ => False) (contextResult f a) s')
      = post Q (fun _ _ => False) := by
    funext o s'
    rcases o with e | ⟨a, l'⟩ <;> rfl
  rw [hpost]

theorem may_attempt {Q : Except E α → L → S → Prop}
    (h : may H B x (fun a l' s' => Q (.ok a) l' s') l s) : may H B (attempt x) Q l s := by
  show Prog.may H B (post Q fun _ _ => False) ((x l).bind (attemptResult l)) s
  rw [Prog.may_bind]
  refine Prog.may_mono (fun _ _ hc => hc) ?_ h
  rintro (e | ⟨a, l'⟩) s' hs
  · exact hs.elim
  · exact hs

@[simp] theorem may_ite {c : Prop} [Decidable c] {y : Act L E C R α} :
    may H B (if c then x else y) Q l s ↔
      (c ∧ may H B x Q l s) ∨ (¬ c ∧ may H B y Q l s) := by
  by_cases h : c <;> simp [h]

/-- The invariant rule for `forEach`, angelic side. -/
theorem may_forEach {f : β → Act L E C R Unit} (I : L → S → Prop) {xs : List β}
    (hstep : ∀ x ∈ xs, ∀ l s, I l s → may H B (f x) (fun _ l' s' => I l' s') l s)
    (h0 : I l s) : may H B (forEach f xs) (fun _ l' s' => I l' s') l s := by
  induction xs generalizing l s with
  | nil => exact h0
  | cons x xs ih =>
    show may H B (f x >>= fun _ => forEach f xs) _ l s
    rw [may_bind]
    refine may_post (hstep x (List.mem_cons_self ..) l s h0) ?_
    intro _ l' s' hI
    exact ih (fun y hy => hstep y (List.mem_cons_of_mem _ hy)) hI

/-- What an action can return meets what every return meets. -/
theorem exists_return {P : S → C → Prop} {F : E → S → Prop}
    (hret : may H (fun _ _ => False) x Q l s) (h : wp H P x Q' F l s) :
    ∃ a l' s', Q a l' s' ∧ Q' a l' s' := by
  rcases Prog.may_iff.mp (Prog.may_and_wp hret h) with ⟨s', c, -, hc⟩ | ⟨o, s', -, ho⟩
  · exact hc.elim
  · rcases o with e | ⟨a, l'⟩
    · exact ho.2.elim
    · exact ⟨a, l', s', ho.2, ho.1⟩

/-- An action that never fails, in an environment that always answers, returns. -/
theorem may_of_wp {P : S → C → Prop}
    (htotal : ∀ s c, ∃ r s', H s c r s') (h : wp H P x Q (fun _ _ => False) l s) :
    may H B x Q l s :=
  Prog.may_of_wp htotal h

theorem may_handler {H' : Prog.Handler C R S}
    (hH : ∀ s c r s', H s c r s' → H' s c r s') (h : may H B x Q l s) : may H' B x Q l s :=
  Prog.may_handler hH h

end Angelic

/-! ## Environments that answer by a function -/

section Run

variable {step : S → (c : C) → R c × S} {l : L} {s : S}

/-- The run of an action: its outcome and the environment it leaves. -/
def run (step : S → (c : C) → R c × S) (x : Act L E C R α) (l : L) (s : S) :
    Except E (α × L) × S :=
  Prog.run step (x l) s

/-- Every command an action can issue meets `P`. -/
def Only (P : C → Prop) (x : Act L E C R α) : Prop := ∀ l, (x l).Only P

@[simp] theorem run_fail (e : E) : run step (fail e : Act L E C R α) l s = (.error e, s) := rfl

@[simp] theorem run_request (c : C) :
    run step (request c : Act L E C R (R c)) l s = (.ok ((step s c).1, l), (step s c).2) := rfl

variable {x : Act L E C R α} {s' : S} {f : α → Act L E C R β}

theorem run_bind_ok {a : α} {l' : L}
    (h : run step x l s = (.ok (a, l'), s')) : run step (x >>= f) l s = run step (f a) l' s' := by
  show Prog.run step ((x l).bind (next f)) s = _
  rw [Prog.run_bind]
  show Prog.run step (next f (run step x l s).1) (run step x l s).2 = _
  rw [h]
  rfl

theorem run_bind_error {e : E}
    (h : run step x l s = (.error e, s')) : run step (x >>= f) l s = (.error e, s') := by
  show Prog.run step ((x l).bind (next f)) s = _
  rw [Prog.run_bind]
  show Prog.run step (next f (run step x l s).1) (run step x l s).2 = _
  rw [h]
  rfl

theorem run_attempt_ok {a : α} {l' : L} (h : run step x l s = (.ok (a, l'), s')) :
    run step (attempt x) l s = (.ok (.ok a, l'), s') := by
  show Prog.run step ((x l).bind (attemptResult l)) s = _
  rw [Prog.run_bind]
  show Prog.run step (attemptResult l (run step x l s).1) (run step x l s).2 = _
  rw [h]
  rfl

theorem run_attempt_error {e : E} (h : run step x l s = (.error e, s')) :
    run step (attempt x) l s = (.ok (.error e, l), s') := by
  show Prog.run step ((x l).bind (attemptResult l)) s = _
  rw [Prog.run_bind]
  show Prog.run step (attemptResult l (run step x l s).1) (run step x l s).2 = _
  rw [h]
  rfl

theorem run_context_ok {f : E → E} {a : α} {l' : L}
    (h : run step x l s = (.ok (a, l'), s')) : run step (context f x) l s = (.ok (a, l'), s') := by
  show Prog.run step ((x l).bind (contextResult f)) s = _
  rw [Prog.run_bind]
  show Prog.run step (contextResult f (run step x l s).1) (run step x l s).2 = _
  rw [h]
  rfl

theorem run_context_error {f : E → E} {e : E}
    (h : run step x l s = (.error e, s')) : run step (context f x) l s = (.error (f e), s') := by
  show Prog.run step ((x l).bind (contextResult f)) s = _
  rw [Prog.run_bind]
  show Prog.run step (contextResult f (run step x l s).1) (run step x l s).2 = _
  rw [h]
  rfl

variable {P : C → Prop}

/-- An action that only issues commands in `P` does so in every environment. -/
theorem Only.wp (hx : Only P x) (H : Prog.Handler C R S) :
    Act.wp H (fun _ c => P c) x (fun _ _ _ => True) (fun _ _ => True) l s := by
  have hprog : ∀ (p : Prog C R (Except E (α × L))) (s : S), p.Only P →
      Prog.wp H (fun _ c => P c) (post (fun _ _ _ => True) fun _ _ => True) p s := by
    intro p
    induction p with
    | pure o =>
      intro s _
      rcases o with e | ⟨a, l'⟩ <;> trivial
    | call c k ih =>
      intro s hp
      exact ⟨hp.1, fun r s' _ => ih r s' (hp.2 r)⟩
  exact hprog (x l) s (hx l)

theorem Only.mono {P' : C → Prop} (hx : Only P x) (h : ∀ c, P c → P' c) : Only P' x := by
  have hprog : ∀ p : Prog C R (Except E (α × L)), p.Only P → p.Only P' := by
    intro p
    induction p with
    | pure o => exact fun _ => trivial
    | call c k ih => exact fun hp => ⟨h c hp.1, fun r => ih r (hp.2 r)⟩
  exact fun l => hprog (x l) (hx l)

/-- An action that hands its local on issues nothing else either. -/
theorem KeepsLocal.only {G : C → Prop} (hx : KeepsLocal G x) : Only G x := by
  have hprog : ∀ (p : Prog C R (Except E (α × L))) {Q : Except E (α × L) → Unit → Prop},
      Prog.wp anyAnswer (fun _ c => G c) Q p () → p.Only G := by
    intro p Q
    induction p with
    | pure o => exact fun _ => trivial
    | call c k ih => exact fun hp => ⟨hp.1, fun r => ih r (hp.2 r () trivial)⟩
  exact fun l => hprog (x l) (hx l l () rfl)

theorem Only.all (x : Act L E C R α) : Only (fun _ => True) x := fun l => Prog.Only.all (x l)

theorem Only.context (f : E → E) (hx : Only P x) : Only P (Act.context f x) := by
  intro l
  refine Prog.Only.bind (hx l) ?_
  rintro (e | al) <;> trivial

theorem Only.pure (a : α) : Only P (Pure.pure a : Act L E C R α) := fun _ => trivial

theorem Only.fail (e : E) : Only P (Act.fail e : Act L E C R α) := fun _ => trivial

theorem Only.get : Only P (Act.get : Act L E C R L) := fun _ => trivial

theorem Only.set (l' : L) : Only P (Act.set l' : Act L E C R Unit) := fun _ => trivial

theorem Only.request {c : C} (h : P c) :
    Only P (Act.request c : Act L E C R (R c)) := fun _ => ⟨h, fun _ => trivial⟩

theorem Only.bind (hx : Only P x) (hf : ∀ a, Only P (f a)) : Only P (x >>= f) := by
  intro l
  refine Prog.Only.bind (hx l) ?_
  rintro (e | ⟨a, l'⟩)
  · trivial
  · exact hf a l'

theorem Only.forEach {f : β → Act L E C R Unit} {xs : List β}
    (hf : ∀ x ∈ xs, Only P (f x)) : Only P (Act.forEach f xs) := by
  induction xs with
  | nil => exact Only.pure ()
  | cons x xs ih =>
    exact Only.bind (hf x (List.mem_cons_self ..)) fun _ =>
      ih fun y hy => hf y (List.mem_cons_of_mem _ hy)

theorem Only.ite {c : Prop} [Decidable c] {y : Act L E C R α}
    (hx : c → Only P x) (hy : ¬ c → Only P y) : Only P (if c then x else y) := by
  by_cases h : c
  · rw [if_pos h]
    exact hx h
  · rw [if_neg h]
    exact hy h

end Run

end Act

end Lib
