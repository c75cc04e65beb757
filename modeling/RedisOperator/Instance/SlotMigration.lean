/-
  RedisOperator.Instance.SlotMigration

  Two results about `POST /v1/cluster/migrate-range` as a whole: which slots
  it can leave without an owner when it stops on the way, and when it brings
  all keys of the range to the target, possibly after failed attempts.
-/

import RedisOperator.Instance.MigrateFacts

namespace RedisOperator.Migrate

open Lib Act

section

variable (keySlot : String → Int)

/-- The handler on a request body, with fuel for that many batches a slot.
    Irreducible: comparing two of its runs must not evaluate the handler. -/
@[irreducible] def migrateRange (fuel : Nat) (req : MigrateRangeRequest) : Op Unit :=
  handleClusterMigrateRange fuel "POST" true (some req)

/-- Every slot of the range is listed by the source or by the target. -/
def Listed (req : MigrateRangeRequest) (w : RedisPair) : Prop :=
  ∀ slot, IsSlot slot → req.start ≤ slot → slot ≤ req.stop →
    w.source.Lists slot ∨ w.target.Lists slot

/-- Whatever fails on the way, every slot of the range is listed by the source
    or by the target before each command and when the handler ends. -/
def KeepsListed (req : MigrateRangeRequest) (w : RedisPair) : Prop :=
  ∀ fuel, Act.wp (Handles keySlot true) (fun w' _ => Listed req w') (migrateRange fuel req)
    (fun _ _ w' => Listed req w') (fun _ w' => Listed req w') () w

/-- The slot and those of the range before it are hash slots whose keys the
    target takes. -/
def Reassigned (req : MigrateRangeRequest) (w : RedisPair) (slot : Int) : Prop :=
  slot ≤ req.stop ∧ ReassignedFrom keySlot req.start w slot

end

variable {keySlot : String → Int} {req : MigrateRangeRequest} {w w₀ : RedisPair}

theorem normalise_batchSize_pos (req : MigrateRangeRequest) : 0 < (normalise req).batchSize := by
  show 0 < if req.batchSize ≤ 0 then (64 : Int) else req.batchSize
  split <;> omega

theorem migrateRange_refused {fuel : Nat} {text : String} (h : refusal req = some text) :
    migrateRange fuel req = httpError 400 text := by
  simp [migrateRange, handleClusterMigrateRange, h]

theorem migrateRange_accepted {fuel : Nat} (h : refusal req = none) :
    migrateRange fuel req = migrateSlots fuel req := by
  simp [migrateRange, handleClusterMigrateRange, h]

/-- An accepted range is not empty. -/
theorem start_le_stop (h : refusal req = none) : req.start ≤ req.stop := by
  unfold refusal at h
  split_ifs at h
  omega

/-- What a request that was accepted can do to the keys and the records. -/
theorem wp_migrateRange {failures : Bool} (hvalid : refusal req = none) (fuel : Nat)
    (w : RedisPair) :
    wp (Handles keySlot failures)
      (fun w' _ => Reached keySlot (normalise req).targetNodeID req.start w w')
      (migrateRange fuel req)
      (fun _ _ w' => Progress keySlot (normalise req).targetNodeID req.start (req.stop + 1) w w')
      (fun _ w' => Reached keySlot (normalise req).targetNodeID req.start w w') () w := by
  have hend : req.start + ((req.stop - req.start + 1).toNat : Int) = req.stop + 1 := by
    have := start_le_stop hvalid
    omega
  rw [migrateRange_accepted hvalid, ← hend]
  exact wp_migrateSlots (normalise_batchSize_pos req) fuel _ le_rfl (Progress.start _ _ w)

/-! ## Slots without an owner -/

/-- The states of a request list the range if the target already lists what
    the handler can reassign. -/
theorem Reached.listed {w' : RedisPair} (h : Reached keySlot w.target.id req.start w w')
    (hlisted : Listed req w)
    (htarget : ∀ slot, Reassigned keySlot req w slot → w.target.Lists slot) : Listed req w' := by
  intro slot hslot hstart hstop
  -- what the target lists it keeps: it is only ever given slots
  have hkeep : w.target.Lists slot → w'.target.Lists slot := by
    intro hl
    rcases h.target_owner slot with ho | ho
    · exact ho.trans (hl.trans h.target_id.symm)
    · exact ho.trans h.target_id.symm
  rcases h.source_owner slot with hsame | hre
  · rcases hlisted slot hslot hstart hstop with hl | hl
    · exact Or.inl (hsame.trans (hl.trans h.source_id.symm))
    · exact Or.inr (hkeep hl)
  · exact Or.inr (hkeep (htarget slot ⟨hstop, hre⟩))

/-- A slot that can be handed over comes to the point where the source has
    given it up and the target has not been told. -/
theorem gap_of_wp {P : RedisPair → RedisCmd → Prop} {F : Stop → RedisPair → Prop} {fuel : Nat}
    {slot : Int} (hbatch : 0 < req.batchSize) (hpass : Passable keySlot w₀ slot)
    (hfuel : w₀.source.keys.card < fuel)
    (h : wp (Handles keySlot true) P (migrateSlot fuel req slot) (fun _ _ _ => True) F () w₀) :
    ∃ w₁ c, Drains keySlot slot w₀ w₁ ∧ P (w₁.setSlot .source slot req.targetNodeID) c := by
  obtain ⟨hslot, hable⟩ := hpass
  simp only [migrateSlot, send, wp_bind, wp_request] at h
  have himport := h.2 (.ok ()) w₀ (Or.inl ⟨by rw [if_pos hslot], rfl⟩)
  have hmigrate := himport.2 (.ok ()) w₀ (Or.inl ⟨by rw [if_pos hslot], rfl⟩)
  simp only [orFail_ok, wp_pure] at hmigrate
  have hcard := Finset.card_filter_le w₀.source.keys fun key => keySlot key = slot
  have hdrain := may_of_total
    (wp_drainSlot_total hbatch hslot fuel w₀ hable (hcard.trans_lt hfuel))
    (wp_drainSlot hbatch fuel w₀ fun _ _ _ => trivial)
  obtain ⟨_, _, w₁, ⟨hd, -, -⟩, hassign⟩ := Act.exists_return hdrain hmigrate
  have hgap := hassign.2 (.ok ()) (w₁.setSlot .source slot req.targetNodeID)
    (Or.inl (by simp only [Answers, if_pos hslot, and_self]))
  exact ⟨w₁, _, hd, hgap.1⟩

/-- The loop reaches every slot that can be handed over together with those
    before it. -/
theorem reaches_slot {P : RedisPair → RedisCmd → Prop} {F : Stop → RedisPair → Prop}
    {fuel n : Nat} {first next slot : Int} (hbatch : 0 < req.batchSize)
    (hfuel : w.source.keys.card < fuel) (hle : first ≤ next)
    (hslot : ReassignedFrom keySlot first w slot) (hnext : next ≤ slot) (hn : slot < next + n)
    (hprog : Progress keySlot req.targetNodeID first next w w₀)
    (h : wp (Handles keySlot true) P
      (Act.forEach (migrateSlot fuel req) (slotsFrom next n)) (fun _ _ _ => True) F () w₀) :
    ∃ w₁, Progress keySlot req.targetNodeID first slot w w₁ ∧
      wp (Handles keySlot true) P (migrateSlot fuel req slot) (fun _ _ _ => True) F () w₁ := by
  induction n generalizing next w₀ with
  | zero => omega
  | succ n ih =>
    simp only [slotsFrom, Act.forEach, wp_bind] at h
    rcases eq_or_lt_of_le hnext with rfl | hlt
    · exact ⟨w₀, hprog, wp_post h fun _ _ _ _ => trivial⟩
    · -- the slot before it can be handed over, so the loop can get past it
      obtain ⟨hs, hable⟩ := hslot.2 next hle hlt.le
      have hpass : Passable keySlot w₀ next := ⟨hs, (hprog.drainable_iff le_rfl).mpr hable⟩
      have hcard := (Finset.card_le_card hprog.source_keys).trans_lt hfuel
      have hreturn := may_of_total (wp_migrateSlot_total hbatch hpass hcard)
        (wp_migrateSlot hbatch fuel hle hprog)
      obtain ⟨_, _, w₁, hprog₁, hrest⟩ := Act.exists_return hreturn h
      exact ih (by omega) (by omega) (by push_cast at hn ⊢; omega) hprog₁ hrest

/-- The slots the handler can reassign have to be listed by the target. -/
theorem KeepsListed.target_lists (hid : trim req.targetNodeID = w.target.id)
    (hvalid : refusal req = none) (h : KeepsListed keySlot req w) {slot : Int}
    (hslot : Reassigned keySlot req w slot) : w.target.Lists slot := by
  have hrun := h (w.source.keys.card + 1)
  rw [migrateRange_accepted hvalid] at hrun
  obtain ⟨hstop, hfrom⟩ := hslot
  have hloop := wp_post hrun fun _ _ _ _ => trivial
  obtain ⟨w₁, hprog, hone⟩ := reaches_slot (normalise_batchSize_pos req) (Nat.lt_succ_self _)
    le_rfl hfrom hfrom.1 (by omega) (Progress.start _ _ w) hloop
  obtain ⟨hs, hable⟩ := hfrom.2 slot hfrom.1 le_rfl
  have hcard := (Finset.card_le_card hprog.source_keys).trans_lt (Nat.lt_succ_self _)
  obtain ⟨w₂, c, hd, hlisted⟩ := gap_of_wp (normalise_batchSize_pos req)
    ⟨hs, (hprog.drainable_iff le_rfl).mpr hable⟩ hcard hone
  have hreached := hprog.toReached.drains hd
  obtain ⟨d, k, -, -, rfl⟩ := hd
  rcases hlisted slot hs hfrom.1 hstop with hl | hl
  · -- the source records the target as the owner
    have howner : trim req.targetNodeID = w₁.source.id := (Function.update_self ..).symm.trans hl
    rw [hid, hprog.source_id] at howner
    exact absurd howner.symm w.distinct
  · have howner : w₁.target.slotOwner slot = w₁.target.id := hl
    rw [hprog.target_later slot le_rfl, hprog.target_id] at howner
    exact howner

/-- A request that starts with every slot of its range listed keeps it so
    exactly when the target lists every slot the handler can reassign already. -/
theorem keepsListed_iff (keySlot : String → Int) (req : MigrateRangeRequest) (w : RedisPair)
    (hid : trim req.targetNodeID = w.target.id) :
    KeepsListed keySlot req w ↔
      Listed req w ∧ (refusal req ≠ none ∨
        ∀ slot, Reassigned keySlot req w slot → w.target.Lists slot) := by
  cases hvalid : refusal req with
  | some text =>
    constructor
    · intro h
      have hrun := h 0
      rw [migrateRange_refused hvalid, wp_httpError] at hrun
      exact ⟨hrun, Or.inl (Option.some_ne_none text)⟩
    · rintro ⟨hlisted, -⟩
      intro fuel
      rw [migrateRange_refused hvalid, wp_httpError]
      exact hlisted
  | none =>
    constructor
    · intro h
      refine ⟨?_, Or.inr fun slot => h.target_lists hid hvalid⟩
      have hrun := h 0
      rw [migrateRange_accepted hvalid] at hrun
      -- the range is not empty, so the first command shows the initial state
      obtain ⟨n, hn⟩ : ∃ n, (req.stop - req.start + 1).toNat = n + 1 :=
        ⟨(req.stop - req.start).toNat, by have := start_le_stop hvalid; omega⟩
      simp only [migrateSlots, hn, slotsFrom, Act.forEach, migrateSlot, send, Act.wp_bind,
        Act.wp_request] at hrun
      exact hrun.1
    · rintro ⟨hlisted, hno | htarget⟩
      · exact absurd rfl hno
      · intro fuel
        have hlist : ∀ w', Reached keySlot (normalise req).targetNodeID req.start w w' →
            Listed req w' := fun w' hr => Reached.listed (hid ▸ hr) hlisted htarget
        exact Act.wp_mono (wp_migrateRange hvalid fuel w) (fun w' _ hr => hlist w' hr)
          (fun _ _ w' hp => hlist w' hp.toReached) (fun _ w' hr => hlist w' hr)

/-- Slot 0 belongs to the source and holds no keys. -/
def emptySlotPair : RedisPair where
  source := { id := "a", slotOwner := fun _ => "a" }
  target := { id := "b", slotOwner := fun _ => "a" }
  distinct := by decide

/-- An attempt before has told the target, and not the source, that the slot moved. -/
def halfMovedPair : RedisPair where
  source := { id := "a", slotOwner := fun _ => "a", keys := {"k"} }
  target := { id := "b", slotOwner := fun _ => "b" }
  distinct := by decide

/-- Move slot 0. -/
def moveSlotZero : MigrateRangeRequest where
  targetIP := "10.0.0.2"
  targetNodeID := "b"
  sourceNodeID := "a"
  start := 0
  stop := 0

/-- Moved once more, slot 0 is listed all the time. -/
theorem halfMovedPair_keepsListed :
    refusal moveSlotZero = none ∧ KeepsListed (fun _ => 0) moveSlotZero halfMovedPair :=
  ⟨by decide, (keepsListed_iff (fun _ => 0) moveSlotZero halfMovedPair (by decide)).mpr
    ⟨fun _ _ _ _ => Or.inl rfl, Or.inr fun _ _ => rfl⟩⟩

/-- If the last command fails, nobody lists slot 0. -/
theorem emptySlotPair_not_keepsListed :
    Listed moveSlotZero emptySlotPair ∧ ¬ KeepsListed (fun _ => 0) moveSlotZero emptySlotPair := by
  refine ⟨fun _ _ _ _ => Or.inl rfl, fun h => ?_⟩
  have hre : Reassigned (fun _ => 0) moveSlotZero emptySlotPair 0 := by
    refine ⟨le_rfl, le_rfl, fun s hs hle => ?_⟩
    obtain rfl : s = 0 := le_antisymm hle hs
    exact ⟨by decide, Or.inl rfl⟩
  have hlists := h.target_lists (by decide) (by decide) hre
  exact absurd hlists (by decide : ¬ "a" = "b")

/-! ## Keys on the target -/

section

variable (keySlot : String → Int)

/-- The key belongs to a slot of the range. -/
def InRange (req : MigrateRangeRequest) (key : String) : Prop :=
  req.start ≤ keySlot key ∧ keySlot key ≤ req.stop

/-- All keys of the range that were on either node in `w` are on the target,
    and none is on the source. -/
def AllMoved (req : MigrateRangeRequest) (w w' : RedisPair) : Prop :=
  (∀ key, InRange keySlot req key → key ∈ w.source.keys ∨ key ∈ w.target.keys →
    key ∈ w'.target.keys) ∧ ∀ key ∈ w'.source.keys, ¬ InRange keySlot req key

/-- A failure-free request in `w₁` comes to an end, succeeds and has then moved
    all keys of the range. -/
def Completes (req : MigrateRangeRequest) (w w₁ : RedisPair) : Prop :=
  ∃ bound, ∀ fuel, bound ≤ fuel →
    Act.wp (Handles keySlot false) (fun _ _ => True) (migrateRange fuel req)
      (fun _ _ w' => AllMoved keySlot req w w') (fun _ _ => False) () w₁

/-- A request in `w` that failed at any point may leave `w'`. -/
def FailedAttempt (req : MigrateRangeRequest) (w w' : RedisPair) : Prop :=
  ∃ fuel err, Prog.Returns (Handles keySlot true) (migrateRange fuel req ()) w (.error err) w'

end

/-- Failed attempts only ever bring keys from the source to the target. -/
theorem keys_of_failedAttempts (hvalid : refusal req = none) {w₁ : RedisPair}
    (h : Relation.ReflTransGen (FailedAttempt keySlot req) w w₁) :
    w₁.source.keys ⊆ w.source.keys ∧ w.target.keys ⊆ w₁.target.keys := by
  induction h with
  | refl => exact ⟨subset_rfl, subset_rfl⟩
  | tail _ hstep ih =>
    obtain ⟨fuel, err, hreturns⟩ := hstep
    have hreached := Prog.wp_returns hreturns (wp_migrateRange hvalid fuel _)
    exact ⟨hreached.source_keys.trans ih.1, ih.2.trans hreached.target_keys⟩

/-- With a password on the target, a request succeeds only on a range the
    source has no key of. -/
theorem Completes.source_empty (hvalid : refusal req = none)
    (hpass : w.target.requirepass ≠ "") (h : Completes keySlot req w w) :
    ∀ key ∈ w.source.keys, ¬ InRange keySlot req key := by
  obtain ⟨bound, hrun⟩ := h
  obtain ⟨_, _, w', -, hprog⟩ := Act.exists_return
    (may_of_wp (handles_total keySlot) (hrun bound le_rfl)) (wp_migrateRange hvalid bound w)
  rintro key hkey ⟨hstart, hstop⟩
  -- the request got past the key's slot, so the slot could be drained
  rcases (hprog.done (keySlot key) hstart (by omega)).2 with hempty | ⟨hno, -⟩
  · exact absurd (mem_keysIn.mpr ⟨hkey, rfl⟩) (hempty ▸ Finset.notMem_empty key)
  · exact hpass hno

/-- A request on a range the source has no key of succeeds. -/
theorem completes_of_source_empty (hvalid : refusal req = none) (hstart : 0 ≤ req.start)
    (hstop : req.stop ≤ 16383) {w₁ : RedisPair} (hsource : w₁.source.keys ⊆ w.source.keys)
    (htarget : w.target.keys ⊆ w₁.target.keys)
    (hempty : ∀ key ∈ w.source.keys, ¬ InRange keySlot req key) :
    Completes keySlot req w w₁ := by
  refine ⟨w₁.source.keys.card + 1, fun fuel hfuel => ?_⟩
  have hpassable : ∀ s, req.start ≤ s →
      s < req.start + ((req.stop - req.start + 1).toNat : Int) → Passable keySlot w₁ s := by
    intro s hs hlt
    refine ⟨⟨by omega, by omega⟩, Or.inl (Finset.eq_empty_of_forall_notMem fun key hkey => ?_)⟩
    obtain ⟨hk, rfl⟩ := mem_keysIn.mp hkey
    exact hempty key (hsource hk) ⟨hs, by omega⟩
  have htotal := wp_migrateSlots_total (normalise_batchSize_pos req) _ le_rfl hpassable
    (Nat.lt_of_succ_le hfuel) (Progress.start _ _ w₁)
  have hspec : wp (Handles keySlot false) _ (migrateRange fuel req) _ _ () w₁ :=
    wp_migrateRange hvalid fuel w₁
  rw [migrateRange_accepted hvalid] at hspec ⊢
  refine wp_mono (wp_and htotal hspec) (fun _ _ _ => trivial) ?_ (fun _ _ hfail => hfail.1)
  rintro _ _ w' ⟨-, hprog⟩
  refine ⟨fun key hin hmem => ?_, fun key hkey => hempty key (hsource (hprog.source_keys hkey))⟩
  rcases hmem with hs | ht
  · exact absurd hin (hempty key hs)
  · exact hprog.target_keys (htarget ht)

/-- With a password on the target, a request succeeds, at once and after any
    failed attempts, exactly when the source has no key of the range. -/
theorem completes_after_failedAttempts_iff (keySlot : String → Int) (req : MigrateRangeRequest)
    (w : RedisPair) (hvalid : refusal req = none) (hstart : 0 ≤ req.start)
    (hstop : req.stop ≤ 16383) (hpass : w.target.requirepass ≠ "") :
    (∀ w₁, Relation.ReflTransGen (FailedAttempt keySlot req) w w₁ → Completes keySlot req w w₁) ↔
      ∀ key ∈ w.source.keys, ¬ InRange keySlot req key := by
  constructor
  · intro h
    exact (h w .refl).source_empty hvalid hpass
  · intro hempty w₁ hattempts
    obtain ⟨hsource, htarget⟩ := keys_of_failedAttempts hvalid hattempts
    exact completes_of_source_empty hvalid hstart hstop hsource htarget hempty

/-- One key in slot 0, and the cluster password on both nodes. -/
def passwordPair : RedisPair where
  source := { id := "a", requirepass := "secret", slotOwner := fun _ => "a", keys := {"k"} }
  target := { id := "b", requirepass := "secret", slotOwner := fun _ => "a" }
  distinct := by decide

/-- With the key in slot 5 it is none of the range, and slot 0 can be moved. -/
theorem passwordPair_completes_elsewhere :
    passwordPair.source.keys = {"k"} ∧
      ∀ w₁, Relation.ReflTransGen (FailedAttempt (fun _ => 5) moveSlotZero) passwordPair w₁ →
        Completes (fun _ => 5) moveSlotZero passwordPair w₁ :=
  ⟨rfl, (completes_after_failedAttempts_iff (fun _ => 5) moveSlotZero passwordPair (by decide)
    (by decide) (by decide) (by decide)).mpr fun _ _ h => absurd h.2 (by decide : ¬ (5 : Int) ≤ 0)⟩

/-- A failure-free request does not move the key: the target asks for `AUTH`. -/
theorem passwordPair_not_completes :
    ¬ Completes (fun _ => 0) moveSlotZero passwordPair passwordPair := by
  intro h
  have hempty := h.source_empty (by decide) (by decide : "secret" ≠ "")
  exact hempty "k" (Finset.mem_singleton_self "k") ⟨le_rfl, le_rfl⟩

end RedisOperator.Migrate
