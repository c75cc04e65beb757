/-
  RedisOperator.Instance.MigrateFacts

  What `POST /v1/cluster/migrate-range` does to the two nodes, wherever it
  stops.  Draining a slot only moves keys of that slot, and comes to an end
  exactly when the target lets the keys in; only then are the owners changed,
  the source's record first.
-/

import RedisOperator.Instance.MigrateRange

namespace RedisOperator.Migrate

open Lib Act

/-! ## The records of the nodes -/

namespace RedisPair

variable (w : RedisPair)

@[simp] theorem transfer_source_keys (d c : Finset String) :
    (w.transfer d c).source.keys = w.source.keys \ d := rfl

@[simp] theorem transfer_target_keys (d c : Finset String) :
    (w.transfer d c).target.keys = w.target.keys ∪ c := rfl

@[simp] theorem transfer_empty : w.transfer ∅ ∅ = w := by
  obtain ⟨⟨_, _, _, _⟩, ⟨_, _, _, _⟩, _⟩ := w
  simp [transfer]

@[simp] theorem transfer_transfer (d c d' c' : Finset String) :
    (w.transfer d c).transfer d' c' = w.transfer (d ∪ d') (c ∪ c') := by
  simp [transfer, sdiff_sdiff_left, Finset.union_assoc]

theorem mem_present {keys : List String} {key : String} :
    key ∈ w.present keys ↔ key ∈ w.source.keys ∧ key ∈ keys := Finset.mem_filter

/-- Without `AUTH`, any password keeps the handler out. -/
theorem unauthorised_migrateArgs (req : MigrateRangeRequest) (keys : List String) :
    w.Unauthorised (migrateArgs req keys) ↔ w.target.requirepass ≠ "" :=
  ⟨And.left, fun h => ⟨h, nofun⟩⟩

end RedisPair

/-! ## What a command can do -/

section

variable {keySlot : String → Int} {failures : Bool} {w w' : RedisPair}

variable {r : Except String Unit} {slot : Int}

theorem handles_setSlotImporting {id : String}
    (h : Handles keySlot failures w (.setSlotImporting slot id) r w') :
    w' = w ∧ (r = .ok () → IsSlot slot) := by
  rcases h with ⟨hr, hw⟩ | ⟨-, ⟨err, rfl⟩, hw⟩
  · refine ⟨hw, fun hok => ?_⟩
    by_contra hslot
    rw [if_neg hslot] at hr
    obtain ⟨err, herr⟩ := hr
    rw [hok] at herr
    cases herr
  · exact ⟨hw, nofun⟩

theorem handles_setSlotMigrating {id : String}
    (h : Handles keySlot failures w (.setSlotMigrating slot id) r w') : w' = w := by
  rcases h with ⟨-, hw⟩ | ⟨-, -, hw⟩ <;> exact hw

theorem handles_getKeysInSlot {count : Int} {r : Except String (List String)}
    (h : Handles keySlot failures w (.getKeysInSlot slot count) r w') :
    w' = w ∧ ∀ keys, r = .ok keys →
      (∀ key ∈ keys, key ∈ w.source.keysIn keySlot slot) ∧ keys.Nodup ∧
        keys.length = min count.toNat (w.source.keysIn keySlot slot).card := by
  rcases h with ⟨hr, hw⟩ | ⟨-, ⟨err, rfl⟩, hw⟩
  · refine ⟨hw, fun keys hok => ?_⟩
    split at hr
    · obtain ⟨keys', hr', hnodup, hsub, hlen⟩ := hr
      rw [hok] at hr'
      cases hr'
      exact ⟨hsub, hnodup, hlen⟩
    · obtain ⟨err, herr⟩ := hr
      rw [hok] at herr
      cases herr
  · exact ⟨hw, nofun⟩

/-- A `MIGRATE` of the handler moves some of its keys; it succeeds only at a
    target without password that has none of them, and then moves them all. -/
theorem handles_migrate {req : MigrateRangeRequest} {keys : List String}
    (h : Handles keySlot failures w (.migrate (migrateArgs req keys)) r w') :
    (∃ d c, d ⊆ c ∧ c ⊆ w.present keys ∧ w' = w.transfer d c) ∧
      (r = .ok () → w.target.requirepass = "" ∧ w.present keys ∩ w.target.keys = ∅ ∧
        w' = w.transfer (w.present keys) (w.present keys)) := by
  have hsame : ∃ d c, d ⊆ c ∧ c ⊆ w.present keys ∧ w = w.transfer d c :=
    ⟨∅, ∅, subset_rfl, Finset.empty_subset _, w.transfer_empty.symm⟩
  rcases h with h | ⟨-, ⟨err, rfl⟩, rfl | ⟨-, d, c, hdc, hc, hw⟩⟩
  · simp only [Answers, w.unauthorised_migrateArgs] at h
    split at h
    · obtain ⟨⟨err, rfl⟩, rfl⟩ := h
      exact ⟨hsame, nofun⟩
    next hpass =>
      obtain ⟨hr, rfl⟩ := h
      refine ⟨⟨_, _, subset_rfl, Finset.sdiff_subset, rfl⟩, fun hok => ?_⟩
      have hbusy : w.busy (migrateArgs req keys) = ∅ := by
        by_contra hne
        rw [if_neg hne] at hr
        obtain ⟨err, herr⟩ := hr
        rw [hok] at herr
        cases herr
      refine ⟨not_not.mp hpass, hbusy, ?_⟩
      rw [hbusy, Finset.sdiff_empty]
      rfl
  · exact ⟨hsame, nofun⟩
  · exact ⟨⟨d, c, hdc, hc, hw⟩, nofun⟩

theorem handles_setSlotNode {peer : Peer} {id : String}
    (h : Handles keySlot failures w (.setSlotNode peer slot id) r w') :
    (w' = w ∨ w' = w.setSlot peer slot id) ∧ (r = .ok () → w' = w.setSlot peer slot id) := by
  rcases h with h | ⟨-, ⟨err, rfl⟩, hw⟩
  · simp only [Answers] at h
    split at h
    · exact ⟨Or.inr h.2, fun _ => h.2⟩
    · obtain ⟨⟨err, rfl⟩, rfl⟩ := h
      exact ⟨Or.inl rfl, nofun⟩
  · exact ⟨hw, nofun⟩

/-- Every command is answered. -/
theorem handles_total (keySlot : String → Int) (w : RedisPair) (c : RedisCmd) :
    ∃ r w', Handles keySlot false w c r w' := by
  suffices h : ∃ r w', Answers keySlot w c r w' from
    let ⟨r, w', ha⟩ := h
    ⟨r, w', Or.inl ha⟩
  cases c with
  | setSlotImporting slot id =>
    by_cases hs : IsSlot slot
    · exact ⟨.ok (), w, by simp [Answers, hs]⟩
    · exact ⟨.error "", w, by simp [Answers, hs, Refused]⟩
  | setSlotMigrating slot id =>
    by_cases hs : IsSlot slot
    · exact ⟨.ok (), w, by simp [Answers, hs]⟩
    · exact ⟨.error "", w, by simp [Answers, hs, Refused]⟩
  | getKeysInSlot slot count =>
    by_cases hs : IsSlot slot ∧ 0 ≤ count
    · refine ⟨.ok ((w.source.keysIn keySlot slot).toList.take count.toNat), w, ?_, rfl⟩
      rw [if_pos hs]
      refine ⟨_, rfl, (Finset.nodup_toList _).sublist (List.take_sublist _ _), ?_, ?_⟩
      · intro key hkey
        exact Finset.mem_toList.mp (List.mem_of_mem_take hkey)
      · rw [List.length_take, Finset.length_toList]
    · refine ⟨.error "", w, ?_, rfl⟩
      rw [if_neg hs]
      exact ⟨_, rfl⟩
  | migrate args =>
    by_cases hauth : w.Unauthorised args
    · exact ⟨.error "", w, by simp [Answers, hauth, Refused]⟩
    · let moved := w.present args.keys \ w.busy args
      by_cases hbusy : w.busy args = ∅
      · exact ⟨.ok (), w.transfer moved moved, by simp [Answers, hauth, hbusy, moved]⟩
      · exact ⟨.error "", w.transfer moved moved, by
          simp [Answers, hauth, hbusy, moved, Refused]⟩
  | setSlotNode peer slot id =>
    by_cases hs : IsSlot slot
    · exact ⟨.ok (), w.setSlot peer slot id, by simp [Answers, hs]⟩
    · exact ⟨.error "", w, by simp [Answers, hs, Refused]⟩

/-- What cannot go wrong without failures can be brought about with them. -/
theorem may_of_total {α : Type} {P : RedisPair → RedisCmd → Prop} {Q : α → Unit → RedisPair → Prop}
    {F : Stop → RedisPair → Prop} {x : Op α}
    (htotal : wp (Handles keySlot false) (fun _ _ => True) x (fun _ _ _ => True)
      (fun _ _ => False) () w)
    (hspec : wp (Handles keySlot false) P x Q F () w) :
    may (Handles keySlot true) (fun _ _ => False) x Q () w := by
  have hboth := wp_mono (wp_and htotal hspec) (fun _ _ h => h) (fun _ _ _ h => h.2)
    (fun _ _ h => h.1)
  refine may_handler ?_ (may_of_wp (handles_total keySlot) hboth)
  rintro w c r w' (ha | ⟨hfalse, -⟩)
  · exact Or.inl ha
  · exact absurd hfalse Bool.false_ne_true

end

/-! ## Draining a slot -/

section

variable (keySlot : String → Int)

/-- Some keys of the slot were copied, and some of those deleted. -/
def Drains (slot : Int) (w w' : RedisPair) : Prop :=
  ∃ d c, d ⊆ c ∧ c ⊆ w.source.keysIn keySlot slot ∧ w' = w.transfer d c

/-- The target takes the keys of the slot. -/
def Drainable (slot : Int) (w : RedisPair) : Prop :=
  w.source.keysIn keySlot slot = ∅ ∨
    (w.target.requirepass = "" ∧
      w.source.keysIn keySlot slot ∩ w.target.keysIn keySlot slot = ∅)

end

section

variable {keySlot : String → Int} {failures : Bool} {w w' w'' : RedisPair} {slot : Int}

theorem mem_keysIn {node : RedisNode} {key : String} :
    key ∈ node.keysIn keySlot slot ↔ key ∈ node.keys ∧ keySlot key = slot := Finset.mem_filter

theorem Drains.refl (w : RedisPair) : Drains keySlot slot w w :=
  ⟨∅, ∅, subset_rfl, Finset.empty_subset _, w.transfer_empty.symm⟩

theorem Drains.trans (h : Drains keySlot slot w w') (h' : Drains keySlot slot w' w'') :
    Drains keySlot slot w w'' := by
  obtain ⟨d, c, hdc, hc, rfl⟩ := h
  obtain ⟨d', c', hdc', hc', rfl⟩ := h'
  refine ⟨d ∪ d', c ∪ c', Finset.union_subset_union hdc hdc', Finset.union_subset hc ?_,
    w.transfer_transfer d c d' c'⟩
  intro key hkey
  obtain ⟨hmem, hslot⟩ := mem_keysIn.mp (hc' hkey)
  exact mem_keysIn.mpr ⟨(Finset.mem_sdiff.mp hmem).1, hslot⟩

/-- The keys of the other slots stay where they are. -/
theorem Drains.keysIn_other (h : Drains keySlot slot w w') {other : Int} (hne : other ≠ slot) :
    w'.source.keysIn keySlot other = w.source.keysIn keySlot other ∧
      w'.target.keysIn keySlot other = w.target.keysIn keySlot other := by
  obtain ⟨d, c, hdc, hc, rfl⟩ := h
  have hout : ∀ key ∈ c, keySlot key ≠ other := fun key hkey heq =>
    hne (heq.symm.trans (mem_keysIn.mp (hc hkey)).2)
  constructor <;> ext key <;>
    simp only [mem_keysIn, RedisPair.transfer_source_keys, RedisPair.transfer_target_keys,
      Finset.mem_sdiff, Finset.mem_union]
  · exact ⟨fun hk => ⟨hk.1.1, hk.2⟩, fun hk => ⟨⟨hk.1, fun hd => hout key (hdc hd) hk.2⟩, hk.2⟩⟩
  · exact ⟨fun hk => ⟨hk.1.resolve_right fun hc' => hout key hc' hk.2, hk.2⟩,
      fun hk => ⟨Or.inl hk.1, hk.2⟩⟩

/-- A batch is a set of keys of the slot. -/
theorem present_subset_keysIn {keys : List String}
    (hsub : ∀ key ∈ keys, key ∈ w.source.keysIn keySlot slot) :
    w.present keys ⊆ w.source.keysIn keySlot slot :=
  fun key hkey => hsub key (w.mem_present.mp hkey).2

theorem present_nonempty {keys : List String} (hne : keys ≠ [])
    (hsub : ∀ key ∈ keys, key ∈ w.source.keysIn keySlot slot) : (w.present keys).Nonempty := by
  obtain ⟨key, hkey⟩ := List.exists_mem_of_ne_nil keys hne
  exact ⟨key, w.mem_present.mpr ⟨(mem_keysIn.mp (hsub key hkey)).1, hkey⟩⟩

/-- If the rest of a slot can be drained after a batch, the slot could be. -/
theorem drainable_of_batch {p : Finset String} (hpass : w.target.requirepass = "")
    (hnew : p ∩ w.target.keys = ∅) (hrest : Drainable keySlot slot (w.transfer p p)) :
    Drainable keySlot slot w := by
  refine Or.inr ⟨hpass, Finset.eq_empty_of_forall_notMem fun key hkey => ?_⟩
  obtain ⟨hs, ht⟩ := Finset.mem_inter.mp hkey
  obtain ⟨hsk, hslot⟩ := mem_keysIn.mp hs
  have htk := (mem_keysIn.mp ht).1
  have hp : key ∉ p := fun hmem =>
    absurd (Finset.mem_inter.mpr ⟨hmem, htk⟩) (hnew ▸ Finset.notMem_empty key)
  have hleft : key ∈ (w.transfer p p).source.keysIn keySlot slot :=
    mem_keysIn.mpr ⟨Finset.mem_sdiff.mpr ⟨hsk, hp⟩, hslot⟩
  rcases hrest with hempty | ⟨-, hdisj⟩
  · exact absurd hleft (hempty ▸ Finset.notMem_empty key)
  · have hright : key ∈ (w.transfer p p).target.keysIn keySlot slot :=
      mem_keysIn.mpr ⟨Finset.mem_union_left _ htk, hslot⟩
    exact absurd (Finset.mem_inter.mpr ⟨hleft, hright⟩) (hdisj ▸ Finset.notMem_empty key)

/-- After a batch the rest of a slot can still be drained. -/
theorem drainable_batch {p : Finset String} (h : Drainable keySlot slot w) :
    Drainable keySlot slot (w.transfer p p) := by
  rcases h with hempty | ⟨hpass, hdisj⟩
  · refine Or.inl (Finset.eq_empty_of_forall_notMem fun key hkey => ?_)
    obtain ⟨hk, hslot⟩ := mem_keysIn.mp hkey
    have hmem := mem_keysIn.mpr ⟨(Finset.mem_sdiff.mp hk).1, hslot⟩
    exact absurd hmem (hempty ▸ Finset.notMem_empty key)
  · refine Or.inr ⟨hpass, Finset.eq_empty_of_forall_notMem fun key hkey => ?_⟩
    obtain ⟨hs, ht⟩ := Finset.mem_inter.mp hkey
    obtain ⟨hsk, hslot⟩ := mem_keysIn.mp hs
    obtain ⟨hsrc, hp⟩ := Finset.mem_sdiff.mp hsk
    have htgt := (Finset.mem_union.mp (mem_keysIn.mp ht).1).resolve_right hp
    exact absurd (Finset.mem_inter.mpr ⟨mem_keysIn.mpr ⟨hsrc, hslot⟩,
      mem_keysIn.mpr ⟨htgt, hslot⟩⟩) (hdisj ▸ Finset.notMem_empty key)

/-- Wherever the draining loop stops it has moved keys of its slot only; it
    returns only from a slot that can be drained, with none of its keys left. -/
theorem wp_drainSlot {P : RedisPair → RedisCmd → Prop} {req : MigrateRangeRequest}
    (hbatch : 0 < req.batchSize) (fuel : Nat) (w : RedisPair)
    (hP : ∀ w' c, Drains keySlot slot w w' → P w' c) :
    wp (Handles keySlot failures) P (drainSlot req slot fuel)
      (fun _ _ w' => Drains keySlot slot w w' ∧ w'.source.keysIn keySlot slot = ∅ ∧
        Drainable keySlot slot w)
      (fun _ w' => Drains keySlot slot w w') () w := by
  induction fuel generalizing w with
  | zero => exact Drains.refl w
  | succ fuel ih =>
    simp only [drainSlot, send, wp_bind, wp_request]
    refine ⟨hP w _ (Drains.refl w), fun r w₁ hr => ?_⟩
    obtain ⟨rfl, hkeys⟩ := handles_getKeysInSlot hr
    cases r with
    | error err => exact Drains.refl w₁
    | ok keys =>
      obtain ⟨hsub, -, hlen⟩ := hkeys keys rfl
      simp only [orFail_ok, wp_pure, wp_ite, wp_bind, wp_request]
      refine ⟨fun hnil => ?_, fun hne => ⟨hP w₁ _ (Drains.refl w₁), fun r w₂ hr => ?_⟩⟩
      · -- an empty batch means an empty slot: batches are never of size zero
        have hcard : (w₁.source.keysIn keySlot slot).card = 0 := by
          rw [hnil, List.length_nil] at hlen
          omega
        have hempty := Finset.card_eq_zero.mp hcard
        exact ⟨Drains.refl w₁, hempty, Or.inl hempty⟩
      · obtain ⟨⟨d, c, hdc, hc, rfl⟩, hok⟩ := handles_migrate hr
        have hstep : Drains keySlot slot w₁ (w₁.transfer d c) :=
          ⟨d, c, hdc, hc.trans (present_subset_keysIn hsub), rfl⟩
        cases r with
        | error err => exact hstep
        | ok _ =>
          obtain ⟨hpass, hnew, hw⟩ := hok rfl
          have hrest := ih (w₁.transfer d c) fun w' c' h => hP w' c' (hstep.trans h)
          rw [orFail_ok, wp_pure]
          refine wp_mono hrest (fun _ _ h => h) ?_ (fun _ _ h => hstep.trans h)
          rintro - - w' ⟨hdrains, hempty, hd⟩
          rw [hw] at hd
          exact ⟨hstep.trans hdrains, hempty, drainable_of_batch hpass hnew hd⟩

/-- Without failures, a slot that can be drained is drained: each round moves
    at least one key. -/
theorem wp_drainSlot_total {req : MigrateRangeRequest} (hbatch : 0 < req.batchSize)
    (hslot : IsSlot slot) (fuel : Nat) (w : RedisPair) (hd : Drainable keySlot slot w)
    (hfuel : (w.source.keysIn keySlot slot).card < fuel) :
    wp (Handles keySlot false) (fun _ _ => True) (drainSlot req slot fuel)
      (fun _ _ _ => True) (fun _ _ => False) () w := by
  induction fuel generalizing w with
  | zero => exact absurd hfuel (Nat.not_lt_zero _)
  | succ fuel ih =>
    simp only [drainSlot, send, wp_bind, wp_request, true_and]
    rintro r w₁ (⟨hr, rfl⟩ | ⟨hfalse, -⟩)
    · rw [if_pos ⟨hslot, hbatch.le⟩] at hr
      obtain ⟨keys, rfl, -, hsub, -⟩ := hr
      simp only [orFail_ok, wp_pure, wp_ite, wp_bind, wp_request, true_and]
      refine ⟨fun _ => trivial, fun hne => ?_⟩
      have hmoved := present_nonempty hne hsub
      have hin := present_subset_keysIn hsub
      -- the slot is not empty, so it is the target that lets the keys in
      obtain ⟨hpass, hdisj⟩ := hd.resolve_left fun hempty =>
        hmoved.ne_empty (Finset.subset_empty.mp (hempty ▸ hin))
      have hnew : w₁.busy (migrateArgs req keys) = ∅ := by
        refine Finset.eq_empty_of_forall_notMem fun key hkey => ?_
        obtain ⟨hp, ht⟩ := Finset.mem_inter.mp hkey
        have hk := hin hp
        exact absurd (Finset.mem_inter.mpr ⟨hk, mem_keysIn.mpr ⟨ht, (mem_keysIn.mp hk).2⟩⟩)
          (hdisj ▸ Finset.notMem_empty key)
      rintro r w₂ (h | ⟨hfalse, -⟩)
      · have hauth : ¬ w₁.Unauthorised (migrateArgs req keys) := fun hun => hun.1 hpass
        simp only [Answers, if_neg hauth, hnew, Finset.sdiff_empty] at h
        obtain ⟨rfl, rfl⟩ := h
        refine ih _ (drainable_batch (Or.inr ⟨hpass, hdisj⟩)) ?_
        have hless : (w₁.transfer (w₁.present keys) (w₁.present keys)).source.keysIn keySlot slot ⊂
            w₁.source.keysIn keySlot slot := by
          obtain ⟨key, hkey⟩ := hmoved
          refine Finset.ssubset_iff_of_subset (fun k hk => ?_) |>.mpr ⟨key, hin hkey, fun hk => ?_⟩
          · obtain ⟨hs, hks⟩ := mem_keysIn.mp hk
            exact mem_keysIn.mpr ⟨(Finset.mem_sdiff.mp hs).1, hks⟩
          · exact (Finset.mem_sdiff.mp (mem_keysIn.mp hk).1).2 hkey
        exact lt_of_lt_of_le (Finset.card_lt_card hless) (Nat.lt_succ_iff.mp hfuel)
      · exact absurd hfalse Bool.false_ne_true
    · exact absurd hfalse Bool.false_ne_true

end

/-! ## One slot after the other -/

section

variable (keySlot : String → Int)

/-- The handler can hand the slot over. -/
def Passable (w : RedisPair) (slot : Int) : Prop := IsSlot slot ∧ Drainable keySlot slot w

/-- The handler, started at `first`, gets as far as changing the slot's owner. -/
def ReassignedFrom (first : Int) (w : RedisPair) (slot : Int) : Prop :=
  first ≤ slot ∧ ∀ s, first ≤ s → s ≤ slot → Passable keySlot w s

/-- Every state of a request that started in `w`: the source gave up only
    slots it could drain, the target was only given slots, and keys only went
    from the one to the other. -/
structure Reached (id : String) (first : Int) (w w' : RedisPair) : Prop where
  source_id : w'.source.id = w.source.id
  target_id : w'.target.id = w.target.id
  source_owner : ∀ s, w'.source.slotOwner s = w.source.slotOwner s ∨
    ReassignedFrom keySlot first w s
  target_owner : ∀ s, w'.target.slotOwner s = w.target.slotOwner s ∨ w'.target.slotOwner s = id
  source_keys : w'.source.keys ⊆ w.source.keys
  target_keys : w.target.keys ⊆ w'.target.keys

/-- The slots before `next` are done, the others untouched. -/
structure Progress (id : String) (first next : Int) (w w' : RedisPair) : Prop extends
    Reached keySlot id first w w' where
  requirepass : w'.target.requirepass = w.target.requirepass
  done : ∀ s, first ≤ s → s < next → Passable keySlot w s
  target_later : ∀ s, next ≤ s → w'.target.slotOwner s = w.target.slotOwner s
  source_keysIn : ∀ s, next ≤ s → w'.source.keysIn keySlot s = w.source.keysIn keySlot s
  target_keysIn : ∀ s, next ≤ s → w'.target.keysIn keySlot s = w.target.keysIn keySlot s

end

section

variable {keySlot : String → Int} {failures : Bool} {id : String} {first next : Int}
  {w w₀ w' : RedisPair} {req : MigrateRangeRequest}

theorem Progress.start (id : String) (first : Int) (w : RedisPair) :
    Progress keySlot id first first w w where
  source_id := rfl
  target_id := rfl
  source_owner _ := Or.inl rfl
  target_owner _ := Or.inl rfl
  source_keys := subset_rfl
  target_keys := subset_rfl
  requirepass := rfl
  done _ hle hlt := absurd hlt (not_lt.mpr hle)
  target_later _ _ := rfl
  source_keysIn _ _ := rfl
  target_keysIn _ _ := rfl

variable {slot : Int}

/-- A slot that is still to come can be drained if it could be at the start. -/
theorem Progress.drainable_iff (h : Progress keySlot id first next w w₀)
    (hslot : next ≤ slot) : Drainable keySlot slot w₀ ↔ Drainable keySlot slot w := by
  rw [Drainable, Drainable, h.requirepass, h.source_keysIn slot hslot, h.target_keysIn slot hslot]

theorem Progress.reassigned (h : Progress keySlot id first next w w₀) (hle : first ≤ next)
    (hnext : Passable keySlot w next) : ReassignedFrom keySlot first w next := by
  refine ⟨hle, fun s hs hsn => ?_⟩
  rcases lt_or_eq_of_le hsn with hlt | rfl
  · exact h.done s hs hlt
  · exact hnext

theorem Reached.drains (h : Reached keySlot id first w w₀)
    (hd : Drains keySlot slot w₀ w') : Reached keySlot id first w w' := by
  obtain ⟨d, c, -, -, rfl⟩ := hd
  exact { h with
    source_keys := Finset.sdiff_subset.trans h.source_keys
    target_keys := h.target_keys.trans Finset.subset_union_left }

theorem Reached.setSource (h : Reached keySlot id first w w₀)
    (hslot : ReassignedFrom keySlot first w slot) :
    Reached keySlot id first w (w₀.setSlot .source slot id) := by
  refine { h with source_owner := fun s => ?_ }
  rcases eq_or_ne s slot with rfl | hne
  · exact Or.inr hslot
  · rcases h.source_owner s with hs | hs
    · exact Or.inl ((Function.update_of_ne hne ..).trans hs)
    · exact Or.inr hs

theorem Reached.setTarget (h : Reached keySlot id first w w₀) (slot : Int) :
    Reached keySlot id first w (w₀.setSlot .target slot id) := by
  refine { h with target_owner := fun s => ?_ }
  rcases eq_or_ne s slot with rfl | hne
  · exact Or.inr (Function.update_self ..)
  · exact (h.target_owner s).imp (Function.update_of_ne hne ..).trans
      (Function.update_of_ne hne ..).trans

/-- The state after a slot was drained and both records were changed. -/
theorem Progress.finish (h : Progress keySlot id first next w w₀) (hle : first ≤ next)
    (hnext : Passable keySlot w next) (hd : Drains keySlot next w₀ w') :
    Progress keySlot id first (next + 1) w
      ((w'.setSlot .source next id).setSlot .target next id) := by
  have hreached := ((h.toReached.drains hd).setSource (h.reassigned hle hnext)).setTarget next
  have hkeys := fun s (hs : next + 1 ≤ s) => hd.keysIn_other (show s ≠ next by omega)
  obtain ⟨d, c, -, -, rfl⟩ := hd
  exact { hreached with
    requirepass := h.requirepass
    done := fun s hs hlt => by
      rcases lt_or_eq_of_le (Int.lt_add_one_iff.mp hlt) with hlt | rfl
      · exact h.done s hs hlt
      · exact hnext
    target_later := fun s hs =>
      (Function.update_of_ne (by omega) ..).trans (h.target_later s (by omega))
    source_keysIn := fun s hs => (hkeys s hs).1.trans (h.source_keysIn s (by omega))
    target_keysIn := fun s hs => (hkeys s hs).2.trans (h.target_keysIn s (by omega)) }

/-- One slot: it is handed over, or the handler stops on the way. -/
theorem wp_migrateSlot (hbatch : 0 < req.batchSize) (fuel : Nat) (hle : first ≤ next)
    (h : Progress keySlot req.targetNodeID first next w w₀) :
    wp (Handles keySlot failures) (fun w' _ => Reached keySlot req.targetNodeID first w w')
      (migrateSlot fuel req next)
      (fun _ _ w' => Progress keySlot req.targetNodeID first (next + 1) w w')
      (fun _ w' => Reached keySlot req.targetNodeID first w w') () w₀ := by
  simp only [migrateSlot, send, wp_bind, wp_request]
  refine ⟨h.toReached, fun r w₁ hr => ?_⟩
  obtain ⟨rfl, hslot⟩ := handles_setSlotImporting hr
  cases r with
  | error err => exact h.toReached
  | ok _ =>
  simp only [orFail_ok, wp_pure]
  refine ⟨h.toReached, fun r w₂ hr => ?_⟩
  obtain rfl := handles_setSlotMigrating hr
  cases r with
  | error err => exact h.toReached
  | ok _ =>
  simp only [orFail_ok, wp_pure]
  refine wp_mono (wp_drainSlot hbatch fuel w₂ fun _ _ hd => h.toReached.drains hd)
    (fun _ _ hc => hc) ?_ (fun _ _ hd => h.toReached.drains hd)
  rintro - - w₃ ⟨hd, -, hable⟩
  have hpass : Passable keySlot w next := ⟨hslot rfl, (h.drainable_iff le_rfl).mp hable⟩
  have hdrained := h.toReached.drains hd
  -- from here on the source may have given the slot up
  have hgiven := hdrained.setSource (h.reassigned hle hpass)
  refine ⟨hdrained, fun r w₄ hr => ?_⟩
  obtain ⟨hw, hok⟩ := handles_setSlotNode hr
  cases r with
  | error err =>
    rcases hw with rfl | rfl
    · exact hdrained
    · exact hgiven
  | ok _ =>
  obtain rfl := hok rfl
  refine ⟨hgiven, fun r w₅ hr => ?_⟩
  obtain ⟨hw, hok⟩ := handles_setSlotNode hr
  cases r with
  | error err =>
    rcases hw with rfl | rfl
    · exact hgiven
    · exact hgiven.setTarget next
  | ok _ =>
  obtain rfl := hok rfl
  exact h.finish hle hpass hd

/-- The loop over the slots, from any point of it on. -/
theorem wp_migrateSlots (hbatch : 0 < req.batchSize) (fuel n : Nat) (hle : first ≤ next)
    (h : Progress keySlot req.targetNodeID first next w w₀) :
    wp (Handles keySlot failures) (fun w' _ => Reached keySlot req.targetNodeID first w w')
      (Act.forEach (migrateSlot fuel req) (slotsFrom next n))
      (fun _ _ w' => Progress keySlot req.targetNodeID first (next + n) w w')
      (fun _ w' => Reached keySlot req.targetNodeID first w w') () w₀ := by
  induction n generalizing next w₀ with
  | zero =>
    have hnext : next + ((0 : Nat) : Int) = next := by omega
    rw [hnext]
    exact h
  | succ n ih =>
    simp only [slotsFrom, Act.forEach, wp_bind]
    refine wp_post (wp_migrateSlot hbatch fuel hle h) ?_
    intro _ _ w₁ h₁
    have hrest := ih (hle.trans (by omega)) h₁
    have hnext : next + 1 + (n : Int) = next + ((n + 1 : Nat) : Int) := by omega
    rw [hnext] at hrest
    exact hrest

/-- Without failures a slot that can be handed over is. -/
theorem wp_migrateSlot_total (hbatch : 0 < req.batchSize) {fuel : Nat}
    (hpass : Passable keySlot w₀ slot) (hfuel : w₀.source.keys.card < fuel) :
    wp (Handles keySlot false) (fun _ _ => True) (migrateSlot fuel req slot)
      (fun _ _ _ => True) (fun _ _ => False) () w₀ := by
  obtain ⟨hslot, hable⟩ := hpass
  simp only [migrateSlot, send, wp_bind, wp_request, true_and]
  rintro r w₁ (⟨hr, rfl⟩ | ⟨hfalse, -⟩)
  swap
  · exact absurd hfalse Bool.false_ne_true
  rw [if_pos hslot] at hr
  subst hr
  rintro r w₂ (⟨hr, rfl⟩ | ⟨hfalse, -⟩)
  swap
  · exact absurd hfalse Bool.false_ne_true
  rw [if_pos hslot] at hr
  subst hr
  simp only [orFail_ok, wp_pure]
  have hcard := Finset.card_filter_le w₂.source.keys fun key => keySlot key = slot
  refine wp_post (wp_drainSlot_total hbatch hslot fuel w₂ hable (hcard.trans_lt hfuel)) ?_
  rintro - - w₃ -
  rintro r w₄ (h | ⟨hfalse, -⟩)
  swap
  · exact absurd hfalse Bool.false_ne_true
  simp only [Answers, if_pos hslot] at h
  obtain ⟨rfl, rfl⟩ := h
  rintro r w₅ (h | ⟨hfalse, -⟩)
  swap
  · exact absurd hfalse Bool.false_ne_true
  simp only [Answers, if_pos hslot] at h
  obtain ⟨rfl, rfl⟩ := h
  trivial

/-- Without failures a range of slots that can be handed over is. -/
theorem wp_migrateSlots_total (hbatch : 0 < req.batchSize) {fuel : Nat} (n : Nat)
    (hle : first ≤ next) (hpass : ∀ s, next ≤ s → s < next + n → Passable keySlot w s)
    (hfuel : w.source.keys.card < fuel)
    (h : Progress keySlot req.targetNodeID first next w w₀) :
    wp (Handles keySlot false) (fun _ _ => True)
      (Act.forEach (migrateSlot fuel req) (slotsFrom next n))
      (fun _ _ _ => True) (fun _ _ => False) () w₀ := by
  induction n generalizing next w₀ with
  | zero => trivial
  | succ n ih =>
    simp only [slotsFrom, Act.forEach, wp_bind]
    obtain ⟨hslot, hable⟩ := hpass next le_rfl (by omega)
    have hone := wp_migrateSlot_total hbatch ⟨hslot, (h.drainable_iff le_rfl).mpr hable⟩
      ((Finset.card_le_card h.source_keys).trans_lt hfuel)
    refine wp_mono (wp_and hone (wp_migrateSlot hbatch fuel hle h))
      (fun _ _ _ => trivial) ?_ (fun _ _ hfail => hfail.1)
    rintro _ _ w₁ ⟨-, h₁⟩
    exact ih (by omega) (fun s hs hlt => hpass s (by omega) (by omega)) h₁

end

end RedisOperator.Migrate
