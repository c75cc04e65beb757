/-
  RedisOperator.Cluster.HeirChoice

  Which heir does a shard with a doomed owner borrow, and does the order in
  which the runtime visits `members` decide it?  `spareSurvivor` takes the
  first spare of a largest shard that has one.  Only the numbers of members and
  of spares matter for which shard that is, so the question is settled on those
  two functions: `Undisputed` says that each time an heir is borrowed one shard
  alone is largest.  The loop computes one result for all orders exactly then.
-/

import RedisOperator.Cluster.LayoutCounting

namespace RedisOperator

open Lib

/-! ## Lending, counted -/

/-- A shard of several members with a spare among them can lend. -/
def Lends (size spare : Nat → Nat) (s : Nat) : Prop := 1 < size s ∧ 0 < spare s

/-- One of the largest shards that can lend. -/
def Largest (size spare : Nat → Nat) (s : Nat) : Prop :=
  Lends size spare s ∧ ∀ t, Lends size spare t → size t ≤ size s

/-- The sizes once `source` has lent a member to `target`. -/
def lendSize (size : Nat → Nat) (source target : Nat) (s : Nat) : Nat :=
  (size s - if s = source then 1 else 0) + if s = target then 1 else 0

/-- The spares left once `source` has lent one. -/
def lendSpare (spare : Nat → Nat) (source : Nat) (s : Nat) : Nat :=
  spare s - if s = source then 1 else 0

/-- Each of the shards in need borrows from a shard that is alone the largest;
    once no shard can lend, none does. -/
def Undisputed : (Nat → Nat) → (Nat → Nat) → List Nat → Prop
  | _, _, [] => True
  | size, spare, target :: targets =>
    ∀ s, Largest size spare s → (∀ t, Largest size spare t → t = s) ∧
      Undisputed (lendSize size s target) (lendSpare spare s) targets

/-! ## The counts of a layout -/

/-- Visit the entry of one key before the others. -/
def MapOrder.first (key : Nat) : MapOrder where
  visitMembers l := l.filter (fun entry => decide (entry.1 = key)) ++
    l.filter fun entry => !decide (entry.1 = key)
  visitMembers_perm l := List.filter_append_perm _ l
  visitStatuses := MapOrder.stored.visitStatuses
  visitStatuses_perm := MapOrder.stored.visitStatuses_perm

namespace PlanEnv

variable {e : PlanEnv} {names : List String} {l : ShardLayout}

/-- How many members a shard has. -/
def size (l : ShardLayout) (s : Nat) : Nat := (l.members.get s).length

/-- Does the pod survive without leading the shard? -/
def sparesAs (e : PlanEnv) (l : ShardLayout) (s : Nat) (name : String) : Bool :=
  name != l.primaryOf.get s && !e.doomed name

/-- How many members of a shard survive without leading it. -/
def spareCount (e : PlanEnv) (l : ShardLayout) (s : Nat) : Nat :=
  (l.members.get s).countP (sparesAs e l s)

/-- The member a shard would lend. -/
def spareOf (e : PlanEnv) (l : ShardLayout) (s : Nat) : Option String :=
  (l.members.get s).find? (sparesAs e l s)

/-- The shards of a list that borrow an heir: they have an owner and no primary. -/
def needy (l : ShardLayout) (shards : List Nat) : List Nat :=
  shards.filter fun s => decide (l.primaryOf.get s = "" ∧ l.ownerOf.get s ≠ "")

variable {s : Nat}

theorem spareOf_isSome_iff : (∃ name, spareOf e l s = some name) ↔ 0 < spareCount e l s := by
  rw [spareCount, List.countP_pos_iff, ← Option.isSome_iff_exists, spareOf, List.find?_isSome]

variable {name : String}

theorem spareOf_spec (h : spareOf e l s = some name) :
    name ∈ l.members.get s ∧ name ≠ l.primaryOf.get s ∧ e.doomed name = false := by
  have hp := List.find?_some h
  simp only [sparesAs, Bool.and_eq_true, bne_iff_ne, ne_eq, Bool.not_eq_eq_eq_not, Bool.not_true]
    at hp
  exact ⟨List.mem_of_find?_eq_some h, hp⟩

/-! ## What `spareSurvivor` picks -/

/-- Can this entry replace the best one so far? -/
def improves (e : PlanEnv) (l : ShardLayout) (best : String × Nat)
    (entry : Nat × List String) : Prop :=
  best.2 < entry.2.length ∧ ∃ name, entry.2.find? (sparesAs e l entry.1) = some name

variable {best : String × Nat}

theorem spareStep_of_not_improves {entry : Nat × List String}
    (h : ¬ improves e l best entry) : l.spareStep e.doomed best entry = best := by
  unfold ShardLayout.spareStep
  split
  · rfl
  · rename_i hlen
    have hnone : entry.2.find? (sparesAs e l entry.1) = none := by
      rw [← Option.not_isSome_iff_eq_none, Option.isSome_iff_exists]
      exact fun hex => h ⟨Nat.not_le.mp hlen, hex⟩
    unfold sparesAs at hnone
    rw [hnone]

theorem spareStep_of_spare {entry : Nat × List String}
    (hlen : best.2 < entry.2.length) (hname : entry.2.find? (sparesAs e l entry.1) = some name) :
    l.spareStep e.doomed best entry = (name, entry.2.length) := by
  unfold ShardLayout.spareStep
  unfold sparesAs at hname
  rw [if_neg (Nat.not_le.mpr hlen), hname]

/-- The loop keeps what no entry improves. -/
theorem foldl_spareStep_keeps {entries : List (Nat × List String)}
    (h : ∀ entry ∈ entries, ¬ improves e l best entry) :
    entries.foldl (l.spareStep e.doomed) best = best := by
  induction entries with
  | nil => rfl
  | cons entry entries ih =>
    rw [List.foldl_cons, spareStep_of_not_improves (h entry (List.mem_cons_self ..))]
    exact ih fun entry' hmem => h entry' (List.mem_cons_of_mem _ hmem)

/-- Otherwise it ends with a spare of an entry that is largest among those with one. -/
theorem foldl_spareStep_largest {entries : List (Nat × List String)}
    (h : ∃ entry ∈ entries, improves e l best entry) :
    ∃ entry ∈ entries, ∃ name, entry.2.find? (sparesAs e l entry.1) = some name ∧
      best.2 < entry.2.length ∧
      entries.foldl (l.spareStep e.doomed) best = (name, entry.2.length) ∧
      ∀ entry' ∈ entries, improves e l best entry' → entry'.2.length ≤ entry.2.length := by
  induction entries generalizing best with
  | nil =>
    obtain ⟨entry, hmem, -⟩ := h
    cases hmem
  | cons first entries ih =>
    rw [List.foldl_cons]
    by_cases hfirst : improves e l best first
    · obtain ⟨hlen, name, hname⟩ := hfirst
      rw [spareStep_of_spare hlen hname]
      by_cases hlater : ∃ entry ∈ entries, improves e l (name, first.2.length) entry
      · -- a later entry is larger still
        obtain ⟨entry, hmem, name', hname', hgt, hfold, hmax⟩ := ih hlater
        refine ⟨entry, List.mem_cons_of_mem _ hmem, name', hname', Nat.lt_trans hlen hgt, hfold,
          ?_⟩
        intro entry' hmem' himp
        rcases List.mem_cons.mp hmem' with rfl | hmem'
        · exact Nat.le_of_lt hgt
        · by_cases hlt : first.2.length < entry'.2.length
          · exact hmax entry' hmem' ⟨hlt, himp.2⟩
          · exact Nat.le_trans (Nat.not_lt.mp hlt) (Nat.le_of_lt hgt)
      · have hkeep : ∀ entry ∈ entries, ¬ improves e l (name, first.2.length) entry :=
          fun entry hmem himp => hlater ⟨entry, hmem, himp⟩
        refine ⟨first, List.mem_cons_self .., name, hname, hlen, foldl_spareStep_keeps hkeep, ?_⟩
        intro entry' hmem' himp
        rcases List.mem_cons.mp hmem' with rfl | hmem'
        · exact Nat.le_refl _
        · exact Nat.not_lt.mp fun hlt => hkeep entry' hmem' ⟨hlt, himp.2⟩
    · rw [spareStep_of_not_improves hfirst]
      have hrest : ∃ entry ∈ entries, improves e l best entry := by
        obtain ⟨entry, hmem, himp⟩ := h
        rcases List.mem_cons.mp hmem with rfl | hmem
        · exact absurd himp hfirst
        · exact ⟨entry, hmem, himp⟩
      obtain ⟨entry, hmem, name, hname, hlen, hfold, hmax⟩ := ih hrest
      refine ⟨entry, List.mem_cons_of_mem _ hmem, name, hname, hlen, hfold, ?_⟩
      intro entry' hmem' himp
      rcases List.mem_cons.mp hmem' with rfl | hmem'
      · exact absurd himp hfirst
      · exact hmax entry' hmem' himp

theorem mem_visitMembers (order : MapOrder) {ms : List String} :
    (s, ms) ∈ order.visitMembers l.members.pairs ↔ l.members.lookup s = some ms := by
  rw [(order.visitMembers_perm _).mem_iff, GoMap.mem_pairs]

/-- The shards that can lend are the entries that improve on the start. -/
theorem lends_iff_improves (order : MapOrder) :
    Lends (size l) (spareCount e l) s ↔ (s, l.members.get s) ∈ order.visitMembers l.members.pairs ∧
      improves e l ("", 1) (s, l.members.get s) := by
  rw [mem_visitMembers]
  have hspare : (∃ name, (l.members.get s).find? (sparesAs e l s) = some name) ↔
      0 < spareCount e l s := spareOf_isSome_iff
  unfold improves
  rw [hspare]
  refine ⟨fun h => ⟨?_, h⟩, fun h => h.2⟩
  have hlen : 1 < (l.members.get s).length := h.1
  cases hl : l.members.lookup s with
  | none =>
    rw [GoMap.get_of_not_mem (GoMap.lookup_eq_none.mp hl)] at hlen
    exact absurd hlen (Nat.not_lt_zero _)
  | some ms => rw [GoMap.get_of_lookup hl]

theorem spareSurvivor_eq_empty (order : MapOrder)
    (h : ∀ s, ¬ Lends (size l) (spareCount e l) s) : l.spareSurvivor order e.doomed = "" := by
  refine congrArg Prod.fst (foldl_spareStep_keeps ?_)
  rintro ⟨s, ms⟩ hmem himp
  obtain rfl : l.members.get s = ms := GoMap.get_of_lookup ((mem_visitMembers order).mp hmem)
  exact h s ((lends_iff_improves order).mpr ⟨hmem, himp⟩)

/-- Whatever the order, the heir comes from one of the largest shards. -/
theorem spareSurvivor_largest (order : MapOrder)
    (h : ∃ s, Lends (size l) (spareCount e l) s) :
    ∃ s, Largest (size l) (spareCount e l) s ∧
      spareOf e l s = some (l.spareSurvivor order e.doomed) := by
  obtain ⟨s, hs⟩ := h
  obtain ⟨hmem, himp⟩ := (lends_iff_improves order).mp hs
  obtain ⟨⟨t, ms⟩, htmem, name, hname, hlen, hfold, hmax⟩ :=
    foldl_spareStep_largest ⟨_, hmem, himp⟩
  obtain rfl : l.members.get t = ms := GoMap.get_of_lookup ((mem_visitMembers order).mp htmem)
  refine ⟨t, ⟨(lends_iff_improves order).mpr ⟨htmem, hlen, name, hname⟩, ?_⟩, ?_⟩
  · intro u hu
    obtain ⟨humem, huimp⟩ := (lends_iff_improves order).mp hu
    exact hmax _ humem huimp
  · have hheir : l.spareSurvivor order e.doomed = name := congrArg Prod.fst hfold
    rw [hheir]
    exact hname

/-- A largest shard that is visited first lends the heir. -/
theorem spareSurvivor_first (h : Largest (size l) (spareCount e l) s) :
    spareOf e l s = some (l.spareSurvivor (.first s) e.doomed) := by
  obtain ⟨hmem, hlen, name, hname⟩ := (lends_iff_improves (.first s)).mp h.1
  have hlook := (mem_visitMembers (.first s)).mp hmem
  have hentry : l.members.pairs.filter (fun entry => decide (entry.1 = s))
      = [(s, l.members.get s)] := by
    have hnodup : (l.members.pairs.map Prod.fst).Nodup := by
      rw [GoMap.map_fst_pairs]
      exact l.members.keys_nodup
    refine List.perm_singleton.mp ((List.perm_ext_iff_of_nodup (hnodup.of_map _ |>.filter _)
      (List.nodup_singleton _)).mpr ?_)
    rintro ⟨t, ms⟩
    rw [List.mem_filter, List.mem_singleton, GoMap.mem_pairs, decide_eq_true_iff, Prod.mk.injEq]
    constructor
    · rintro ⟨ht, rfl⟩
      exact ⟨rfl, (GoMap.get_of_lookup ht).symm⟩
    · rintro ⟨rfl, rfl⟩
      exact ⟨hlook, rfl⟩
  have hfold : ((MapOrder.first s).visitMembers l.members.pairs).foldl (l.spareStep e.doomed)
      ("", 1) = (name, (l.members.get s).length) := by
    show List.foldl _ _ (_ ++ _) = _
    rw [hentry, List.singleton_append, List.foldl_cons, spareStep_of_spare hlen hname]
    refine foldl_spareStep_keeps ?_
    rintro ⟨t, ms⟩ htmem ⟨hlt, hspare⟩
    -- an entry with a spare is no larger
    have hpair := (List.mem_filter.mp htmem).1
    obtain rfl : l.members.get t = ms := GoMap.get_of_lookup (GoMap.mem_pairs.mp hpair)
    have ht : Lends (size l) (spareCount e l) t :=
      (lends_iff_improves .stored).mpr ⟨hpair, Nat.lt_trans hlen hlt, hspare⟩
    exact Nat.not_lt.mpr (h.2 t ht) hlt
  have hheir : l.spareSurvivor (.first s) e.doomed = name := congrArg Prod.fst hfold
  rw [hheir]
  exact hname

/-- A shard that is alone the largest lends the heir in every order. -/
theorem spareSurvivor_of_unique (order : MapOrder) (h : Largest (size l) (spareCount e l) s)
    (hone : ∀ t, Largest (size l) (spareCount e l) t → t = s) :
    spareOf e l s = some (l.spareSurvivor order e.doomed) := by
  obtain ⟨t, ht, hspare⟩ := spareSurvivor_largest order ⟨s, h.1⟩
  rwa [hone t ht] at hspare

/-! ## What lending does to the counts -/

/-- A pod is lent by one shard only. -/
theorem Sound.spareOf_inj (h : Sound e names l) {t : Nat}
    (hs : spareOf e l s = some name) (ht : spareOf e l t = some name) : s = t :=
  Option.some.inj ((h.members_iff.mp (spareOf_spec hs).1).symm.trans
    (h.members_iff.mp (spareOf_spec ht).1))

theorem Sound.spareOf_ne_empty (h : Sound e names l)
    (hs : spareOf e l s = some name) : name ≠ "" := by
  rintro rfl
  exact h.no_empty (h.placed_mem (h.members_iff.mp (spareOf_spec hs).1))

variable {heir : String}

theorem Sound.size_promoteSpare (h : Sound e names l) {source target : Nat}
    (hheir : spareOf e l source = some heir) :
    size ((l.move heir target).setPrimary target heir) = lendSize (size l) source target := by
  have hmem := (spareOf_spec hheir).1
  have hsource : l.shardOf.get heir = source := GoMap.get_of_lookup (h.members_iff.mp hmem)
  funext s
  unfold size lendSize
  rw [ShardLayout.setPrimary_members, ShardLayout.move_members_get, hsource]
  have hleft : ∀ t, (if t = source then (l.members.get source).erase heir
      else l.members.get t).length = size l t - if t = source then 1 else 0 := by
    intro t
    by_cases ht : t = source
    · subst ht
      simp [List.length_erase_of_mem hmem, size]
    · simp [ht, size]
  dsimp only
  by_cases hs : s = target
  · subst hs
    rw [if_pos rfl, List.length_append, hleft]
    simp [size]
  · rw [if_neg hs, hleft]
    simp [hs, size]

theorem Sound.spareCount_promoteSpare (h : Sound e names l) {source target : Nat}
    (hheir : spareOf e l source = some heir) (hfree : l.primaryOf.get target = "") :
    spareCount e ((l.move heir target).setPrimary target heir)
      = lendSpare (spareCount e l) source := by
  obtain ⟨hmem, hne, hlive⟩ := spareOf_spec hheir
  have hplaced := h.members_iff.mp hmem
  have hsource : l.shardOf.get heir = source := GoMap.get_of_lookup hplaced
  funext s
  unfold spareCount lendSpare
  rw [ShardLayout.setPrimary_members, ShardLayout.move_members_get, hsource]
  -- what stays of a shard, counted as before
  have hleft : ∀ t, (if t = source then (l.members.get source).erase heir
      else l.members.get t).countP (sparesAs e l t)
        = spareCount e l t - if t = source then 1 else 0 := by
    intro t
    by_cases ht : t = source
    · subst ht
      have hspare : sparesAs e l t heir = true := List.find?_some hheir
      simp [List.countP_erase, hmem, hspare, spareCount]
    · simp [ht, spareCount]
  have hprimary : ∀ t name, sparesAs e ((l.move heir target).setPrimary target heir) t name =
      if t = target then name != heir && !e.doomed name else sparesAs e l t name := by
    intro t name
    unfold sparesAs
    rw [promoteSpare_primaryOf_get]
    split <;> rfl
  dsimp only
  by_cases hs : s = target
  · subst hs
    rw [if_pos rfl, List.countP_append]
    have hself : List.countP (sparesAs e ((l.move heir s).setPrimary s heir) s) [heir] = 0 := by
      simp [hprimary]
    rw [hself, Nat.add_zero, ← spareCount, ← hleft s]
    refine List.countP_congr fun name hname => ?_
    -- nobody who stays is the heir, and nobody at all is nameless
    have hstay : name ≠ heir ∧ name ∈ l.members.get s := by
      split at hname
      · rename_i heq
        subst heq
        exact ((h.members_nodup s).mem_erase_iff.mp hname)
      · rename_i hother
        refine ⟨?_, hname⟩
        rintro rfl
        exact hother (Option.some.inj ((h.members_iff.mp hname).symm.trans hplaced))
    have hnamed : name ≠ "" := by
      rintro rfl
      exact h.no_empty (h.placed_mem (h.members_iff.mp hstay.2))
    rw [hprimary, if_pos rfl]
    simp [sparesAs, hfree, hstay.1, hnamed]
  · rw [if_neg hs, ← spareCount, ← hleft s]
    refine List.countP_congr fun name _ => ?_
    rw [hprimary, if_neg hs]

/-! ## The borrowing loop -/

variable {shards : List Nat}

theorem borrowHeirs_of_not_needy (order : MapOrder)
    (h : ¬ (l.primaryOf.get s = "" ∧ l.ownerOf.get s ≠ "")) :
    e.borrowHeirs order l (s :: shards) = e.borrowHeirs order l shards := by
  rw [PlanEnv.borrowHeirs, if_pos (by tauto)]

theorem borrowHeirs_of_none (order : MapOrder) (h : l.primaryOf.get s = "" ∧ l.ownerOf.get s ≠ "")
    (hnone : l.spareSurvivor order e.doomed = "") : e.borrowHeirs order l (s :: shards) = l := by
  rw [PlanEnv.borrowHeirs, if_neg (by tauto)]
  exact if_pos hnone

theorem borrowHeirs_of_heir (order : MapOrder) (h : l.primaryOf.get s = "" ∧ l.ownerOf.get s ≠ "")
    (hheir : l.spareSurvivor order e.doomed = heir) (hne : heir ≠ "") :
    e.borrowHeirs order l (s :: shards)
      = e.borrowHeirs order ((l.move heir s).setPrimary s heir) shards := by
  rw [PlanEnv.borrowHeirs, if_neg (by tauto), hheir]
  exact if_neg hne

/-- Borrowing for one shard leaves the needs of the others. -/
theorem needy_promoteSpare {target : Nat} (htarget : target ∉ shards) :
    needy ((l.move heir target).setPrimary target heir) shards = needy l shards := by
  refine List.filter_congr fun s hs => ?_
  have hne : s ≠ target := fun hh => htarget (hh ▸ hs)
  rw [promoteSpare_primaryOf_get, if_neg hne, ShardLayout.setPrimary_ownerOf,
    ShardLayout.move_ownerOf]

theorem needy_cons (l : ShardLayout) (s : Nat) (shards : List Nat) : needy l (s :: shards) =
    if l.primaryOf.get s = "" ∧ l.ownerOf.get s ≠ "" then s :: needy l shards
    else needy l shards := by
  unfold needy
  rw [List.filter_cons]
  simp only [decide_eq_true_eq]

/-- Without a dispute every order borrows the same heirs. -/
theorem Sound.borrowHeirs_eq (h : Sound e names l) (hnodup : shards.Nodup)
    (hone : Undisputed (size l) (spareCount e l) (needy l shards)) (order order' : MapOrder) :
    e.borrowHeirs order l shards = e.borrowHeirs order' l shards := by
  induction shards generalizing l with
  | nil => rfl
  | cons target shards ih =>
    obtain ⟨htarget, hnodup'⟩ := List.nodup_cons.mp hnodup
    rw [needy_cons] at hone
    by_cases hneed : l.primaryOf.get target = "" ∧ l.ownerOf.get target ≠ ""
    · rw [if_pos hneed] at hone
      by_cases hlend : ∃ s, Lends (size l) (spareCount e l) s
      · obtain ⟨s, hs, hspare⟩ := spareSurvivor_largest order hlend
        obtain ⟨hunique, hlater⟩ := hone s hs
        have hspare' := spareSurvivor_of_unique order' hs hunique
        have hne := h.spareOf_ne_empty hspare
        have hsame : l.spareSurvivor order' e.doomed = l.spareSurvivor order e.doomed :=
          Option.some.inj (hspare'.symm.trans hspare)
        rw [borrowHeirs_of_heir order hneed rfl hne, borrowHeirs_of_heir order' hneed hsame hne]
        obtain ⟨hmem, hnotlead, hlive⟩ := spareOf_spec hspare
        refine ih (h.promoteSpare ⟨s, hmem, hs.1.1, hnotlead, hlive⟩ hneed.1) hnodup' ?_
        rwa [h.size_promoteSpare hspare, h.spareCount_promoteSpare hspare hneed.1,
          needy_promoteSpare htarget]
      · have hnone : ∀ s, ¬ Lends (size l) (spareCount e l) s := fun s hs => hlend ⟨s, hs⟩
        rw [borrowHeirs_of_none order hneed (spareSurvivor_eq_empty order hnone),
          borrowHeirs_of_none order' hneed (spareSurvivor_eq_empty order' hnone)]
    · rw [if_neg hneed] at hone
      rw [borrowHeirs_of_not_needy order hneed, borrowHeirs_of_not_needy order' hneed]
      exact ih h hnodup' hone

/-- With a dispute two orders give some shard different heirs. -/
theorem Sound.exists_borrowHeirs_ne (h : Sound e names l) (hnodup : shards.Nodup)
    (hdispute : ¬ Undisputed (size l) (spareCount e l) (needy l shards)) :
    ∃ order order' s, (e.borrowHeirs order l shards).primaryOf.get s ≠
      (e.borrowHeirs order' l shards).primaryOf.get s := by
  induction shards generalizing l with
  | nil => exact absurd trivial hdispute
  | cons target shards ih =>
    obtain ⟨htarget, hnodup'⟩ := List.nodup_cons.mp hnodup
    rw [needy_cons] at hdispute
    by_cases hneed : l.primaryOf.get target = "" ∧ l.ownerOf.get target ≠ ""
    · rw [if_pos hneed] at hdispute
      obtain ⟨s, hs⟩ := not_forall.mp hdispute
      obtain ⟨hlargest, hs⟩ := Classical.not_imp.mp hs
      by_cases hunique : ∀ t, Largest (size l) (spareCount e l) t → t = s
      · -- this heir is the same in every order; the dispute comes later
        obtain ⟨heir, hheir⟩ := spareOf_isSome_iff.mpr hlargest.1.2
        have hall : ∀ order, e.borrowHeirs order l (target :: shards)
            = e.borrowHeirs order ((l.move heir target).setPrimary target heir) shards := by
          intro order
          have hspare := spareSurvivor_of_unique order hlargest hunique
          exact borrowHeirs_of_heir order hneed (Option.some.inj (hspare.symm.trans hheir))
            (h.spareOf_ne_empty hheir)
        obtain ⟨hmem, hnotlead, hlive⟩ := spareOf_spec hheir
        have hlater : ¬ Undisputed (size ((l.move heir target).setPrimary target heir))
            (spareCount e ((l.move heir target).setPrimary target heir))
            (needy ((l.move heir target).setPrimary target heir) shards) := by
          rw [h.size_promoteSpare hheir, h.spareCount_promoteSpare hheir hneed.1,
            needy_promoteSpare htarget]
          exact fun hone => hs ⟨hunique, hone⟩
        obtain ⟨order, order', t, hne⟩ :=
          ih (h.promoteSpare ⟨s, hmem, hlargest.1.1, hnotlead, hlive⟩ hneed.1) hnodup' hlater
        exact ⟨order, order', t, by rwa [hall, hall]⟩
      · -- two largest shards: visit the one or the other first
        obtain ⟨t, ht⟩ := not_forall.mp hunique
        obtain ⟨htl, hts⟩ := Classical.not_imp.mp ht
        have hlead : ∀ u, Largest (size l) (spareCount e l) u →
            (e.borrowHeirs (.first u) l (target :: shards)).primaryOf.get target
              = l.spareSurvivor (.first u) e.doomed := by
          intro u hu
          have hne := h.spareOf_ne_empty (spareSurvivor_first hu)
          rw [borrowHeirs_of_heir _ hneed rfl hne, borrowHeirs_frame _ (Or.inl htarget),
            promoteSpare_primaryOf_get, if_pos rfl]
        refine ⟨.first s, .first t, target, ?_⟩
        rw [hlead s hlargest, hlead t htl]
        intro heq
        have hspare := spareSurvivor_first htl
        rw [← heq] at hspare
        exact hts (h.spareOf_inj hspare (spareSurvivor_first hlargest))
    · rw [if_neg hneed] at hdispute
      obtain ⟨order, order', s, hne⟩ := ih h hnodup' hdispute
      refine ⟨order, order', s, ?_⟩
      rwa [borrowHeirs_of_not_needy order hneed, borrowHeirs_of_not_needy order' hneed]

end PlanEnv

end RedisOperator
