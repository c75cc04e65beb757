/-
  RedisOperator.Cluster.LostContact

  A settled sharded cluster in which some pods stop answering.  A pod without
  an answer keeps the shard its label names, and so does a replica whose
  primary answers.  A replica whose primary is silent is neither: it answered,
  so its label is not read, and nobody reports the node it follows.  Such an
  orphan goes to the smallest shard at its turn, which need not be its own.
-/

import RedisOperator.Cluster.ShardCoverage
import RedisOperator.Cluster.SlotFilling
import Mathlib.Algebra.Order.BigOperators.Group.List
import Mathlib.Algebra.Order.Group.Int
import Mathlib.Algebra.Ring.Int.Defs
import Mathlib.Data.Int.Interval

namespace RedisOperator

open Lib

/-- A replica that answered, while nobody reports the node it follows. -/
def orphaned (statuses : Statuses) (name : String) : Bool :=
  decide ((statuses.get name).role = .slave) &&
    statuses.pairs.all fun p => p.2.nodeID != (statuses.get name).primaryNodeID

/-! ## Spreading -/

namespace PlanEnv

variable {e : PlanEnv} {names : List String} {l : ShardLayout} {home : String → Nat}

theorem leastAt_smallestShard (hcount : 0 < e.shardCount) (l : ShardLayout) :
    LeastAt e.shardCount (fun s => (l.members.get s).length) (e.smallestShard l) :=
  leastAt_foldl_range (fun s => (l.members.get s).length) hcount

theorem foldl_spreadFree_lookup {free : List String} {p : String} (hp : p ∉ free) :
    (free.foldl e.spreadFree l).shardOf.lookup p = l.shardOf.lookup p := by
  induction free generalizing l with
  | nil => rfl
  | cons q free ih =>
    obtain ⟨hne, hrest⟩ := not_or.mp (List.mem_cons.not.mp hp)
    rw [List.foldl_cons, ih hrest]
    exact GoMap.lookup_insert_ne hne

/-- The size of a shard once the pods `done` are home. -/
def sizeWith (l : ShardLayout) (home : String → Nat) (done : List String) (s : Nat) : Nat :=
  (l.members.get s).length + done.countP fun p => home p = s

/-- A pod that goes home counts there. -/
theorem sizeWith_assign (l : ShardLayout) (home : String → Nat) (p : String) (done : List String) :
    sizeWith (l.assign p (home p)) home done = sizeWith l home (p :: done) := by
  funext s
  unfold sizeWith
  rw [ShardLayout.assign_members_get, List.countP_cons]
  by_cases hs : s = home p
  · simp only [hs, ↓reduceIte, List.length_append, List.length_singleton, decide_true]
    omega
  · simp [hs, Ne.symm hs]

/-- The remaining pods all go home exactly if each finds its own shard the
    smallest, when those before it are home. -/
theorem foldl_spreadFree_home_iff (hcount : 0 < e.shardCount) {free : List String}
    (hnodup : free.Nodup) :
    (∀ p ∈ free, (free.foldl e.spreadFree l).shardOf.lookup p = some (home p)) ↔
      ∀ done p rest, free = done ++ p :: rest →
        LeastAt e.shardCount (sizeWith l home done) (home p) := by
  induction free generalizing l with
  | nil => simp
  | cons p free ih =>
    obtain ⟨hp, hfree⟩ := List.nodup_cons.mp hnodup
    have hleast := leastAt_smallestShard hcount l
    have hfirst : (free.foldl e.spreadFree (e.spreadFree l p)).shardOf.lookup p =
        some (e.smallestShard l) := by
      rw [foldl_spreadFree_lookup hp]
      exact GoMap.lookup_insert_self ..
    have hsize : sizeWith l home [] = fun s => (l.members.get s).length := by
      funext s
      simp [sizeWith]
    rw [List.foldl_cons]
    constructor
    · intro h
      have hhome : e.smallestShard l = home p :=
        Option.some.inj (hfirst.symm.trans (h p (List.mem_cons_self ..)))
      have hrest := (ih hfree).mp fun q hq => h q (List.mem_cons_of_mem _ hq)
      intro done q rest heq
      cases done with
      | nil =>
        obtain ⟨rfl, -⟩ := List.cons.inj heq
        rw [hsize, ← hhome]
        exact hleast
      | cons r done =>
        obtain ⟨rfl, htail⟩ := List.cons.inj heq
        rw [← sizeWith_assign, ← hhome]
        exact hrest done q rest htail
    · intro h
      have hhome : e.smallestShard l = home p :=
        hleast.unique (hsize ▸ h [] p free rfl)
      have hrest := (ih (l := e.spreadFree l p) hfree).mpr fun done q rest heq => by
        show LeastAt _ (sizeWith (l.assign p (e.smallestShard l)) home done) _
        rw [hhome, sizeWith_assign]
        exact h (p :: done) q rest (by rw [heq]; rfl)
      intro q hq
      rcases List.mem_cons.mp hq with rfl | hq
      · rw [hfirst, hhome]
      · exact hrest q hq

/-! ## Shards that are led need no help -/

theorem borrowHeirs_of_led {order : MapOrder} {shards : List Nat}
    (hled : ∀ s ∈ shards, l.primaryOf.get s ≠ "") : e.borrowHeirs order l shards = l := by
  induction shards with
  | nil => rfl
  | cons s shards ih =>
    rw [borrowHeirs, if_pos (Or.inl (hled s (List.mem_cons_self ..)))]
    exact ih fun t ht => hled t (List.mem_cons_of_mem _ ht)

/-! ## Partial contact -/

/-- A pod that was not polled, or did not answer. -/
def Silent (e : PlanEnv) (p : String) : Prop := e.statuses.get p = {}

/-- The primary of a shard: it serves slots of the shard's range and no others. -/
structure Serving (e : PlanEnv) (home : String → Nat) (p : String) : Prop where
  serves : (e.statuses.get p).slotsServed ≠ []
  notSlave : (e.statuses.get p).role ≠ .slave
  own : ∀ m ∈ ownerMatches e.statuses (calculateClusterSlotRanges e.shardCount) p, m.shard = home p
  some : ∃ m, m ∈ ownerMatches e.statuses (calculateClusterSlotRanges e.shardCount) p

/-- A replica: its shard's primary reports the node it follows, if it answered,
    and nobody else does. -/
structure Following (e : PlanEnv) (home : String → Nat) (lead : Nat → String) (p : String) :
    Prop where
  idle : (e.statuses.get p).slotsServed = []
  slave : (e.statuses.get p).role = .slave
  primaryNodeID : (e.statuses.get p).primaryNodeID ≠ ""
  observable : e.observable p = true
  follows : ∀ n, (e.statuses.get n).nodeID = (e.statuses.get p).primaryNodeID ↔
    n = lead (home p) ∧ (e.statuses.get n).slotsServed ≠ []

/-- A settled cluster, of whose pods some are silent. -/
structure PartialContact (e : PlanEnv) (names : List String) (home : String → Nat)
    (lead : Nat → String) : Prop where
  no_empty : "" ∉ names
  nodup : names.Nodup
  knows : e.KnowsNodes
  count : 0 < e.shardCount
  live : ∀ p ∈ names, e.doomed p = false
  home_lt : ∀ p ∈ names, home p < e.shardCount
  lead_mem : ∀ s < e.shardCount, lead s ∈ names
  home_lead : ∀ s < e.shardCount, home (lead s) = s
  labelled : ∀ p ∈ names, e.labelOf.lookup p = some (home p)
  primaryLabel : ∀ p ∈ names, (e.primaryLabel.get p = true ↔ p = lead (home p))
  primary : ∀ p ∈ names, p = lead (home p) → Silent e p ∨ Serving e home p
  replica : ∀ p ∈ names, p ≠ lead (home p) → Silent e p ∨ Following e home lead p

section

variable {lead : Nat → String}

variable {p : String}

theorem Silent.not_orphan (h : Silent e p) : orphaned e.statuses p = false := by
  unfold orphaned
  rw [h]
  rfl

theorem Silent.idle (h : Silent e p) : (e.statuses.get p).slotsServed = [] := by
  rw [h]

theorem Serving.not_orphan (h : Serving e home p) : orphaned e.statuses p = false := by
  unfold orphaned
  rw [decide_eq_false h.notSlave]
  rfl

theorem Following.orphan_iff (h : Following e home lead p) :
    orphaned e.statuses p = true ↔ (e.statuses.get (lead (home p))).slotsServed = [] := by
  unfold orphaned
  rw [decide_eq_true h.slave, Bool.true_and, List.all_eq_true]
  constructor
  · intro hall
    by_contra hserves
    have hid := (h.follows _).mpr ⟨rfl, hserves⟩
    obtain ⟨st, hst⟩ := GoMap.mem_iff_lookup.mp (mem_of_serves hserves)
    have hne := hall _ (GoMap.mem_pairs.mpr hst)
    rw [GoMap.get_of_lookup hst] at hid
    simp [hid] at hne
  · intro hidle q hq
    have hget := GoMap.get_of_lookup (GoMap.mem_pairs.mp hq)
    rw [bne_iff_ne, ← hget]
    intro hid
    obtain ⟨heq, hserves⟩ := (h.follows q.1).mp hid
    exact hserves (heq ▸ hidle)

variable (h : PartialContact e names home lead)
include h

/-- The pods that serve slots are the primaries that answered. -/
theorem PartialContact.serving (hp : p ∈ e.owners names) :
    p = lead (home p) ∧ Serving e home p := by
  obtain ⟨hmem, hserves⟩ := mem_owners.mp hp
  by_cases hlead : p = lead (home p)
  · exact ⟨hlead, (h.primary p hmem hlead).resolve_left fun hsilent => hserves hsilent.idle⟩
  · rcases h.replica p hmem hlead with hsilent | hfollows
    · exact absurd hsilent.idle hserves
    · exact absurd hfollows.idle hserves

/-- Each of them claims its own shard. -/
theorem PartialContact.claimed_home {s : Nat}
    (hp : (e.claimed names).shardOf.lookup p = some s) : s = home p := by
  show (p, s).2 = home (p, s).1
  refine Greedy.seating_fits ?_ ?_ ?_ _ (((seats_claimed e names).placed p s).mp hp)
  · intro wish hwish
    obtain ⟨m, hm, rfl⟩ := List.mem_map.mp hwish
    have howner := (mem_rankOwnersByOverlap hm).1
    refine ⟨howner, ?_⟩
    have hmatch := (List.perm_insertionSort _ _).mem_iff.mp hm
    obtain ⟨q, hq, hmq⟩ := List.mem_flatMap.mp hmatch
    obtain rfl := (mem_ownerMatches hmq).1
    exact (h.serving hq).2.own m hmq
  · intro q hq
    obtain ⟨m, hm⟩ := (h.serving hq).2.some
    refine List.mem_map.mpr ⟨m, ?_, ?_⟩
    · exact (List.perm_insertionSort _ _).mem_iff.mpr (List.mem_flatMap.mpr ⟨q, hq, hm⟩)
    · rw [(mem_ownerMatches hm).1, (h.serving hq).2.own m hm]
  · intro q hq r hr heq
    rw [(h.serving hq).1, (h.serving hr).1, heq]

/-- A pod at home; it may lead if it serves, follows, or is labelled as the primary. -/
def atHome (e : PlanEnv) (home : String → Nat) (p : String) : Placement :=
  ⟨p, home p, !(e.statuses.get p).slotsServed.isEmpty ||
    decide ((e.statuses.get p).role = .slave) || e.primaryLabel.get p⟩

theorem PartialContact.mem_seated (q : Placement) :
    q ∈ e.seated names ↔ q.pod ∈ e.owners names ∧ q = e.atHome home q.pod := by
  have hplaces := places_claimed (e := e) h.no_empty
  have hself : ∀ p, p ∈ e.owners names → (⟨p, home p, true⟩ : Placement) = e.atHome home p := by
    intro p hp
    simp [atHome, (mem_owners.mp hp).2]
  constructor
  · intro hq
    obtain ⟨seat, hseat, rfl⟩ := List.mem_map.mp hq
    have howner := (PlanEnv.mem_seated h.no_empty _).mp ⟨_, hq, rfl⟩
    have hhome := h.claimed_home (((seats_claimed e names).placed _ _).mpr hseat)
    exact ⟨howner, by rw [← hself _ howner, hhome]⟩
  · rintro ⟨howner, hq⟩
    obtain ⟨p, hp, hpod⟩ := (PlanEnv.mem_seated h.no_empty _).mpr howner
    obtain ⟨seat, hseat, rfl⟩ := List.mem_map.mp hp
    have hhome := h.claimed_home (((seats_claimed e names).placed _ _).mpr hseat)
    rw [hq, ← hpod, ← hself _ (hpod ▸ howner), ← hhome]
    exact hp

/-- An idle pod belongs home, unless it is an orphan. -/
theorem PartialContact.place_eq (hp : p ∈ names)
    (hidle : p ∉ e.owners names) : e.place (e.seated names) p =
      if orphaned e.statuses p = true then none else some (e.atHome home p) := by
  have hslots : (e.statuses.get p).slotsServed = [] := by
    by_contra hne
    exact hidle (mem_owners.mpr ⟨hp, hne⟩)
  have hstatus : Silent e p ∨ Following e home lead p := by
    by_cases hlead : p = lead (home p)
    · exact Or.inl ((h.primary p hp hlead).resolve_right fun hserving => hserving.serves hslots)
    · exact h.replica p hp hlead
  unfold place
  rcases hstatus with hsilent | hfollows
  · have hobs : e.observable p = false := by
      unfold observable
      rw [hsilent]
      simp
    have hlabelled : e.labelledShard p = some (home p) := by
      unfold labelledShard
      rw [h.labelled p hp]
      exact if_pos ⟨hobs, h.home_lt p hp⟩
    have hnone : e.followee (e.seated names) p = none := if_neg (by rw [hsilent]; simp)
    have hrole : (e.statuses.get p).role ≠ .slave := by
      rw [hsilent]
      decide
    rw [hnone, hlabelled, if_neg (by rw [hsilent.not_orphan]; decide)]
    simp [atHome, hslots, hrole]
  · have hlabelled : e.labelledShard p = none := by
      unfold labelledShard
      rw [hfollows.observable]
      cases e.labelOf.lookup p <;> rfl
    have hfound : ∀ q, e.followee (e.seated names) p = some q ↔
        q = e.atHome home (lead (home p)) ∧ orphaned e.statuses p = false := by
      intro q
      unfold followee
      rw [if_pos ⟨hfollows.slave, hfollows.primaryNodeID⟩, find?_eq_some_iff_of_unique,
        decide_eq_true_iff, hfollows.follows, h.mem_seated, ← Bool.not_eq_true,
        hfollows.orphan_iff, mem_owners]
      · constructor
        · rintro ⟨⟨-, hq⟩, hpod, hserves⟩
          rw [hpod] at hq hserves
          exact ⟨hq, hserves⟩
        · rintro ⟨rfl, hserves⟩
          exact ⟨⟨⟨h.lead_mem _ (h.home_lt p hp), hserves⟩, rfl⟩, rfl, hserves⟩
      · intro a ha b hb haid hbid
        rw [((h.mem_seated a).mp ha).2, ((h.mem_seated b).mp hb).2,
          ((hfollows.follows _).mp (of_decide_eq_true haid)).1,
          ((hfollows.follows _).mp (of_decide_eq_true hbid)).1]
    cases horphan : orphaned e.statuses p with
    | true =>
      have hnone : e.followee (e.seated names) p = none := by
        rw [Option.eq_none_iff_forall_ne_some]
        intro q hq
        rw [((hfound q).mp hq).2] at horphan
        cases horphan
      rw [hnone, hlabelled]
      rfl
    | false =>
      have hlead := h.home_lead _ (h.home_lt p hp)
      rw [(hfound _).mpr ⟨rfl, horphan⟩]
      simp [atHome, hslots, hfollows.slave, hlead]

/-- After the follower loop whoever is no orphan is home. -/
theorem PartialContact.mem_groups (q : Placement) :
    q ∈ e.groups names ↔ q.pod ∈ names ∧ orphaned e.statuses q.pod = false ∧
      q = e.atHome home q.pod := by
  have hflat : ∀ p ∈ names, ∀ n ∈ names, n ∉ e.owners names → (e.statuses.get p).role = .slave →
      (e.statuses.get n).nodeID = (e.statuses.get p).primaryNodeID →
      e.place (e.seated names) n = none := by
    intro p hp n hn hidle hslave hid
    have hfollows : Following e home lead p := by
      by_cases hlead : p = lead (home p)
      · rcases h.primary p hp hlead with hsilent | hserving
        · rw [hsilent] at hslave
          cases hslave
        · exact absurd hslave hserving.notSlave
      · refine (h.replica p hp hlead).resolve_left fun hsilent => ?_
        rw [hsilent] at hslave
        cases hslave
    exact absurd (mem_owners.mpr ⟨hn, ((hfollows.follows n).mp hid).2⟩) hidle
  rw [groups_eq h.no_empty h.nodup hflat, List.mem_append, mem_joiners, h.mem_seated]
  constructor
  · rintro (⟨howner, hq⟩ | ⟨hmem, hidle, hplace⟩)
    · exact ⟨(mem_owners.mp howner).1, (h.serving howner).2.not_orphan, hq⟩
    · rw [h.place_eq hmem hidle] at hplace
      split at hplace
      · cases hplace
      · rename_i horphan
        exact ⟨hmem, by simpa using horphan, (Option.some.inj hplace).symm⟩
  · rintro ⟨hmem, horphan, hq⟩
    by_cases howner : q.pod ∈ e.owners names
    · exact Or.inl ⟨howner, hq⟩
    · refine Or.inr ⟨hmem, howner, ?_⟩
      rw [h.place_eq hmem howner, if_neg (by simp [horphan]), ← hq]

theorem PartialContact.lookup_iff (p : String) (s : Nat) :
    (e.followed names).1.shardOf.lookup p = some s ↔
      p ∈ names ∧ orphaned e.statuses p = false ∧ s = home p := by
  rw [(places_followed h.no_empty h.knows).shard]
  simp only [h.mem_groups]
  constructor
  · rintro ⟨q, ⟨hmem, horphan, hq⟩, rfl, rfl⟩
    exact ⟨hmem, horphan, congrArg Placement.shard hq⟩
  · rintro ⟨hmem, horphan, rfl⟩
    exact ⟨e.atHome home p, ⟨hmem, horphan, rfl⟩, rfl, rfl⟩

/-- The orphans are what is left. -/
theorem PartialContact.free_eq :
    (e.followed names).2 = names.filter (orphaned e.statuses) := by
  rw [followed_free h.nodup]
  refine List.filter_congr fun p hp => ?_
  have hplaced : p ∈ (e.followed names).1.shardOf ↔ orphaned e.statuses p = false := by
    simp [GoMap.mem_iff_lookup, h.lookup_iff, hp]
  cases horphan : orphaned e.statuses p <;> simp [hplaced, horphan]

/-- Every shard is led after the follower loop: by its primary, which owns the
    shard if it answered, and which is alone labelled so if it did not. -/
theorem PartialContact.led :
    ∀ s < e.shardCount, (e.followed names).1.primaryOf.get s = lead s ∧ lead s ≠ "" := by
  intro s hs
  have hmem := h.lead_mem s hs
  have hhome := h.home_lead s hs
  refine ⟨?_, fun heq => h.no_empty (heq ▸ hmem)⟩
  by_cases howner : lead s ∈ e.owners names
  · obtain ⟨p, hp, hpod⟩ := (PlanEnv.mem_seated h.no_empty _).mpr howner
    have hshard : p.shard = s := by rw [((h.mem_seated p).mp hp).2, hpod, atHome, hhome]
    have hseat := ((places_claimed h.no_empty).shard (lead s) s).mpr ⟨p, hp, hpod, hshard⟩
    have howners : AllOwners (e.claimed names) := (claimed_sound h.no_empty).2
    refine (followed_sound h.no_empty h.nodup).1.owner_primary ?_ (h.live _ hmem)
    rw [followed_ownerOf]
    exact howners hseat
  · have hplaces := places_followed h.no_empty h.knows
    have hstatus : Silent e (lead s) := (h.primary _ hmem (by rw [hhome])).resolve_right
      fun hserving => howner (mem_owners.mpr ⟨hmem, hserving.serves⟩)
    have hlabel := (h.primaryLabel _ hmem).mpr (by rw [hhome])
    have hled := (hplaces.led s).mpr ⟨e.atHome home (lead s),
      (h.mem_groups _).mpr ⟨hmem, hstatus.not_orphan, rfl⟩, hhome, by simp [atHome, hlabel],
      h.live _ hmem⟩
    obtain ⟨p, hp, hpod, hs', hcan, -⟩ := hplaces.primary_mem hled
    obtain ⟨hp', horphan, heq⟩ := (h.mem_groups p).mp hp
    rw [← hpod]
    have hphome : home p.pod = s := by rw [← hs', congrArg Placement.shard heq]; rfl
    rw [← hphome]
    rw [heq] at hcan
    simp only [atHome, Bool.or_eq_true, Bool.not_eq_true', List.isEmpty_eq_false_iff,
      decide_eq_true_eq] at hcan
    by_contra hother
    rcases hcan with (hserves | hslave) | hlabelled
    · exact hother (h.serving (mem_owners.mpr ⟨hp', hserves⟩)).1
    · -- a replica of a silent primary is an orphan
      rcases h.replica _ hp' hother with hsilent | hfollows
      · rw [hsilent] at hslave
        cases hslave
      · rw [hfollows.orphan_iff.mpr (by rw [hphome]; exact hstatus.idle)] at horphan
        cases horphan
    · exact hother ((h.primaryLabel _ hp').mp hlabelled)

/-- So no survivor is needed, and none is doomed. -/
theorem PartialContact.filled_eq :
    e.filled names = ((e.followed names).1, names.filter (orphaned e.statuses)) := by
  have hvacant : e.vacant names = [] := by
    refine List.filter_eq_nil_iff.mpr fun s hs => ?_
    obtain ⟨hlead, hne⟩ := h.led s (List.mem_range.mp hs)
    simpa [hlead] using hne
  have hsurvivors : e.survivors names = names.filter (orphaned e.statuses) := by
    unfold survivors
    rw [h.free_eq]
    refine List.filter_eq_self.mpr fun p hp => ?_
    simp [h.live p (List.mem_of_mem_filter hp)]
  rw [PlanEnv.filled_eq, fills, hvacant, hsurvivors]
  rfl

theorem PartialContact.borrowed_eq (order : MapOrder) :
    e.borrowed order names = (e.followed names).1 := by
  unfold borrowed
  rw [h.filled_eq]
  refine borrowHeirs_of_led fun s hs => ?_
  obtain ⟨hlead, hne⟩ := h.led s (List.mem_range.mp hs)
  rwa [hlead]

/-- What remains is to spread the orphans. -/
theorem PartialContact.spread_eq (order : MapOrder) :
    e.spread order names =
      (names.filter (orphaned e.statuses)).foldl e.spreadFree (e.followed names).1 := by
  have hdoomed : (e.followed names).2.filter e.doomed = [] := by
    rw [h.free_eq]
    refine List.filter_eq_nil_iff.mpr fun p hp => ?_
    simp [h.live p (List.mem_of_mem_filter hp)]
  unfold spread
  rw [hdoomed, h.filled_eq, List.append_nil, h.borrowed_eq]

/-- Before they are spread, a shard has the members that are no orphans. -/
theorem PartialContact.length_members (s : Nat) :
    ((e.followed names).1.members.get s).length =
      names.countP fun p => decide (home p = s) && !orphaned e.statuses p := by
  have hsound := (followed_sound (e := e) h.no_empty h.nodup).1
  rw [List.countP_eq_length_filter]
  refine ((List.perm_ext_iff_of_nodup (hsound.members_nodup s) (h.nodup.filter _)).mpr
    fun p => ?_).length_eq
  rw [hsound.members_iff, h.lookup_iff, List.mem_filter, Bool.and_eq_true, decide_eq_true_eq,
    Bool.not_eq_true_eq_eq_false, and_comm (a := home p = s), eq_comm (a := s)]

/-- All pods are where they belong exactly if every orphan finds its own shard
    the smallest when its turn comes. -/
theorem PartialContact.spread_home_iff (order : MapOrder) :
    (∀ p ∈ names, (e.spread order names).shardOf.lookup p = some (home p)) ↔
      ∀ done p rest, names.filter (orphaned e.statuses) = done ++ p :: rest →
        LeastAt e.shardCount (fun s =>
          (names.countP fun q => decide (home q = s) && !orphaned e.statuses q) +
            done.countP fun q => home q = s) (home p) := by
  have hsize : ∀ done, sizeWith (e.followed names).1 home done = fun s =>
      (names.countP fun q => decide (home q = s) && !orphaned e.statuses q) +
        done.countP fun q => home q = s := by
    intro done
    funext s
    rw [sizeWith, h.length_members]
  have hspread : (∀ p ∈ names.filter (orphaned e.statuses),
      ((names.filter (orphaned e.statuses)).foldl e.spreadFree (e.followed names).1).shardOf.lookup
        p = some (home p)) ↔ _ :=
    foldl_spreadFree_home_iff h.count (h.nodup.filter (orphaned e.statuses))
  simp only [hsize] at hspread
  rw [h.spread_eq order, ← hspread]
  constructor
  · exact fun hall p hp => hall p (List.mem_of_mem_filter hp)
  · intro horphans p hp
    by_cases ho : orphaned e.statuses p = true
    · exact horphans p (List.mem_filter.mpr ⟨hp, ho⟩)
    · rw [foldl_spreadFree_lookup fun hmem => ho (List.mem_filter.mp hmem).2]
      exact (h.lookup_iff p _).mpr ⟨hp, by simpa using ho, rfl⟩

end

end PlanEnv

/-! ## A settled cluster -/

/-- The slots of a target range, served in any number of pieces. -/
structure ServesRange (served : List SlotRange) (target : SlotRange) : Prop where
  nonempty : served ≠ []
  proper : ∀ r ∈ served, r.start ≤ r.stop
  disjoint : served.Pairwise fun a b => ∀ slot, ¬ (a.Contains slot ∧ b.Contains slot)
  covers : ∀ slot, (∃ r ∈ served, r.Contains slot) ↔ target.Contains slot

/-- Disjoint pieces have no more slots than there are. -/
theorem sum_length_le {served : List SlotRange} {slots : Finset Int}
    (hproper : ∀ r ∈ served, r.start ≤ r.stop)
    (hdisjoint : served.Pairwise fun a b => ∀ slot, ¬ (a.Contains slot ∧ b.Contains slot))
    (hslots : ∀ r ∈ served, ∀ slot, r.Contains slot → slot ∈ slots) :
    (served.map fun r => r.stop - r.start + 1).sum ≤ (slots.card : Int) := by
  induction served generalizing slots with
  | nil => simp
  | cons r served ih =>
    obtain ⟨hr, hrest⟩ := List.pairwise_cons.mp hdisjoint
    have hle := hproper r List.mem_cons_self
    have hsub : Finset.Icc r.start r.stop ⊆ slots := fun slot hslot =>
      hslots r List.mem_cons_self slot (Finset.mem_Icc.mp hslot)
    -- the other pieces lie in what `r` leaves
    have hothers : (served.map fun r => r.stop - r.start + 1).sum ≤
        ((slots \ Finset.Icc r.start r.stop).card : Int) := by
      refine ih (fun q hq => hproper q (List.mem_cons_of_mem _ hq)) hrest fun q hq slot hin => ?_
      exact Finset.mem_sdiff.mpr ⟨hslots q (List.mem_cons_of_mem _ hq) slot hin,
        fun hmem => hr q hq slot ⟨Finset.mem_Icc.mp hmem, hin⟩⟩
    have hcard := Finset.card_sdiff_add_card_eq_card hsub
    rw [Int.card_Icc] at hcard
    rw [List.map_cons, List.sum_cons]
    omega

/-- Pieces inside a range overlap with it in all their slots. -/
theorem foldl_overlap_inside {served : List SlotRange} {target : SlotRange} {overlap : Int}
    (hproper : ∀ r ∈ served, r.start ≤ r.stop)
    (hinside : ∀ r ∈ served, target.start ≤ r.start ∧ r.stop ≤ target.stop)
    (hnonneg : 0 ≤ overlap)
    (hfits : overlap + (served.map fun r => r.stop - r.start + 1).sum < 2 ^ 31) :
    served.foldl (fun overlap r =>
      let start := max r.start target.start
      let stop := min r.stop target.stop
      if start ≤ stop then wrap32 (overlap + wrap32 (stop - start + 1)) else overlap) overlap =
      overlap + (served.map fun r => r.stop - r.start + 1).sum := by
  induction served generalizing overlap with
  | nil => simp
  | cons r served ih =>
    have hle := hproper r (List.mem_cons_self ..)
    obtain ⟨hstart, hstop⟩ := hinside r (List.mem_cons_self ..)
    have hrest : 0 ≤ (served.map fun r => r.stop - r.start + 1).sum := by
      refine List.sum_nonneg fun x hx => ?_
      obtain ⟨q, hq, rfl⟩ := List.mem_map.mp hx
      have := hproper q (List.mem_cons_of_mem _ hq)
      omega
    rw [List.map_cons, List.sum_cons] at hfits ⊢
    rw [List.foldl_cons]
    dsimp only
    rw [max_eq_left hstart, min_eq_left hstop, if_pos hle,
      wrap32_of_lt (by omega : 0 ≤ r.stop - r.start + 1) (by omega),
      wrap32_of_lt (by omega) (by omega),
      ih (fun q hq => hproper q (List.mem_cons_of_mem _ hq))
        (fun q hq => hinside q (List.mem_cons_of_mem _ hq)) (by omega) (by omega)]
    omega

section

variable {served : List SlotRange} {target : SlotRange}

/-- Every piece lies inside the range. -/
theorem ServesRange.inside (h : ServesRange served target) {r : SlotRange} (hr : r ∈ served) :
    target.start ≤ r.start ∧ r.stop ≤ target.stop := by
  have hle := h.proper r hr
  have hfirst := (h.covers r.start).mp ⟨r, hr, Int.le_refl _, hle⟩
  have hlast := (h.covers r.stop).mp ⟨r, hr, hle, Int.le_refl _⟩
  exact ⟨hfirst.1, hlast.2⟩

/-- Its pieces overlap with the range. -/
theorem ServesRange.overlap_pos (h : ServesRange served target)
    (hslots : 0 ≤ target.start ∧ target.stop < 16384) : 0 < overlapWith served target := by
  have hsum : (served.map fun r => r.stop - r.start + 1).sum ≤
      ((Finset.Ico (0 : Int) 16384).card : Int) := by
    refine sum_length_le h.proper h.disjoint fun r hr slot hin => Finset.mem_Ico.mpr ?_
    obtain ⟨hfirst, hlast⟩ := (h.covers slot).mp ⟨r, hr, hin⟩
    omega
  rw [Int.card_Ico] at hsum
  have hpos : 0 < (served.map fun r => r.stop - r.start + 1).sum := by
    refine List.sum_pos _ (fun x hx => ?_) (by simpa using h.nonempty)
    obtain ⟨r, hr, rfl⟩ := List.mem_map.mp hx
    have := h.proper r hr
    omega
  unfold overlapWith
  rw [foldl_overlap_inside h.proper (fun r hr => h.inside hr) (Int.le_refl 0) (by omega)]
  omega

/-- They overlap with no range beside it. -/
theorem ServesRange.overlap_eq_zero (h : ServesRange served target) {other : SlotRange}
    (hbeside : target.stop < other.start ∨ other.stop < target.start) :
    overlapWith served other = 0 := by
  refine List.foldlRecOn (motive := fun overlap : Int => overlap = 0) _ _ rfl ?_
  rintro _ rfl r hr
  have := h.inside hr
  exact if_neg (by omega)

end

/-- The target ranges of two shards lie beside each other. -/
theorem targetRange_beside {n j k : Nat} (hne : j ≠ k) :
    (targetRange n j).stop < (targetRange n k).start ∨
      (targetRange n k).stop < (targetRange n j).start := by
  simp only [targetRange]
  rcases Nat.lt_or_gt_of_ne hne with hlt | hlt
  · have : shardStart n (j + 1) ≤ shardStart n k := shardStart_mono hlt
    omega
  · have : shardStart n (k + 1) ≤ shardStart n j := shardStart_mono hlt
    omega

theorem targetRange_slots {n k : Nat} (hk : k < n) :
    0 ≤ (targetRange n k).start ∧ (targetRange n k).stop < 16384 := by
  have hlast : shardStart n (k + 1) ≤ 16384 := by
    rw [← shardStart_self (Nat.lt_of_le_of_lt (Nat.zero_le k) hk)]
    exact shardStart_mono hk
  simp only [targetRange]
  omega

/-- A pod that serves the range of shard `k` matches that shard alone. -/
theorem ServesRange.ownerMatches {statuses : Statuses} {name : String}
    {n k : Nat} (h : ServesRange (statuses.get name).slotsServed (targetRange n k)) (hk : k < n) :
    (∀ m ∈ ownerMatches statuses (calculateClusterSlotRanges n) name, m.shard = k) ∧
      ∃ m, m ∈ ownerMatches statuses (calculateClusterSlotRanges n) name := by
  constructor
  · intro m hm
    obtain ⟨hmem, hpos⟩ := List.mem_filter.mp hm
    obtain ⟨⟨range, shard⟩, hrange, rfl⟩ := List.mem_map.mp hmem
    have hget := List.mk_mem_zipIdx_iff_getElem?.mp hrange
    have hshard : shard < n := by
      simpa using (List.getElem?_eq_some_iff.mp hget).1
    obtain rfl : targetRange n shard = range :=
      Option.some.inj ((calculateClusterSlotRanges_getElem? hshard).symm.trans hget)
    by_contra hne
    have hzero := h.overlap_eq_zero (targetRange_beside (n := n) (Ne.symm hne))
    have hlt : 0 < overlapWith (statuses.get name).slotsServed (targetRange n shard) :=
      of_decide_eq_true hpos
    rw [hzero] at hlt
    exact Int.lt_irrefl 0 hlt
  · refine ⟨⟨name, k, overlapWith (statuses.get name).slotsServed (targetRange n k)⟩, ?_⟩
    refine List.mem_filter.mpr ⟨?_, by simpa using h.overlap_pos (targetRange_slots hk)⟩
    refine List.mem_map.mpr ⟨(targetRange n k, k), ?_, rfl⟩
    rw [List.mk_mem_zipIdx_iff_getElem?]
    exact calculateClusterSlotRanges_getElem? hk

/-- All desired pods answer, each shard's range is served by its primary, each
    replica follows its shard's primary and the labels are those of the layout. -/
structure SettledCluster (order : MapOrder) (cluster : RedisCluster) (pods : List Pod)
    (statuses : Statuses) : Prop where
  mode : cluster.spec.mode = .cluster
  podNames : (pods.map Pod.name).Perm (expectedNames cluster)
  polled : ∀ name ∈ statuses, name ∈ expectedNames cluster
  connected : ∀ name ∈ expectedNames cluster, (statuses.get name).connected = true
  nodeID : ∀ name ∈ expectedNames cluster, (statuses.get name).nodeID ≠ ""
  nodeIDs : ∀ a ∈ expectedNames cluster, ∀ b ∈ expectedNames cluster,
    (statuses.get a).nodeID = (statuses.get b).nodeID → a = b
  wanted : ∀ name ∈ expectedNames cluster,
    (planShardLayout order cluster pods statuses).shardOf.get name < desiredShardCount cluster
  primaries : ∀ s < desiredShardCount cluster,
    (statuses.get ((planShardLayout order cluster pods statuses).primaryOf.get s)).role = .master ∧
      ServesRange
        (statuses.get ((planShardLayout order cluster pods statuses).primaryOf.get s)).slotsServed
        (targetRange (desiredShardCount cluster) s)
  replicas : ∀ name ∈ expectedNames cluster,
    (planShardLayout order cluster pods statuses).isPrimary name = false →
      (statuses.get name).role = .slave ∧ (statuses.get name).slotsServed = [] ∧
        (statuses.get name).primaryNodeID =
          (statuses.get ((planShardLayout order cluster pods statuses).primaryOf.get
            ((planShardLayout order cluster pods statuses).shardOf.get name))).nodeID
  labels : ∀ pod ∈ pods, ∀ key ∈ [labelShard, labelShardRole], pod.labels.lookup key =
    ((planShardLayout order cluster pods statuses).labels pod.name).lookup key

/-- Some pods have become unreachable: polled without an answer, or not polled. -/
def LosesContact (before after : Statuses) : Prop :=
  ∀ name, after.lookup name = before.lookup name ∨ after.lookup name = some {} ∨
    after.lookup name = none

theorem labelOf_lookup {pods : List Pod} (hnodup : (pods.map Pod.name).Nodup) {pod : Pod}
    (hpod : pod ∈ pods) : (labelOf pods).lookup pod.name = parseShardLabel pod := by
  rw [labelOf_eq_collect, GoMap.lookup_collect_key (fun x k v he => ?_) hnodup hpod]
  · cases parseShardLabel pod <;> rfl
  · obtain ⟨index, -, hentry⟩ := Option.map_eq_some_iff.mp he
    exact (Prod.mk.inj hentry).1.symm

theorem primaryLabel_get {pods : List Pod} (hnodup : (pods.map Pod.name).Nodup) {pod : Pod}
    (hpod : pod ∈ pods) : (primaryLabel pods).get pod.name =
      decide (pod.labels.get labelShardRole = labelRolePrimary) := by
  rw [primaryLabel_eq_collect]
  refine GoMap.get_of_lookup (GoMap.lookup_collect_key (fun x k v he => ?_) hnodup hpod)
  exact (Prod.mk.inj (Option.some.inj he)).1.symm

/-- A shard's label is read back. -/
theorem parseShardLabel_shardName {pod : Pod} {shard : Nat} (hvalid : ValidOrdinal shard)
    (h : pod.labels.lookup labelShard = some (shardName shard)) :
    parseShardLabel pod = some shard := by
  have hlist : (shardName shard).toList = 's' :: Nat.toDigits 10 shard := by
    simp [shardName, Nat.toList_repr]
  unfold parseShardLabel
  simp only [h, hlist, atoi_toDigits hvalid]
  simp

section

variable {order : MapOrder} {cluster : RedisCluster} {pods : List Pod}
variable {before after : Statuses}

variable {name : String}

variable (h : SettledCluster order cluster pods before)
include h

theorem SettledCluster.mem_names :
    name ∈ layoutNames cluster pods ↔ name ∈ expectedNames cluster := by
  rw [mem_layoutNames]
  constructor
  · rintro (⟨i, hi, rfl⟩ | ⟨pod, hpod, rfl⟩)
    · exact List.mem_map_of_mem (List.mem_range.mpr hi)
    · exact h.podNames.mem_iff.mp (List.mem_map_of_mem hpod)
  · intro hname
    obtain ⟨i, hi, rfl⟩ := List.mem_map.mp hname
    exact Or.inl ⟨i, List.mem_range.mp hi, rfl⟩

theorem SettledCluster.pod_name_ne :
    ∀ pod ∈ pods, pod.name ≠ "" := by
  intro pod hpod
  obtain ⟨i, -, hi⟩ := List.mem_map.mp (h.podNames.mem_iff.mp (List.mem_map_of_mem hpod))
  rw [← hi]
  exact podNameForIndex_ne_empty _ _

theorem SettledCluster.sound :
    (planEnv order cluster pods before).Sound (layoutNames cluster pods)
      (planShardLayout order cluster pods before) :=
  planShardLayout_sound order cluster pods before h.pod_name_ne

/-- A pod that reports anything is a desired one. -/
theorem SettledCluster.mem_of_serves
    (hserves : (before.get name).slotsServed ≠ []) : name ∈ expectedNames cluster := by
  refine h.polled name ?_
  by_contra hnot
  exact hserves (by rw [GoMap.get, GoMap.lookup_eq_none.mpr hnot]; rfl)

/-- The primary of a wanted shard is a desired pod, in that shard. -/
theorem SettledCluster.lead {s : Nat} (hs : s < desiredShardCount cluster) :
    (planShardLayout order cluster pods before).primaryOf.get s ∈ expectedNames cluster ∧
      (planShardLayout order cluster pods before).shardOf.lookup
        ((planShardLayout order cluster pods before).primaryOf.get s) = some s := by
  have hmem := h.mem_of_serves (h.primaries s hs).2.nonempty
  refine ⟨hmem, h.sound.primary_placed fun hempty => ?_⟩
  exact h.sound.no_empty (hempty ▸ h.mem_names.mpr hmem)

/-- Every desired pod is placed. -/
theorem SettledCluster.lookup (hname : name ∈ expectedNames cluster) :
    (planShardLayout order cluster pods before).shardOf.lookup name =
      some ((planShardLayout order cluster pods before).shardOf.get name) := by
  have hplaced := planShardLayout_places order cluster pods before h.pod_name_ne
    (h.mem_names.mpr hname)
  obtain ⟨s, hs⟩ := GoMap.mem_iff_lookup.mp hplaced
  rw [hs, GoMap.get_of_lookup hs]

theorem SettledCluster.isPrimary_iff (hname : name ∈ expectedNames cluster) :
    (planShardLayout order cluster pods before).isPrimary name = true ↔
      name = (planShardLayout order cluster pods before).primaryOf.get
        ((planShardLayout order cluster pods before).shardOf.get name) := by
  unfold ShardLayout.isPrimary
  rw [h.lookup hname]
  dsimp only
  rw [beq_iff_eq, eq_comm]

/-- There are no more shards than pods. -/
theorem SettledCluster.shards_le :
    desiredShardCount cluster ≤ cluster.spec.desiredDataInstances.toNat := by
  have hinj : ((List.range (desiredShardCount cluster)).map
      (planShardLayout order cluster pods before).primaryOf.get).Nodup := by
    refine List.nodup_range.map_on fun s hs t ht heq => ?_
    have hs' := (h.lead (List.mem_range.mp hs)).2
    rw [heq, (h.lead (List.mem_range.mp ht)).2] at hs'
    exact (Option.some.inj hs').symm
  have hsub : (List.range (desiredShardCount cluster)).map
      (planShardLayout order cluster pods before).primaryOf.get ⊆ expectedNames cluster := by
    intro name hname
    obtain ⟨s, hs, rfl⟩ := List.mem_map.mp hname
    exact (h.lead (List.mem_range.mp hs)).1
  have hlength := (hinj.subperm hsub).length_le
  simpa [expectedNames] using hlength

/-- The label of a pod names the shard it is in. -/
theorem SettledCluster.parseShardLabel {pod : Pod} (hpod : pod ∈ pods) : parseShardLabel pod =
      some ((planShardLayout order cluster pods before).shardOf.get pod.name) := by
  have hname := h.podNames.mem_iff.mp (List.mem_map_of_mem hpod)
  refine parseShardLabel_shardName ?_ ?_
  · have := h.wanted _ hname
    have := h.shards_le
    have := desiredDataInstances_lt h.mode
    unfold ValidOrdinal maxInt
    omega
  · rw [h.labels pod hpod labelShard (by simp), ShardLayout.labels, h.lookup hname]
    rfl

theorem SettledCluster.primaryLabel_iff {pod : Pod}
    (hpod : pod ∈ pods) : pod.labels.get labelShardRole = labelRolePrimary ↔
      pod.name = (planShardLayout order cluster pods before).primaryOf.get
        ((planShardLayout order cluster pods before).shardOf.get pod.name) := by
  have hname := h.podNames.mem_iff.mp (List.mem_map_of_mem hpod)
  have hrole : pod.labels.lookup labelShardRole =
      some (if (planShardLayout order cluster pods before).primaryOf.get
        ((planShardLayout order cluster pods before).shardOf.get pod.name) = pod.name
        then labelRolePrimary else labelRoleReplica) := by
    rw [h.labels pod hpod labelShardRole (by simp), ShardLayout.labels, h.lookup hname]
    exact GoMap.lookup_insert_self ..
  rw [GoMap.get_of_lookup hrole]
  by_cases heq : (planShardLayout order cluster pods before).primaryOf.get
      ((planShardLayout order cluster pods before).shardOf.get pod.name) = pod.name
  · rw [if_pos heq]
    exact iff_of_true rfl heq.symm
  · rw [if_neg heq]
    exact iff_of_false (by decide) (Ne.symm heq)

omit h

/-- What a pod reports after the loss is what it reported before, or nothing. -/
theorem LosesContact.get (h : LosesContact before after) (name : String) :
    after.get name = {} ∨ (after.lookup name = before.lookup name ∧
      after.get name = before.get name) := by
  rcases h name with hsame | hsilent | hnone
  · exact Or.inr ⟨hsame, by rw [GoMap.get, hsame]; rfl⟩
  · exact Or.inl (GoMap.get_of_lookup hsilent)
  · exact Or.inl (by rw [GoMap.get, hnone]; rfl)

include h

/-- Whoever reports a node id after the loss reported it before. -/
theorem SettledCluster.reported
    (hlost : LosesContact before after) (hid : (after.get name).nodeID ≠ "") :
    name ∈ expectedNames cluster ∧ after.get name = before.get name := by
  rcases hlost.get name with hsilent | ⟨-, hreport⟩
  · rw [hsilent] at hid
    exact absurd rfl hid
  · refine ⟨h.polled name ?_, hreport⟩
    by_contra hnot
    rw [hreport, GoMap.get_of_not_mem hnot] at hid
    exact hid rfl

theorem SettledCluster.distinctNodeIDs (hlost : LosesContact before after) :
    DistinctNodeIDs after := by
  intro a b x y ha hb heq hid
  rw [← GoMap.get_of_lookup ha] at heq hid
  rw [← GoMap.get_of_lookup hb] at heq
  obtain ⟨hamem, hareport⟩ := h.reported hlost hid
  obtain ⟨hbmem, hbreport⟩ := h.reported hlost (heq ▸ hid)
  exact h.nodeIDs a hamem b hbmem (by rw [← hareport, ← hbreport, heq])

/-- The planner finds a settled cluster in partial contact. -/
theorem SettledCluster.partialContact (hlost : LosesContact before after) (order' : MapOrder) :
    (planEnv order' cluster pods after).PartialContact (layoutNames cluster pods)
      (planShardLayout order cluster pods before).shardOf.get
      (planShardLayout order cluster pods before).primaryOf.get where
  no_empty := h.sound.no_empty
  nodup := layoutNames_nodup cluster pods
  knows := (h.distinctNodeIDs hlost).knowsNodes _ _ _
  count := desiredShardCount_pos cluster
  live p hp := by
    obtain ⟨i, hi, rfl⟩ := List.mem_map.mp (h.mem_names.mp hp)
    have hlt := List.mem_range.mp hi
    rw [doomed_planEnv_eq_false, podIndex_podNameForIndex (validOrdinal_of_lt h.mode hlt)]
    omega
  home_lt p hp := h.wanted p (h.mem_names.mp hp)
  lead_mem s hs := h.mem_names.mpr (h.lead hs).1
  home_lead s hs := GoMap.get_of_lookup (h.lead hs).2
  labelled p hp := by
    obtain ⟨pod, hpod, rfl⟩ := List.mem_map.mp (h.podNames.mem_iff.mpr (h.mem_names.mp hp))
    have hnodup := h.podNames.nodup_iff.mpr (List.nodup_range.map (podNameForIndex_injective _))
    exact (labelOf_lookup hnodup hpod).trans (h.parseShardLabel hpod)
  primaryLabel p hp := by
    obtain ⟨pod, hpod, rfl⟩ := List.mem_map.mp (h.podNames.mem_iff.mpr (h.mem_names.mp hp))
    have hnodup := h.podNames.nodup_iff.mpr (List.nodup_range.map (podNameForIndex_injective _))
    show (primaryLabel pods).get pod.name = true ↔ _
    rw [primaryLabel_get hnodup hpod, decide_eq_true_eq]
    exact h.primaryLabel_iff hpod
  primary p hp hlead := by
    have hlt := h.wanted p (h.mem_names.mp hp)
    obtain ⟨hrole, hserves⟩ := h.primaries _ hlt
    rw [← hlead] at hrole hserves
    refine (hlost.get p).imp id fun ⟨_, hreport⟩ => ?_
    have hserves' : ServesRange (after.get p).slotsServed (targetRange (desiredShardCount cluster)
        ((planShardLayout order cluster pods before).shardOf.get p)) := hreport ▸ hserves
    obtain ⟨hown, hsome⟩ := hserves'.ownerMatches hlt
    refine ⟨hserves'.nonempty, ?_, hown, hsome⟩
    show (after.get p).role ≠ .slave
    rw [hreport, hrole]
    decide
  replica p hp hlead := by
    have hname := h.mem_names.mp hp
    have hlt := h.wanted p hname
    have hnot : (planShardLayout order cluster pods before).isPrimary p = false := by
      rw [← Bool.not_eq_true, h.isPrimary_iff hname]
      exact hlead
    obtain ⟨hrole, hidle, hprimary⟩ := h.replicas p hname hnot
    refine (hlost.get p).imp id fun ⟨hsame, hreport⟩ => ?_
    have hnode : (before.get p).primaryNodeID ≠ "" := by
      rw [hprimary]
      exact h.nodeID _ (h.lead hlt).1
    have hconnected := h.connected p hname
    refine ⟨?_, ?_, ?_, ?_, ?_⟩
    · exact (congrArg InstanceStatus.slotsServed hreport).trans hidle
    · exact (congrArg InstanceStatus.role hreport).trans hrole
    · show (after.get p).primaryNodeID ≠ ""
      rwa [hreport]
    · have hmem : p ∈ after := by
        rw [GoMap.mem_iff_lookup, hsame, ← GoMap.mem_iff_lookup]
        by_contra hnot
        rw [GoMap.get, GoMap.lookup_eq_none.mpr hnot] at hconnected
        cases hconnected
      show (decide (p ∈ after) && (after.get p).connected &&
        ((after.get p).role != .slave || (after.get p).primaryNodeID != "")) = true
      rw [hreport, decide_eq_true hmem, hconnected]
      simp [hnode]
    · intro n
      show (after.get n).nodeID = (after.get p).primaryNodeID ↔ _ ∧ (after.get n).slotsServed ≠ []
      rw [hreport]
      constructor
      · intro hid
        obtain ⟨hmem, hsame⟩ := h.reported hlost (hid ▸ hnode)
        have hlead := h.nodeIDs n hmem _ (h.lead hlt).1 (by rw [← hsame, hid, hprimary])
        exact ⟨hlead, by rw [hsame, hlead]; exact (h.primaries _ hlt).2.nonempty⟩
      · rintro ⟨rfl, hserves⟩
        rcases hlost.get ((planShardLayout order cluster pods before).primaryOf.get
          ((planShardLayout order cluster pods before).shardOf.get p)) with hsilent | ⟨-, hsame⟩
        · exact absurd (by rw [hsilent]) hserves
        · rw [hsame, hprimary]

theorem SettledCluster.ownOrdinals :
    OwnOrdinals cluster pods where
  named pod hpod := by
    obtain ⟨i, hi, heq⟩ := List.mem_map.mp (h.podNames.mem_iff.mp (List.mem_map_of_mem hpod))
    exact ⟨i, validOrdinal_of_lt h.mode (List.mem_range.mp hi), heq.symm⟩
  distinct := h.podNames.nodup_iff.mpr
    (List.nodup_range.map (podNameForIndex_injective cluster.name))

/-- The names are in ordinal order. -/
theorem SettledCluster.increasing :
    (layoutNames cluster pods).Pairwise fun a b =>
      podIndex cluster.name a < podIndex cluster.name b :=
  h.ownOrdinals.increasing h.mode

end

/-! ## Orphans -/

/-- The pods of a shard's label, when it is an orphan's turn: those that are no
    orphans, and the orphans with a lower ordinal. -/
def sizeAtTurn (cluster : RedisCluster) (pods : List Pod) (statuses : Statuses)
    (orphan : Pod) (s : Nat) : Nat :=
  pods.countP fun pod => decide (parseShardLabel pod = some s) &&
    (!orphaned statuses pod.name ||
      decide (podIndex cluster.name pod.name < podIndex cluster.name orphan.name))

/-- Every orphan finds the shard its label names the smallest at its turn, the
    lowest of those that are. -/
def OrphansReturn (cluster : RedisCluster) (pods : List Pod)
    (statuses : Statuses) : Prop :=
  ∀ pod ∈ pods, orphaned statuses pod.name = true → ∀ s, parseShardLabel pod = some s →
    LeastAt (desiredShardCount cluster) (sizeAtTurn cluster pods statuses pod) s

section

variable {order : MapOrder} {cluster : RedisCluster} {pods : List Pod}
variable {before after : Statuses}

/-- The size of a shard at an orphan's turn, counted over the names. -/
theorem SettledCluster.sizeAtTurn_eq (h : SettledCluster order cluster pods before)
    {pod : Pod} {done rest : List String}
    (hsplit : (layoutNames cluster pods).filter (orphaned after) = done ++ pod.name :: rest)
    (s : Nat) :
    sizeAtTurn cluster pods after pod s =
      ((layoutNames cluster pods).countP fun q =>
          decide ((planShardLayout order cluster pods before).shardOf.get q = s) &&
            !orphaned after q) +
        done.countP fun q =>
          (planShardLayout order cluster pods before).shardOf.get q = s := by
  let home := (planShardLayout order cluster pods before).shardOf.get
  let names := layoutNames cluster pods
  let ahead : String → Bool := fun q =>
    decide (podIndex cluster.name q < podIndex cluster.name pod.name)
  have hperm : (pods.map Pod.name).Perm names := by
    have hnodup := h.podNames.nodup_iff.mpr (List.nodup_range.map (podNameForIndex_injective _))
    refine (List.perm_ext_iff_of_nodup hnodup (layoutNames_nodup cluster pods)).mpr fun q => ?_
    rw [h.podNames.mem_iff, h.mem_names]
  have hpods : sizeAtTurn cluster pods after pod s =
      names.countP fun q => decide (home q = s) && (!orphaned after q || ahead q) := by
    rw [← hperm.countP_eq, List.countP_map]
    refine List.countP_congr fun q hq => ?_
    rw [h.parseShardLabel hq]
    simp only [Option.some.injEq]
    exact Iff.rfl
  -- the orphans with a lower ordinal are those before it
  have hsorted := h.increasing.filter (orphaned after)
  rw [hsplit] at hsorted
  obtain ⟨-, hafter, hacross⟩ := List.pairwise_append.mp hsorted
  have hdone : ∀ q ∈ done, orphaned after q = true ∧ ahead q = true := by
    intro q hq
    have hmem : q ∈ names.filter (orphaned after) := by
      rw [hsplit]
      exact List.mem_append_left _ hq
    exact ⟨(List.mem_filter.mp hmem).2,
      decide_eq_true (hacross q hq pod.name (List.mem_cons_self ..))⟩
  have hrest : ∀ q ∈ pod.name :: rest, orphaned after q = true ∧ ahead q = false := by
    intro q hq
    have hmem : q ∈ names.filter (orphaned after) := by
      rw [hsplit]
      exact List.mem_append_right _ hq
    refine ⟨(List.mem_filter.mp hmem).2, decide_eq_false ?_⟩
    rcases List.mem_cons.mp hq with rfl | hq
    · exact Int.lt_irrefl _
    · exact Int.not_lt.mpr (Int.le_of_lt (List.rel_of_pairwise_cons hafter hq))
  rw [hpods, List.countP_eq_countP_filter_add names _ (orphaned after), hsplit, List.countP_append,
    Nat.add_comm, List.countP_filter]
  refine congrArg₂ (· + ·) (List.countP_congr fun q _ => ?_) ?_
  · simp only [Bool.and_eq_true, Bool.or_eq_true, Bool.not_eq_true', decide_eq_true_eq]
    tauto
  · have hnone : (pod.name :: rest).countP
        (fun q => decide (home q = s) && (!orphaned after q || ahead q)) = 0 := by
      rw [List.countP_eq_zero]
      intro q hq
      simp [(hrest q hq).1, (hrest q hq).2]
    rw [hnone, Nat.add_zero]
    refine List.countP_congr fun q hq => ?_
    simp [(hdone q hq).1, (hdone q hq).2, home]

end

/-- **Losing contact.**  In a settled cluster of which some pods have become
    unreachable, the planner keeps every pod in the shard its label names
    exactly if every orphan returns. -/
theorem lostContact_iff (order order' : MapOrder) (cluster : RedisCluster) (pods : List Pod)
    (before after : Statuses)
    (hsettled : SettledCluster order cluster pods before) (hlost : LosesContact before after) :
    (∀ pod ∈ pods, (planShardLayout order' cluster pods after).shardOf.lookup pod.name =
        parseShardLabel pod) ↔ OrphansReturn cluster pods after := by
  have hcontact := hsettled.partialContact hlost order'
  have hmem : ∀ {p : String}, p ∈ layoutNames cluster pods ↔ ∃ pod ∈ pods, pod.name = p := by
    intro p
    rw [hsettled.mem_names, ← hsettled.podNames.mem_iff, List.mem_map]
  have hplaces : (∀ pod ∈ pods, (planShardLayout order' cluster pods after).shardOf.lookup
      pod.name =
        parseShardLabel pod) ↔ ∀ p ∈ layoutNames cluster pods,
      ((planEnv order' cluster pods after).spread order' (layoutNames cluster pods)).shardOf.lookup
        p = some ((planShardLayout order cluster pods before).shardOf.get p) := by
    rw [planShardLayout_shardOf]
    constructor
    · intro h p hp
      obtain ⟨pod, hpod, rfl⟩ := hmem.mp hp
      rw [h pod hpod, hsettled.parseShardLabel hpod]
    · intro h pod hpod
      rw [h pod.name (hmem.mpr ⟨pod, hpod, rfl⟩), hsettled.parseShardLabel hpod]
  rw [hplaces, hcontact.spread_home_iff order']
  constructor
  · intro h pod hpod horphan s hs
    have hname := hmem.mpr ⟨pod, hpod, rfl⟩
    obtain ⟨done, rest, hsplit⟩ := List.append_of_mem (List.mem_filter.mpr ⟨hname, horphan⟩)
    rw [hsettled.parseShardLabel hpod] at hs
    obtain rfl := Option.some.inj hs
    rw [funext (hsettled.sizeAtTurn_eq hsplit)]
    exact h done pod.name rest hsplit
  · intro h done p rest hsplit
    change (layoutNames cluster pods).filter (orphaned after) = _ at hsplit
    have hp : p ∈ (layoutNames cluster pods).filter (orphaned after) := by
      rw [hsplit]
      simp
    obtain ⟨hname, horphan⟩ := List.mem_filter.mp hp
    obtain ⟨pod, hpod, rfl⟩ := hmem.mp hname
    have hleast := h pod hpod horphan _ (hsettled.parseShardLabel hpod)
    rwa [funext (hsettled.sizeAtTurn_eq hsplit)] at hleast

/-! ## Two crossed replicas -/

/-- A data pod with the labels of a shard. -/
def shardPod (name : String) (shard : Nat) (role : String) : Pod where
  name := name
  labels := ((∅ : GoMap String String).insert labelShard (shardName shard)).insert
    labelShardRole role

/-- The pods of three shards; the replicas of the first two are crossed. -/
def crossedPods : List Pod :=
  [shardPod "c-0" 0 labelRolePrimary, shardPod "c-1" 1 labelRolePrimary,
    shardPod "c-2" 2 labelRolePrimary, shardPod "c-3" 1 labelRoleReplica,
    shardPod "c-4" 0 labelRoleReplica, shardPod "c-5" 2 labelRoleReplica]

/-- What they answer while all of them can be reached. -/
def crossedStatuses : Statuses :=
  ((((((∅ : Statuses).insert
    "c-0" (answeredMaster "n0" [targetRange 3 0])).insert
    "c-1" (answeredMaster "n1" [targetRange 3 1])).insert
    "c-2" (answeredMaster "n2" [targetRange 3 2])).insert
    "c-3" (answeredReplica "n3" "n1")).insert
    "c-4" (answeredReplica "n4" "n0")).insert
    "c-5" (answeredReplica "n5" "n2")

theorem servesRange_singleton {r : SlotRange} (h : r.start ≤ r.stop) : ServesRange [r] r where
  nonempty := List.cons_ne_nil r []
  proper q hq := List.mem_singleton.mp hq ▸ h
  disjoint := List.pairwise_singleton _ r
  covers slot := by simp

theorem crossedPods_settled :
    SettledCluster MapOrder.stored (shardedCluster 1) crossedPods crossedStatuses where
  mode := rfl
  podNames := by
    have heq : crossedPods.map Pod.name = expectedNames (shardedCluster 1) := by decide +kernel
    rw [heq]
  polled := by
    have hkeys : ∀ name ∈ crossedStatuses.keys, name ∈ expectedNames (shardedCluster 1) := by
      decide +kernel
    exact fun name hname => hkeys name (GoMap.mem_keys.mpr hname)
  connected := by decide +kernel
  nodeID := by decide +kernel
  nodeIDs := by decide +kernel
  wanted := by decide +kernel
  primaries := by
    have hserved : ∀ s < desiredShardCount (shardedCluster 1),
        (crossedStatuses.get ((planShardLayout MapOrder.stored (shardedCluster 1) crossedPods
          crossedStatuses).primaryOf.get s)).role = .master ∧
        (crossedStatuses.get ((planShardLayout MapOrder.stored (shardedCluster 1) crossedPods
          crossedStatuses).primaryOf.get s)).slotsServed =
            [targetRange (desiredShardCount (shardedCluster 1)) s] ∧
        (targetRange (desiredShardCount (shardedCluster 1)) s).start ≤
          (targetRange (desiredShardCount (shardedCluster 1)) s).stop := by decide +kernel
    intro s hs
    obtain ⟨hrole, hslots, hproper⟩ := hserved s hs
    refine ⟨hrole, ?_⟩
    rw [hslots]
    exact servesRange_singleton hproper
  replicas := by decide +kernel
  labels := by decide +kernel

theorem losesContact_insert {before after : Statuses}
    (h : LosesContact before after) (name : String) :
    LosesContact before (after.insert name {}) := by
  intro other
  rw [GoMap.lookup_insert]
  split
  · exact Or.inr (Or.inl rfl)
  · exact h other

theorem losesContact_refl (statuses : Statuses) :
    LosesContact statuses statuses := fun _ => Or.inl rfl

/-- With one primary lost, its replica returns and every pod keeps its shard. -/
theorem crossedPods_keep :
    LosesContact crossedStatuses (crossedStatuses.insert "c-0" {}) ∧
      ∀ pod ∈ crossedPods, (planShardLayout MapOrder.stored (shardedCluster 1) crossedPods
        (crossedStatuses.insert "c-0" {})).shardOf.lookup pod.name = parseShardLabel pod := by
  have hlost := losesContact_insert (losesContact_refl crossedStatuses) "c-0"
  have hreturn : ∀ pod ∈ crossedPods, orphaned (crossedStatuses.insert "c-0" {}) pod.name = true →
      ∀ s ∈ (parseShardLabel pod).toList, LeastAt (desiredShardCount (shardedCluster 1))
        (sizeAtTurn (shardedCluster 1) crossedPods (crossedStatuses.insert "c-0" {}) pod) s := by
    decide +kernel
  refine ⟨hlost, (lostContact_iff MapOrder.stored MapOrder.stored _ _ crossedStatuses _
    crossedPods_settled hlost).mpr fun pod hpod horphan s hs => ?_⟩
  exact hreturn pod hpod horphan s (Option.mem_toList.mpr hs)

/-- With both primaries of the crossed replicas lost, each of these is placed in
    the other's shard. -/
theorem crossedPods_swapped :
    SettledCluster MapOrder.stored (shardedCluster 1) crossedPods crossedStatuses ∧
      LosesContact crossedStatuses ((crossedStatuses.insert "c-0" {}).insert "c-1" {}) ∧
      ((planShardLayout MapOrder.stored (shardedCluster 1) crossedPods
        ((crossedStatuses.insert "c-0" {}).insert "c-1" {})).shardOf.lookup "c-3" = some 0 ∧
        parseShardLabel (shardPod "c-3" 1 labelRoleReplica) = some 1) := by
  refine ⟨crossedPods_settled, ?_, by decide +kernel⟩
  exact losesContact_insert (losesContact_insert (losesContact_refl _) "c-0") "c-1"

end RedisOperator
