/-
  RedisOperator.Cluster.LayoutCounting

  The planner's state as a list of placements, and how far each stage gets:

    * owners sit where greedy seating puts them (`seats_claimed`);
    * the follower loop adds to the list the pods that reports and labels place
      (`places_followed`);
    * free survivors fill the vacant shards in order (`places_filled`);
    * what is still unled borrows spares, one each, and only for shards that
      have an owner (`borrowHeirs_covers`).
-/

import RedisOperator.Cluster.LayoutFacts
import Mathlib.Data.Finset.Card

namespace RedisOperator

open Lib

/-- A pod with a shard of its own, and whether it may lead that shard. -/
structure Placement where
  pod : String
  shard : Nat
  mayLead : Bool
  deriving DecidableEq

namespace PlanEnv

variable {e : PlanEnv} {names : List String} {l : ShardLayout}

theorem inherit_primaryOf_get (l : ShardLayout) (shard : Nat) (name : String) (s : Nat) :
    (e.inherit l shard name).primaryOf.get s =
      if s = shard ∧ l.primaryOf.get shard = "" ∧ e.doomed name = false then name
      else l.primaryOf.get s := by
  unfold PlanEnv.inherit
  by_cases hc : l.primaryOf.get shard = "" ∧ e.doomed name = false
  · rw [if_pos hc, ShardLayout.setPrimary_primaryOf_get]
    by_cases hs : s = shard <;> simp [hs, hc]
  · rw [if_neg hc, if_neg fun h => hc h.2]

/-! ## Owners sit where `Greedy.seating` puts them -/

/-- The layout places exactly the seated pods, on their seats. -/
structure Seats (l : ShardLayout) (seats : List (String × Nat)) : Prop where
  placed : ∀ name s, l.shardOf.lookup name = some s ↔ (name, s) ∈ seats
  used : ∀ s, l.used s = true ↔ Greedy.taken seats s = true

theorem seats_empty : Seats {} [] where
  placed name s := by simp
  used s := by simp [ShardLayout.used, Greedy.taken]

variable {shard : Nat} {name : String}

section

variable {seats : List (String × Nat)}

variable (h : Seats l seats)
include h

theorem Seats.seated (name : String) :
    name ∈ l.shardOf ↔ Greedy.seated seats name = true := by
  rw [Greedy.seated_iff, GoMap.mem_iff_lookup]
  exact exists_congr fun s => h.placed name s

theorem Seats.claim
    (hnew : name ∉ l.shardOf) : Seats (e.claim l name shard) ((name, shard) :: seats) where
  placed n s := by
    rw [claim_shardOf, GoMap.lookup_insert, List.mem_cons, Prod.mk.injEq]
    by_cases hn : n = name
    · subst hn
      have hnone : (n, s) ∉ seats := fun hmem =>
        hnew (GoMap.mem_of_lookup ((h.placed n s).mpr hmem))
      simp [hnone, eq_comm]
    · simp [hn, h.placed]
  used s := by
    have hused : (e.claim l name shard).used s = true ↔ s = shard ∨ l.used s = true := by
      unfold ShardLayout.used
      rw [decide_eq_true_iff, decide_eq_true_iff, claim_members]
      exact GoMap.mem_insert
    rw [hused, h.used, Greedy.taken_iff, Greedy.taken_iff]
    simp only [List.mem_cons, Prod.mk.injEq]
    constructor
    · rintro (rfl | ⟨a, ha⟩)
      · exact ⟨name, Or.inl ⟨rfl, rfl⟩⟩
      · exact ⟨a, Or.inr ha⟩
    · rintro ⟨a, ⟨-, rfl⟩ | ha⟩
      · exact Or.inl rfl
      · exact Or.inr ⟨a, ha⟩

theorem Seats.claimMatch (m : OwnerMatch) :
    Seats (e.claimMatch l m) (Greedy.sit seats (m.pod, m.shard)) := by
  unfold PlanEnv.claimMatch Greedy.sit
  by_cases hguard : m.pod ∈ l.shardOf ∨ l.used m.shard = true
  · rw [if_pos hguard, if_pos (by rwa [← h.seated, ← h.used])]
    exact h
  · rw [if_neg hguard, if_neg (by rwa [← h.seated, ← h.used])]
    exact h.claim fun hmem => hguard (Or.inl hmem)

theorem Seats.lowestUnused : l.lowestUnused = Greedy.lowestFree seats := by
  apply Greedy.eq_lowestFree
  · rw [← Bool.not_eq_true, ← h.used, used_lowestUnused]
    simp
  · intro t ht
    rw [← h.used]
    exact used_of_lt_lowestUnused l ht

theorem Seats.claimLeftover (name : String) :
    Seats (e.claimLeftover l name) (Greedy.sitAnywhere seats name) := by
  unfold PlanEnv.claimLeftover Greedy.sitAnywhere
  by_cases hplaced : name ∈ l.shardOf
  · rw [if_pos hplaced, if_pos ((h.seated name).mp hplaced)]
    exact h
  · rw [if_neg hplaced, if_neg fun hh => hplaced ((h.seated name).mpr hh), h.lowestUnused]
    exact h.claim hplaced

theorem Seats.foldl_claimMatch (ms : List OwnerMatch) :
    Seats (ms.foldl e.claimMatch l)
      ((ms.map fun m => (m.pod, m.shard)).foldl Greedy.sit seats) := by
  induction ms generalizing l seats with
  | nil => exact h
  | cons m ms ih => exact ih (h.claimMatch m)

theorem Seats.foldl_claimLeftover (ns : List String) :
    Seats (ns.foldl e.claimLeftover l) (ns.foldl Greedy.sitAnywhere seats) := by
  induction ns generalizing l seats with
  | nil => exact h
  | cons n ns ih => exact ih (h.claimLeftover n)

end

/-- The shard each owner ends up on: greedily by overlap, then the lowest unused one. -/
def seats (e : PlanEnv) (names : List String) : List (String × Nat) :=
  Greedy.seating
    ((rankOwnersByOverlap (e.owners names) e.statuses
      (calculateClusterSlotRanges e.shardCount)).map fun m => (m.pod, m.shard))
    (e.owners names)

/-- The claim stage refines greedy seating. -/
theorem seats_claimed (e : PlanEnv) (names : List String) :
    Seats (e.claimed names) (e.seats names) :=
  (seats_empty.foldl_claimMatch _).foldl_claimLeftover _

theorem mem_claimLeftover_shardOf {n : String} :
    n ∈ (e.claimLeftover l name).shardOf ↔ n = name ∨ n ∈ l.shardOf := by
  unfold PlanEnv.claimLeftover
  split
  · rename_i hmem
    exact ⟨Or.inr, fun h => h.elim (fun h => h ▸ hmem) id⟩
  · rw [claim_shardOf, GoMap.mem_insert]

theorem mem_foldl_claimLeftover_shardOf {ns : List String} {n : String} :
    n ∈ (ns.foldl e.claimLeftover l).shardOf ↔ n ∈ ns ∨ n ∈ l.shardOf := by
  induction ns generalizing l with
  | nil => simp
  | cons name ns ih =>
    rw [List.foldl_cons, ih, mem_claimLeftover_shardOf, List.mem_cons]
    tauto

/-- Exactly the slot owners are placed by the claim stage. -/
theorem mem_claimed_shardOf (hne : "" ∉ names) {n : String} :
    n ∈ (e.claimed names).shardOf ↔ n ∈ e.owners names := by
  constructor
  · intro h
    obtain ⟨s, hs⟩ := GoMap.mem_iff_lookup.mp h
    obtain ⟨hsound, hall⟩ := claimed_sound (e := e) hne
    exact mem_owners.mpr ⟨hsound.placed_mem hs, hsound.owner_serves (hall hs)⟩
  · intro h
    exact mem_foldl_claimLeftover_shardOf.mpr (Or.inl h)

/-! ## The state as a list of placements -/

/-- The first pod listed for a shard that may lead it and survives. -/
def leader (e : PlanEnv) (placed : List Placement) (s : Nat) : String :=
  ((placed.find? fun p => decide (p.shard = s) && p.mayLead && !e.doomed p.pod).map
    Placement.pod).getD ""

/-- The layout places the pods as listed, and their leaders lead. -/
structure Places (e : PlanEnv) (l : ShardLayout) (placed : List Placement) : Prop where
  nodup : (placed.map Placement.pod).Nodup
  named : ∀ p ∈ placed, p.pod ≠ ""
  shard : ∀ name s, l.shardOf.lookup name = some s ↔ ∃ p ∈ placed, p.pod = name ∧ p.shard = s
  primary : ∀ s, l.primaryOf.get s = e.leader placed s

variable {placed : List Placement}

theorem Places.mem_iff (h : Places e l placed) (name : String) :
    name ∈ l.shardOf ↔ ∃ p ∈ placed, p.pod = name := by
  rw [GoMap.mem_iff_lookup]
  simp only [h.shard]
  constructor
  · rintro ⟨s, p, hp, hname, -⟩
    exact ⟨p, hp, hname⟩
  · rintro ⟨p, hp, hname⟩
    exact ⟨p.shard, p, hp, hname, rfl⟩

/-- A primary is listed for its shard, may lead it and survives. -/
theorem Places.primary_mem (h : Places e l placed) {s : Nat} (hled : l.primaryOf.get s ≠ "") :
    ∃ p ∈ placed, p.pod = l.primaryOf.get s ∧ p.shard = s ∧ p.mayLead = true ∧
      e.doomed p.pod = false := by
  rw [h.primary, leader] at hled ⊢
  cases hf : placed.find? fun p => decide (p.shard = s) && p.mayLead && !e.doomed p.pod with
  | none => simp [hf] at hled
  | some p =>
    have hp := List.find?_some hf
    simp only [Bool.and_eq_true, decide_eq_true_eq, Bool.not_eq_true'] at hp
    exact ⟨p, List.mem_of_find?_eq_some hf, rfl, hp.1.1, hp.1.2, hp.2⟩

/-- A shard is led exactly if some surviving pod listed for it may lead it. -/
theorem Places.led (h : Places e l placed) (s : Nat) : l.primaryOf.get s ≠ "" ↔
    ∃ p ∈ placed, p.shard = s ∧ p.mayLead = true ∧ e.doomed p.pod = false := by
  constructor
  · intro hled
    obtain ⟨p, hp, -, hcan⟩ := h.primary_mem hled
    exact ⟨p, hp, hcan⟩
  · rintro ⟨p, hp, hs, hlead, hd⟩
    rw [h.primary, leader]
    cases hf : placed.find? fun p => decide (p.shard = s) && p.mayLead && !e.doomed p.pod with
    | none =>
      have hnot := List.find?_eq_none.mp hf p hp
      simp [hs, hlead, hd] at hnot
    | some q => exact h.named q (List.mem_of_find?_eq_some hf)

/-- One more pod. -/
theorem Places.add {l' : ShardLayout} {p : Placement} (h : Places e l placed)
    (hnew : p.pod ∉ l.shardOf) (hname : p.pod ≠ "")
    (hshard : l'.shardOf = l.shardOf.insert p.pod p.shard)
    (hprimary : ∀ s, l'.primaryOf.get s =
      if p.shard = s ∧ p.mayLead = true ∧ e.doomed p.pod = false ∧ l.primaryOf.get s = ""
      then p.pod else l.primaryOf.get s) :
    Places e l' (placed ++ [p]) where
  nodup := by
    rw [List.map_append, List.nodup_append]
    refine ⟨h.nodup, List.nodup_singleton _, ?_⟩
    rintro a ha b hb rfl
    obtain ⟨q, hq, hqp⟩ := List.mem_map.mp ha
    rw [List.map_singleton, List.mem_singleton] at hb
    exact hnew ((h.mem_iff _).mpr ⟨q, hq, hqp.trans hb⟩)
  named q hq := by
    rcases List.mem_append.mp hq with hq | hq
    · exact h.named q hq
    · rw [List.mem_singleton.mp hq]
      exact hname
  shard name s := by
    rw [hshard, GoMap.lookup_insert]
    simp only [List.mem_append, List.mem_singleton, or_and_right, exists_or, exists_eq_left,
      ← h.shard]
    by_cases hn : name = p.pod
    · subst hn
      simp [GoMap.lookup_eq_none.mpr hnew]
    · simp [hn, Ne.symm hn]
  primary s := by
    rw [hprimary, h.primary, leader, leader, List.find?_append]
    cases hf : placed.find? fun p => decide (p.shard = s) && p.mayLead && !e.doomed p.pod with
    | none => by_cases hc : p.shard = s ∧ p.mayLead = true ∧ e.doomed p.pod = false <;> simp_all
    | some q => simp [h.named q (List.mem_of_find?_eq_some hf)]

/-! ## The groups that reports and labels form -/

/-- The owners on their seats. -/
def seated (e : PlanEnv) (names : List String) : List Placement :=
  (e.seats names).map fun seat => ⟨seat.1, seat.2, true⟩

theorem places_claimed (hne : "" ∉ names) : Places e (e.claimed names) (e.seated names) := by
  have hseats := seats_claimed e names
  have hsound := (claimed_sound (e := e) hne).1
  have howners : AllOwners (e.claimed names) := (claimed_sound hne).2
  have hmem : ∀ {p}, p ∈ e.seated names → (p.pod, p.shard) ∈ e.seats names ∧ p.mayLead = true := by
    intro p hp
    obtain ⟨seat, hseat, rfl⟩ := List.mem_map.mp hp
    exact ⟨hseat, rfl⟩
  refine ⟨?_, ?_, ?_, ?_⟩
  · rw [seated, List.map_map]
    have hnodup : (e.seats names).Nodup := (Greedy.nodup_seating _ _).of_map _
    refine hnodup.map_on ?_
    rintro ⟨a, s⟩ ha ⟨b, t⟩ hb hab
    obtain rfl : a = b := hab
    rw [Option.some.inj (((hseats.placed a s).mpr ha).symm.trans ((hseats.placed a t).mpr hb))]
  · rintro p hp hempty
    have hl := (hseats.placed _ _).mpr (hmem hp).1
    exact hne (hempty ▸ hsound.placed_mem hl)
  · intro name s
    rw [hseats.placed]
    constructor
    · exact fun hseat => ⟨_, List.mem_map_of_mem hseat, rfl, rfl⟩
    · rintro ⟨p, hp, rfl, rfl⟩
      exact (hmem hp).1
  · intro s
    rw [leader]
    cases hf : (e.seated names).find? fun p =>
        decide (p.shard = s) && p.mayLead && !e.doomed p.pod with
    | none =>
      by_contra hled
      -- a primary has a seat here and survives
      have hnot := List.find?_eq_none.mp hf _ (List.mem_map_of_mem
        ((hseats.placed _ _).mp (hsound.primary_placed hled)))
      simp [hsound.primary_survives hled] at hnot
    | some p =>
      have hp := List.find?_some hf
      simp only [Bool.and_eq_true, decide_eq_true_eq, Bool.not_eq_true'] at hp
      have hseat := (hseats.placed _ _).mpr (hmem (List.mem_of_find?_eq_some hf)).1
      exact hp.1.1 ▸ hsound.owner_primary (howners hseat) hp.2

/-- The placed pod whose node a replica reports to follow. -/
def followee (e : PlanEnv) (placed : List Placement) (name : String) : Option Placement :=
  if (e.statuses.get name).role = .slave ∧ (e.statuses.get name).primaryNodeID ≠ "" then
    placed.find? fun p =>
      decide ((e.statuses.get p.pod).nodeID = (e.statuses.get name).primaryNodeID)
  else none

/-- Where a pod belongs once the pods before it are placed: with the pod it
    follows, or, if it reports nothing, where its label says. -/
def place (e : PlanEnv) (placed : List Placement) (name : String) : Option Placement :=
  match e.followee placed name with
  | some p => some ⟨name, p.shard, true⟩
  | none => (e.labelledShard name).map fun shard => ⟨name, shard, e.primaryLabel.get name⟩

/-- Owners have their seats; the others are asked in order. -/
def join (e : PlanEnv) (placed : List Placement) (name : String) : List Placement :=
  if placed.any fun p => decide (p.pod = name) then placed
  else placed ++ (e.place placed name).toList

/-- The pods that reports and labels place. -/
def groups (e : PlanEnv) (names : List String) : List Placement :=
  names.foldl e.join (e.seated names)

/-- A node id leads to the pod that reports it. -/
def KnowsNodes (e : PlanEnv) : Prop :=
  ∀ id ≠ "", ∀ name ≠ "", (e.statuses.get name).nodeID = id ↔ e.podByNodeID.get id = name

theorem Places.followedShard_eq (h : Places e l placed) (hknows : e.KnowsNodes) (name : String) :
    e.followedShard l name = (e.followee placed name).map Placement.shard := by
  unfold PlanEnv.followedShard followee
  dsimp only
  split
  · rename_i hc
    have hpod := fun p (hp : p ∈ placed) => hknows _ hc.2 p.pod (h.named p hp)
    cases hf : placed.find? fun p =>
        decide ((e.statuses.get p.pod).nodeID = (e.statuses.get name).primaryNodeID) with
    | none =>
      refine GoMap.lookup_eq_none.mpr fun hmem => ?_
      obtain ⟨p, hp, heq⟩ := (h.mem_iff _).mp hmem
      simpa [(hpod p hp).mpr heq.symm] using List.find?_eq_none.mp hf p hp
    | some p =>
      have hp := List.mem_of_find?_eq_some hf
      have hid := List.find?_some hf
      exact (h.shard _ _).mpr ⟨p, hp, ((hpod p hp).mp (of_decide_eq_true hid)).symm, rfl⟩
  · rfl

/-- A pod that joins a shard and inherits it if nobody leads it. -/
theorem Places.inherit (h : Places e l placed) (hnew : name ∉ l.shardOf)
    (hname : name ≠ "") (shard : Nat) :
    Places e (e.inherit (l.assign name shard) shard name) (placed ++ [⟨name, shard, true⟩]) := by
  refine h.add (p := ⟨name, shard, true⟩) hnew hname (inherit_shardOf ..) fun s => ?_
  rw [inherit_primaryOf_get, ShardLayout.assign_primaryOf]
  by_cases hs : s = shard
  · subst hs
    simp [and_comm]
  · simp [hs, Ne.symm hs]

theorem Places.placeFollower (h : Places e l placed) (hknows : e.KnowsNodes) (free : List String)
    (hname : name ≠ "") : Places e (e.placeFollower (l, free) name).1 (e.join placed name) := by
  have hseen : (placed.any fun p => decide (p.pod = name)) = true ↔ name ∈ l.shardOf := by
    rw [h.mem_iff]
    simp
  unfold PlanEnv.placeFollower join
  dsimp only
  by_cases hin : name ∈ l.shardOf
  · rw [if_pos hin, if_pos (hseen.mpr hin)]
    exact h
  · rw [if_neg hin, if_neg (fun hh => hin (hseen.mp hh)), h.followedShard_eq hknows name]
    unfold place
    cases e.followee placed name with
    | some p => exact h.inherit hin hname p.shard
    | none =>
      dsimp only [Option.map_none]
      cases e.labelledShard name with
      | none => simpa using h
      | some shard =>
        dsimp only [Option.map_some]
        cases hlead : e.primaryLabel.get name with
        | true => exact h.inherit hin hname shard
        | false =>
          refine h.add (p := ⟨name, shard, false⟩) hin hname rfl fun s => ?_
          simp

/-- The follower loop computes the groups. -/
theorem places_followed (hne : "" ∉ names) (hknows : e.KnowsNodes) :
    Places e (e.followed names).1 (e.groups names) := by
  have hfold : ∀ (rest free : List String) (l : ShardLayout) (placed : List Placement),
      "" ∉ rest → Places e l placed →
      Places e (rest.foldl e.placeFollower (l, free)).1 (rest.foldl e.join placed) := by
    intro rest
    induction rest with
    | nil => exact fun _ _ _ _ h => h
    | cons name rest ih =>
      intro free l placed hrest h
      rw [List.mem_cons, not_or] at hrest
      exact ih _ _ _ hrest.2 (h.placeFollower hknows free (Ne.symm hrest.1))
  exact hfold _ _ _ _ hne (places_claimed hne)

theorem mem_seated (hne : "" ∉ names) (name : String) :
    (∃ p ∈ e.seated names, p.pod = name) ↔ name ∈ e.owners names := by
  rw [← (places_claimed hne).mem_iff, mem_claimed_shardOf hne]

theorem place_pod {p : Placement} (h : e.place placed name = some p) : p.pod = name := by
  unfold place at h
  split at h
  · exact (Option.some.inj h) ▸ rfl
  · obtain ⟨shard, -, rfl⟩ := Option.map_eq_some_iff.mp h
    rfl

/-- The idle pods of a list that belong with a seated one. -/
def joiners (e : PlanEnv) (names done : List String) : List Placement :=
  (done.filter fun name => decide (name ∉ e.owners names)).filterMap (e.place (e.seated names))

theorem mem_joiners {done : List String} {p : Placement} : p ∈ e.joiners names done ↔
    p.pod ∈ done ∧ p.pod ∉ e.owners names ∧ e.place (e.seated names) p.pod = some p := by
  unfold joiners
  rw [List.mem_filterMap]
  simp only [List.mem_filter, decide_eq_true_eq]
  constructor
  · rintro ⟨name, hname, hp⟩
    obtain rfl := place_pod hp
    exact ⟨hname.1, hname.2, hp⟩
  · rintro ⟨hdone, hidle, hp⟩
    exact ⟨p.pod, ⟨hdone, hidle⟩, hp⟩

/-- If nobody follows a pod that joined itself, it does not matter who joined
    before: the groups are the seats and what belongs with them. -/
theorem groups_eq (hne : "" ∉ names) (hnodup : names.Nodup)
    (hflat : ∀ name ∈ names, ∀ n ∈ names, n ∉ e.owners names →
      (e.statuses.get name).role = .slave →
      (e.statuses.get n).nodeID = (e.statuses.get name).primaryNodeID →
      e.place (e.seated names) n = none) :
    e.groups names = e.seated names ++ e.joiners names names := by
  have hfold : ∀ rest done : List String, (∀ n ∈ done ++ rest, n ∈ names) → (done ++ rest).Nodup →
      rest.foldl e.join (e.seated names ++ e.joiners names done) =
        e.seated names ++ e.joiners names (done ++ rest) := by
    intro rest
    induction rest with
    | nil => simp
    | cons name rest ih =>
      intro done hmem hdone
      have hname := hmem name (by simp)
      have hnew : name ∉ done := fun hin =>
        (List.nodup_append.mp hdone).2.2 name hin name (List.mem_cons_self ..) rfl
      have hseen : ((e.seated names ++ e.joiners names done).any fun p => decide (p.pod = name)) =
          true ↔ name ∈ e.owners names := by
        rw [← mem_seated hne, List.any_append, Bool.or_eq_true]
        simp only [List.any_eq_true, decide_eq_true_eq, or_iff_left_iff_imp]
        rintro ⟨p, hp, rfl⟩
        exact absurd (mem_joiners.mp hp).1 hnew
      have hplace : e.place (e.seated names ++ e.joiners names done) name =
          e.place (e.seated names) name := by
        unfold place followee
        split_ifs with hc
        · have hnone : (e.joiners names done).find?
            (fun p => decide ((e.statuses.get p.pod).nodeID =
              (e.statuses.get name).primaryNodeID)) = none := by
            rw [List.find?_eq_none]
            intro p hp hid
            obtain ⟨hdone, hidle, hjoined⟩ := mem_joiners.mp hp
            rw [hflat name hname p.pod (hmem _ (List.mem_append_left _ hdone)) hidle hc.1
              (of_decide_eq_true hid)] at hjoined
            cases hjoined
          rw [List.find?_append, hnone, Option.or_none]
        · rfl
      have hstep : e.join (e.seated names ++ e.joiners names done) name =
          e.seated names ++ e.joiners names (done ++ [name]) := by
        unfold join
        by_cases howner : name ∈ e.owners names
        · rw [if_pos (hseen.mpr howner)]
          simp [joiners, howner]
        · rw [if_neg (fun hh => howner (hseen.mp hh)), hplace]
          cases hp : e.place (e.seated names) name <;> simp [joiners, howner, hp]
      rw [List.foldl_cons, hstep, ih _ (by simpa using hmem) (by simpa using hdone)]
      simp
  have hall := hfold names [] (by simp) (by simpa using hnodup)
  rwa [show e.joiners names [] = [] from rfl, List.append_nil] at hall

/-! ## Free survivors fill the vacant shards in order -/

/-- The shards of a list that have a primary. -/
def ledAmong (l : ShardLayout) (shards : List Nat) : List Nat :=
  shards.filter fun s => !decide (l.primaryOf.get s = "")

variable {shards : List Nat}

theorem ledAmong_nodup (h : shards.Nodup) : (ledAmong l shards).Nodup :=
  h.filter _

theorem length_ledAmong_add_unled (l : ShardLayout) (shards : List Nat) :
    (ledAmong l shards).length + (unled l shards).length = shards.length := by
  rw [Nat.add_comm]
  exact (List.length_eq_length_filter_add _).symm

theorem Fills.places {pairs : List (Nat × String)} (h : Fills e names l pairs)
    (hne : "" ∉ names) (hplaces : Places e l placed) :
    Places e (pairs.foldl ShardLayout.fill l)
      (placed ++ pairs.map fun pair => ⟨pair.2, pair.1, true⟩) := by
  induction pairs generalizing l placed with
  | nil => simpa using hplaces
  | cons pair pairs ih =>
    have hmem := h.unplaced.mem _ (List.mem_cons_self ..)
    have hstep : Places e (l.fill pair) (placed ++ [⟨pair.2, pair.1, true⟩]) := by
      refine hplaces.add (p := ⟨pair.2, pair.1, true⟩)
        (h.unplaced.new _ (List.mem_cons_self ..)) (fun hh => hne (hh ▸ hmem)) rfl fun s => ?_
      rw [ShardLayout.fill_primaryOf_get]
      by_cases hs : s = pair.1
      · simp [hs, h.unled pair (List.mem_cons_self ..), h.live pair (List.mem_cons_self ..)]
      · simp [hs, Ne.symm hs]
    simpa using ih h.tail hstep

/-- The placements after the fill stage. -/
theorem places_filled (hne : "" ∉ names) (hnodup : names.Nodup) (hknows : e.KnowsNodes) :
    Places e (e.filled names).1
      (e.groups names ++ (e.fills names).map fun pair => ⟨pair.2, pair.1, true⟩) := by
  rw [filled_eq]
  exact (fills_spec hne hnodup).places hne (places_followed hne hknows)

/-- The first vacant shards get a primary, as many as there are survivors. -/
theorem filled_led_iff (hne : "" ∉ names) (hnodup : names.Nodup) (hknows : e.KnowsNodes) (s : Nat) :
    (e.filled names).1.primaryOf.get s ≠ "" ↔ (e.followed names).1.primaryOf.get s ≠ "" ∨
      s ∈ (e.vacant names).take (e.survivors names).length := by
  rw [(places_filled hne hnodup hknows).led, (places_followed hne hknows).led, ← map_fst_fills]
  simp only [List.mem_append, or_and_right, exists_or]
  refine or_congr_right ?_
  simp only [List.mem_map]
  constructor
  · rintro ⟨p, ⟨pair, hpair, rfl⟩, rfl, -, -⟩
    exact ⟨pair, hpair, rfl⟩
  · rintro ⟨pair, hpair, rfl⟩
    exact ⟨_, ⟨pair, hpair, rfl⟩, rfl, rfl, (fills_spec hne hnodup).live pair hpair⟩

/-- What the fill stage leaves open. -/
theorem unled_filled (hne : "" ∉ names) (hnodup : names.Nodup) (hknows : e.KnowsNodes) :
    unled (e.filled names).1 (List.range e.shardCount) =
      (e.vacant names).drop (e.survivors names).length := by
  rw [← filter_notMem_take vacant_nodup]
  conv_rhs =>
    rw [vacant, unled, List.filter_filter]
  refine List.filter_congr fun s _ => ?_
  have hs := not_congr (filled_led_iff hne hnodup hknows s)
  rw [not_or, not_not, not_not] at hs
  rw [← Bool.decide_and, decide_eq_decide, hs, and_comm]
  rfl

/-- Every placed pod leads its shard or shares it with the shard's owner. -/
def Shared (l : ShardLayout) : Prop :=
  ∀ p s, l.shardOf.lookup p = some s →
    l.primaryOf.get s = p ∨ ∃ o, l.ownerOf.lookup s = some o

theorem Fills.shared {pairs : List (Nat × String)} (h : Fills e names l pairs)
    (hs : Sound e names l) (hsh : Shared l) : Shared (pairs.foldl ShardLayout.fill l) := by
  induction pairs generalizing l with
  | nil => exact hsh
  | cons pair pairs ih =>
    refine ih h.tail (h.sound_fill hs) ?_
    intro p s hl
    have hlook := GoMap.lookup_insert.symm.trans hl
    rw [ShardLayout.fill_primaryOf_get]
    split at hlook
    · rename_i hp
      rw [if_pos (Option.some.inj hlook).symm]
      exact Or.inl hp.symm
    · by_cases hss : s = pair.1
      · refine Or.inr ((hsh p s hlook).resolve_left fun hlead => ?_)
        -- the shard was unled
        rw [hss, h.unled pair (List.mem_cons_self ..)] at hlead
        exact hs.no_empty (hlead ▸ hs.placed_mem hlook)
      · rw [if_neg hss]
        exact hsh p s hlook

/-! ## Heirs are spares, one each -/

/-- A surviving pod that is placed and leads nothing. -/
def isSpare (e : PlanEnv) (l : ShardLayout) (p : String) : Bool :=
  match l.shardOf.lookup p with
  | none => false
  | some s => l.primaryOf.get s != p && !e.doomed p

/-- The spares. -/
def spareSet (e : PlanEnv) (names : List String) (l : ShardLayout) : Finset String :=
  names.toFinset.filter fun p => isSpare e l p = true

variable {p : String}

theorem isSpare_iff : isSpare e l p = true ↔
    ∃ s, l.shardOf.lookup p = some s ∧ l.primaryOf.get s ≠ p ∧ e.doomed p = false := by
  unfold isSpare
  cases h : l.shardOf.lookup p with
  | none => simp
  | some s => simp

theorem mem_spareSet (h : Sound e names l) : p ∈ spareSet e names l ↔ isSpare e l p = true := by
  unfold spareSet
  rw [Finset.mem_filter, List.mem_toFinset]
  refine ⟨And.right, fun hp => ⟨?_, hp⟩⟩
  obtain ⟨s, hs, -⟩ := isSpare_iff.mp hp
  exact h.placed_mem hs

/-- With owners in place, `spareSurvivor`'s notion of a spare is just that. -/
theorem spare_iff_isSpare (h : Sound e names l) (hsh : Shared l) :
    Spare e l p ↔ isSpare e l p = true := by
  rw [isSpare_iff]
  constructor
  · rintro ⟨s, hmem, -, hne, hlive⟩
    exact ⟨s, h.members_iff.mp hmem, Ne.symm hne, hlive⟩
  · rintro ⟨s, hpl, hne, hlive⟩
    have hmem := h.members_iff.mpr hpl
    refine ⟨s, hmem, ?_, Ne.symm hne, hlive⟩
    obtain ⟨o, ho⟩ := (hsh p s hpl).resolve_left hne
    have homem := h.members_iff.mpr (h.owner_placed ho)
    have hop : o ≠ p := by
      rintro rfl
      exact hne (h.owner_primary ho hlive)
    -- two distinct members
    by_contra hlen
    have hle : (l.members.get s).length ≤ 1 := Nat.not_lt.mp hlen
    match hms : l.members.get s with
    | [] =>
      rw [hms] at hmem
      cases hmem
    | [x] =>
      rw [hms] at hmem homem
      exact hop ((List.mem_singleton.mp homem).trans (List.mem_singleton.mp hmem).symm)
    | x :: y :: rest =>
      rw [hms] at hle
      simp at hle

theorem promoteSpare_primaryOf_get (l : ShardLayout) (name : String) (shard s : Nat) :
    ((l.move name shard).setPrimary shard name).primaryOf.get s =
      if s = shard then name else l.primaryOf.get s := by
  rw [ShardLayout.setPrimary_primaryOf_get, ShardLayout.move_primaryOf]

/-- Promoting a spare uses up that spare and no other. -/
theorem isSpare_promoteSpare (h : Sound e names l) {heir : String}
    (hfree : l.primaryOf.get shard = "") :
    isSpare e ((l.move heir shard).setPrimary shard heir) p = true ↔
      p ≠ heir ∧ isSpare e l p = true := by
  rw [isSpare_iff, isSpare_iff]
  simp only [promoteSpare_primaryOf_get, ShardLayout.setPrimary_shardOf, ShardLayout.move_shardOf,
    GoMap.lookup_insert]
  by_cases hp : p = heir
  · subst hp
    simp
  · simp only [hp, ↓reduceIte, ne_eq, not_false_eq_true, true_and]
    refine exists_congr fun s => and_congr_right fun hpl => and_congr_left fun _ => ?_
    by_cases hs : s = shard
    · subst hs
      have hne : p ≠ "" := fun hh => h.no_empty (hh ▸ h.placed_mem hpl)
      simp [hfree, Ne.symm hp, Ne.symm hne]
    · simp [hs]

theorem card_spareSet_promoteSpare (h : Sound e names l) {heir : String}
    (hfree : l.primaryOf.get shard = "") (hspare : Spare e l heir) (hsh : Shared l) :
    (spareSet e names ((l.move heir shard).setPrimary shard heir)).card + 1
      = (spareSet e names l).card := by
  have hmem : heir ∈ spareSet e names l :=
    (mem_spareSet h).mpr ((spare_iff_isSpare h hsh).mp hspare)
  have heq : spareSet e names ((l.move heir shard).setPrimary shard heir)
      = (spareSet e names l).erase heir := by
    ext p
    rw [mem_spareSet (h.promoteSpare hspare hfree), isSpare_promoteSpare h hfree,
      Finset.mem_erase, mem_spareSet h]
  rw [heq, Finset.card_erase_add_one hmem]

theorem Shared.promoteSpare (h : Shared l) {heir : String} {o : String}
    (ho : l.ownerOf.lookup shard = some o) :
    Shared ((l.move heir shard).setPrimary shard heir) := by
  intro p s hl
  rw [promoteSpare_primaryOf_get]
  rw [ShardLayout.setPrimary_shardOf, ShardLayout.move_shardOf, GoMap.lookup_insert] at hl
  by_cases hs : s = shard
  · subst hs
    exact Or.inr ⟨o, ho⟩
  · rw [if_neg hs]
    by_cases hp : p = heir
    · rw [if_pos hp, Option.some.injEq] at hl
      exact absurd hl.symm hs
    · rw [if_neg hp] at hl
      exact h p s hl

/-- Borrowing touches no shard that is led, has no owner, or is not visited. -/
theorem borrowHeirs_frame (order : MapOrder) {s : Nat}
    (hs : s ∉ shards ∨ l.primaryOf.get s ≠ "" ∨ l.ownerOf.get s = "") :
    (e.borrowHeirs order l shards).primaryOf.get s = l.primaryOf.get s := by
  induction shards generalizing l with
  | nil => rfl
  | cons shard shards ih =>
    have hs' : s ∉ shards ∨ l.primaryOf.get s ≠ "" ∨ l.ownerOf.get s = "" :=
      hs.imp_left fun h hh => h (List.mem_cons_of_mem _ hh)
    unfold PlanEnv.borrowHeirs
    split
    · exact ih hs'
    · rename_i hguard
      rw [not_or, not_not] at hguard
      dsimp only
      split
      · rfl
      · have hne : s ≠ shard := by
          rintro rfl
          rcases hs with h | h | h
          · exact h (List.mem_cons_self ..)
          · exact h hguard.1
          · exact hguard.2 h
        rw [ih (by rwa [promoteSpare_primaryOf_get, if_neg hne]), promoteSpare_primaryOf_get,
          if_neg hne]

/-- The borrowing loop reaches every visited shard exactly when each unled one
    has an owner and there are enough spares. -/
theorem borrowHeirs_covers (order : MapOrder) (hnodup : shards.Nodup)
    (h : Sound e names l) (hsh : Shared l) :
    (∀ s ∈ shards, (e.borrowHeirs order l shards).primaryOf.get s ≠ "") ↔
      (∀ s ∈ unled l shards, l.ownerOf.get s ≠ "") ∧
        (unled l shards).length ≤ (spareSet e names l).card := by
  induction shards generalizing l with
  | nil => simp [unled]
  | cons shard shards ih =>
    obtain ⟨hshard, hnodup'⟩ := List.nodup_cons.mp hnodup
    by_cases hp : l.primaryOf.get shard = ""
    · have hunled : unled l (shard :: shards) = shard :: unled l shards := by simp [unled, hp]
      by_cases ho : l.ownerOf.get shard = ""
      · -- nobody ever leads this shard
        have hstay : (e.borrowHeirs order l (shard :: shards)).primaryOf.get shard
            = l.primaryOf.get shard := borrowHeirs_frame order (Or.inr (Or.inr ho))
        constructor
        · intro hall
          exact absurd (hstay.trans hp) (hall shard (List.mem_cons_self ..))
        · rintro ⟨howned, -⟩
          rw [hunled] at howned
          exact absurd ho (howned shard (List.mem_cons_self ..))
      · obtain ⟨o, hlook⟩ : ∃ o, l.ownerOf.lookup shard = some o := by
          unfold GoMap.get at ho
          cases hl : l.ownerOf.lookup shard with
          | none =>
            rw [hl] at ho
            exact absurd rfl ho
          | some o => exact ⟨o, rfl⟩
        by_cases hheir : l.spareSurvivor order e.doomed = ""
        · -- no spare left: the loop stops here
          have hstop : e.borrowHeirs order l (shard :: shards) = l := by
            simp [PlanEnv.borrowHeirs, hp, ho, hheir]
          have hcard : (spareSet e names l).card = 0 := by
            rw [Finset.card_eq_zero, Finset.eq_empty_iff_forall_notMem]
            intro p hmem
            exact (spareSurvivor_spec h order).2 hheir p
              ((spare_iff_isSpare h hsh).mpr ((mem_spareSet h).mp hmem))
          rw [hstop, hcard, hunled]
          constructor
          · intro hall
            exact absurd hp (hall shard (List.mem_cons_self ..))
          · rintro ⟨-, hlen⟩
            simp at hlen
        · have hspare := (spareSurvivor_spec h order).1 hheir
          have hnext : e.borrowHeirs order l (shard :: shards) = e.borrowHeirs order
              ((l.move (l.spareSurvivor order e.doomed) shard).setPrimary shard
                (l.spareSurvivor order e.doomed)) shards := by
            simp [PlanEnv.borrowHeirs, hp, ho, hheir]
          have hsame : ∀ s ∈ shards,
              ((l.move (l.spareSurvivor order e.doomed) shard).setPrimary shard
                (l.spareSurvivor order e.doomed)).primaryOf.get s = l.primaryOf.get s := by
            intro s hs
            rw [promoteSpare_primaryOf_get, if_neg fun hh : s = shard => hshard (hh ▸ hs)]
          have hself : (e.borrowHeirs order
              ((l.move (l.spareSurvivor order e.doomed) shard).setPrimary shard
                (l.spareSurvivor order e.doomed)) shards).primaryOf.get shard ≠ "" := by
            rw [borrowHeirs_frame order (Or.inl hshard), promoteSpare_primaryOf_get, if_pos rfl]
            exact hheir
          rw [hnext, hunled, List.forall_mem_cons, List.forall_mem_cons, List.length_cons,
            ih hnodup' (h.promoteSpare hspare hp) (hsh.promoteSpare hlook), unled_congr hsame,
            ← card_spareSet_promoteSpare h hp hspare hsh]
          constructor
          · rintro ⟨-, h1, h2⟩
            exact ⟨⟨ho, h1⟩, by omega⟩
          · rintro ⟨⟨-, h1⟩, h2⟩
            exact ⟨hself, h1, by omega⟩
    · have hunled : unled l (shard :: shards) = unled l shards := by simp [unled, hp]
      have hskip : e.borrowHeirs order l (shard :: shards) = e.borrowHeirs order l shards := by
        simp [PlanEnv.borrowHeirs, hp]
      have hself : (e.borrowHeirs order l shards).primaryOf.get shard ≠ "" := by
        rw [borrowHeirs_frame order (Or.inl hshard)]
        exact hp
      rw [hskip, hunled, List.forall_mem_cons, ih hnodup' h hsh]
      exact ⟨And.right, fun hh => ⟨hself, hh⟩⟩

/-! ## Survivors are leaders or spares -/

/-- The shards that have a primary. -/
def LedShards (l : ShardLayout) (led : Finset Nat) : Prop :=
  ∀ s, s ∈ led ↔ l.primaryOf.get s ≠ ""

/-- When every survivor is placed, it leads one shard or is a spare. -/
theorem card_spareSet_add_card_led (h : Sound e names l) {led : Finset Nat}
    (hled : LedShards l led) (hplaced : ∀ p ∈ names, e.doomed p = false → p ∈ l.shardOf) :
    (spareSet e names l).card + led.card
      = (names.toFinset.filter fun p => e.doomed p = false).card := by
  have hinj : Set.InjOn l.primaryOf.get (led : Set Nat) := by
    intro s hs t ht heq
    have hs' := h.primary_placed ((hled s).mp hs)
    have ht' := h.primary_placed ((hled t).mp ht)
    rw [heq] at hs'
    exact Option.some.inj (hs'.symm.trans ht')
  have hdisj : Disjoint (spareSet e names l) (led.image l.primaryOf.get) := by
    rw [Finset.disjoint_left]
    intro p hp himg
    obtain ⟨s, hs, rfl⟩ := Finset.mem_image.mp himg
    obtain ⟨t, ht, hne, -⟩ := isSpare_iff.mp ((mem_spareSet h).mp hp)
    have heq : s = t := Option.some.inj ((h.primary_placed ((hled s).mp hs)).symm.trans ht)
    exact hne (heq ▸ rfl)
  rw [← Finset.card_image_of_injOn hinj, ← Finset.card_union_of_disjoint hdisj]
  congr 1
  ext p
  rw [Finset.mem_union, mem_spareSet h, Finset.mem_filter, List.mem_toFinset, Finset.mem_image]
  constructor
  · rintro (hp | ⟨s, hs, rfl⟩)
    · obtain ⟨s, hs, -, hlive⟩ := isSpare_iff.mp hp
      exact ⟨h.placed_mem hs, hlive⟩
    · have hne := (hled s).mp hs
      exact ⟨h.placed_mem (h.primary_placed hne), h.primary_survives hne⟩
  · rintro ⟨hp, hlive⟩
    obtain ⟨s, hs⟩ := GoMap.mem_iff_lookup.mp (hplaced p hp hlive)
    by_cases hlead : l.primaryOf.get s = p
    · refine Or.inr ⟨s, (hled s).mpr ?_, hlead⟩
      rw [hlead]
      exact fun hh => h.no_empty (hh ▸ hp)
    · exact Or.inl (isSpare_iff.mpr ⟨s, hs, hlead, hlive⟩)

end PlanEnv

/-! ## Node ids -/

/-- Pods that report a node id report different ones. -/
def DistinctNodeIDs (statuses : Statuses) : Prop :=
  ∀ a b x y, statuses.lookup a = some x → statuses.lookup b = some y → x.nodeID = y.nodeID →
    x.nodeID ≠ "" → a = b

/-- The pod a node id leads to. -/
theorem DistinctNodeIDs.podByNodeID_get {statuses : Statuses}
    (h : DistinctNodeIDs statuses) (order : MapOrder)
    {name : String} (hne : (statuses.get name).nodeID ≠ "") :
    (podByNodeID order statuses).get (statuses.get name).nodeID = name := by
  have hmem : name ∈ statuses := by
    by_contra hnot
    rw [GoMap.get_of_not_mem hnot] at hne
    exact hne rfl
  obtain ⟨st, hst⟩ := GoMap.mem_iff_lookup.mp hmem
  rw [GoMap.get_of_lookup hst] at hne ⊢
  obtain ⟨other, hother⟩ := GoMap.mem_iff_lookup.mp (podByNodeID_mem order hst hne)
  obtain ⟨x, hx, hid, -⟩ := podByNodeID_lookup order hother
  rw [GoMap.get_of_lookup hother]
  exact h _ _ _ _ hx hst hid (hid ▸ hne)

theorem DistinctNodeIDs.knowsNodes {statuses : Statuses}
    (h : DistinctNodeIDs statuses) (order : MapOrder) (cluster : RedisCluster) (pods : List Pod) :
    (planEnv order cluster pods statuses).KnowsNodes := by
  intro id hid name hname
  constructor
  · rintro rfl
    exact h.podByNodeID_get order hid
  · intro hget
    have hmem : id ∈ podByNodeID order statuses := by
      by_contra hnot
      exact hname (hget.symm.trans (GoMap.get_of_not_mem hnot))
    obtain ⟨other, hother⟩ := GoMap.mem_iff_lookup.mp hmem
    obtain ⟨st, hst, hnode, -⟩ := podByNodeID_lookup order hother
    obtain rfl : other = name := (GoMap.get_of_lookup hother).symm.trans hget
    exact (congrArg InstanceStatus.nodeID (GoMap.get_of_lookup hst)).trans hnode

end RedisOperator
