/-
  RedisOperator.Cluster.Layout

  `cluster_layout.go`: the planner that maps data pods to shards from the live
  topology.  The Go function is one body with closures over its local
  variables; here those variables are the fields of `PlanEnv`, and each loop
  of the body is a definition of its own, in the order of the source.

  Two loops of the source range over a map, and what they compute depends on
  the order in which the runtime visits it (`podByNodeID` when two pods report
  one node id, `spareSurvivor` when two shards are equally large).  A
  `MapOrder` fixes that order.
-/

import RedisOperator.Api.Names
import RedisOperator.Cluster.Slots
import Mathlib.Data.List.Sort

namespace RedisOperator

open Lib

/-- The orders in which the runtime visits the two maps. -/
structure MapOrder where
  visitMembers : List (Nat × List String) → List (Nat × List String)
  visitMembers_perm : ∀ l, (visitMembers l).Perm l
  visitStatuses : List (String × InstanceStatus) → List (String × InstanceStatus)
  visitStatuses_perm : ∀ l, (visitStatuses l).Perm l

/-- Entries visited as they are stored. -/
def MapOrder.stored : MapOrder where
  visitMembers := id
  visitMembers_perm _ := .refl _
  visitStatuses := id
  visitStatuses_perm _ := .refl _

/-- `shardLayout`. -/
structure ShardLayout where
  shardOf : GoMap String Nat := ∅
  primaryOf : GoMap Nat String := ∅
  ownerOf : GoMap Nat String := ∅
  members : GoMap Nat (List String) := ∅
  replicaMoves : GoMap String Nat := ∅

namespace ShardLayout

/-- `handingOver`. -/
def handingOver (l : ShardLayout) (shard : Nat) : Bool :=
  match l.ownerOf.lookup shard with
  | none => false
  | some owner => owner != l.primaryOf.get shard

/-- `isPrimary`. -/
def isPrimary (l : ShardLayout) (podName : String) : Bool :=
  match l.shardOf.lookup podName with
  | none => false
  | some shard => l.primaryOf.get shard == podName

/-- `labels`. -/
def labels (l : ShardLayout) (podName : String) : GoMap String String :=
  match l.shardOf.lookup podName with
  | none => ∅
  | some shard =>
    let role := if l.primaryOf.get shard = podName then labelRolePrimary else labelRoleReplica
    ((∅ : GoMap String String).insert labelShard (shardName shard)).insert labelShardRole role

/-- The closure `assign`. -/
def assign (l : ShardLayout) (name : String) (shard : Nat) : ShardLayout :=
  { l with
    shardOf := l.shardOf.insert name shard
    members := l.members.insert shard (l.members.get shard ++ [name]) }

/-- `used[shard]`: `assign` marks a shard used when it adds a member to it. -/
def used (l : ShardLayout) (shard : Nat) : Bool := decide (shard ∈ l.members)

/-- The closure `lowestUnused`; the search ends among the first `len(used) + 1` shards. -/
def lowestUnused (l : ShardLayout) : Nat :=
  ((List.range (l.members.keys.length + 1)).find? fun shard => !l.used shard).getD 0

/-- Overwrite a shard's primary. -/
def setPrimary (l : ShardLayout) (shard : Nat) (name : String) : ShardLayout :=
  { l with primaryOf := l.primaryOf.insert shard name }

/-- `move`. -/
def move (l : ShardLayout) (name : String) (shard : Nat) : ShardLayout :=
  let fromShard := l.shardOf.get name
  let left := l.members.insert fromShard ((l.members.get fromShard).erase name)
  { l with
    shardOf := l.shardOf.insert name shard
    members := left.insert shard (left.get shard ++ [name]) }

/-- One visit of the loop of `spareSurvivor`. -/
def spareStep (l : ShardLayout) (doomed : String → Bool) (best : String × Nat)
    (entry : Nat × List String) : String × Nat :=
  if entry.2.length ≤ best.2 then best
  else
    match entry.2.find? fun name => name != l.primaryOf.get entry.1 && !doomed name with
    | none => best
    | some name => (name, entry.2.length)

/-- `spareSurvivor`. -/
def spareSurvivor (l : ShardLayout) (order : MapOrder) (doomed : String → Bool) : String :=
  ((order.visitMembers l.members.pairs).foldl (l.spareStep doomed) ("", 1)).1

end ShardLayout

/-- `desiredShardCount`. -/
def desiredShardCount (cluster : RedisCluster) : Nat :=
  if cluster.spec.shards < 3 then 3 else cluster.spec.shards.toNat

/-- `parseShardLabel`. -/
def parseShardLabel (pod : Pod) : Option Nat :=
  match pod.labels.lookup labelShard with
  | none => none
  | some value =>
    match value.toList with
    | 's' :: digits =>
      let (index, ok) := atoi digits
      if ok = false ∨ index < 0 then none else some index.toNat
    | _ => none

/-- `ownerMatch`. -/
structure OwnerMatch where
  pod : String
  shard : Nat
  overlap : Int
  deriving DecidableEq, Repr

/-- The overlap of a pod's slots with a target range, summed in `int32`. -/
def overlapWith (served : List SlotRange) (target : SlotRange) : Int :=
  served.foldl (fun overlap r =>
    let start := max r.start target.start
    let stop := min r.stop target.stop
    if start ≤ stop then wrap32 (overlap + wrap32 (stop - start + 1)) else overlap) 0

/-- The sort order of matches: larger overlap first, then lower shard. -/
def OwnerMatch.before (a b : OwnerMatch) : Prop :=
  b.overlap < a.overlap ∨ (a.overlap = b.overlap ∧ a.shard ≤ b.shard)

instance : DecidableRel OwnerMatch.before := fun _ _ => inferInstanceAs (Decidable (_ ∨ _))

/-- The matches of one owner. -/
def ownerMatches (statuses : Statuses) (ranges : List SlotRange)
    (name : String) : List OwnerMatch :=
  (ranges.zipIdx.map fun (target, shard) =>
      (⟨name, shard, overlapWith (statuses.get name).slotsServed target⟩ : OwnerMatch)).filter
    fun m => 0 < m.overlap

/-- `rankOwnersByOverlap`; the insertion sort is stable, as `sort.SliceStable` is. -/
def rankOwnersByOverlap (owners : List String) (statuses : Statuses)
    (ranges : List SlotRange) : List OwnerMatch :=
  (owners.flatMap (ownerMatches statuses ranges)).insertionSort OwnerMatch.before

/-- Pod names in ordinal order. -/
def sortByIndex (clusterName : String) (names : List String) : List String :=
  names.insertionSort fun a b => podIndex clusterName a ≤ podIndex clusterName b

/-! ## The planner -/

/-- The local variables of `planShardLayout` its closures read. -/
structure PlanEnv where
  clusterName : String
  shardCount : Nat
  desired : Int
  statuses : Statuses
  labelOf : GoMap String Nat
  primaryLabel : GoMap String Bool
  podByNodeID : GoMap String String

namespace PlanEnv

variable (e : PlanEnv)

/-- The closure `doomed`. -/
def doomed (name : String) : Bool := decide (e.desired ≤ podIndex e.clusterName name)

/-- The closure `claim`. -/
def claim (l : ShardLayout) (name : String) (shard : Nat) : ShardLayout :=
  let assigned := l.assign name shard
  let owned := { assigned with ownerOf := assigned.ownerOf.insert shard name }
  if e.doomed name then owned else owned.setPrimary shard name

/-- Claim by overlap, unless the pod is placed or the shard is taken. -/
def claimMatch (l : ShardLayout) (m : OwnerMatch) : ShardLayout :=
  if m.pod ∈ l.shardOf ∨ l.used m.shard = true then l else e.claim l m.pod m.shard

/-- A leftover owner claims the lowest unused shard. -/
def claimLeftover (l : ShardLayout) (name : String) : ShardLayout :=
  if name ∈ l.shardOf then l else e.claim l name l.lowestUnused

/-- Give a shard without a primary this pod as primary, unless the pod is doomed. -/
def inherit (l : ShardLayout) (shard : Nat) (name : String) : ShardLayout :=
  if l.primaryOf.get shard = "" ∧ e.doomed name = false then l.setPrimary shard name else l

/-- The shard a polled replica follows, when that is a placed pod's. -/
def followedShard (l : ShardLayout) (name : String) : Option Nat :=
  let status := e.statuses.get name
  if status.role = .slave ∧ status.primaryNodeID ≠ "" then
    l.shardOf.lookup (e.podByNodeID.get status.primaryNodeID)
  else none

/-- `observable`: the pod answered and its role says where it belongs. -/
def observable (name : String) : Bool :=
  decide (name ∈ e.statuses) && (e.statuses.get name).connected &&
    ((e.statuses.get name).role != .slave || (e.statuses.get name).primaryNodeID != "")

/-- The shard an unobservable pod was labelled with. -/
def labelledShard (name : String) : Option Nat :=
  match e.labelOf.lookup name with
  | none => none
  | some shard => if e.observable name = false ∧ shard < e.shardCount then some shard else none

/-- One pod of the loop that places followers and collects `free`. -/
def placeFollower (acc : ShardLayout × List String) (name : String) :
    ShardLayout × List String :=
  let (l, free) := acc
  if name ∈ l.shardOf then acc
  else
    match e.followedShard l name with
    | some shard => (e.inherit (l.assign name shard) shard name, free)
    | none =>
      match e.labelledShard name with
      | some shard =>
        let placed := l.assign name shard
        (if e.primaryLabel.get name = true then e.inherit placed shard name else placed, free)
      | none => (l, free ++ [name])

/-- One shard of the loop that hands survivors to shards without a primary. -/
def fillShard (acc : ShardLayout × List String) (shard : Nat) : ShardLayout × List String :=
  match acc with
  | (l, []) => (l, [])
  | (l, name :: survivors) =>
    if l.primaryOf.get shard ≠ "" then (l, name :: survivors)
    else ((l.assign name shard).setPrimary shard name, survivors)

/-- The loop that borrows heirs for shards whose owner is doomed. -/
def borrowHeirs (order : MapOrder) : ShardLayout → List Nat → ShardLayout
  | l, [] => l
  | l, shard :: shards =>
    if l.primaryOf.get shard ≠ "" ∨ l.ownerOf.get shard = "" then borrowHeirs order l shards
    else
      let heir := l.spareSurvivor order e.doomed
      -- `break`
      if heir = "" then l
      else borrowHeirs order ((l.move heir shard).setPrimary shard heir) shards

/-- The smallest shard, the lowest of them on a tie. -/
def smallestShard (l : ShardLayout) : Nat :=
  (List.range e.shardCount).foldl (fun target shard =>
    if (l.members.get shard).length < (l.members.get target).length then shard else target) 0

/-- One pod of the loop that spreads the remaining free pods. -/
def spreadFree (l : ShardLayout) (name : String) : ShardLayout :=
  l.assign name (e.smallestShard l)

/-- The state of `planReplicaMoves`: the moves planned so far and the replica counts. -/
structure MoveState where
  moves : GoMap String Nat := ∅
  counts : Nat → Int

/-- Is the pod a settled replica that may be told to follow another primary? -/
def movable (l : ShardLayout) (name : String) : Bool :=
  let status := e.statuses.get name
  !(e.doomed name) && !(l.isPrimary name) && status.connected && status.role == .slave &&
    status.primaryNodeID != "" && status.slotsServed.isEmpty

/-- One member of the innermost loop; a false loop condition stays false, so
    skipping the rest one by one is the loop's exit. -/
def moveMember (l : ShardLayout) (desired : Int) (target source : Nat) (m : MoveState)
    (name : String) : MoveState :=
  if desired < m.counts source ∧ m.counts target < desired ∧ name ∉ m.moves ∧
      e.movable l name = true then
    { moves := m.moves.insert name target
      counts := fun shard =>
        if shard = source then m.counts source - 1
        else if shard = target then m.counts target + 1
        else m.counts shard }
  else m

/-- The replicas of a shard that survive. -/
def replicaCount (l : ShardLayout) (shard : Nat) : Int :=
  ((l.members.get shard).filter fun name => !(e.doomed name) && !(l.isPrimary name)).length

/-- `planReplicaMoves`. -/
def planReplicaMoves (l : ShardLayout) (replicasPerShard : Int) : ShardLayout :=
  let shards := List.range e.shardCount
  if shards.any fun shard => l.primaryOf.get shard == "" || l.handingOver shard then l
  else
    let start : MoveState := { counts := e.replicaCount l }
    let done := shards.foldl (fun m target =>
      shards.foldl (fun m source =>
        (l.members.get source).reverse.foldl (e.moveMember l replicasPerShard target source) m) m)
      start
    { l with replicaMoves := done.moves }

/-! ### The stages in order -/

/-- The pods that serve slots. -/
def owners (names : List String) : List String :=
  names.filter fun name => !(e.statuses.get name).slotsServed.isEmpty

/-- Slot owners placed: by overlap, then leftovers. -/
def claimed (names : List String) : ShardLayout :=
  let owners := e.owners names
  let ranked := rankOwnersByOverlap owners e.statuses (calculateClusterSlotRanges e.shardCount)
  owners.foldl e.claimLeftover (ranked.foldl e.claimMatch {})

/-- Followers placed; with the pods that remain free. -/
def followed (names : List String) : ShardLayout × List String :=
  names.foldl e.placeFollower (e.claimed names, [])

/-- Shards without a primary filled from the free survivors. -/
def filled (names : List String) : ShardLayout × List String :=
  let (l, free) := e.followed names
  (List.range e.shardCount).foldl fillShard (l, free.filter fun name => !(e.doomed name))

/-- Doomed owners given an heir. -/
def borrowed (order : MapOrder) (names : List String) : ShardLayout :=
  e.borrowHeirs order (e.filled names).1 (List.range e.shardCount)

/-- Every remaining pod placed. -/
def spread (order : MapOrder) (names : List String) : ShardLayout :=
  ((e.filled names).2 ++ (e.followed names).2.filter e.doomed).foldl e.spreadFree
    (e.borrowed order names)

/-- `planShardLayout`'s result. -/
def layout (order : MapOrder) (names : List String) (replicasPerShard : Int) : ShardLayout :=
  let l := e.spread order names
  e.planReplicaMoves { l with members := l.members.mapValues (sortByIndex e.clusterName) }
    replicasPerShard

end PlanEnv

/-- `names`: every expected pod and every pod that exists, in ordinal order. -/
def layoutNames (cluster : RedisCluster) (pods : List Pod) : List String :=
  let expected := (List.range cluster.spec.desiredDataInstances.toNat).map
    (podNameForIndex cluster.name)
  let names := pods.foldl
    (fun names pod => if pod.name ∈ names then names else names ++ [pod.name]) expected
  sortByIndex cluster.name names

/-- `labelOf` as the loop over the pods builds it. -/
def labelOf (pods : List Pod) : GoMap String Nat :=
  pods.foldl (fun m pod =>
    match parseShardLabel pod with
    | none => m
    | some index => m.insert pod.name index) ∅

/-- `primaryLabel` as the loop over the pods builds it. -/
def primaryLabel (pods : List Pod) : GoMap String Bool :=
  pods.foldl (fun m pod =>
    m.insert pod.name (decide (pod.labels.get labelShardRole = labelRolePrimary))) ∅

/-- `podByNodeID`: on a shared node id the pod visited last wins. -/
def podByNodeID (order : MapOrder) (statuses : Statuses) : GoMap String String :=
  (order.visitStatuses statuses.pairs).foldl
    (fun m p => if p.2.nodeID = "" then m else m.insert p.2.nodeID p.1) ∅

/-- The environment `planShardLayout` runs in. -/
def planEnv (order : MapOrder) (cluster : RedisCluster) (pods : List Pod)
    (statuses : Statuses) : PlanEnv where
  clusterName := cluster.name
  shardCount := desiredShardCount cluster
  desired := cluster.spec.desiredDataInstances
  statuses := statuses
  labelOf := labelOf pods
  primaryLabel := primaryLabel pods
  podByNodeID := podByNodeID order statuses

/-- `planShardLayout`. -/
def planShardLayout (order : MapOrder) (cluster : RedisCluster) (pods : List Pod)
    (statuses : Statuses) : ShardLayout :=
  (planEnv order cluster pods statuses).layout order (layoutNames cluster pods)
    cluster.spec.replicasPerShard

end RedisOperator
