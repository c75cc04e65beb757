/-
  RedisOperator.Cluster.Topology

  `cluster_bootstrap.go` and `cluster_reshard.go`: the two steps of a pass
  that shape a Redis Cluster.  Both report whether the pass may go on.
-/

import RedisOperator.Cluster.Fencing

namespace RedisOperator

open Lib

/-! ## Bootstrap -/

/-- `expectedNames`. -/
def expectedNames (cluster : RedisCluster) : List String :=
  (List.range cluster.spec.desiredDataInstances.toNat).map (podNameForIndex cluster.name)

/-- An expected pod that bootstrap can work with: it has an address, answered
    and knows its node id. -/
def usablePod (byName : GoMap String Pod) (statuses : Statuses) (name : String) : Bool :=
  (byName.get name).podIP != "" && (statuses.get name).connected && (statuses.get name).nodeID != ""

/-- `cluster meet` for one pod. -/
def meetPod (byName : GoMap String Pod) (coordinator podName : String) : Op Unit :=
  wrap ("cluster meet " ++ podName ++ " via " ++ coordinator)
    (postOrFail (byName.get coordinator).podIP (.meet (byName.get podName).podIP 6379))

/-- Assign one uncovered range to a pod. -/
def addSlotRange (podName podIP : String) (range : SlotRange) : Op Unit :=
  wrap ("assigning slots " ++ toString range.start ++ "-" ++ toString range.stop ++ " on " ++
    podName)
    (postOrFail podIP (.addSlots range))

/-- What the bootstrap loops carry: the coverage, and whether anything was done. -/
structure BootstrapState where
  coverage : Int → Bool
  performedAction : Bool

/-- One shard of the loop that assigns uncovered slots; a shard without a
    primary ends the pass. -/
def fillShardSlots (layout : ShardLayout) (byName : GoMap String Pod) (ranges : List SlotRange)
    (state : BootstrapState) (shardIndex : Nat) : Op (BootstrapState ⊕ Bool) :=
  let podName := layout.primaryOf.get shardIndex
  if podName = "" then pure (.inr false)
  else do
    let uncovered := calculateUncoveredSlotRanges (ranges.getD shardIndex default) state.coverage
    Act.forEach (addSlotRange podName (byName.get podName).podIP) uncovered
    pure (.inl
      { coverage := uncovered.foldl markCovered state.coverage
        performedAction := state.performedAction || !uncovered.isEmpty })

/-- The shard a replica is meant to follow. -/
def replicaTarget (layout : ShardLayout) (podName : String) : Nat :=
  match layout.replicaMoves.lookup podName with
  | some target => target
  | none => layout.shardOf.get podName

/-- Is the pod already where it should be?  An empty `primaryNodeID` comes from
    an older instance manager and is no misplacement. -/
def followsAlready (status : InstanceStatus) (primaryNodeID : String) : Prop :=
  status.role = .slave ∧ (status.primaryNodeID = "" ∨ status.primaryNodeID = primaryNodeID)

instance (status : InstanceStatus) (primaryNodeID : String) :
    Decidable (followsAlready status primaryNodeID) := inferInstanceAs (Decidable (_ ∧ _))

/-- One pod of the loop that points replicas at their primaries. -/
def placeReplica (layout : ShardLayout) (byName : GoMap String Pod)
    (statuses : Statuses) (performedAction : Bool) (podName : String) :
    Op (Bool ⊕ Bool) :=
  let status := statuses.get podName
  let shardIndex := replicaTarget layout podName
  let primaryNodeID := (statuses.get (layout.primaryOf.get shardIndex)).nodeID
  if layout.isPrimary podName then pure (.inl performedAction)
  -- reshard drains owners; they are never demoted here
  else if status.slotsServed ≠ [] then pure (.inl performedAction)
  else if layout.handingOver shardIndex then pure (.inl performedAction)
  else if primaryNodeID = "" then pure (.inr false)
  else if followsAlready status primaryNodeID then pure (.inl performedAction)
  else do
    let podIP := (byName.get podName).podIP
    match ← postClusterJSON podIP (.replicate primaryNodeID) with
    | .ok _ => pure (.inl true)
    -- the node does not know its primary yet
    | .error (.status 409 _) => pure (.inr false)
    | .error err =>
      Act.fail ("replicating " ++ podName ++ " to shard " ++ shardIndex.repr ++ ": " ++
        postErrorText podIP (.replicate primaryNodeID) err)

/-- The two loops of bootstrap, once every expected pod is usable. -/
def shapeCluster (cluster : RedisCluster) (layout : ShardLayout) (byName : GoMap String Pod)
    (statuses : Statuses) : Op Bool := do
  let shardCount := desiredShardCount cluster
  let ranges := calculateClusterSlotRanges shardCount
  let start : BootstrapState :=
    { coverage := calculateSlotCoverage statuses, performedAction := false }
  match ← Act.loop (fillShardSlots layout byName ranges) start (List.range shardCount) with
  | .inr ready => pure ready
  | .inl state =>
    match ← Act.loop (placeReplica layout byName statuses) state.performedAction
        (expectedNames cluster) with
    | .inr ready => pure ready
    | .inl performedAction =>
      if performedAction then pure false
      else pure (cluster.status.clusterState == .ok && cluster.status.slotsAssigned == 16384)

/-- `reconcileClusterBootstrap`. -/
def reconcileClusterBootstrap (statuses : Statuses) : Op Bool := do
  let cluster ← Act.get
  let desired := cluster.spec.desiredDataInstances
  if desired = 0 then pure true
  else do
    let pods ← wrap "listing data pods" listDataPods
    if cluster.annotations.clusterHandover ≠ "" then resumeClusterHandover pods statuses
    else if (pods.length : Int) < desired then pure true
    -- `make([]string, 0, desired)` panics
    else if desired < 0 then Act.fail "runtime error: makeslice: cap out of range"
    else
      let byName := podsByName pods
      let expected := expectedNames cluster
      if (expected.all (usablePod byName statuses)) = false then pure true
      else do
        Act.forEach (meetPod byName (expected.headD "")) expected.tail
        let order ← ask .mapOrder
        shapeCluster cluster (planShardLayout order cluster pods statuses) byName statuses

/-! ## Reshard -/

/-- `slotOwner`: the pod that serves a slot, the one visited last if several do. -/
def slotOwner (order : MapOrder) (statuses : Statuses) (slot : Int) : String :=
  (order.visitStatuses statuses.pairs).foldl (fun owner p =>
    if p.2.slotsServed.any fun r => decide (max r.start 0 ≤ slot ∧ slot ≤ min r.stop 16383) then p.1
    else owner) ""

/-- The last slot of the run of equal owners that starts at `slot`, with `n`
    slots left behind it. -/
def runEnd (owner : Int → String) (slot : Int) : Nat → Int
  | 0 => slot
  | n + 1 => if owner (slot + 1) = owner slot then runEnd owner (slot + 1) n else slot

/-- The first segment of a range that its target does not own. -/
def firstMisplaced (owner : Int → String) (target : String) (slot : Int) :
    Nat → Option (String × SlotRange)
  | 0 => none
  | n + 1 =>
    if owner slot = target then firstMisplaced owner target (slot + 1) n
    else some (owner slot, ⟨slot, runEnd owner slot n⟩)

/-- The first misplaced segment over all shards, with the pod it should go to. -/
def nextMove (owner : Int → String) : List (String × SlotRange) →
    Option (String × String × SlotRange)
  | [] => none
  | (target, range) :: rest =>
    match firstMisplaced owner target range.start (range.stop - range.start + 1).toNat with
    | none => nextMove owner rest
    | some (source, segment) => some (target, source, segment)

/-- `handOverShard`. -/
def handOverShard (owner : String) (ownerStatus : InstanceStatus) (heir : String) (heirPod : Pod)
    (heirStatus : InstanceStatus) : Op Unit :=
  if heirStatus.role ≠ .slave ∨ heirStatus.primaryNodeID ≠ ownerStatus.nodeID then do
    match ← postClusterJSON heirPod.podIP (.replicate ownerStatus.nodeID) with
    | .ok _ => pure ()
    | .error (.status 409 _) => pure ()
    | .error err =>
      Act.fail ("attaching " ++ heir ++ " to doomed primary " ++ owner ++ ": " ++
        postErrorText heirPod.podIP (.replicate ownerStatus.nodeID) err)
  else if heirStatus.masterLinkStatus ≠ .up then pure ()
  else beginClusterHandover owner heir

/-- Texts of the ranges in the reshard errors. -/
def SlotRange.text (r : SlotRange) : String := toString r.start ++ "-" ++ toString r.stop

/-- What reshard does about a misplaced segment; the pass ends here. -/
def moveSegment (cluster : RedisCluster) (byName : GoMap String Pod)
    (statuses : Statuses) (target source : String) (segment : SlotRange) :
    Op Bool :=
  let targetStatus := statuses.get target
  let targetPod := byName.get target
  if source = "" then do
    wrap ("adding unowned slots " ++ segment.text ++ " to " ++ target)
      (postOrFail targetPod.podIP (.addSlots segment))
    pure false
  else if (statuses.get source).nodeID = "" then pure false
  else if (byName.get source).podIP = "" then pure false
  else if cluster.spec.desiredDataInstances ≤ podIndex cluster.name source ∧
      targetStatus.slotsServed = [] then do
    handOverShard source (statuses.get source) target targetPod targetStatus
    pure false
  else do
    wrap ("migrating slots " ++ segment.text ++ " from " ++ source ++ " to " ++ target)
      (postOrFail (byName.get source).podIP
        (.migrateRange
          { targetIP := targetPod.podIP
            targetPort := 6379
            targetNodeID := targetStatus.nodeID
            sourceNodeID := (statuses.get source).nodeID
            range := segment
            batchSize := 64
            timeoutMS := 5000 }))
    pure false

/-- `desiredPrimaryPods`: the planned primary of every shard, in shard order. -/
def desiredPrimaryPods (cluster : RedisCluster) (layout : ShardLayout) : List String :=
  (List.range (desiredShardCount cluster)).map layout.primaryOf.get

/-- `reconcileClusterReshard`. -/
def reconcileClusterReshard (statuses : Statuses) : Op Bool := do
  let cluster ← Act.get
  let desired := cluster.spec.desiredDataInstances
  if cluster.spec.mode ≠ .cluster then pure true
  else if (statuses.len : Int) < desired then pure true
  else if cluster.status.clusterState ≠ .ok ∨ cluster.status.slotsAssigned < 16384 then pure true
  else do
    let pods ← wrap "listing data pods for reshard" listDataPods
    let byName := podsByName pods
    let order ← ask .mapOrder
    let primaries := desiredPrimaryPods cluster (planShardLayout order cluster pods statuses)
    if "" ∈ primaries then pure false
    else if primaries.all (usablePod byName statuses) = false then
      -- scale-down waits until the surviving primaries are reachable
      pure (decide ((statuses.len : Int) ≤ desired))
    else do
      let visit ← ask .mapOrder
      let ranges := calculateClusterSlotRanges primaries.length
      match nextMove (slotOwner visit statuses) (primaries.zip ranges) with
      | none => pure true
      | some (target, source, segment) =>
        moveSegment cluster byName statuses target source segment

end RedisOperator
