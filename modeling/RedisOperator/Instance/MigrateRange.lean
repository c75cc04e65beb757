/-
  RedisOperator.Instance.MigrateRange

  `POST /v1/cluster/migrate-range`: the instance manager of a slot's owner
  moves a range of slots, with their keys, to another node.  The handler sends
  one Redis command after the other to the two nodes and stops at the first
  error.  The key-draining loop of the source has no bound; here it counts
  down a `fuel`, and `Stop.pending` is the handler that is still draining.
-/

import RedisOperator.Cluster.Slots
import RedisOperator.Lib.Act
import RedisOperator.Lib.GoText
import Mathlib.Data.Finset.Card

namespace RedisOperator.Migrate

open Lib

/-! ## The handler -/

/-- `clusterMigrateRangeRequest`. -/
structure MigrateRangeRequest where
  targetIP : String
  targetPort : Int := 0
  targetNodeID : String
  sourceNodeID : String
  start : Int
  stop : Int
  batchSize : Int := 0
  timeoutMS : Int := 0
  deriving DecidableEq, Repr

/-- The node a command is sent to. -/
inductive Peer
  | source | target
  deriving DecidableEq, Repr

/-- `MIGRATE host port "" db timeout [REPLACE] [AUTH password] KEYS key...`. -/
structure MigrateArgs where
  host : String
  port : Int
  db : Nat
  timeout : Int
  replace : Bool := false
  auth : Option String := none
  keys : List String
  deriving DecidableEq, Repr

/-- A Redis command of the handler. -/
inductive RedisCmd
  | setSlotImporting (slot : Int) (nodeID : String)
  | setSlotMigrating (slot : Int) (nodeID : String)
  | getKeysInSlot (slot count : Int)
  | migrate (args : MigrateArgs)
  | setSlotNode (peer : Peer) (slot : Int) (nodeID : String)

/-- The type of a command's answer. -/
@[reducible] def RedisReply : RedisCmd → Type
  | .setSlotImporting .. => Except String Unit
  | .setSlotMigrating .. => Except String Unit
  | .getKeysInSlot .. => Except String (List String)
  | .migrate _ => Except String Unit
  | .setSlotNode .. => Except String Unit

/-- Why the handler ended without success. -/
inductive Stop
  | response (code : Nat) (text : String)
  | pending
  deriving DecidableEq, Repr

/-- Part of the handler. -/
abbrev Op (α : Type) : Type := Act Unit Stop RedisCmd RedisReply α

/-- Send a command. -/
def send (c : RedisCmd) : Op (RedisReply c) := Act.request c

/-- `http.Error`. -/
def httpError {α : Type} (code : Nat) (text : String) : Op α := Act.fail (.response code text)

@[simp] theorem wp_httpError {α S : Type} {H : Prog.Handler RedisCmd RedisReply S}
    {P : S → RedisCmd → Prop} {Q : α → Unit → S → Prop} {F : Stop → S → Prop} {l : Unit} {s : S}
    (code : Nat) (text : String) :
    Act.wp H P (httpError code text) Q F l s ↔ F (.response code text) s := Iff.rfl

/-- Go on with an answer, or end with status 500. -/
def orFail {α : Type} (what : String) : Except String α → Op α
  | .ok a => pure a
  | .error err => httpError 500 (what ++ ": " ++ err)

@[simp] theorem orFail_ok {α : Type} (what : String) (a : α) : orFail what (.ok a) = pure a := rfl

/-- `MigrateKeys`: neither `REPLACE` nor `AUTH` is given. -/
def migrateArgs (req : MigrateRangeRequest) (keys : List String) : MigrateArgs where
  host := req.targetIP
  port := req.targetPort
  db := 0
  timeout := req.timeoutMS
  keys := keys

/-- The key-draining loop of a slot. -/
def drainSlot (req : MigrateRangeRequest) (slot : Int) : Nat → Op Unit
  | 0 => Act.fail .pending
  | fuel + 1 => do
      let keys ← orFail ("get keys in slot " ++ toString slot ++ ": CLUSTER GETKEYSINSLOT " ++
        toString slot ++ " " ++ toString req.batchSize) (← send (.getKeysInSlot slot req.batchSize))
      if keys = [] then pure ()
      else do
        orFail ("migrate keys for slot " ++ toString slot ++ ": MIGRATE " ++ req.targetIP ++ ":" ++
          toString req.targetPort ++ " keys=" ++ keys.length.repr)
          (← send (.migrate (migrateArgs req keys)))
        drainSlot req slot fuel

/-- One slot of the handler's loop. -/
def migrateSlot (fuel : Nat) (req : MigrateRangeRequest) (slot : Int) : Op Unit := do
  orFail ("target importing slot " ++ toString slot)
    (← send (.setSlotImporting slot req.sourceNodeID))
  orFail ("source migrating slot " ++ toString slot)
    (← send (.setSlotMigrating slot req.targetNodeID))
  drainSlot req slot fuel
  -- the source gives the slot up before the target takes it
  orFail ("source assign slot " ++ toString slot)
    (← send (.setSlotNode .source slot req.targetNodeID))
  orFail ("target assign slot " ++ toString slot)
    (← send (.setSlotNode .target slot req.targetNodeID))

/-- `n` slots from `start` on. -/
def slotsFrom (start : Int) : Nat → List Int
  | 0 => []
  | n + 1 => start :: slotsFrom (start + 1) n

/-- `strings.TrimSpace`. -/
def trim (s : String) : String := String.ofList (trimSpace s.toList)

/-- The request as the handler works with it: trimmed, with defaults. -/
def normalise (req : MigrateRangeRequest) : MigrateRangeRequest :=
  { req with
    targetIP := trim req.targetIP
    targetNodeID := trim req.targetNodeID
    sourceNodeID := trim req.sourceNodeID
    targetPort := if req.targetPort ≤ 0 then 6379 else req.targetPort
    batchSize := if req.batchSize ≤ 0 then 64 else req.batchSize
    timeoutMS := if req.timeoutMS ≤ 0 then 5000 else req.timeoutMS }

/-- Why a request is refused with status 400, if so. -/
def refusal (req : MigrateRangeRequest) : Option String :=
  if trim req.targetIP = "" then some "targetIP is required"
  else if trim req.targetNodeID = "" then some "targetNodeID is required"
  else if trim req.sourceNodeID = "" then some "sourceNodeID is required"
  else if req.stop < req.start then some "end must be greater than or equal to start"
  else none

/-- The loop over the range. -/
def migrateSlots (fuel : Nat) (req : MigrateRangeRequest) : Op Unit :=
  Act.forEach (migrateSlot fuel (normalise req))
    (slotsFrom req.start (req.stop - req.start + 1).toNat)

/-- `handleClusterMigrateRange`; a body that does not decode is `none`. -/
def handleClusterMigrateRange (fuel : Nat) (method : String) (clusterMode : Bool)
    (body : Option MigrateRangeRequest) : Op Unit :=
  if method ≠ "POST" then httpError 405 "method not allowed"
  else if clusterMode = false then httpError 400 "cluster mode is disabled"
  else
    match body with
    | none => httpError 400 "invalid request body"
    | some req =>
      match refusal req with
      | some text => httpError 400 text
      | none => migrateSlots fuel req

/-! ## The two nodes -/

/-- A Redis node, by what the handler's commands touch. -/
structure RedisNode where
  id : String
  requirepass : String := ""
  /-- the node this one believes to own a slot -/
  slotOwner : Int → String := fun _ => ""
  keys : Finset String := ∅

/-- The node lists the slot among its own. -/
def RedisNode.Lists (node : RedisNode) (slot : Int) : Prop := node.slotOwner slot = node.id

/-- `SETSLOT slot NODE id` on a node. -/
def RedisNode.setSlot (node : RedisNode) (slot : Int) (id : String) : RedisNode :=
  { node with slotOwner := Function.update node.slotOwner slot id }

/-- The two nodes of a migration. -/
structure RedisPair where
  source : RedisNode
  target : RedisNode
  distinct : source.id ≠ target.id

namespace RedisPair

variable (w : RedisPair)

/-- The pair after `SETSLOT slot NODE id` on one of them. -/
def setSlot (peer : Peer) (slot : Int) (id : String) : RedisPair :=
  match peer with
  | .source => { w with source := w.source.setSlot slot id, distinct := w.distinct }
  | .target => { w with target := w.target.setSlot slot id, distinct := w.distinct }

/-- The pair after some keys were copied to the target and some of them
    deleted from the source. -/
def transfer (deleted copied : Finset String) : RedisPair where
  source := { w.source with keys := w.source.keys \ deleted }
  target := { w.target with keys := w.target.keys ∪ copied }
  distinct := w.distinct

/-- The listed keys the source holds. -/
def present (keys : List String) : Finset String := w.source.keys.filter (· ∈ keys)

/-- The target does not let an unauthenticated connection in. -/
def Unauthorised (args : MigrateArgs) : Prop :=
  w.target.requirepass ≠ "" ∧ args.auth ≠ some w.target.requirepass

instance (args : MigrateArgs) : Decidable (w.Unauthorised args) :=
  inferInstanceAs (Decidable (_ ∧ _))

/-- The keys the target refuses because it has them already. -/
def busy (args : MigrateArgs) : Finset String :=
  if args.replace then ∅ else w.present args.keys ∩ w.target.keys

end RedisPair

section

variable (keySlot : String → Int)

/-- The keys of a slot that a node holds. -/
def RedisNode.keysIn (node : RedisNode) (slot : Int) : Finset String :=
  node.keys.filter fun key => keySlot key = slot

/-- A command is refused. -/
def Refused {α : Type} (r : Except String α) : Prop := ∃ err, r = .error err

/-- What a command answers and does when nothing fails on the way. -/
def Answers (w : RedisPair) : (c : RedisCmd) → RedisReply c → RedisPair → Prop
  | .setSlotImporting slot _, r, w' =>
    (if IsSlot slot then r = .ok () else Refused r) ∧ w' = w
  | .setSlotMigrating slot _, r, w' =>
    (if IsSlot slot then r = .ok () else Refused r) ∧ w' = w
  | .getKeysInSlot slot count, r, w' =>
    (if IsSlot slot ∧ 0 ≤ count then
      ∃ keys : List String, r = .ok keys ∧ keys.Nodup ∧
        (∀ key ∈ keys, key ∈ w.source.keysIn keySlot slot) ∧
        keys.length = min count.toNat (w.source.keysIn keySlot slot).card
    else Refused r) ∧ w' = w
  | .migrate args, r, w' =>
    if w.Unauthorised args then Refused r ∧ w' = w
    else
      (if w.busy args = ∅ then r = .ok () else Refused r) ∧
        w' = w.transfer (w.present args.keys \ w.busy args) (w.present args.keys \ w.busy args)
  | .setSlotNode peer slot id, r, w' =>
    if IsSlot slot then r = .ok () ∧ w' = w.setSlot peer slot id else Refused r ∧ w' = w

/-- A command fails on the way: it was not carried out, or it was, and a
    `MIGRATE` may have left a key on both nodes. -/
def Fails (w : RedisPair) : (c : RedisCmd) → RedisReply c → RedisPair → Prop
  | .setSlotImporting .., r, w' => Refused r ∧ w' = w
  | .setSlotMigrating .., r, w' => Refused r ∧ w' = w
  | .getKeysInSlot .., r, w' => Refused r ∧ w' = w
  | .migrate args, r, w' =>
    Refused r ∧ (w' = w ∨ (¬ w.Unauthorised args ∧ ∃ deleted copied, deleted ⊆ copied ∧
      copied ⊆ w.present args.keys ∧ w' = w.transfer deleted copied))
  | .setSlotNode peer slot id, r, w' => Refused r ∧ (w' = w ∨ w' = w.setSlot peer slot id)

/-- Commands are answered; they may also fail if `failures` says so. -/
def Handles (failures : Bool) : Prog.Handler RedisCmd RedisReply RedisPair := fun w c r w' =>
  Answers keySlot w c r w' ∨ (failures = true ∧ Fails w c r w')

end

end RedisOperator.Migrate
