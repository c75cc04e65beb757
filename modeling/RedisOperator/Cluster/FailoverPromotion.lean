/-
  RedisOperator.Cluster.FailoverPromotion

  Whom a failover installs.  The candidate is picked from the operator's copy
  of the object, and the patch that sets the fence has just replaced that copy
  by what the API server has stored: reports the instances made themselves,
  not what the pass polled.  The promotion is skipped, without an error, if no
  listed pod of that name has an address.
-/

import RedisOperator.Cluster.FenceProtocol

namespace RedisOperator

open Lib Act

/-! ## A failover that is watched -/

/-- The world, and the addresses whose promotion has returned success. -/
structure Watched where
  world : World
  promoted : List String

/-- Another stored object. -/
def Watched.store (s : Watched) (cluster : RedisCluster) : Watched :=
  { s with world := s.world.store cluster }

section

variable {faulty : Cmd → Prop} {E : RedisCluster → RedisCluster → Prop} {α : Type}
variable {P : Watched → Cmd → Prop} {l : RedisCluster} {s : Watched}

/-! ## Requests -/

variable {Q : Unit → RedisCluster → Watched → Prop}

variable {statuses : Statuses}

end

end RedisOperator
