/-
  RedisOperator.Instance.RedisConf

  `writeRedisConf`: the configuration the instance manager starts Redis with,
  as a list of directives.  Redis reads the file from top to bottom, names of
  directives in any case, and a later directive replaces an earlier one.
-/

import RedisOperator.Api.Types
import RedisOperator.Lib.GoPath

namespace RedisOperator

open Lib

/-- A line of `redis.conf`: the directive and its arguments. -/
abbrev Directive := String × String

/-- `redisConfigValue`. -/
def redisConfigValue (cluster : RedisCluster) (key defaultValue : String) : String :=
  match cluster.spec.redis.lookup key with
  | none => defaultValue
  | some value => if trimSpace value.toList = [] then defaultValue else value

/-- The lines that are the same for every cluster. -/
def baseDirectives : List Directive :=
  [("bind", "0.0.0.0"), ("dir", "/data"), ("appendonly", "yes"), ("aof-use-rdb-preamble", "yes"),
    ("appenddirname", "appendonlydir"), ("save", "900 1"), ("save", "300 10"),
    ("save", "60 10000")]

/-- Ports and certificates. -/
def portDirectives (cluster : RedisCluster) : List Directive :=
  if cluster.spec.isTLSEnabled then
    [("tls-port", "6379"), ("port", "0"), ("tls-cert-file", "/tls/tls.crt"),
      ("tls-key-file", "/tls/tls.key"), ("tls-ca-cert-file", "/tls/ca.crt"),
      ("tls-auth-clients", "optional"), ("tls-replication", "yes")]
  else [("port", "6379")]

/-- Cluster mode. -/
def clusterDirectives (cluster : RedisCluster) (podIP : String) : List Directive :=
  if cluster.spec.mode = .cluster then
    [("cluster-enabled", "yes"), ("cluster-config-file", "/data/nodes.conf"),
      ("cluster-node-timeout", redisConfigValue cluster "cluster-node-timeout" "15000"),
      ("cluster-announce-port", "6379"), ("cluster-announce-bus-port", "16379")] ++
      (if podIP = "" then [] else [("cluster-announce-ip", podIP)])
  else []

/-- The directive with this name, unless its argument is empty. -/
def optionalDirective (name value : String) : List Directive :=
  if value = "" then [] else [(name, value)]

/-- `spec.memory` and the ACL file. -/
def tailDirectives (cluster : RedisCluster) : List Directive :=
  (match cluster.spec.resolveMaxMemoryBytes with
    | none => []
    | some bytes => [("maxmemory", toString bytes)]) ++
  optionalDirective "maxmemory-policy" cluster.spec.effectiveMaxMemoryPolicy ++
  (match cluster.spec.aclConfigSecret with
    | none => []
    | some _ => [("aclfile", "/data/users.acl")])

/-- `writeRedisConf`.  `specRedis` is `spec.redis` in the order the runtime
    visits it; `replicaOf` is the argument of the `replicaof` directive, empty
    when there is none. -/
def redisConf (cluster : RedisCluster) (specRedis : List Directive)
    (replicaOf masterAuth podIP : String) : List Directive :=
  baseDirectives ++ (portDirectives cluster ++ clusterDirectives cluster podIP ++
    optionalDirective "replicaof" replicaOf ++ optionalDirective "masterauth" masterAuth ++
    specRedis ++ tailDirectives cluster)

/-- The argument Redis ends up with for a directive. -/
def directive (conf : List Directive) (name : String) : Option String :=
  (conf.reverse.find? fun line => line.1.toLower == name).map Prod.snd

/-- The directives that decide what Redis loads. -/
def persistenceKeys : List String := ["dir", "appendonly", "appenddirname", "dbfilename", "include"]

/-- No line touches what Redis loads. -/
def LeavesPersistence (lines : List Directive) : Prop :=
  ∀ line ∈ lines, line.1.toLower ∉ persistenceKeys

theorem LeavesPersistence.append {a b : List Directive} (ha : LeavesPersistence a)
    (hb : LeavesPersistence b) : LeavesPersistence (a ++ b) := by
  intro line hline
  rcases List.mem_append.mp hline with h | h
  · exact ha line h
  · exact hb line h

instance (lines : List Directive) : Decidable (LeavesPersistence lines) :=
  inferInstanceAs (Decidable (∀ line ∈ lines, line.1.toLower ∉ persistenceKeys))

/-- A single line, by its name. -/
theorem leavesPersistence_singleton (name : String) (h : name.toLower ∉ persistenceKeys)
    (value : String) : LeavesPersistence [(name, value)] := by
  intro line hline
  rw [List.mem_singleton.mp hline]
  exact h

theorem leavesPersistence_optional (name : String) (h : name.toLower ∉ persistenceKeys)
    (value : String) : LeavesPersistence (optionalDirective name value) := by
  unfold optionalDirective
  split
  · intro line hline
    cases hline
  · exact leavesPersistence_singleton name h value

theorem leavesPersistence_port (cluster : RedisCluster) :
    LeavesPersistence (portDirectives cluster) := by
  unfold portDirectives
  split <;> decide +kernel

theorem leavesPersistence_cluster (cluster : RedisCluster) (podIP : String) :
    LeavesPersistence (clusterDirectives cluster podIP) := by
  have htimeout := leavesPersistence_singleton "cluster-node-timeout" (by decide +kernel)
    (redisConfigValue cluster "cluster-node-timeout" "15000")
  have hfirst : LeavesPersistence
      [("cluster-enabled", "yes"), ("cluster-config-file", "/data/nodes.conf")] := by
    decide +kernel
  have hlast : LeavesPersistence
      [("cluster-announce-port", "6379"), ("cluster-announce-bus-port", "16379")] := by
    decide +kernel
  unfold clusterDirectives
  split
  · refine ((hfirst.append htimeout).append hlast).append ?_
    exact leavesPersistence_optional "cluster-announce-ip" (by decide +kernel) podIP
  · intro line hline
    cases hline

theorem leavesPersistence_tail (cluster : RedisCluster) :
    LeavesPersistence (tailDirectives cluster) := by
  unfold tailDirectives
  refine (LeavesPersistence.append ?_
    (leavesPersistence_optional _ (by decide +kernel) _)).append ?_
  · split
    · decide
    · exact leavesPersistence_singleton _ (by decide +kernel) _
  · split <;> decide +kernel

/-- Without overriding `spec.redis` keys, Redis keeps the base value of every
    directive that decides what it loads. -/
theorem directive_redisConf (cluster : RedisCluster) {specRedis : List Directive}
    (hspec : LeavesPersistence specRedis) (replicaOf masterAuth podIP : String) {name : String}
    (hname : name ∈ persistenceKeys) :
    directive (redisConf cluster specRedis replicaOf masterAuth podIP) name
      = directive baseDirectives name := by
  have hrest : LeavesPersistence (portDirectives cluster ++ clusterDirectives cluster podIP ++
      optionalDirective "replicaof" replicaOf ++ optionalDirective "masterauth" masterAuth ++
      specRedis ++ tailDirectives cluster) :=
    (((((leavesPersistence_port cluster).append (leavesPersistence_cluster cluster podIP)).append
      (leavesPersistence_optional _ (by decide +kernel) _)).append
      (leavesPersistence_optional _ (by decide +kernel) _)).append hspec).append
      (leavesPersistence_tail cluster)
  unfold directive redisConf
  rw [List.reverse_append, List.find?_append, List.find?_eq_none.mpr, Option.none_or]
  intro line hline hkey
  rw [List.mem_reverse] at hline
  exact hrest line hline (by rw [beq_iff_eq.mp hkey]; exact hname)

end RedisOperator
