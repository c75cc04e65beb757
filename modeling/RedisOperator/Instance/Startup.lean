/-
  RedisOperator.Instance.Startup

  The start-up of the instance manager, `Run` up to its Redis client: it fetches
  the RedisCluster, reads passwords from the projected Secrets, writes
  `redis.conf` and the ACL file and starts `redis-server`.

  Three functions derive the names of those Secrets: the webhook and
  `createPodWithLabels` trim them, `Run` trims one of the two and falls back to
  a generated name for it.  `startup_files_mounted_iff` says for which specs the
  pod mounts every file its start-up cannot do without.
-/

import RedisOperator.Cluster.PodTemplate
import RedisOperator.Instance.RedisConf
import RedisOperator.Instance.Secrets
import RedisOperator.Webhook.Validator

namespace RedisOperator

open Lib Act

/-! ## Requests -/

/-- What the start-up asks of the API server and of the operating system. -/
inductive StartCmd
  | getCluster
  | getPod (name : String)
  | readFile (path : CleanPath)
  | mkdirAll (path : CleanPath)
  | writeFile (path : CleanPath) (content : Bytes)
  | startRedis

/-- Their answers. -/
@[reducible] def StartReply : StartCmd → Type
  | .getCluster => Api RedisCluster
  | .getPod _ => Api Pod
  | .readFile _ => Except ReadError Bytes
  | .mkdirAll _ | .writeFile .. | .startRedis => Except String Unit

/-- A function of the start-up. -/
abbrev StartOp (α : Type) : Type := Act Unit String StartCmd StartReply α

namespace StartOp

/-- Issue a request. -/
def ask (c : StartCmd) : StartOp (StartReply c) := Act.request c

/-- `fmt.Errorf("what: %w", err)`. -/
def wrap {α : Type} (what : String) (x : StartOp α) : StartOp α :=
  Act.context (fun err => what ++ ": " ++ err) x

/-- Return the error of an answer. -/
def orFail : Except String Unit → StartOp Unit
  | .ok _ => pure ()
  | .error err => Act.fail err

/-- `os.WriteFile`. -/
def writeFile (path : CleanPath) (content : Bytes) : StartOp Unit := do
  let answer ← ask (.writeFile path content)
  orFail answer

end StartOp

/-- The pod as its start-up sees it. -/
structure PodState where
  cluster : RedisCluster
  pods : String → Option Pod
  files : CleanPath → Option Bytes

/-- Every request may fail; a file that is missing is always reported so. -/
def StartHandles : Prog.Handler StartCmd StartReply PodState := fun s c r s' =>
  match c, r with
  | .getCluster, r => s' = s ∧ (r = .ok s.cluster ∨ ∃ message, r = .error ⟨.other, message⟩)
  | .getPod name, r =>
    s' = s ∧ (r = found "pods" name (s.pods name) ∨ ∃ message, r = .error ⟨.other, message⟩)
  | .readFile path, r =>
    s' = s ∧ ((match s.files path with
      | some content => r = .ok content
      | none => ∃ message, r = .error ⟨true, message⟩) ∨ ∃ message, r = .error ⟨false, message⟩)
  | .mkdirAll _, r | .startRedis, r => s' = s ∧ (r = .ok () ∨ ∃ message, r = .error message)
  | .writeFile path content, r =>
    (r = .ok () ∧ s' = { s with files := fun q => if q = path then some content else s.files q }) ∨
      ((∃ message, r = .error message) ∧ s' = s)

/-! ## The steps -/

/-- Where a data pod finds its Secrets: no pod sets the variables that move them. -/
def podPaths : SecretPaths := {}

/-- `redisConfPath`. -/
def redisConfPath : CleanPath := (true, ["data".toList, "redis.conf".toList])

/-- `users.acl` in the data directory. -/
def usersACLPath : CleanPath := (true, ["data".toList, "users.acl".toList])

/-- `tlsCAPath`. -/
def tlsCAPath : CleanPath := (true, ["tls".toList, "ca.crt".toList])

/-- `readProjectedSecretPassword`. -/
def readProjectedSecretPassword (secretName : String) : StartOp Bytes := do
  match ← StartOp.ask (.readFile (podPaths.file secretName "password")) with
  | .ok content => pure (trimSpaceBytes content)
  | .error err => Act.fail err.message

/-- `seedACLFile`. -/
def seedACLFile (cluster : RedisCluster) : StartOp Unit :=
  match cluster.spec.aclConfigSecret with
  | none => pure ()
  | some aclConfigSecret => do
      match ← StartOp.ask (.readFile (podPaths.file aclConfigSecret "acl")) with
      | .ok content => StartOp.writeFile usersACLPath content
      | .error err =>
        -- not projected yet: Redis starts with an empty ACL file
        if err.notExist then StartOp.writeFile usersACLPath []
        else Act.fail ("reading projected ACL secret " ++ aclConfigSecret ++ "/acl: " ++
          err.message)

/-- `resolveLocalAuthPassword`. -/
def resolveLocalAuthPassword (cluster : RedisCluster) : StartOp Bytes :=
  if effectiveAuthSecretName cluster = "" then pure []
  else
    StartOp.wrap
      ("reading projected auth secret " ++ effectiveAuthSecretName cluster ++ "/password")
      (readProjectedSecretPassword (effectiveAuthSecretName cluster))

/-- Lines of `redis.conf`. -/
def confLines (conf : List Directive) : Bytes :=
  conf.flatMap fun line => bytesOf (line.1 ++ " " ++ line.2 ++ "\n")

/-- What `writeRedisConf` writes; the password is bytes, the rest is text. -/
def redisConfContent (cluster : RedisCluster) (specRedis : List Directive) (replicaOf : String)
    (masterAuth : Bytes) (podIP : String) : Bytes :=
  confLines (baseDirectives ++ portDirectives cluster ++ clusterDirectives cluster podIP ++
    optionalDirective "replicaof" replicaOf) ++
  (if masterAuth = [] then [] else bytesOf "masterauth " ++ masterAuth ++ bytesOf "\n") ++
  confLines (specRedis ++ tailDirectives cluster)

/-- The process: its pod, the order in which it visits `spec.redis`, and which
    files it takes for CA certificates. -/
structure InstanceManager where
  clusterName : String
  podName : String
  objectNamespace : String := ""
  podIP : String := ""
  visit : GoMap String String → List Directive := GoMap.pairs
  /-- `AppendCertsFromPEM` -/
  parsesCA : Bytes → Bool
  exists_ca : ∃ pem, parsesCA pem = true

namespace InstanceManager

variable (m : InstanceManager)

/-- `resolvePodIP`. -/
def resolvePodIP (podName : String) : StartOp String := do
  match ← StartOp.ask (.getPod podName) with
  | .error err =>
    Act.fail ("getting pod " ++ m.objectNamespace ++ "/" ++ podName ++ " for IP resolution: " ++
      err.message)
  | .ok pod =>
    if pod.podIP = "" then
      Act.fail ("pod " ++ m.objectNamespace ++ "/" ++ podName ++ " has no IP assigned yet")
    else pure pod.podIP

/-- The password for the source of a replica cluster; the name is not trimmed. -/
def sourcePassword (source : ReplicaSource) : StartOp Bytes :=
  if source.authSecretName ≠ "" then
    StartOp.wrap ("reading replica mode auth secret " ++ source.authSecretName ++ "/password")
      (readProjectedSecretPassword source.authSecretName)
  else pure []

/-- The argument of `replicaof` and the password for it. -/
def replication (cluster : RedisCluster) : StartOp (String × Bytes) :=
  if isReplicaModeEnabled cluster then
    match cluster.spec.replicaMode.bind ReplicaModeSpec.source with
    | none => Act.fail "replica mode is enabled but source.host is missing"
    | some source =>
      if trimmed source.host = "" then
        Act.fail "replica mode is enabled but source.host is missing"
      else do
        let masterAuth ← sourcePassword source
        let port := if source.port ≤ 0 then defaultReplicaModePort else source.port
        pure (source.host ++ " " ++ toString port, masterAuth)
  else if cluster.spec.mode = .cluster then pure ("", [])
  else if cluster.status.currentPrimary = m.podName ∨ cluster.status.currentPrimary = "" then
    pure ("", [])
  else do
    let primaryIP ← StartOp.wrap "resolving primary IP for split-brain guard"
      (m.resolvePodIP cluster.status.currentPrimary)
    pure (primaryIP ++ " 6379", [])

/-- `writeRedisConf`. -/
def writeRedisConf (cluster : RedisCluster) (replicaOf : String) (masterAuth : Bytes) :
    StartOp Unit := do
  let made ← StartOp.ask (.mkdirAll (true, ["data".toList]))
  StartOp.wrap "creating data directory" (StartOp.orFail made)
  StartOp.writeFile redisConfPath
    (redisConfContent cluster (m.visit cluster.spec.redis) replicaOf masterAuth m.podIP)

/-- `redisTLSConfig`. -/
def redisTLSConfig (cluster : RedisCluster) : StartOp Unit :=
  if cluster.spec.isTLSEnabled then do
    match ← StartOp.ask (.readFile tlsCAPath) with
    | .error err => Act.fail ("reading CA certificate /tls/ca.crt: " ++ err.message)
    | .ok pem =>
      if m.parsesCA pem then pure () else Act.fail "parsing CA certificate /tls/ca.crt"
  else pure ()

/-- Everything after the RedisCluster is known. -/
def start (cluster : RedisCluster) : StartOp Bytes := do
  let (replicaOf, masterAuth) ← m.replication cluster
  StartOp.wrap "writing redis.conf" (m.writeRedisConf cluster replicaOf masterAuth)
  StartOp.wrap "seeding ACL file" (seedACLFile cluster)
  let started ← StartOp.ask .startRedis
  StartOp.wrap "starting redis-server" (StartOp.orFail started)
  StartOp.wrap "building redis client TLS config" (m.redisTLSConfig cluster)
  StartOp.wrap "resolving local auth password" (resolveLocalAuthPassword cluster)

/-- `Run`, up to the Redis client. -/
def startup : StartOp Bytes := do
  match ← StartOp.ask .getCluster with
  | .error err =>
    Act.fail ("fetching RedisCluster " ++ m.objectNamespace ++ "/" ++ m.clusterName ++ ": " ++
      err.message)
  | .ok cluster => m.start cluster

/-- The start-up reads the file, and does not get through without it. -/
structure StartupNeeds (cluster : RedisCluster) (path : CleanPath) : Prop where
  reads : ∃ s s', s.cluster = cluster ∧
    Prog.Issues StartHandles (m.startup ()) s s' (.readFile path)
  required : ∀ s password s', s.cluster = cluster → s.files path = none →
    ¬ Prog.Returns StartHandles (m.startup ()) s (.ok password) s'

end InstanceManager

/-! ## Files the start-up needs -/

/-- The password of the pod itself, and the one for the source of a replica cluster. -/
def NeedsPassword (cluster : RedisCluster) (path : CleanPath) : Prop :=
  (effectiveAuthSecretName cluster ≠ "" ∧
      path = podPaths.file (effectiveAuthSecretName cluster) "password") ∨
    (isReplicaModeEnabled cluster = true ∧ replicaModeSourceAuthSecretName cluster ≠ "" ∧
      path = podPaths.file (replicaModeSourceAuthSecretName cluster) "password")

/-- Nothing is written but the two files in the data directory. -/
def StartCmd.WritesData : StartCmd → Prop
  | .writeFile path _ => path = redisConfPath ∨ path = usersACLPath
  | _ => True

section

variable {m : InstanceManager} {cluster : RedisCluster} {path : CleanPath} {s : PodState}

theorem file_getLast? (secretName : String) {key : String} (h : FileName key.toList) :
    (podPaths.file secretName key).2.getLast? = some key.toList :=
  getLast?_cleanPath h ("/projected".toList ++ '/' :: secretName.toList)

theorem fileName_password : FileName "password".toList :=
  ⟨by decide, by decide, by decide, by decide⟩

theorem fileName_acl : FileName "acl".toList := ⟨by decide, by decide, by decide, by decide⟩

/-- A password is not what the start-up writes. -/
theorem password_ne_data (secretName : String) :
    podPaths.file secretName "password" ≠ redisConfPath ∧
      podPaths.file secretName "password" ≠ usersACLPath := by
  have hlast := file_getLast? secretName fileName_password
  constructor
  · intro h
    rw [h] at hlast
    exact absurd hlast (by decide)
  · intro h
    rw [h] at hlast
    exact absurd hlast (by decide)

theorem wp_startAsk {c : StartCmd} {P : PodState → StartCmd → Prop}
    {Q : StartReply c → Unit → PodState → Prop} {F : String → PodState → Prop} :
    wp StartHandles P (StartOp.ask c) Q F () s ↔
      P s c ∧ ∀ r s', StartHandles s c r s' → Q r () s' := wp_request

theorem may_startAsk {c : StartCmd} {B : PodState → StartCmd → Prop}
    {Q : StartReply c → Unit → PodState → Prop} :
    may StartHandles B (StartOp.ask c) Q () s ↔
      B s c ∨ ∃ r s', StartHandles s c r s' ∧ Q r () s' := may_request

/-! ### Without the file -/

theorem local_startOrFail (answer : Except String Unit) :
    KeepsLocal StartCmd.WritesData (StartOp.orFail answer) := by
  cases answer with
  | ok _ => exact .pure ()
  | error err => exact .fail _

theorem local_writeFile (hpath : path = redisConfPath ∨ path = usersACLPath) (content : Bytes) :
    KeepsLocal StartCmd.WritesData (StartOp.writeFile path content) := by
  have hwrites : (StartCmd.writeFile path content).WritesData := hpath
  exact (KeepsLocal.request hwrites).bind fun r => local_startOrFail r

theorem local_readProjectedSecretPassword (secretName : String) :
    KeepsLocal StartCmd.WritesData (readProjectedSecretPassword secretName) := by
  refine (KeepsLocal.request trivial).bind fun r => ?_
  cases r with
  | ok content => exact .pure _
  | error err => exact .fail _

theorem local_resolvePodIP (podName : String) :
    KeepsLocal StartCmd.WritesData (m.resolvePodIP podName) := by
  refine (KeepsLocal.request trivial).bind fun r => ?_
  cases r with
  | error err => exact .fail _
  | ok pod => exact .ite (fun _ => .fail _) fun _ => .pure _

theorem local_replication : KeepsLocal StartCmd.WritesData (m.replication cluster) := by
  refine .ite (fun _ => ?_) fun _ => ?_
  · cases cluster.spec.replicaMode.bind ReplicaModeSpec.source with
    | none => exact .fail _
    | some source =>
      refine .ite (fun _ => .fail _) fun _ => ?_
      refine KeepsLocal.bind ?_ fun _ => .pure _
      exact .ite (fun _ => (local_readProjectedSecretPassword _).context _)
        fun _ => .pure _
  · refine .ite (fun _ => .pure _) fun _ => ?_
    refine .ite (fun _ => .pure _) fun _ => ?_
    exact ((local_resolvePodIP _).context _).bind fun _ => .pure _

theorem local_writeRedisConf (replicaOf : String) (masterAuth : Bytes) :
    KeepsLocal StartCmd.WritesData (m.writeRedisConf cluster replicaOf masterAuth) :=
  (KeepsLocal.request trivial).bind fun r => ((local_startOrFail r).context _).bind fun _ =>
    local_writeFile (Or.inl rfl) _

theorem local_seedACLFile : KeepsLocal StartCmd.WritesData (seedACLFile cluster) := by
  unfold seedACLFile
  cases cluster.spec.aclConfigSecret with
  | none => exact .pure ()
  | some aclConfigSecret =>
    refine (KeepsLocal.request trivial).bind fun r => ?_
    cases r with
    | ok content => exact local_writeFile (Or.inr rfl) _
    | error err =>
      exact .ite (fun _ => local_writeFile (Or.inr rfl) _)
        fun _ => .fail _

theorem local_redisTLSConfig : KeepsLocal StartCmd.WritesData (m.redisTLSConfig cluster) := by
  refine .ite (fun _ => ?_) fun _ => .pure ()
  refine (KeepsLocal.request trivial).bind fun r => ?_
  cases r with
  | error err => exact .fail _
  | ok pem => exact .ite (fun _ => .pure ()) fun _ => .fail _

/-- A file that is missing and not written stays missing. -/
theorem missing_of_handles {c : StartCmd} {r : StartReply c} {s' : PodState}
    (hpath : path ≠ redisConfPath ∧ path ≠ usersACLPath) (hmissing : s.files path = none)
    (hc : c.WritesData) (h : StartHandles s c r s') : s'.files path = none := by
  cases c with
  | getCluster => rw [h.1, hmissing]
  | getPod name => rw [h.1, hmissing]
  | readFile path' => rw [h.1, hmissing]
  | mkdirAll path' => rw [h.1, hmissing]
  | startRedis => rw [h.1, hmissing]
  | writeFile path' content =>
    rcases h with ⟨-, rfl⟩ | ⟨-, rfl⟩
    · have hne : path ≠ path' := by
        rcases hc with rfl | rfl
        · exact hpath.1
        · exact hpath.2
      exact (if_neg hne).trans hmissing
    · exact hmissing

/-- A step that succeeds leads on with the file still missing. -/
theorem wp_missing_then {α β : Type} {x : StartOp α} {f : α → StartOp β}
    {Q : β → Unit → PodState → Prop} (hx : KeepsLocal StartCmd.WritesData x)
    (hpath : path ≠ redisConfPath ∧ path ≠ usersACLPath) (hmissing : s.files path = none)
    (hf : ∀ a s', s'.files path = none →
      wp StartHandles (fun _ _ => True) (f a) Q (fun _ _ => True) () s') :
    wp StartHandles (fun _ _ => True) (x >>= f) Q (fun _ _ => True) () s := by
  rw [wp_bind]
  exact hx.wp (fun _ _ _ _ => trivial)
    (fun _ _ _ _ hmissing hc h => missing_of_handles hpath hmissing hc h) hmissing
    (fun a s' hs' => hf a s' hs') fun _ _ _ => trivial

theorem wp_readProjectedSecretPassword_missing {secretName : String}
    {Q : Bytes → Unit → PodState → Prop}
    (hmissing : s.files (podPaths.file secretName "password") = none) :
    wp StartHandles (fun _ _ => True) (readProjectedSecretPassword secretName) Q
      (fun _ _ => True) () s := by
  unfold readProjectedSecretPassword
  rw [wp_bind, wp_startAsk]
  refine ⟨trivial, fun r s' hr => ?_⟩
  obtain ⟨rfl, hread | ⟨message, rfl⟩⟩ := hr
  · rw [hmissing] at hread
    obtain ⟨message, rfl⟩ := hread
    exact trivial
  · exact trivial

/-- The password of the source is read first. -/
theorem wp_replication_missing {Q : String × Bytes → Unit → PodState → Prop}
    (henabled : isReplicaModeEnabled cluster = true)
    (hsource : replicaModeSourceAuthSecretName cluster ≠ "")
    (hmissing :
      s.files (podPaths.file (replicaModeSourceAuthSecretName cluster) "password") = none) :
    wp StartHandles (fun _ _ => True) (m.replication cluster) Q (fun _ _ => True) () s := by
  unfold InstanceManager.replication
  rw [if_pos henabled]
  unfold replicaModeSourceAuthSecretName at hsource hmissing
  cases hmode : cluster.spec.replicaMode with
  | none => exact trivial
  | some replicaMode =>
    cases hs : replicaMode.source with
    | none =>
      rw [Option.bind_some, hs]
      exact trivial
    | some source =>
      simp only [hmode, hs] at hsource hmissing
      rw [Option.bind_some, hs]
      refine wp_ite.mpr ⟨fun _ => trivial, fun _ => ?_⟩
      rw [wp_bind]
      refine wp_ite.mpr ⟨fun _ => ?_, fun h => absurd hsource h⟩
      exact wp_context.mpr (wp_readProjectedSecretPassword_missing hmissing)

/-- The pod's own password is read last. -/
theorem wp_start_missing (hneeds : NeedsPassword cluster path) (hmissing : s.files path = none) :
    wp StartHandles (fun _ _ => True) (m.start cluster) (fun _ _ _ => False) (fun _ _ => True)
      () s := by
  unfold InstanceManager.start
  rcases hneeds with ⟨hname, rfl⟩ | ⟨henabled, hsource, rfl⟩
  · have hdata := password_ne_data (effectiveAuthSecretName cluster)
    refine wp_missing_then local_replication hdata hmissing fun a s₁ h₁ => ?_
    refine wp_missing_then ((local_writeRedisConf _ _).context _) hdata h₁ fun _ s₂ h₂ => ?_
    refine wp_missing_then (local_seedACLFile.context _) hdata h₂ fun _ s₃ h₃ => ?_
    refine wp_missing_then (.request trivial) hdata h₃ fun r s₄ h₄ => ?_
    refine wp_missing_then ((local_startOrFail r).context _) hdata h₄ fun _ s₅ h₅ => ?_
    refine wp_missing_then (local_redisTLSConfig.context _) hdata h₅ fun _ s₆ h₆ => ?_
    refine wp_context.mpr (wp_ite.mpr ⟨fun h => absurd h hname, fun _ => ?_⟩)
    exact wp_context.mpr (wp_readProjectedSecretPassword_missing h₆)
  · rw [wp_bind]
    exact wp_replication_missing henabled hsource hmissing

theorem wp_startup_missing (hs : s.cluster = cluster) (hneeds : NeedsPassword cluster path)
    (hmissing : s.files path = none) :
    wp StartHandles (fun _ _ => True) m.startup (fun _ _ _ => False) (fun _ _ => True) () s := by
  unfold InstanceManager.startup
  rw [wp_bind, wp_startAsk]
  refine ⟨trivial, fun r s' hr => ?_⟩
  obtain ⟨rfl, rfl | ⟨message, rfl⟩⟩ := hr
  · rw [← hs] at hneeds
    exact wp_start_missing hneeds hmissing
  · exact trivial

/-! ### With all other files -/

/-- Pods have addresses, and every file but `path` is there. -/
structure Supplied (m : InstanceManager) (path : CleanPath) (s : PodState) : Prop where
  pods : ∀ name, ∃ pod, s.pods name = some pod ∧ pod.podIP ≠ ""
  files : ∀ q, q ≠ path → ∃ content, s.files q = some content
  ca : ∀ pem, s.files tlsCAPath = some pem → m.parsesCA pem = true

theorem Supplied.write {path' : CleanPath} (hs : Supplied m path s)
    (hpath' : path' = redisConfPath ∨ path' = usersACLPath) (content : Bytes) :
    Supplied m path { s with files := fun q => if q = path' then some content else s.files q } where
  pods := hs.pods
  files := by
    intro q hq
    by_cases h : q = path'
    · exact ⟨content, if_pos h⟩
    · obtain ⟨content', hcontent'⟩ := hs.files q hq
      exact ⟨content', (if_neg h).trans hcontent'⟩
  ca := by
    intro pem hpem
    have hne : tlsCAPath ≠ path' := by
      rcases hpath' with rfl | rfl <;> decide
    exact hs.ca pem ((if_neg hne).symm.trans hpem)

variable {B : PodState → StartCmd → Prop}

variable {Q : Unit → Unit → PodState → Prop}

theorem may_writeFile {path' : CleanPath}
    (hs : Supplied m path s) (hpath' : path' = redisConfPath ∨ path' = usersACLPath)
    (content : Bytes) (hQ : ∀ s', s'.cluster = s.cluster → Supplied m path s' → Q () () s') :
    may StartHandles B (StartOp.writeFile path' content) Q () s := by
  unfold StartOp.writeFile
  rw [may_bind, may_startAsk]
  exact Or.inr ⟨.ok (), _, Or.inl ⟨rfl, rfl⟩, hQ _ rfl (hs.write hpath' content)⟩

/-- A password is read, or it is the file that may be missing. -/
theorem may_readProjectedSecretPassword {secretName : String} {Q : Bytes → Unit → PodState → Prop}
    (hs : Supplied m path s)
    (hB : podPaths.file secretName "password" = path → B s (.readFile path))
    (hQ : ∀ password, Q password () s) :
    may StartHandles B (readProjectedSecretPassword secretName) Q () s := by
  unfold readProjectedSecretPassword
  rw [may_bind, may_startAsk]
  by_cases hpath : podPaths.file secretName "password" = path
  · rw [hpath]
    exact Or.inl (hB hpath)
  · obtain ⟨content, hcontent⟩ := hs.files _ hpath
    refine Or.inr ⟨.ok content, s, ⟨rfl, Or.inl ?_⟩, hQ _⟩
    rw [hcontent]

/-- Replica mode comes with a source to connect to. -/
def NamesSource (cluster : RedisCluster) : Prop :=
  isReplicaModeEnabled cluster = true →
    ∃ source, cluster.spec.replicaMode.bind ReplicaModeSpec.source = some source ∧
      trimmed source.host ≠ ""

theorem sourceAuthSecretName_eq {source : ReplicaSource}
    (h : cluster.spec.replicaMode.bind ReplicaModeSpec.source = some source) :
    replicaModeSourceAuthSecretName cluster = source.authSecretName := by
  obtain ⟨replicaMode, hmode, hsource⟩ := Option.bind_eq_some_iff.mp h
  simp only [replicaModeSourceAuthSecretName, hmode, hsource]

variable (hs : Supplied m path s)
include hs

theorem may_replication {Q : String × Bytes → Unit → PodState → Prop}
    (hhost : NamesSource cluster) (hB : NeedsPassword cluster path → B s (.readFile path))
    (hQ : ∀ a, Q a () s) : may StartHandles B (m.replication cluster) Q () s := by
  unfold InstanceManager.replication
  refine may_ite.mpr ?_
  by_cases henabled : isReplicaModeEnabled cluster = true
  · obtain ⟨source, hsource, hname⟩ := hhost henabled
    refine Or.inl ⟨henabled, ?_⟩
    rw [hsource]
    refine may_ite.mpr (Or.inr ⟨hname, ?_⟩)
    rw [may_bind]
    refine may_ite.mpr ?_
    by_cases hauth : source.authSecretName = ""
    · exact Or.inr ⟨fun h => h hauth, hQ _⟩
    · refine Or.inl ⟨hauth, may_context.mpr ?_⟩
      refine may_readProjectedSecretPassword hs (fun hpath => hB (Or.inr ?_)) fun _ => hQ _
      rw [sourceAuthSecretName_eq hsource]
      exact ⟨henabled, hauth, hpath.symm⟩
  · refine Or.inr ⟨henabled, may_ite.mpr ?_⟩
    by_cases hmode : cluster.spec.mode = .cluster
    · exact Or.inl ⟨hmode, hQ _⟩
    · refine Or.inr ⟨hmode, may_ite.mpr ?_⟩
      by_cases hself : cluster.status.currentPrimary = m.podName ∨
        cluster.status.currentPrimary = ""
      · exact Or.inl ⟨hself, hQ _⟩
      · refine Or.inr ⟨hself, ?_⟩
        obtain ⟨pod, hpod, hip⟩ := hs.pods cluster.status.currentPrimary
        unfold InstanceManager.resolvePodIP
        rw [may_bind]
        refine may_context.mpr ?_
        rw [may_bind, may_startAsk]
        refine Or.inr ⟨.ok pod, s, ⟨rfl, Or.inl ?_⟩, may_ite.mpr (Or.inr ⟨hip, hQ _⟩)⟩
        rw [hpod]
        rfl

theorem may_seedACLFile (hQ : ∀ s', Supplied m path s' → Q () () s') :
    may StartHandles B (seedACLFile cluster) Q () s := by
  unfold seedACLFile
  cases cluster.spec.aclConfigSecret with
  | none => exact hQ s hs
  | some aclConfigSecret =>
    dsimp only
    rw [may_bind, may_startAsk]
    refine Or.inr ?_
    cases hfile : s.files (podPaths.file aclConfigSecret "acl") with
    | some content =>
      refine ⟨.ok content, s, ⟨rfl, Or.inl ?_⟩, ?_⟩
      · rw [hfile]
      · exact may_writeFile hs (Or.inr rfl) content fun s' _ hs' => hQ s' hs'
    | none =>
      -- a missing ACL file is not an error
      refine ⟨.error ⟨true, ""⟩, s, ⟨rfl, Or.inl ?_⟩, may_ite.mpr (Or.inl ⟨rfl, ?_⟩)⟩
      · rw [hfile]
        exact ⟨"", rfl⟩
      · exact may_writeFile hs (Or.inr rfl) [] fun s' _ hs' => hQ s' hs'

theorem may_redisTLSConfig (hca : path ≠ tlsCAPath) (hQ : Q () () s) :
    may StartHandles B (m.redisTLSConfig cluster) Q () s := by
  refine may_ite.mpr ?_
  by_cases htls : cluster.spec.isTLSEnabled = true
  · refine Or.inl ⟨htls, ?_⟩
    obtain ⟨pem, hpem⟩ := hs.files _ hca.symm
    rw [may_bind, may_startAsk]
    refine Or.inr ⟨.ok pem, s, ⟨rfl, Or.inl ?_⟩, may_ite.mpr (Or.inl ⟨hs.ca pem hpem, hQ⟩)⟩
    rw [hpem]
  · exact Or.inr ⟨htls, hQ⟩

/-- The start-up gets through, unless the file that is missing is a password. -/
theorem may_start (hhost : NamesSource cluster) (hca : path ≠ tlsCAPath)
    (hB : NeedsPassword cluster path → ∀ s, B s (.readFile path)) :
    may StartHandles B (m.start cluster) (fun _ _ _ => True) () s := by
  unfold InstanceManager.start
  rw [may_bind]
  refine may_replication hs hhost (fun h => hB h s) fun a => ?_
  rw [may_bind]
  refine may_context.mpr ?_
  unfold InstanceManager.writeRedisConf
  rw [may_bind, may_startAsk]
  refine Or.inr ⟨.ok (), s, ⟨rfl, Or.inl rfl⟩, ?_⟩
  rw [may_bind]
  refine may_context.mpr (may_writeFile hs (Or.inl rfl) _ fun s₁ _ hs₁ => ?_)
  rw [may_bind]
  refine may_context.mpr (may_seedACLFile hs₁ fun s₂ hs₂ => ?_)
  rw [may_bind, may_startAsk]
  refine Or.inr ⟨.ok (), s₂, ⟨rfl, Or.inl rfl⟩, ?_⟩
  rw [may_bind]
  refine may_context.mpr (may_bind.mpr (may_context.mpr (may_redisTLSConfig hs₂ hca ?_)))
  refine may_context.mpr (may_ite.mpr ?_)
  by_cases hname : effectiveAuthSecretName cluster = ""
  · exact Or.inl ⟨hname, trivial⟩
  · refine Or.inr ⟨hname, may_context.mpr ?_⟩
    refine may_readProjectedSecretPassword hs₂ (fun hpath => ?_) fun _ => trivial
    exact hB (Or.inl ⟨hname, hpath.symm⟩) s₂

theorem may_startup (hhost : NamesSource s.cluster)
    (hca : path ≠ tlsCAPath) (hB : NeedsPassword s.cluster path → ∀ s, B s (.readFile path)) :
    may StartHandles B m.startup (fun _ _ _ => True) () s := by
  unfold InstanceManager.startup
  rw [may_bind, may_startAsk]
  exact Or.inr ⟨.ok s.cluster, s, ⟨rfl, Or.inl rfl⟩, may_start hs hhost hca hB⟩

omit hs

theorem exists_supplied (m : InstanceManager) (cluster : RedisCluster) (path : CleanPath) :
    ∃ s, s.cluster = cluster ∧ s.files path = none ∧ Supplied m path s := by
  obtain ⟨pem, hpem⟩ := m.exists_ca
  refine ⟨{ cluster := cluster, pods := fun name => some { name := name, podIP := "10.0.0.1" }
            files := fun q => if q = path then none else some pem }, rfl, if_pos rfl, ?_⟩
  have hip : "10.0.0.1" ≠ "" := by decide
  refine ⟨fun name => ⟨_, rfl, hip⟩, fun q hq => ⟨pem, if_neg hq⟩, fun pem' hpem' => ?_⟩
  dsimp only at hpem'
  split at hpem'
  · cases hpem'
  · cases hpem'
    exact hpem

/-- The files the start-up cannot do without are the passwords. -/
theorem startupNeeds_iff (hhost : NamesSource cluster) (hca : path ≠ tlsCAPath) :
    m.StartupNeeds cluster path ↔ NeedsPassword cluster path := by
  obtain ⟨s, rfl, hmissing, hs⟩ := exists_supplied m cluster path
  constructor
  · intro hneeds
    by_contra hnot
    have hmay := may_startup (B := fun _ _ => False) hs hhost hca fun h => absurd h hnot
    rcases Prog.may_iff.mp hmay with ⟨_, _, _, hfalse⟩ | ⟨a, s', hret, ha⟩
    · exact hfalse
    · cases a with
      | error err => exact ha
      | ok password => exact hneeds.required s password s' rfl hmissing hret
  · intro hneeds
    have hrequired : ∀ s' password s'', s'.cluster = s.cluster → s'.files path = none →
        ¬ Prog.Returns StartHandles (m.startup ()) s' (.ok password) s'' :=
      fun s' password s'' hs' hmissing' hret =>
        Prog.wp_returns hret (wp_startup_missing hs' hneeds hmissing')
    refine ⟨?_, hrequired⟩
    have hmay := may_startup (B := fun _ c => c = .readFile path) hs hhost hca fun _ _ => rfl
    rcases Prog.may_iff.mp hmay with ⟨s', c, hissues, rfl⟩ | ⟨a, s', hret, ha⟩
    · exact ⟨s, s', rfl, hissues⟩
    · cases a with
      | error err => exact ha.elim
      | ok password => exact absurd hret (hrequired s password s' rfl hmissing)

end

/-! ## Files the pod mounts -/

/-- The projected volume puts a key there, where the Redis container mounts it. -/
def MountsFile (pod : PodTemplate) (path : CleanPath) : Prop :=
  ∃ volume ∈ pod.volumes, volume.name = "projected-secrets" ∧
    ∃ container ∈ pod.containers, ∃ mount ∈ container.volumeMounts, mount.name = volume.name ∧
      ∃ sources, volume.source = .projected sources ∧
        ∃ source ∈ sources, ∃ item ∈ source.items,
          path = joinPath [mount.mountPath.toList, item.2.toList]

/-- The directory of the projected Secrets holds it. -/
def UnderProjected (path : CleanPath) : Prop :=
  path.1 = true ∧ path.2.head? = some "projected".toList

section

variable {cluster : RedisCluster} {path : CleanPath}

theorem mem_volumes_projected {volume : Volume} (index : Nat)
    (hname : volume.name = "projected-secrets") :
    volume ∈ dataPodVolumes cluster index ↔ volume ∈ projectedVolumes cluster := by
  rw [← (filter_dataPodVolumes cluster index).1]
  simp [hname]

theorem name_of_mem_mountOf {volumes : List Volume} {mountPath : String} {readOnly : Bool}
    {mount : VolumeMount} (h : mount ∈ mountOf volumes mountPath readOnly) :
    mount.name ∈ volumes.map Volume.name := by
  obtain ⟨volume, hvolume, rfl⟩ := List.mem_map.mp h
  exact List.mem_map_of_mem hvolume

theorem names_tlsVolumes (cluster : RedisCluster) :
    (tlsVolumes cluster).map Volume.name ⊆ ["tls-certs"] := by
  unfold tlsVolumes
  cases tlsSecrets cluster <;> simp

theorem names_credentialVolumes (cluster : RedisCluster) :
    (credentialVolumes cluster).map Volume.name ⊆ ["backup-credentials"] := by
  unfold credentialVolumes
  split <;> simp

theorem mem_mounts_projected {mount : VolumeMount} (hname : mount.name = "projected-secrets") :
    mount ∈ dataPodMounts cluster ↔
      mount ∈ mountOf (projectedVolumes cluster) "/projected" false := by
  have htls : mount ∉ mountOf (tlsVolumes cluster) "/tls" true := by
    intro h
    have hmem := names_tlsVolumes cluster (name_of_mem_mountOf h)
    rw [hname] at hmem
    exact absurd hmem (by decide)
  have hcredentials : mount ∉ mountOf (credentialVolumes cluster) "/backup-credentials" true := by
    intro h
    have hmem := names_credentialVolumes cluster (name_of_mem_mountOf h)
    rw [hname] at hmem
    exact absurd hmem (by decide)
  have hfixed : mount ∉ [({ name := "data", mountPath := "/data" } : VolumeMount),
      { name := "controller", mountPath := "/controller" }] := by
    intro h
    rw [List.mem_cons, List.mem_singleton] at h
    rcases h with rfl | rfl
    · exact absurd hname (by decide)
    · exact absurd hname (by decide)
  unfold dataPodMounts
  simp only [List.mem_append, hfixed, htls, hcredentials, false_or, or_false]

/-- The file of a projected key is where the start-up looks for it. -/
theorem file_eq_mounted (name key : String) :
    podPaths.file name key = joinPath ["/projected".toList, (name ++ "/" ++ key).toList] := by
  have htext : (name ++ "/" ++ key).toList = name.toList ++ '/' :: key.toList := by
    rw [String.toList_append, String.toList_append, List.append_assoc]
    rfl
  rw [htext]
  rfl

/-- The pod mounts the keys it projects, under the names they are read by. -/
theorem mountsFile_iff (b : PodBuilder) (operatorImage podName : String) (index : Nat)
    (role : String) (labels : GoMap String String) :
    MountsFile (podTemplate b operatorImage cluster podName index role labels) path ↔
      ∃ name key, Projects cluster name key ∧ path = podPaths.file name key := by
  constructor
  · rintro ⟨volume, hvolume, hname, container, hcontainer, mount, hmount, hmountName, sources,
      hsources, source, hsource, ⟨key, target⟩, hitem, rfl⟩
    obtain rfl := List.mem_singleton.mp hcontainer
    rw [hname] at hmountName
    have hmounted := (mem_mounts_projected hmountName).mp hmount
    have hprojected := (mem_volumes_projected index hname).mp hvolume
    unfold projectedVolumes at hprojected
    split at hprojected
    · exact absurd hprojected (List.not_mem_nil)
    · obtain rfl := List.mem_singleton.mp hprojected
      obtain rfl := VolumeSource.projected.inj hsources
      obtain ⟨volume, -, rfl⟩ := List.mem_map.mp hmounted
      have htarget : target = source.secretName ++ "/" ++ key := by
        obtain ⟨name, -, rfl⟩ := List.mem_map.mp hsource
        obtain ⟨key', -, heq⟩ := List.mem_map.mp hitem
        rw [← (Prod.mk.inj heq).1, (Prod.mk.inj heq).2]
      refine ⟨source.secretName, key, projects_iff.mpr ⟨source, hsource, rfl, ?_⟩, ?_⟩
      · rw [← htarget]
        exact hitem
      · rw [file_eq_mounted, htarget]
  · rintro ⟨name, key, hprojects, rfl⟩
    obtain ⟨source, hsource, rfl, hitem⟩ := projects_iff.mp hprojects
    have hvolumes : projectedVolumes cluster =
        [{ name := "projected-secrets", source := .projected (projectedSources cluster) }] :=
      if_neg (List.ne_nil_of_mem hsource)
    refine ⟨{ name := "projected-secrets", source := .projected (projectedSources cluster) },
      (mem_volumes_projected index rfl).mpr (by rw [hvolumes]; exact List.mem_singleton_self _),
      rfl,
      redisContainer b cluster podName, List.mem_singleton_self _,
      { name := "projected-secrets", mountPath := "/projected" },
      (mem_mounts_projected rfl).mpr (by rw [hvolumes]; exact List.mem_singleton_self _), rfl,
      _, rfl, source, hsource, _, hitem, ?_⟩
    rw [file_eq_mounted]

/-- A password is mounted exactly if a password is projected to its file. -/
theorem mountsFile_password_iff (b : PodBuilder) (operatorImage podName : String) (index : Nat)
    (role : String) (labels : GoMap String String) (secretName : String) :
    MountsFile (podTemplate b operatorImage cluster podName index role labels)
        (podPaths.file secretName "password") ↔
      ∃ name, PasswordSecret cluster name ∧
        podPaths.file secretName "password" = podPaths.file name "password" := by
  rw [mountsFile_iff]
  constructor
  · rintro ⟨name, key, ⟨rfl, hpassword⟩ | ⟨rfl, -⟩, hpath⟩
    · exact ⟨name, hpassword, hpath⟩
    · -- an ACL file has another name
      have hlast := file_getLast? secretName fileName_password
      rw [hpath, file_getLast? name fileName_acl] at hlast
      exact absurd hlast (by decide)
  · rintro ⟨name, hpassword, hpath⟩
    exact ⟨name, "password", Or.inl ⟨rfl, hpassword⟩, hpath⟩

end

/-! ## Names that agree -/

/-- The names in a spec lead the start-up to files that are mounted. -/
structure SecretNamesAgree (cluster : RedisCluster) : Prop where
  /-- a blank auth Secret falls back to the generated one, which only a source names -/
  auth : ∀ name, cluster.spec.authSecret = some name → trimmed name = "" →
    trimmed cluster.name ≠ "" →
    UnderProjected (podPaths.file (generatedAuthSecretName cluster.name) "password") →
    trimmed (replicaModeSourceAuthSecretName cluster) ≠ "" ∧
      podPaths.file (generatedAuthSecretName cluster.name) "password" =
        podPaths.file (trimmed (replicaModeSourceAuthSecretName cluster)) "password"
  /-- the Secret of the source is read untrimmed -/
  source : isReplicaModeEnabled cluster = true → replicaModeSourceAuthSecretName cluster ≠ "" →
    UnderProjected (podPaths.file (replicaModeSourceAuthSecretName cluster) "password") →
    podPaths.file (replicaModeSourceAuthSecretName cluster) "password" =
        podPaths.file (trimmed (replicaModeSourceAuthSecretName cluster)) "password" ∨
      (trimmed (cluster.spec.authSecret.getD (generatedAuthSecretName cluster.name)) ≠ "" ∧
        podPaths.file (replicaModeSourceAuthSecretName cluster) "password" =
          podPaths.file (trimmed (cluster.spec.authSecret.getD
            (generatedAuthSecretName cluster.name))) "password")

section

variable {cluster : RedisCluster} {path : CleanPath}

theorem generated_not_blank (clusterName : String) :
    trimmed (generatedAuthSecretName clusterName) ≠ "" := by
  have hdash : '-' ∈ (generatedAuthSecretName clusterName).toList := by
    simp [generatedAuthSecretName]
  exact trimmed_ne_empty hdash (by decide)

theorem effectiveAuthSecretName_withAuthSecret :
    effectiveAuthSecretName (withAuthSecret cluster) =
      if trimmed (cluster.spec.authSecret.getD (generatedAuthSecretName cluster.name)) ≠ "" then
        trimmed (cluster.spec.authSecret.getD (generatedAuthSecretName cluster.name))
      else fallbackAuthSecretName cluster := by
  unfold effectiveAuthSecretName
  rfl

theorem passwordSecret_withAuthSecret {name : String} :
    PasswordSecret (withAuthSecret cluster) name ↔ name ≠ "" ∧
      (trimmed (cluster.spec.authSecret.getD (generatedAuthSecretName cluster.name)) = name ∨
        trimmed (replicaModeSourceAuthSecretName cluster) = name) := by
  have hauth : (withAuthSecret cluster).spec.authSecret.map trimmed =
      some (trimmed (cluster.spec.authSecret.getD (generatedAuthSecretName cluster.name))) := rfl
  have hsource : replicaModeSourceAuthSecretName (withAuthSecret cluster) =
      replicaModeSourceAuthSecretName cluster := rfl
  rw [PasswordSecret, hauth, hsource, Option.some_inj]

/-- The pod's own password is mounted unless its name is blank. -/
theorem own_password_mounted_iff :
    (effectiveAuthSecretName (withAuthSecret cluster) ≠ "" →
      UnderProjected (podPaths.file (effectiveAuthSecretName (withAuthSecret cluster)) "password") →
      ∃ name, PasswordSecret (withAuthSecret cluster) name ∧
        podPaths.file (effectiveAuthSecretName (withAuthSecret cluster)) "password" =
          podPaths.file name "password") ↔
    (∀ name, cluster.spec.authSecret = some name → trimmed name = "" → trimmed cluster.name ≠ "" →
      UnderProjected (podPaths.file (generatedAuthSecretName cluster.name) "password") →
      trimmed (replicaModeSourceAuthSecretName cluster) ≠ "" ∧
        podPaths.file (generatedAuthSecretName cluster.name) "password" =
          podPaths.file (trimmed (replicaModeSourceAuthSecretName cluster)) "password") := by
  rw [effectiveAuthSecretName_withAuthSecret]
  by_cases hblank : trimmed (cluster.spec.authSecret.getD (generatedAuthSecretName cluster.name)) =
    ""
  · -- the generated name is not blank, so the spec has a blank one
    obtain ⟨authSecret, hauth⟩ : ∃ authSecret, cluster.spec.authSecret = some authSecret := by
      cases hauth : cluster.spec.authSecret with
      | none =>
        rw [hauth, Option.getD_none] at hblank
        exact absurd hblank (generated_not_blank cluster.name)
      | some authSecret => exact ⟨authSecret, rfl⟩
    rw [if_neg (fun h => h hblank), fallbackAuthSecretName]
    constructor
    · intro h name hname hempty hcluster hunder
      rw [if_neg hcluster] at h
      obtain ⟨name', hpassword, hpath⟩ := h (fun hgenerated =>
        generated_not_blank cluster.name (by rw [hgenerated, trimmed_empty])) hunder
      obtain ⟨hne, hown | hsource⟩ := passwordSecret_withAuthSecret.mp hpassword
      · exact absurd (hown.symm.trans hblank) hne
      · rw [hsource]
        exact ⟨hne, hpath⟩
    · intro h hne hunder
      by_cases hcluster : trimmed cluster.name = ""
      · exact absurd (if_pos hcluster) hne
      · rw [if_neg hcluster] at hunder ⊢
        rw [hauth, Option.getD_some] at hblank
        obtain ⟨hsource, hpath⟩ := h authSecret hauth hblank hcluster hunder
        exact ⟨_, passwordSecret_withAuthSecret.mpr ⟨hsource, Or.inr rfl⟩, hpath⟩
  · rw [if_pos hblank]
    constructor
    · intro _ name hname hempty
      rw [hname, Option.getD_some] at hblank
      exact absurd hempty hblank
    · intro _ _ _
      exact ⟨_, passwordSecret_withAuthSecret.mpr ⟨hblank, Or.inl rfl⟩, rfl⟩

/-- The password for the source is mounted where trimming keeps its file. -/
theorem source_password_mounted_iff
    (hsource : trimmed (replicaModeSourceAuthSecretName cluster) ≠ "") :
    (∃ name, PasswordSecret (withAuthSecret cluster) name ∧
      podPaths.file (replicaModeSourceAuthSecretName cluster) "password" =
        podPaths.file name "password") ↔
    podPaths.file (replicaModeSourceAuthSecretName cluster) "password" =
        podPaths.file (trimmed (replicaModeSourceAuthSecretName cluster)) "password" ∨
      (trimmed (cluster.spec.authSecret.getD (generatedAuthSecretName cluster.name)) ≠ "" ∧
        podPaths.file (replicaModeSourceAuthSecretName cluster) "password" =
          podPaths.file (trimmed (cluster.spec.authSecret.getD
            (generatedAuthSecretName cluster.name))) "password") := by
  constructor
  · rintro ⟨name, hpassword, hpath⟩
    obtain ⟨hne, rfl | rfl⟩ := passwordSecret_withAuthSecret.mp hpassword
    · exact Or.inr ⟨hne, hpath⟩
    · exact Or.inl hpath
  · rintro (hpath | ⟨hne, hpath⟩)
    · exact ⟨_, passwordSecret_withAuthSecret.mpr ⟨hsource, Or.inr rfl⟩, hpath⟩
    · exact ⟨_, passwordSecret_withAuthSecret.mpr ⟨hne, Or.inl rfl⟩, hpath⟩

theorem tlsCAPath_not_under (h : UnderProjected path) : path ≠ tlsCAPath := by
  rintro rfl
  exact absurd h.2 (by decide)

/-- After `reconcileSecrets` the pod of an admitted cluster mounts every file
    under the directory of the projected Secrets that its start-up needs, exactly
    if the names agree. -/
theorem startup_files_mounted_iff (v : RedisClusterValidator)
    (visit : List (String × String) → List (String × String)) {w w' : SecretWorld}
    (hadmitted : Admitted v w.cluster)
    (hrun : Prog.Returns SecretHandles (reconcileSecrets visit w.cluster) w (.ok ((), cluster)) w')
    (m : InstanceManager) (b : PodBuilder) (operatorImage podName : String) (index : Nat)
    (role : String) (labels : GoMap String String) :
    (∀ path, UnderProjected path → m.StartupNeeds w'.cluster path →
      MountsFile (podTemplate b operatorImage cluster podName index role labels) path) ↔
      SecretNamesAgree w.cluster := by
  obtain ⟨rfl, hstored⟩ := Prog.wp_returns hrun (wp_reconcileSecrets visit w)
  rw [hstored]
  have hhost : NamesSource (withAuthSecret w.cluster) := by
    intro henabled
    obtain ⟨source, hsource, hname, -⟩ := hadmitted.source henabled
    exact ⟨source, hsource, hname⟩
  have htrimmed : isReplicaModeEnabled w.cluster = true →
      replicaModeSourceAuthSecretName w.cluster ≠ "" →
      trimmed (replicaModeSourceAuthSecretName w.cluster) ≠ "" := by
    intro henabled
    obtain ⟨source, hsource, -, hauth⟩ := hadmitted.source henabled
    rw [sourceAuthSecretName_eq hsource]
    exact hauth
  constructor
  · intro h
    have hmounted : ∀ secretName, NeedsPassword (withAuthSecret w.cluster)
        (podPaths.file secretName "password") →
        UnderProjected (podPaths.file secretName "password") →
        ∃ name, PasswordSecret (withAuthSecret w.cluster) name ∧
          podPaths.file secretName "password" = podPaths.file name "password" :=
      fun secretName hneeds hunder => (mountsFile_password_iff b operatorImage podName index role
        labels secretName).mp (h _ hunder ((startupNeeds_iff hhost
          (tlsCAPath_not_under hunder)).mpr hneeds))
    refine ⟨?_, fun henabled hne hunder => ?_⟩
    · refine own_password_mounted_iff.mp fun hne hunder => hmounted _ ?_ hunder
      exact Or.inl ⟨hne, rfl⟩
    · refine (source_password_mounted_iff (htrimmed henabled hne)).mp (hmounted _ ?_ hunder)
      exact Or.inr ⟨henabled, hne, rfl⟩
  · intro h path hunder hneeds
    rcases (startupNeeds_iff hhost (tlsCAPath_not_under hunder)).mp hneeds with
      ⟨hne, rfl⟩ | ⟨henabled, hne, rfl⟩
    · exact (mountsFile_password_iff ..).mpr (own_password_mounted_iff.mpr h.auth hne hunder)
    · refine (mountsFile_password_iff ..).mpr ?_
      exact (source_password_mounted_iff (htrimmed henabled hne)).mpr (h.source henabled hne hunder)

end

/-- A replica cluster with a password of its own and one for its source. -/
def followingCluster (authSecretName : String) : RedisCluster where
  name := "c"
  spec :=
    { instances := 3, storageType := .emptyDir, authSecret := some "c-auth"
      replicaMode := some
        { enabled := true
          source := some { host := "10.1.0.1", port := 6379, authSecretName := authSecretName } } }

/-- Pod `c-0`. -/
def firstManager : InstanceManager where
  clusterName := "c"
  podName := "c-0"
  parsesCA := fun _ => true
  exists_ca := ⟨[], rfl⟩

/-- Both passwords of a replica cluster are mounted. -/
theorem startup_files_mounted_following :
    ∃ cluster w', Prog.Returns SecretHandles
        (reconcileSecrets id (followingCluster "upstream"))
        { cluster := followingCluster "upstream" }
        (.ok ((), cluster)) w' ∧
      ∀ path, UnderProjected path → firstManager.StartupNeeds w'.cluster path →
        MountsFile (podTemplate plainBuilder "operator:1" cluster "c-0" 0 "primary" ∅) path := by
  have hadmitted : Admitted bareWebhook (followingCluster "upstream") :=
    ⟨by decide, by decide +kernel⟩
  obtain ⟨cluster, w', hrun⟩ :=
    exists_returns_reconcileSecrets id { cluster := followingCluster "upstream" }
  refine ⟨cluster, w', hrun, ?_⟩
  refine (startup_files_mounted_iff bareWebhook id hadmitted hrun firstManager plainBuilder
    "operator:1" "c-0" 0 "primary" ∅).mpr ⟨?_, ?_⟩
  · rintro name ⟨⟩ hblank
    exact absurd hblank (by decide +kernel)
  · exact fun _ _ _ => Or.inl (by decide +kernel)

/-- A blank behind the name of the source's Secret is admitted, trimmed for the
    volume, and looked for by the start-up. -/
theorem startup_source_not_mounted :
    Admitted bareWebhook (followingCluster "upstream ") ∧
    ∃ cluster w', Prog.Returns SecretHandles
        (reconcileSecrets id (followingCluster "upstream "))
        { cluster := followingCluster "upstream " } (.ok ((), cluster)) w' ∧
      UnderProjected (podPaths.file "upstream " "password") ∧
      firstManager.StartupNeeds w'.cluster (podPaths.file "upstream " "password") ∧
      ¬ MountsFile (podTemplate plainBuilder "operator:1" cluster "c-0" 0 "primary" ∅)
        (podPaths.file "upstream " "password") := by
  have hunder : UnderProjected (podPaths.file "upstream " "password") := by
    unfold UnderProjected
    decide +kernel
  obtain ⟨cluster, w', hrun⟩ :=
    exists_returns_reconcileSecrets id { cluster := followingCluster "upstream " }
  obtain ⟨rfl, hstored⟩ := Prog.wp_returns hrun (wp_reconcileSecrets id _)
  refine ⟨⟨by decide, by decide +kernel⟩, _, w', hrun, hunder, ?_, ?_⟩
  · rw [hstored]
    refine (startupNeeds_iff ?_ (tlsCAPath_not_under hunder)).mpr (Or.inr ⟨rfl, by decide, rfl⟩)
    exact fun _ => ⟨_, rfl, by decide +kernel⟩
  · rw [mountsFile_password_iff]
    rintro ⟨name, hpassword, hpath⟩
    obtain ⟨-, rfl | rfl⟩ := passwordSecret_withAuthSecret.mp hpassword
    · exact absurd hpath (by decide +kernel)
    · exact absurd hpath (by decide +kernel)

end RedisOperator
