/-
  RedisOperator.Cluster.ConnectionSecret

  `connection_secret.go`: the Secret in which the operator publishes how to
  connect.  It is rendered anew in every pass from the Services and from the
  password in the effective auth Secret, as the bytes stand there
  (`wp_reconcileConnectionSecret`).
-/

import RedisOperator.Cluster.Secrets
import RedisOperator.Cluster.Services

namespace RedisOperator

open Lib Act

/-! ## Rendering -/

/-- The bytes that `url.UserPassword` writes as they are. -/
def userinfoLiteral (b : UInt8) : Bool :=
  b ∈ bytesOf "ABCDEFGHIJKLMNOPQRSTUVWXYZabcdefghijklmnopqrstuvwxyz0123456789-_.~$&+,;="

/-- The bytes that are written as they are in a host. -/
def hostLiteral (b : UInt8) : Bool :=
  b ∈ bytesOf "ABCDEFGHIJKLMNOPQRSTUVWXYZabcdefghijklmnopqrstuvwxyz0123456789-_.~!$&'()*+,;=:[]<>\""

/-- An upper-case hexadecimal digit. -/
def upperHexDigit (n : Nat) : UInt8 := UInt8.ofNat (if n < 10 then 0x30 + n else 0x37 + n)

/-- `escape` of `net/url`. -/
def escapeBytes (literal : UInt8 → Bool) (bytes : Bytes) : Bytes :=
  bytes.flatMap fun b =>
    if literal b then [b] else [0x25, upperHexDigit (b.toNat / 16), upperHexDigit (b.toNat % 16)]

/-- `net.JoinHostPort`. -/
def joinHostPort (host port : String) : String :=
  if ':' ∈ host.toList ∨ '%' ∈ host.toList then "[" ++ host ++ "]:" ++ port else host ++ ":" ++ port

/-- `redisDefaultUser`. -/
def redisDefaultUser : String := "default"

/-- `redisURL`. -/
def redisURL (scheme : String) (password : Bytes) (host port : String) : Bytes :=
  bytesOf scheme ++ bytesOf "://" ++
    (if password = [] then []
      else bytesOf redisDefaultUser ++ bytesOf ":" ++ escapeBytes userinfoLiteral password ++
        bytesOf "@") ++
    escapeBytes hostLiteral (bytesOf (joinHostPort host port))

/-- `serviceFQDN`. -/
def serviceFQDN (service objectNamespace : String) : String :=
  service ++ "." ++ objectNamespace ++ ".svc"

/-- The text of a mode. -/
def ClusterMode.text : ClusterMode → String
  | .standalone => "standalone"
  | .sentinel => "sentinel"
  | .cluster => "cluster"

/-- The endpoints, by mode. -/
def endpointEntries (objectNamespace : String) (cluster : RedisCluster) (password : Bytes) :
    List (String × Bytes) :=
  let scheme := if cluster.spec.isTLSEnabled then "rediss" else "redis"
  let url (host : String) := redisURL scheme password host "6379"
  let hostOf (service : String) := serviceFQDN service objectNamespace
  if cluster.spec.mode = .cluster then
    let host := hostOf (clusterHeadlessServiceName cluster.name)
    [("host", bytesOf host), ("url", url host)]
  else
    let leaderHost := hostOf (leaderServiceName cluster.name)
    let replicaHost := hostOf (replicaServiceName cluster.name)
    [("host", bytesOf leaderHost), ("url", url leaderHost), ("leader_host", bytesOf leaderHost),
      ("leader_url", url leaderHost), ("replica_host", bytesOf replicaHost),
      ("replica_url", url replicaHost)] ++
    if cluster.spec.mode = .sentinel then
      [("sentinel_host", bytesOf (hostOf (sentinelServiceName cluster.name))),
        ("sentinel_port", bytesOf "26379"), ("master_name", bytesOf cluster.name)]
    else []

/-- The entries of the connection Secret. -/
def connectionEntries (objectNamespace : String) (cluster : RedisCluster) (password : Bytes) :
    List (String × Bytes) :=
  [("cluster_name", bytesOf cluster.name), ("namespace", bytesOf objectNamespace),
    ("mode", bytesOf cluster.spec.mode.text), ("port", bytesOf "6379"),
    ("username", bytesOf redisDefaultUser)] ++
  (if password = [] then [] else [("password", password)]) ++
  endpointEntries objectNamespace cluster password

/-- `buildConnectionSecretData`. -/
def buildConnectionSecretData (objectNamespace : String) (cluster : RedisCluster)
    (password : Bytes) : GoMap String Bytes :=
  GoMap.collect some (connectionEntries objectNamespace cluster password)

/-- The password of the connection Secret, if it has one. -/
def publishedPassword (password : Bytes) : Option Bytes :=
  if password = [] then none else some password

theorem password_not_endpoint (objectNamespace : String) (cluster : RedisCluster)
    (password : Bytes) :
    "password" ∉ (endpointEntries objectNamespace cluster password).map Prod.fst := by
  unfold endpointEntries
  cases cluster.spec.mode <;> simp

/-- Only the password itself stands under `password`. -/
theorem lookup_password (objectNamespace : String) (cluster : RedisCluster) (password : Bytes) :
    (buildConnectionSecretData objectNamespace cluster password).lookup "password" =
      publishedPassword password := by
  have hentry : ∀ value, ("password", value) ∈ connectionEntries objectNamespace cluster password ↔
      publishedPassword password = some value := by
    intro value
    have hendpoint : ("password", value) ∉ endpointEntries objectNamespace cluster password :=
      fun h => password_not_endpoint objectNamespace cluster password (List.mem_map_of_mem h)
    unfold connectionEntries publishedPassword
    split <;> simp [hendpoint, eq_comm]
  unfold buildConnectionSecretData
  cases hpub : publishedPassword password with
  | none =>
    by_contra hne
    obtain ⟨value, hvalue⟩ := Option.ne_none_iff_exists'.mp hne
    obtain ⟨entry, hmem, heq⟩ := GoMap.of_lookup_collect hvalue
    rw [Option.some.inj heq, hentry, hpub] at hmem
    cases hmem
  | some value =>
    refine GoMap.lookup_collect ((hentry value).mpr hpub) rfl fun entry hmem value' heq => ?_
    rw [Option.some.inj heq, hentry, hpub] at hmem
    exact (Option.some.inj hmem).symm

/-! ## Publishing -/

/-- `connectionSecretLabel`. -/
def connectionSecretLabel : String := "redis.io/connection-secret"

/-- `resolveAuthPassword`. -/
def resolveAuthPassword : SecretOp Bytes := do
  let cluster ← Act.get
  let name := effectiveAuthSecretName cluster
  if name = "" then pure []
  else do
    let answer ← SecretOp.ask (.getSecret name)
    let secret ← SecretOp.orFail ("getting auth secret " ++ name) answer
    pure (secret.data.get "password")

/-- The Secret `ensureConnectionSecret` creates. -/
def desiredConnectionSecret (clusterName name : String) (data : GoMap String Bytes) : Secret where
  name := name
  labels := ((∅ : GoMap String String).insert labelCluster clusterName).insert
    connectionSecretLabel "true"
  data := data
  controlled := true

/-- An owned Secret, brought up to date. -/
def updatedConnectionSecret (clusterName : String) (existing : Secret) (data : GoMap String Bytes) :
    Secret :=
  { existing with
    data := data
    labels :=
      (existing.labels.insert labelCluster clusterName).insert connectionSecretLabel "true" }

/-- Create the Secret, or update one that the cluster owns. -/
def writeConnectionSecret (clusterName name : String) (data : GoMap String Bytes) :
    SecretOp Unit := do
  match ← SecretOp.ask (.getSecret name) with
  | .error err =>
    if err.reason ≠ .notFound then
      Act.fail ("getting connection secret " ++ name ++ ": " ++ err.message)
    else do
      let answer ← SecretOp.ask (.createSecret (desiredConnectionSecret clusterName name data))
      SecretOp.orFail ("creating connection secret " ++ name) answer
  | .ok existing =>
    if existing.controlled = false then pure ()
    else if existing.type = "Opaque" ∧ existing.data.deepEqual data = true ∧
        existing.labels.lookup connectionSecretLabel = some "true" then pure ()
    else do
      let answer ← SecretOp.ask
        (.updateSecret (updatedConnectionSecret clusterName existing data))
      SecretOp.orFail ("updating connection secret " ++ name) answer

/-- `ensureConnectionSecret`. -/
def ensureConnectionSecret (objectNamespace name : String) : SecretOp Unit := do
  let cluster ← Act.get
  let password ← Act.context (fun err => "resolving auth password for connection secret: " ++ err)
    resolveAuthPassword
  writeConnectionSecret cluster.name name
    (buildConnectionSecretData objectNamespace cluster password)

/-- One Secret of `pruneConnectionSecrets`. -/
def pruneConnectionSecret (keepName : String) (secret : Secret) : SecretOp Unit :=
  if secret.name = keepName ∨ secret.controlled = false then pure ()
  else do
    match ← SecretOp.ask (.deleteSecret secret.name) with
    | .ok _ => pure ()
    | .error err =>
      if err.reason = .notFound then pure ()
      else Act.fail ("deleting stale connection secret " ++ secret.name ++ ": " ++ err.message)

/-- `pruneConnectionSecrets`. -/
def pruneConnectionSecrets (keepName : String) : SecretOp Unit := do
  let cluster ← Act.get
  let answer ← SecretOp.ask (.listSecrets cluster.name)
  let secrets ← SecretOp.orFail "listing connection secrets" answer
  Act.forEach (pruneConnectionSecret keepName) secrets

/-- The name `reconcileConnectionSecret` publishes under. -/
@[irreducible] def connectionSecretName (cluster : RedisCluster) : String :=
  trimmed (cluster.spec.connectionSecret.getD "")

/-- `reconcileConnectionSecret`. -/
def reconcileConnectionSecret (objectNamespace : String) : SecretOp Unit := do
  let cluster ← Act.get
  let desiredName := connectionSecretName cluster
  if desiredName = "" then pruneConnectionSecrets ""
  else do
    ensureConnectionSecret objectNamespace desiredName
    pruneConnectionSecrets desiredName

/-! ## What is written -/

/-- What the request writes into a Secret. -/
def SecretCmd.written : SecretCmd → Option Secret
  | .createSecret secret | .updateSecret secret => some secret
  | _ => none

/-- Everything the request writes has this under `password`. -/
def SecretCmd.Publishes (password : Option Bytes) (c : SecretCmd) : Prop :=
  ∀ secret ∈ c.written, secret.data.lookup "password" = password

section

variable {w : SecretWorld} {l : RedisCluster} {objectNamespace : String} {content : Bytes}

/-- The auth Secret in force has these bytes under `password`. -/
def HoldsPassword (l : RedisCluster) (content : Bytes) (w : SecretWorld) : Prop :=
  ∃ secret, w.secrets.lookup (effectiveAuthSecretName l) = some secret ∧
    secret.data.lookup "password" = some content

theorem wp_resolveAuthPassword {P : SecretWorld → SecretCmd → Prop}
    (hw : HoldsPassword l content w) (hname : effectiveAuthSecretName l ≠ "")
    (hP : P w (.getSecret (effectiveAuthSecretName l)))
    {Q : Bytes → RedisCluster → SecretWorld → Prop}
    (hQ : ∀ w', Q content l w') :
    wp SecretHandles P resolveAuthPassword Q (fun _ _ => True) l w := by
  obtain ⟨secret, hsecret, hpassword⟩ := hw
  unfold resolveAuthPassword
  rw [wp_bind, wp_get]
  refine wp_ite.mpr ⟨fun h => absurd h hname, fun _ => ?_⟩
  rw [wp_bind, wp_secretAsk]
  refine ⟨hP, fun r w' hr => ?_⟩
  rw [wp_bind, wp_orFail]
  rintro stored rfl
  rcases hr with ⟨hstored, -⟩ | ⟨⟨message, herr⟩, -⟩
  · rw [hsecret] at hstored
    cases hstored
    rw [wp_pure, GoMap.get_of_lookup hpassword]
    exact hQ w'
  · cases herr

theorem publishes_of_written {c : SecretCmd} (password : Option Bytes) (h : c.written = none) :
    c.Publishes password := by
  intro secret hsecret
  rw [h] at hsecret
  cases hsecret

theorem local_pruneConnectionSecrets (keepName : String) (password : Option Bytes) :
    KeepsLocal (SecretCmd.Publishes password) (pruneConnectionSecrets keepName) := by
  refine KeepsLocal.get.bind fun cluster =>
    (KeepsLocal.request (publishes_of_written _ rfl)).bind fun r =>
      (local_orFail _ r).bind fun secrets => .forEach fun secret => ?_
  refine .ite (fun _ => .pure ()) fun _ => ?_
  refine (KeepsLocal.request (publishes_of_written _ rfl)).bind fun r => ?_
  cases r with
  | ok _ => exact .pure ()
  | error err =>
    exact .ite (fun _ => .pure ()) fun _ => .fail _

theorem local_writeConnectionSecret (clusterName name : String) {data : GoMap String Bytes}
    {password : Option Bytes} (hdata : data.lookup "password" = password) :
    KeepsLocal (SecretCmd.Publishes password) (writeConnectionSecret clusterName name data) := by
  refine (KeepsLocal.request (publishes_of_written _ rfl)).bind fun r => ?_
  cases r with
  | error err =>
    refine .ite (fun _ => .fail _) fun _ =>
      (KeepsLocal.request ?_).bind fun r => local_orFail _ r
    rintro _ ⟨⟩
    exact hdata
  | ok existing =>
    refine .ite (fun _ => .pure ()) fun _ =>
      .ite (fun _ => .pure ()) fun _ =>
        (KeepsLocal.request ?_).bind fun r => local_orFail _ r
    rintro _ ⟨⟩
    exact hdata

/-- Steps that publish this password only, whatever the answers. -/
theorem wp_publishing {α : Type} {x : SecretOp α} {password : Option Bytes}
    (hx : KeepsLocal (SecretCmd.Publishes password) x) :
    wp SecretHandles (fun _ c => c.Publishes password) x (fun _ l' _ => l' = l)
      (fun _ _ => True) l w :=
  hx.wp (fun _ _ _ hc => hc) (fun _ _ _ _ _ _ _ => trivial) trivial (fun _ _ _ => rfl)
    fun _ _ _ => trivial

/-- Every Secret that is written has the password as it stands in the auth Secret. -/
theorem wp_reconcileConnectionSecret (hw : HoldsPassword l content w)
    (hname : effectiveAuthSecretName l ≠ "") :
    wp SecretHandles (fun _ c => c.Publishes (publishedPassword content))
      (reconcileConnectionSecret objectNamespace) (fun _ l' _ => l' = l) (fun _ _ => True) l w := by
  unfold reconcileConnectionSecret
  rw [wp_bind, wp_get]
  refine wp_ite.mpr ⟨fun _ => wp_publishing (local_pruneConnectionSecrets _ _), fun _ => ?_⟩
  unfold ensureConnectionSecret
  rw [wp_bind, wp_bind, wp_get, wp_bind, wp_context]
  refine wp_resolveAuthPassword hw hname (publishes_of_written _ rfl) fun w₁ => ?_
  have hwrite := local_writeConnectionSecret l.name (connectionSecretName l)
    (lookup_password objectNamespace l content)
  refine wp_post (wp_publishing hwrite) ?_
  rintro _ _ w₂ rfl
  exact wp_publishing (local_pruneConnectionSecrets _ _)

/-! ## There is something to write -/

/-- A Secret of the cluster's with a password. -/
def ownedSecret (name : String) (content : Bytes) : Secret where
  name := name
  data := (∅ : GoMap String Bytes).insert "password" content
  controlled := true

/-- The auth Secret, and an outdated connection Secret. -/
def outdatedSecrets (l : RedisCluster) (content : Bytes) : SecretWorld where
  cluster := l
  secrets := ((∅ : GoMap String Secret).insert (connectionSecretName l)
      (ownedSecret (connectionSecretName l) content)).insert (effectiveAuthSecretName l)
    (ownedSecret (effectiveAuthSecretName l) content)

theorem outdatedSecrets_holds : HoldsPassword l content (outdatedSecrets l content) :=
  ⟨ownedSecret (effectiveAuthSecretName l) content, GoMap.lookup_insert_self,
    GoMap.lookup_insert_self⟩

theorem may_resolveAuthPassword {B : SecretWorld → SecretCmd → Prop}
    (hw : HoldsPassword l content w) (hname : effectiveAuthSecretName l ≠ "")
    {Q : Bytes → RedisCluster → SecretWorld → Prop} (hQ : Q content l w) :
    may SecretHandles B resolveAuthPassword Q l w := by
  obtain ⟨secret, hsecret, hpassword⟩ := hw
  unfold resolveAuthPassword
  rw [may_bind, may_get]
  refine may_ite.mpr (Or.inr ⟨hname, ?_⟩)
  rw [may_bind, may_secretAsk]
  refine Or.inr ⟨.ok secret, w, Or.inl ⟨?_, rfl⟩, ?_⟩
  · rw [hsecret]
    rfl
  · rw [← GoMap.get_of_lookup hpassword] at hQ
    exact hQ

/-- An outdated Secret is brought up to date. -/
theorem may_reconcileConnectionSecret (hname : effectiveAuthSecretName l ≠ "")
    (hconn : connectionSecretName l ≠ "") :
    may SecretHandles (fun _ c => c.written ≠ none) (reconcileConnectionSecret objectNamespace)
      (fun _ _ _ => False) l (outdatedSecrets l content) := by
  have hexisting : ∃ existing, (outdatedSecrets l content).secrets.lookup (connectionSecretName l) =
      some existing ∧ existing.controlled = true ∧ existing.labels = ∅ := by
    show ∃ existing, GoMap.lookup (GoMap.insert _ _ _) _ = _ ∧ _
    rw [GoMap.lookup_insert]
    split
    · exact ⟨_, rfl, rfl, rfl⟩
    · rw [GoMap.lookup_insert_self]
      exact ⟨_, rfl, rfl, rfl⟩
  obtain ⟨existing, hlookup, hcontrolled, hlabels⟩ := hexisting
  unfold reconcileConnectionSecret
  rw [may_bind, may_get]
  refine may_ite.mpr (Or.inr ⟨hconn, ?_⟩)
  unfold ensureConnectionSecret
  rw [may_bind, may_bind, may_get, may_bind, may_context]
  refine may_resolveAuthPassword outdatedSecrets_holds hname ?_
  unfold writeConnectionSecret
  rw [may_bind, may_secretAsk]
  refine Or.inr ⟨.ok existing, _, Or.inl ⟨?_, rfl⟩, ?_⟩
  · rw [hlookup]
    rfl
  · refine may_ite.mpr (Or.inr ⟨by rw [hcontrolled]; decide, ?_⟩)
    refine may_ite.mpr (Or.inr ⟨?_, ?_⟩)
    · rw [hlabels]
      rintro ⟨-, -, hlabel⟩
      cases hlabel
    · rw [may_bind, may_secretAsk]
      exact Or.inl (Option.some_ne_none _)

/-- A pass of the operator publishes `password` while the auth Secret holds `content`. -/
def PublishesPassword (objectNamespace : String) (l : RedisCluster) (content : Bytes)
    (password : Option Bytes) : Prop :=
  ∃ w w' c secret, HoldsPassword l content w ∧
    Prog.Issues SecretHandles (reconcileConnectionSecret objectNamespace l) w w' c ∧
    secret ∈ c.written ∧ secret.data.lookup "password" = password

/-- What is published is what the auth Secret holds. -/
theorem publishesPassword_iff (hname : effectiveAuthSecretName l ≠ "")
    (hconn : connectionSecretName l ≠ "")
    {password : Option Bytes} :
    PublishesPassword objectNamespace l content password ↔
    password = publishedPassword content := by
  have hwritten : ∀ {w w' c}, HoldsPassword l content w →
      Prog.Issues SecretHandles (reconcileConnectionSecret objectNamespace l) w w' c →
      c.Publishes (publishedPassword content) :=
    fun hw hissued => (Prog.wp_iff.mp (wp_reconcileConnectionSecret hw hname)).1 _ _ hissued
  constructor
  · rintro ⟨w, w', c, secret, hw, hissued, hsecret, rfl⟩
    exact hwritten hw hissued secret hsecret
  · rintro rfl
    rcases Prog.may_iff.mp (may_reconcileConnectionSecret hname hconn) with
      ⟨w', c, hissued, hne⟩ | ⟨_, _, _, hfalse⟩
    · obtain ⟨secret, hsecret⟩ := Option.ne_none_iff_exists'.mp hne
      exact ⟨_, w', c, secret, outdatedSecrets_holds, hissued, hsecret,
        hwritten outdatedSecrets_holds hissued secret hsecret⟩
    · rename_i o _ _
      cases o with
      | error err => exact hfalse.elim
      | ok al => exact hfalse.elim

end

end RedisOperator
