/-
  RedisOperator.Cluster.Secrets

  `secrets.go`: the Secrets a cluster refers to, and the password the operator
  makes when the spec names none.  The requests defined here are also those of
  `connection_secret.go`.

  The name of the effective auth Secret is computed three times in the source,
  by the operator, by the instance manager at start-up and by its reconciler,
  in the same words; here it is one function.
-/

import RedisOperator.Cluster.World
import RedisOperator.Lib.GoBytes

namespace RedisOperator

open Lib Act

/-! ## Secrets and their requests -/

/-- `corev1.Secret`: `controlled` says that the RedisCluster is its controller. -/
structure Secret where
  name : String
  labels : GoMap String String := ∅
  type : String := "Opaque"
  data : GoMap String Bytes := ∅
  controlled : Bool := false
  resourceVersion : String := ""
  deriving DecidableEq, Inhabited

/-- Requests of the steps that deal with Secrets. -/
inductive SecretCmd
  | getSecret (name : String)
  | createSecret (secret : Secret)
  | updateSecret (secret : Secret)
  /-- the Secrets that carry the cluster's label -/
  | listSecrets (clusterName : String)
  | deleteSecret (name : String)
  /-- `rand.Read` -/
  | randomBytes (count : Nat)
  | getCluster
  | patchCluster (before after : RedisCluster)
  /-- the status patch of `secretsResourceVersion` -/
  | patchSecretsVersion (versions : GoMap String String)

/-- Their answers. -/
@[reducible] def SecretReply : SecretCmd → Type
  | .getSecret _ => Api Secret
  | .listSecrets _ => Api (List Secret)
  | .randomBytes _ => Except String Bytes
  | .getCluster => Api RedisCluster
  | .patchCluster .. => Api RedisCluster
  | .createSecret _ | .updateSecret _ | .deleteSecret _ | .patchSecretsVersion _ => Api Unit

/-- A step over them, working on its copy of the cluster. -/
abbrev SecretOp (α : Type) : Type := Act RedisCluster String SecretCmd SecretReply α

/-- The namespace as these steps see it. -/
structure SecretWorld where
  cluster : RedisCluster
  secrets : GoMap String Secret := ∅
  versions : GoMap String String := ∅

namespace SecretOp

/-- Issue a request. -/
def ask (c : SecretCmd) : SecretOp (SecretReply c) := Act.request c

/-- Go on with the value of an answer, or return its error behind `what`. -/
def orFail {α : Type} (what : String) : Api α → SecretOp α
  | .ok a => pure a
  | .error err => Act.fail (what ++ ": " ++ err.message)

/-- `if c { … }`. -/
def doWhen (c : Prop) [Decidable c] (x : SecretOp Unit) : SecretOp Unit := if c then x else pure ()

end SecretOp

/-- How the API server answers; it stamps what it stores. -/
def SecretAnswers (w : SecretWorld) : (c : SecretCmd) → SecretReply c → SecretWorld → Prop
  | .getSecret name, r, w' => r = found "secrets" name (w.secrets.lookup name) ∧ w' = w
  | .createSecret secret, r, w' =>
    match w.secrets.lookup secret.name with
    | some _ => r = .error (alreadyThere "secrets" secret.name) ∧ w' = w
    | none =>
      r = .ok () ∧ ∃ version, w' = { w with
        secrets := w.secrets.insert secret.name { secret with resourceVersion := version } }
  | .updateSecret secret, r, w' =>
    match w.secrets.lookup secret.name with
    | none => r = found "secrets" secret.name none ∧ w' = w
    | some stored =>
      if stored.resourceVersion ≠ secret.resourceVersion then
        (∃ message, r = .error ⟨.conflict, message⟩) ∧ w' = w
      else
        r = .ok () ∧ ∃ version, w' = { w with
          secrets := w.secrets.insert secret.name { secret with resourceVersion := version } }
  | .listSecrets clusterName, r, w' =>
    r = .ok ((w.secrets.pairs.map Prod.snd).filter fun secret =>
      secret.labels.lookup labelCluster = some clusterName) ∧ w' = w
  | .deleteSecret name, r, w' =>
    match w.secrets.lookup name with
    | none => r = found "secrets" name none ∧ w' = w
    | some _ => r = .ok () ∧ w' = { w with secrets := w.secrets.erase name }
  | .randomBytes count, r, w' => (∃ bytes, bytes.length = count ∧ r = .ok bytes) ∧ w' = w
  | .getCluster, r, w' => r = .ok w.cluster ∧ w' = w
  | .patchCluster before after, r, w' =>
    r = .ok (mergeCluster before after w.cluster) ∧
      w' = { w with cluster := mergeCluster before after w.cluster }
  | .patchSecretsVersion versions, r, w' => r = .ok () ∧ w' = { w with versions := versions }

/-- The answer is an error the API server did not have to give. -/
def SecretFails : (c : SecretCmd) → SecretReply c → Prop
  | .getSecret _, r => ∃ message, r = .error ⟨.other, message⟩
  | .listSecrets _, r => ∃ message, r = .error ⟨.other, message⟩
  | .randomBytes _, r => ∃ message, r = .error message
  | .getCluster, r | .patchCluster .., r => ∃ message, r = .error ⟨.other, message⟩
  | .createSecret _, r | .updateSecret _, r | .deleteSecret _, r
  | .patchSecretsVersion _, r => ∃ message, r = .error ⟨.other, message⟩

/-- A request may also fail, carried out or not. -/
def SecretHandles : Prog.Handler SecretCmd SecretReply SecretWorld := fun w c r w' =>
  SecretAnswers w c r w' ∨
    (SecretFails c r ∧ (w' = w ∨ ∃ answer, SecretAnswers w c answer w'))

/-! ## Names -/

/-- `generatedAuthSecretName`. -/
def generatedAuthSecretName (clusterName : String) : String := clusterName ++ "-auth"

/-- What `effectiveAuthSecretName` falls back to. -/
def fallbackAuthSecretName (cluster : RedisCluster) : String :=
  if trimmed cluster.name = "" then "" else generatedAuthSecretName cluster.name

/-- `effectiveAuthSecretName`. -/
@[irreducible] def effectiveAuthSecretName (cluster : RedisCluster) : String :=
  match cluster.spec.authSecret with
  | none => fallbackAuthSecretName cluster
  | some authSecret =>
    if trimmed authSecret ≠ "" then trimmed authSecret else fallbackAuthSecretName cluster

/-- `replicaModeSourceAuthSecretName`. -/
def replicaModeSourceAuthSecretName (cluster : RedisCluster) : String :=
  match cluster.spec.replicaMode with
  | none => ""
  | some replicaMode =>
    match replicaMode.source with
    | none => ""
    | some source => source.authSecretName

/-! ## Making and recording them -/

/-- A lower-case hexadecimal digit. -/
def hexDigit (n : Nat) : UInt8 := UInt8.ofNat (if n < 10 then 0x30 + n else 0x57 + n)

/-- `hex.EncodeToString`. -/
def encodeHex (bytes : Bytes) : Bytes :=
  bytes.flatMap fun b => [hexDigit (b.toNat / 16), hexDigit (b.toNat % 16)]

/-- The Secret `ensureAuthSecret` creates. -/
def authSecretWith (clusterName secretName : String) (password : Bytes) : Secret where
  name := secretName
  labels := (∅ : GoMap String String).insert labelCluster clusterName
  data := (∅ : GoMap String Bytes).insert "password" password

/-- `ensureAuthSecret`. -/
def ensureAuthSecret (secretName : String) : SecretOp Unit := do
  let cluster ← Act.get
  match ← SecretOp.ask (.getSecret secretName) with
  | .ok _ => pure ()
  | .error err =>
    if err.reason ≠ .notFound then Act.fail ("checking auth secret: " ++ err.message)
    else do
      match ← SecretOp.ask (.randomBytes 16) with
      | .error err => Act.fail ("generating random password: " ++ err)
      | .ok passwordBytes =>
        let answer ← SecretOp.ask (.createSecret
          (authSecretWith cluster.name secretName (encodeHex passwordBytes)))
        SecretOp.orFail "creating auth secret" answer

/-- The cluster with this auth Secret in its spec. -/
def nameAuthSecret (cluster : RedisCluster) (secretName : String) : RedisCluster :=
  { cluster with spec := { cluster.spec with authSecret := some secretName } }

/-- The spec gets the name of a Secret of its own. -/
def fillAuthSecret : SecretOp Unit := do
  let cluster ← Act.get
  let secretName := generatedAuthSecretName cluster.name
  Act.context (fun err => "ensuring auth secret: " ++ err) (ensureAuthSecret secretName)
  let patched ← SecretOp.ask (.patchCluster cluster (nameAuthSecret cluster secretName))
  let _ ← SecretOp.orFail "persisting generated auth secret reference" patched
  let refetched ← SecretOp.ask .getCluster
  let stored ← SecretOp.orFail "refetching cluster after auth secret persistence" refetched
  Act.set stored

/-- The references of the spec that are set, with the Secrets they name. -/
def secretRefs (cluster : RedisCluster) : List (String × String) :=
  let ref (refName : String) (name : Option String) := (name.map fun name => (refName, name)).toList
  ref "aclConfigSecret" cluster.spec.aclConfigSecret ++
    ref "tlsSecret" cluster.spec.tlsSecret ++
    ref "caSecret" cluster.spec.caSecret ++
    ref "backupCredentialsSecret" cluster.spec.backupCredentialsSecret ++
    ref "authSecret" ((some (effectiveAuthSecretName cluster)).filter (· ≠ "")) ++
    ref "replicaMode.source.authSecretName"
      ((some (replicaModeSourceAuthSecretName cluster)).filter (· ≠ ""))

/-- The versions of the Secrets that exist. -/
def secretVersions : List (String × String) → GoMap String String → SecretOp (GoMap String String)
  | [], versions => pure versions
  | (_, name) :: refs, versions => do
      match ← SecretOp.ask (.getSecret name) with
      | .ok secret => secretVersions refs (versions.insert name secret.resourceVersion)
      | .error err =>
        if err.reason = .notFound then secretVersions refs versions
        else Act.fail ("getting secret " ++ name ++ ": " ++ err.message)

/-- Record the versions; `visit` is the order in which the map of references is
    visited. -/
def recordSecretVersions (visit : List (String × String) → List (String × String)) :
    SecretOp Unit := do
  let cluster ← Act.get
  let versions ← secretVersions (visit (secretRefs cluster)) ∅
  let answer ← SecretOp.ask (.patchSecretsVersion versions)
  SecretOp.orFail "patching secrets resource version" answer

/-- `reconcileSecrets` of the operator. -/
def reconcileSecrets (visit : List (String × String) → List (String × String)) : SecretOp Unit := do
  let cluster ← Act.get
  SecretOp.doWhen (cluster.spec.authSecret = none) fillAuthSecret
  recordSecretVersions visit

/-! ## What the step leaves in the spec -/

/-- The cluster with its auth Secret named. -/
def withAuthSecret (cluster : RedisCluster) : RedisCluster :=
  nameAuthSecret cluster (cluster.spec.authSecret.getD (generatedAuthSecretName cluster.name))

/-- Requests that leave the cluster object alone. -/
def SecretCmd.SparesCluster : SecretCmd → Prop
  | .patchCluster .. => False
  | _ => True

section

variable {w w' : SecretWorld} {c : SecretCmd} {r : SecretReply c}

theorem cluster_of_secretAnswers (hc : c.SparesCluster) (h : SecretAnswers w c r w') :
    w'.cluster = w.cluster := by
  cases c with
  | patchCluster before after => exact hc.elim
  | getSecret name => rw [h.2]
  | listSecrets clusterName => rw [h.2]
  | randomBytes count => rw [h.2]
  | getCluster => rw [h.2]
  | patchSecretsVersion versions => rw [h.2]
  | createSecret secret =>
    cases hl : w.secrets.lookup secret.name with
    | some stored =>
      simp only [SecretAnswers, hl] at h
      rw [h.2]
    | none =>
      simp only [SecretAnswers, hl] at h
      obtain ⟨-, version, rfl⟩ := h
      rfl
  | updateSecret secret =>
    cases hl : w.secrets.lookup secret.name with
    | none =>
      simp only [SecretAnswers, hl] at h
      rw [h.2]
    | some stored =>
      simp only [SecretAnswers, hl] at h
      split at h
      · rw [h.2]
      · obtain ⟨-, version, rfl⟩ := h
        rfl
  | deleteSecret name =>
    cases hl : w.secrets.lookup name with
    | none =>
      simp only [SecretAnswers, hl] at h
      rw [h.2]
    | some stored =>
      simp only [SecretAnswers, hl] at h
      rw [h.2]

theorem cluster_of_secretHandles (hc : c.SparesCluster) (h : SecretHandles w c r w') :
    w'.cluster = w.cluster := by
  rcases h with h | ⟨-, rfl | ⟨answer, h⟩⟩
  · exact cluster_of_secretAnswers hc h
  · rfl
  · exact cluster_of_secretAnswers hc h

end

section

variable {P : SecretWorld → SecretCmd → Prop}

theorem local_orFail {α : Type} {G : SecretCmd → Prop} (what : String) (answer : Api α) :
    KeepsLocal G (SecretOp.orFail what answer) := by
  cases answer with
  | ok a => exact .pure a
  | error err => exact .fail _

theorem local_ensureAuthSecret (secretName : String) :
    KeepsLocal SecretCmd.SparesCluster (ensureAuthSecret secretName) := by
  refine KeepsLocal.get.bind fun cluster => (KeepsLocal.request trivial).bind fun r => ?_
  cases r with
  | ok secret => exact .pure ()
  | error err =>
    refine .ite (fun _ => .fail _) fun _ => ?_
    refine (KeepsLocal.request trivial).bind fun r => ?_
    cases r with
    | error err => exact .fail _
    | ok bytes => exact (KeepsLocal.request trivial).bind fun r => local_orFail _ r

theorem local_secretVersions (refs : List (String × String)) (versions : GoMap String String) :
    KeepsLocal SecretCmd.SparesCluster (secretVersions refs versions) := by
  induction refs generalizing versions with
  | nil => exact .pure versions
  | cons ref refs ih =>
    refine (KeepsLocal.request trivial).bind fun r => ?_
    cases r with
    | ok secret => exact ih _
    | error err => exact .ite (fun _ => ih _) fun _ => .fail _

variable {l : RedisCluster} {w : SecretWorld}

/-- The steps that spare the cluster object hand on the copy and the object. -/
theorem wp_sparing {α : Type} {x : SecretOp α} (hx : KeepsLocal SecretCmd.SparesCluster x)
    {Q : α → RedisCluster → SecretWorld → Prop} (hQ : ∀ a w', w'.cluster = w.cluster → Q a l w') :
    wp SecretHandles (fun _ _ => True) x Q (fun _ _ => True) l w :=
  hx.wp (fun _ _ _ _ => trivial)
    (fun _ _ _ _ hw hc hr => (cluster_of_secretHandles hc hr).trans hw) rfl hQ fun _ _ _ => trivial

theorem wp_secretAsk {c : SecretCmd} {H : Prog.Handler SecretCmd SecretReply SecretWorld}
    {Q : SecretReply c → RedisCluster → SecretWorld → Prop} {F : String → SecretWorld → Prop} :
    wp H P (SecretOp.ask c) Q F l w ↔ P w c ∧ ∀ r w', H w c r w' → Q r l w' :=
  wp_request

/-- An answer that may be an error: either the step goes on, or it has failed. -/
theorem wp_orFail {α : Type} {what : String} {answer : Api α}
    {Q : α → RedisCluster → SecretWorld → Prop} :
    wp SecretHandles P (SecretOp.orFail what answer) Q (fun _ _ => True) l w ↔
      ∀ a, answer = .ok a → Q a l w := by
  cases answer with
  | ok a => exact ⟨fun h _ ha => by cases ha; exact h, fun h => h a rfl⟩
  | error err => exact iff_of_true trivial fun _ ha => nomatch ha

theorem may_secretAsk {c : SecretCmd} {H : Prog.Handler SecretCmd SecretReply SecretWorld}
    {Q : SecretReply c → RedisCluster → SecretWorld → Prop} :
    may H P (SecretOp.ask c) Q l w ↔ P w c ∨ ∃ r w', H w c r w' ∧ Q r l w' :=
  may_request

theorem wp_fillAuthSecret (w : SecretWorld) (hnone : w.cluster.spec.authSecret = none) :
    wp SecretHandles (fun _ _ => True) fillAuthSecret
      (fun _ l' w' => l' = withAuthSecret w.cluster ∧ w'.cluster = withAuthSecret w.cluster)
      (fun _ _ => True) w.cluster w := by
  unfold fillAuthSecret
  rw [wp_bind, wp_get, wp_bind, wp_context]
  refine wp_sparing (local_ensureAuthSecret _) fun _ w₁ hw₁ => ?_
  rw [wp_bind, wp_secretAsk]
  refine ⟨trivial, fun r w₂ hr => ?_⟩
  rw [wp_bind, wp_orFail]
  rintro patched rfl
  have hw₂ : w₂.cluster = withAuthSecret w.cluster := by
    rcases hr with ⟨-, rfl⟩ | ⟨⟨message, herr⟩, -⟩
    · show mergeCluster w.cluster _ w₁.cluster = _
      rw [hw₁, mergeCluster_self, withAuthSecret, hnone]
      rfl
    · cases herr
  rw [wp_bind, wp_secretAsk]
  refine ⟨trivial, fun r w₃ hr => ?_⟩
  rw [wp_bind, wp_orFail]
  rintro stored rfl
  rcases hr with ⟨hstored, rfl⟩ | ⟨⟨message, herr⟩, -⟩
  · cases hstored
    exact ⟨hw₂, hw₂⟩
  · cases herr

theorem wp_recordSecretVersions (visit : List (String × String) → List (String × String)) :
    wp SecretHandles (fun _ _ => True) (recordSecretVersions visit)
      (fun _ l' w' => l' = l ∧ w'.cluster = w.cluster) (fun _ _ => True) l w := by
  refine wp_sparing ?_ fun _ _ hw => ⟨rfl, hw⟩
  exact KeepsLocal.get.bind fun _ => (local_secretVersions _ _).bind fun _ =>
    (KeepsLocal.request trivial).bind fun r => local_orFail _ r

/-- After `reconcileSecrets` the spec names an auth Secret, in the copy and in
    the object. -/
theorem wp_reconcileSecrets (visit : List (String × String) → List (String × String))
    (w : SecretWorld) :
    wp SecretHandles (fun _ _ => True) (reconcileSecrets visit)
      (fun _ l' w' => l' = withAuthSecret w.cluster ∧ w'.cluster = withAuthSecret w.cluster)
      (fun _ _ => True) w.cluster w := by
  unfold reconcileSecrets
  rw [wp_bind, wp_get, wp_bind]
  refine wp_ite.mpr ⟨fun hnone => ?_, fun hsome => ?_⟩
  · refine wp_post (wp_fillAuthSecret w hnone) ?_
    rintro _ _ w₁ ⟨rfl, hw₁⟩
    rw [← hw₁]
    exact wp_recordSecretVersions visit
  · obtain ⟨authSecret, h⟩ := Option.ne_none_iff_exists'.mp hsome
    have hsame : withAuthSecret w.cluster = w.cluster := by
      rw [withAuthSecret, nameAuthSecret, h, Option.getD_some, ← h]
    rw [hsame]
    exact wp_recordSecretVersions visit

/-! ## The step can succeed -/

theorem may_secretVersions (refs : List (String × String)) (versions : GoMap String String)
    {Q : GoMap String String → RedisCluster → SecretWorld → Prop}
    (hQ : ∀ versions, Q versions l w) :
    may SecretHandles P (secretVersions refs versions) Q l w := by
  induction refs generalizing versions with
  | nil => exact hQ versions
  | cons ref refs ih =>
    unfold secretVersions
    rw [may_bind, may_secretAsk]
    refine Or.inr ⟨found "secrets" ref.2 (w.secrets.lookup ref.2), w, Or.inl ⟨rfl, rfl⟩, ?_⟩
    cases w.secrets.lookup ref.2 with
    | some secret => exact ih _
    | none => exact may_ite.mpr (Or.inl ⟨rfl, ih _⟩)

theorem handles_createSecret {secret : Secret} (h : w.secrets.lookup secret.name = none) :
    SecretHandles w (.createSecret secret) (.ok ())
      { w with secrets := w.secrets.insert secret.name { secret with resourceVersion := "" } } := by
  refine Or.inl ?_
  simp only [SecretAnswers, h]
  exact ⟨trivial, "", rfl⟩

theorem may_ensureAuthSecret (secretName : String)
    {Q : Unit → RedisCluster → SecretWorld → Prop} (hQ : ∀ w', Q () l w') :
    may SecretHandles P (ensureAuthSecret secretName) Q l w := by
  unfold ensureAuthSecret
  rw [may_bind, may_get, may_bind, may_secretAsk]
  refine Or.inr ⟨found "secrets" secretName (w.secrets.lookup secretName), w,
    Or.inl ⟨rfl, rfl⟩, ?_⟩
  cases hlookup : w.secrets.lookup secretName with
  | some secret => exact hQ w
  | none =>
    refine may_ite.mpr (Or.inr ⟨fun h => h rfl, ?_⟩)
    rw [may_bind, may_secretAsk]
    have hrandom : SecretHandles w (.randomBytes 16) (.ok (List.replicate 16 0)) w :=
      Or.inl ⟨⟨_, List.length_replicate, rfl⟩, rfl⟩
    refine Or.inr ⟨_, w, hrandom, ?_⟩
    dsimp only
    rw [may_bind, may_secretAsk]
    exact Or.inr ⟨.ok (), _, handles_createSecret hlookup, hQ _⟩

theorem may_fillAuthSecret
    {Q : Unit → RedisCluster → SecretWorld → Prop} (hQ : ∀ l' w', Q () l' w') :
    may SecretHandles P fillAuthSecret Q l w := by
  unfold fillAuthSecret
  rw [may_bind, may_get, may_bind]
  refine may_context.mpr (may_ensureAuthSecret _ fun w₁ => ?_)
  rw [may_bind, may_secretAsk]
  refine Or.inr ⟨.ok _, _, Or.inl ⟨rfl, rfl⟩, ?_⟩
  rw [may_bind]
  refine may_pure _ |>.mpr ?_
  rw [may_bind, may_secretAsk]
  refine Or.inr ⟨.ok _, _, Or.inl ⟨rfl, rfl⟩, ?_⟩
  rw [may_bind]
  exact hQ _ _

/-- Nothing but a failing request keeps `reconcileSecrets` from succeeding. -/
theorem exists_returns_reconcileSecrets
    (visit : List (String × String) → List (String × String)) (w : SecretWorld) :
    ∃ cluster w', Prog.Returns SecretHandles (reconcileSecrets visit w.cluster) w
      (.ok ((), cluster)) w' := by
  have hrecord : ∀ l w, may SecretHandles (fun _ _ => False) (recordSecretVersions visit)
      (fun _ _ _ => True) l w := by
    intro l w
    unfold recordSecretVersions
    rw [may_bind, may_get, may_bind]
    refine may_secretVersions _ _ fun versions => ?_
    rw [may_bind, may_secretAsk]
    exact Or.inr ⟨.ok (), _, Or.inl ⟨rfl, rfl⟩, trivial⟩
  have hmay : may SecretHandles (fun _ _ => False) (reconcileSecrets visit)
      (fun _ _ _ => True) w.cluster w := by
    unfold reconcileSecrets
    rw [may_bind, may_get, may_bind]
    refine may_ite.mpr ?_
    by_cases hnone : w.cluster.spec.authSecret = none
    · exact Or.inl ⟨hnone, may_fillAuthSecret fun l' w' => hrecord l' w'⟩
    · exact Or.inr ⟨hnone, hrecord _ _⟩
  rcases Prog.may_iff.mp hmay with ⟨_, _, _, hfalse⟩ | ⟨o, w', hret, ho⟩
  · exact hfalse.elim
  · cases o with
    | error err => exact ho.elim
    | ok outcome => exact ⟨outcome.2, w', hret⟩

end

end RedisOperator
