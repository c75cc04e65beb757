/-
  RedisOperator.Instance.Secrets

  `reconcileSecrets` of the instance manager: it reads the projected copies of
  the Secrets and hands them to the running Redis.  The password is trimmed on
  the way (`readSecretKey`), while the operator publishes it as it stands in the
  Secret; `published_password_works_iff` says for which passwords that is the
  same.
-/

import RedisOperator.Cluster.ConnectionSecret
import RedisOperator.Instance.RoleManager
import RedisOperator.Lib.GoPath

namespace RedisOperator

open Lib Act

/-! ## Requests -/

/-- A cleaned file name. -/
abbrev CleanPath : Type := Bool × List Segment

/-- What `os.ReadFile` fails with. -/
structure ReadError where
  /-- `os.IsNotExist` -/
  notExist : Bool
  message : String

/-- Files and Redis, as `reconcileSecrets` uses them. -/
inductive LiveCmd
  | readFile (path : CleanPath)
  | writeFile (path : CleanPath) (content : Bytes)
  /-- `CONFIG SET` -/
  | configSet (key : String) (value : Bytes)
  /-- `ACL LOAD` -/
  | aclLoad

/-- Their answers. -/
@[reducible] def LiveReply : LiveCmd → Type
  | .readFile _ => Except ReadError Bytes
  | .writeFile .. | .configSet .. | .aclLoad => Except String Unit

/-- A function over them; its error says whether the generated Secret is missing. -/
abbrev LiveOp (α : Type) : Type := Act Unit StepError LiveCmd LiveReply α

namespace LiveOp

/-- Issue a request. -/
def ask (c : LiveCmd) : LiveOp (LiveReply c) := Act.request c

/-- `fmt.Errorf("what: %w", err)`. -/
def wrap {α : Type} (what : String) (x : LiveOp α) : LiveOp α :=
  Act.context (fun err => { err with message := what ++ ": " ++ err.message }) x

/-- Return the error of an answer behind `what`. -/
def orFail (what : String) : Except String Unit → LiveOp Unit
  | .ok _ => pure ()
  | .error err => Act.fail { message := what ++ ": " ++ err }

/-- `CONFIG SET`, or the error it fails with. -/
def configSet (what key : String) (value : Bytes) : LiveOp Unit := do
  let answer ← ask (.configSet key value)
  orFail ("CONFIG SET " ++ what) answer

end LiveOp

/-- Where a pod finds its Secrets and its ACL file. -/
structure SecretPaths where
  projectedSecretsDir : String := "/projected"
  aclFilePath : String := "/data/users.acl"

/-- The file of a key, `filepath.Join(dir, secretName, key)`. -/
def SecretPaths.file (paths : SecretPaths) (secretName key : String) : CleanPath :=
  joinPath [paths.projectedSecretsDir.toList, secretName.toList, key.toList]

/-! ## The step -/

/-- `usingGeneratedAuthSecretFallback`. -/
def usingGeneratedAuthSecretFallback (cluster : RedisCluster) (authSecretName : String) : Bool :=
  if trimmed authSecretName = "" then false
  else if trimmed (cluster.spec.authSecret.getD "") ≠ "" then false
  else authSecretName = generatedAuthSecretName cluster.name

section

variable (paths : SecretPaths)

/-- `readSecretKey`. -/
def readSecretKey (secretName key : String) : LiveOp Bytes := do
  match ← LiveOp.ask (.readFile (paths.file secretName key)) with
  | .ok data => pure (trimSpaceBytes data)
  | .error err =>
    if err.notExist then pure []
    else Act.fail { message :=
      "reading projected secret " ++ secretName ++ "/" ++ key ++ ": " ++ err.message }

/-- `CONFIG SET requirepass` and `masterauth`; the password that is in force. -/
def installPassword (cluster : RedisCluster) : LiveOp Bytes := do
  let authSecretName := effectiveAuthSecretName cluster
  if authSecretName = "" then pure []
  else do
    let password ← LiveOp.wrap "reading auth secret" (readSecretKey paths authSecretName "password")
    if password = [] then
      if usingGeneratedAuthSecretFallback cluster authSecretName then
        Act.fail
          { fallbackUnavailable := true
            message := "fallback auth secret unavailable: projected secret " ++ authSecretName ++
              "/password is empty or missing" }
      else pure []
    else do
      LiveOp.configSet "requirepass" "requirepass" password
      LiveOp.configSet "masterauth" "masterauth" password
      pure password

/-- The ACL file and `ACL LOAD`. -/
def installACL (cluster : RedisCluster) : LiveOp Unit :=
  match cluster.spec.aclConfigSecret with
  | none => pure ()
  | some aclConfigSecret => do
      let acl ← LiveOp.wrap "reading ACL secret" (readSecretKey paths aclConfigSecret "acl")
      if acl = [] then pure ()
      else do
        let written ← LiveOp.ask (.writeFile (joinPath [paths.aclFilePath.toList]) acl)
        LiveOp.orFail "writing ACL file" written
        let loaded ← LiveOp.ask .aclLoad
        LiveOp.orFail "ACL LOAD" loaded

/-- The password for the source of a replica cluster, or none. -/
def installMasterAuth (cluster : RedisCluster) (localAuthPassword : Bytes) : LiveOp Unit := do
  let authSecretName := trimmed (replicaModeSourceAuthSecretName cluster)
  if isReplicaModeEnabled cluster = true ∧ authSecretName ≠ "" then do
    let password ← LiveOp.wrap "reading replica mode auth secret"
      (readSecretKey paths authSecretName "password")
    if password = [] then
      Act.fail { message :=
        "replica mode auth secret " ++ authSecretName ++ "/password is empty or missing" }
    else LiveOp.configSet "masterauth for replica mode" "masterauth" password
  else if localAuthPassword = [] then LiveOp.configSet "masterauth clear" "masterauth" []
  else pure ()

/-- `reconcileSecrets` of the instance manager. -/
def InstanceReconciler.reconcileSecrets (cluster : RedisCluster) : LiveOp Unit := do
  let localAuthPassword ← installPassword paths cluster
  installACL paths cluster
  installMasterAuth paths cluster localAuthPassword

end

/-! ## The environment -/

/-- The files of a pod and the settings of its Redis. -/
structure LiveState where
  files : CleanPath → Option Bytes
  config : GoMap String Bytes := ∅

/-- Files are read as they are, or not at all; Redis may refuse. -/
def LiveHandles : Prog.Handler LiveCmd LiveReply LiveState := fun s c r s' =>
  match c, r with
  | .readFile path, r =>
    s' = s ∧ ((match s.files path with
      | some content => r = .ok content
      | none => ∃ message, r = .error ⟨true, message⟩) ∨ ∃ message, r = .error ⟨false, message⟩)
  | .writeFile path content, r =>
    (r = .ok () ∧ s' = { s with files := fun q => if q = path then some content else s.files q }) ∨
      ((∃ message, r = .error message) ∧ s' = s)
  | .configSet key value, r =>
    (r = .ok () ∧ s' = { s with config := s.config.insert key value }) ∨
      ((∃ message, r = .error message) ∧ s' = s)
  | .aclLoad, r => (r = .ok () ∨ ∃ message, r = .error message) ∧ s' = s

/-! ## The password that is installed -/

/-- The request does not set `requirepass`. -/
def LiveCmd.SparesPassword : LiveCmd → Prop
  | .configSet key _ => key ≠ "requirepass"
  | _ => True

section

variable {paths : SecretPaths} {cluster : RedisCluster} {content : Bytes} {s : LiveState}

theorem wp_liveAsk {c : LiveCmd} {P : LiveState → LiveCmd → Prop}
    {Q : LiveReply c → Unit → LiveState → Prop} {F : StepError → LiveState → Prop} :
    wp LiveHandles P (LiveOp.ask c) Q F () s ↔
      P s c ∧ ∀ r s', LiveHandles s c r s' → Q r () s' := wp_request

theorem may_liveAsk {c : LiveCmd} {B : LiveState → LiveCmd → Prop}
    {Q : LiveReply c → Unit → LiveState → Prop} :
    may LiveHandles B (LiveOp.ask c) Q () s ↔
      B s c ∨ ∃ r s', LiveHandles s c r s' ∧ Q r () s' := may_request

theorem local_liveOrFail {G : LiveCmd → Prop} (what : String) (answer : Except String Unit) :
    KeepsLocal G (LiveOp.orFail what answer) := by
  cases answer with
  | ok _ => exact .pure ()
  | error err => exact .fail _

theorem local_configSet (what : String) {key : String} (value : Bytes) (h : key ≠ "requirepass") :
    KeepsLocal LiveCmd.SparesPassword (LiveOp.configSet what key value) := by
  have hspares : (LiveCmd.configSet key value).SparesPassword := h
  exact (KeepsLocal.request hspares).bind fun r => local_liveOrFail _ r

theorem local_readSecretKey (secretName key : String) :
    KeepsLocal LiveCmd.SparesPassword (readSecretKey paths secretName key) := by
  refine (KeepsLocal.request trivial).bind fun r => ?_
  cases r with
  | ok data => exact .pure _
  | error err => exact .ite (fun _ => .pure _) fun _ => .fail _

theorem local_installACL : KeepsLocal LiveCmd.SparesPassword (installACL paths cluster) := by
  unfold installACL
  cases cluster.spec.aclConfigSecret with
  | none => exact .pure ()
  | some aclConfigSecret =>
    refine ((local_readSecretKey _ _).context _).bind fun acl => ?_
    refine .ite (fun _ => .pure ()) fun _ => ?_
    exact (KeepsLocal.request trivial).bind fun r => (local_liveOrFail _ r).bind fun _ =>
      (KeepsLocal.request trivial).bind fun r => local_liveOrFail _ r

theorem local_installMasterAuth (localAuthPassword : Bytes) :
    KeepsLocal LiveCmd.SparesPassword (installMasterAuth paths cluster localAuthPassword) := by
  have hkey : "masterauth" ≠ "requirepass" := by decide
  refine .ite (fun _ => ?_) fun _ => ?_
  · refine ((local_readSecretKey _ _).context _).bind fun password => ?_
    exact .ite (fun _ => .fail _) fun _ => local_configSet _ _ hkey
  · exact .ite (fun _ => local_configSet _ _ hkey) fun _ => .pure ()

/-- The projected copy of the effective auth Secret has these bytes under `password`. -/
def ProjectsPassword (paths : SecretPaths) (cluster : RedisCluster) (content : Bytes)
    (s : LiveState) : Prop :=
  s.files (paths.file (effectiveAuthSecretName cluster) "password") = some content

/-- A request for `requirepass` sets the trimmed password, and not an empty one. -/
def LiveCmd.Requires (content : Bytes) (c : LiveCmd) : Prop :=
  ∀ value, c = .configSet "requirepass" value →
    value = trimSpaceBytes content ∧ trimSpaceBytes content ≠ []

theorem requires_of_spares {c : LiveCmd} (h : c.SparesPassword) : c.Requires content := by
  rintro value rfl
  exact absurd rfl h

/-- Steps that leave `requirepass` alone. -/
theorem wp_sparingPassword {α : Type} {x : LiveOp α}
    (hx : KeepsLocal LiveCmd.SparesPassword x) :
    wp LiveHandles (fun _ c => c.Requires content) x (fun _ _ _ => True) (fun _ _ => True)
      () s :=
  hx.wp (fun _ _ _ hc => requires_of_spares hc) (fun _ _ _ _ _ _ _ => trivial) trivial
    (fun _ _ _ => trivial) fun _ _ _ => trivial

theorem wp_readSecretKey {secretName key : String} {P : LiveState → LiveCmd → Prop}
    (hfile : s.files (paths.file secretName key) = some content)
    (hP : P s (.readFile (paths.file secretName key))) {Q : Bytes → Unit → LiveState → Prop}
    (hQ : Q (trimSpaceBytes content) () s) :
    wp LiveHandles P (readSecretKey paths secretName key) Q (fun _ _ => True) () s := by
  unfold readSecretKey
  rw [wp_bind, wp_liveAsk]
  refine ⟨hP, fun r s' hr => ?_⟩
  obtain ⟨rfl, hread | ⟨message, rfl⟩⟩ := hr
  · rw [hfile] at hread
    obtain rfl := hread
    exact hQ
  · exact trivial

/-- The instance manager installs the trimmed password, if anything is left of it. -/
theorem wp_instance_reconcileSecrets (hs : ProjectsPassword paths cluster content s) :
    wp LiveHandles (fun _ c => c.Requires content)
      (InstanceReconciler.reconcileSecrets paths cluster) (fun _ _ _ => True) (fun _ _ => True)
      () s := by
  have hrest : ∀ (password : Bytes) (s' : LiveState),
      wp LiveHandles (fun _ c => c.Requires content)
        (do installACL paths cluster; installMasterAuth paths cluster password)
        (fun _ _ _ => True) (fun _ _ => True) () s' :=
    fun password s' => wp_sparingPassword (local_installACL.bind fun _ => local_installMasterAuth _)
  unfold InstanceReconciler.reconcileSecrets
  rw [wp_bind]
  unfold installPassword
  refine wp_ite.mpr ⟨fun _ => hrest _ _, fun _ => ?_⟩
  rw [wp_bind]
  have hread : ∀ path, (LiveCmd.readFile path).SparesPassword := fun _ => trivial
  refine wp_context.mpr (wp_readSecretKey hs (requires_of_spares (hread _)) ?_)
  refine wp_ite.mpr ⟨fun _ => ?_, fun hne => ?_⟩
  · exact wp_ite.mpr ⟨fun _ => trivial, fun _ => hrest _ _⟩
  · unfold LiveOp.configSet
    rw [wp_bind, wp_bind, wp_liveAsk]
    refine ⟨?_, fun r s₁ _ => ?_⟩
    · rintro value ⟨⟩
      exact ⟨rfl, hne⟩
    · cases r with
      | error err => exact trivial
      | ok _ =>
        refine wp_bind.mpr (wp_post (wp_sparingPassword ?_) fun _ _ s₂ _ => hrest _ _)
        exact local_configSet _ _ (by decide)

/-- The instance manager of a pod installs `value` from a projected copy that
    holds `content`. -/
def InstallsPassword (paths : SecretPaths) (cluster : RedisCluster)
    (content value : Bytes) : Prop :=
  ∃ s s', ProjectsPassword paths cluster content s ∧
    Prog.Issues LiveHandles (InstanceReconciler.reconcileSecrets paths cluster ()) s s'
      (.configSet "requirepass" value)

theorem may_instance_reconcileSecrets (hname : effectiveAuthSecretName cluster ≠ "")
    (hs : ProjectsPassword paths cluster content s) (hne : trimSpaceBytes content ≠ []) :
    may LiveHandles (fun _ c => c = .configSet "requirepass" (trimSpaceBytes content))
      (InstanceReconciler.reconcileSecrets paths cluster) (fun _ _ _ => False) () s := by
  unfold InstanceReconciler.reconcileSecrets installPassword
  rw [may_bind]
  refine may_ite.mpr (Or.inr ⟨hname, ?_⟩)
  rw [may_bind]
  refine may_context.mpr ?_
  unfold readSecretKey
  rw [may_bind, may_liveAsk]
  refine Or.inr ⟨.ok content, s, ⟨rfl, Or.inl ?_⟩, ?_⟩
  · rw [hs]
  · refine may_ite.mpr (Or.inr ⟨hne, ?_⟩)
    unfold LiveOp.configSet
    rw [may_bind, may_bind, may_liveAsk]
    exact Or.inl rfl

theorem installsPassword_iff (hname : effectiveAuthSecretName cluster ≠ "") {value : Bytes} :
    InstallsPassword paths cluster content value ↔
      value = trimSpaceBytes content ∧ trimSpaceBytes content ≠ [] := by
  constructor
  · rintro ⟨s, s', hs, hissued⟩
    exact (Prog.wp_iff.mp (wp_instance_reconcileSecrets hs)).1 _ _ hissued value rfl
  · rintro ⟨rfl, hne⟩
    have hs : ProjectsPassword paths cluster content { files := fun _ => some content } := rfl
    rcases Prog.may_iff.mp (may_instance_reconcileSecrets hname hs hne) with
      ⟨s', c, hissued, rfl⟩ | ⟨o, _, _, hfalse⟩
    · exact ⟨_, s', hs, hissued⟩
    · cases o with
      | error err => exact hfalse.elim
      | ok al => exact hfalse.elim

end

/-! ## The published password -/

/-- **The published password.**  The password in the connection Secret is the one
    the instance managers install, and there is none in it exactly if they
    install none: exactly if the password has no white space at its ends. -/
theorem published_password_works_iff (objectNamespace : String) (paths : SecretPaths)
    (cluster : RedisCluster) (content : Bytes) (hname : effectiveAuthSecretName cluster ≠ "")
    (hconn : connectionSecretName cluster ≠ "") :
    (∀ password, PublishesPassword objectNamespace cluster content password →
      ∀ value, password = some value ↔ InstallsPassword paths cluster content value) ↔
      NoOuterSpace content := by
  rw [← trimSpaceBytes_eq_self]
  simp only [publishesPassword_iff hname hconn, installsPassword_iff hname, forall_eq]
  unfold publishedPassword
  constructor
  · intro h
    by_cases hempty : content = []
    · rw [hempty]
      rfl
    · have hself := (h content).mp (if_neg hempty)
      exact hself.1.symm
  · intro hself value
    rw [hself]
    by_cases hempty : content = []
    · simp [hempty]
    · simp [hempty, eq_comm]

/-- Cluster `c` with a connection Secret. -/
def publishingCluster : RedisCluster where
  name := "c"
  spec := { instances := 3, authSecret := some "c-auth", connectionSecret := some "c-conn" }

/-- A plain password is published as it works. -/
theorem published_password_works_plain :
    PublishesPassword "default" publishingCluster (bytesOf "s3cret") (some (bytesOf "s3cret")) ∧
      InstallsPassword {} publishingCluster (bytesOf "s3cret") (bytesOf "s3cret") := by
  have hname : effectiveAuthSecretName publishingCluster ≠ "" := by decide +kernel
  have hconn : connectionSecretName publishingCluster ≠ "" := by decide +kernel
  have hpub : PublishesPassword "default" publishingCluster (bytesOf "s3cret")
      (some (bytesOf "s3cret")) :=
    (publishesPassword_iff hname hconn).mpr (by decide +kernel)
  have hworks := (published_password_works_iff "default" {} publishingCluster (bytesOf "s3cret")
    hname hconn).mpr (by decide +kernel)
  exact ⟨hpub, (hworks _ hpub _).mp rfl⟩

/-- A line break behind the password is published, and not installed. -/
theorem published_password_with_line_break :
    PublishesPassword "default" publishingCluster (bytesOf "s3cret\n") (some (bytesOf "s3cret\n")) ∧
      InstallsPassword {} publishingCluster (bytesOf "s3cret\n") (bytesOf "s3cret") ∧
      ¬ InstallsPassword {} publishingCluster (bytesOf "s3cret\n") (bytesOf "s3cret\n") := by
  have hname : effectiveAuthSecretName publishingCluster ≠ "" := by decide +kernel
  have hconn : connectionSecretName publishingCluster ≠ "" := by decide +kernel
  rw [publishesPassword_iff hname hconn, installsPassword_iff hname, installsPassword_iff hname]
  decide +kernel

end RedisOperator
