/-
  RedisOperator.Manager.WebhookPKI

  `pki.go`: the CA and the certificate of the webhook server, and the CA bundle
  in the webhook configurations.  Three steps reconcile them, each with a test of
  its own for what it may keep: the CA is kept whatever it is, the certificate
  until 30 days before it expires.  `webhook_certificate_matches_iff` says from
  which states a call ends with a certificate that the published CA vouches for.

  A call takes place at one instant; between calls anything may change.
-/

import RedisOperator.Cluster.Secrets
import RedisOperator.Lib.X509

namespace RedisOperator

open Lib Act

/-! ## Requests -/

/-- The two kinds of webhook configurations. -/
inductive WebhookKind
  | mutating | validating
  deriving DecidableEq, Repr

/-- Its name in error texts. -/
def WebhookKind.text : WebhookKind → String
  | .mutating => "mutating"
  | .validating => "validating"

/-- What the steps ask of the API server, the clock and the cryptography; a
    configuration is the list of its webhooks' CA bundles. -/
inductive PKICmd
  | getSecret (name : String)
  | createSecret (secret : Secret)
  | updateSecret (secret : Secret)
  | getConfiguration (kind : WebhookKind) (name : String)
  | updateConfiguration (kind : WebhookKind) (name : String) (caBundles : List Bytes)
  /-- `time.Now` -/
  | now
  /-- `ecdsa.GenerateKey` -/
  | generateKey
  /-- `x509.CreateCertificate`: the public key of the parent, if it has one, the
      key to certify and the key to sign with -/
  | createCertificate (template : CertTemplate) (parent : Option KeyPair) (key signer : KeyPair)
  | emitRotationEvent (notAfter : Int)

/-- Their answers. -/
@[reducible] def PKIReply : PKICmd → Type
  | .getSecret _ => Api Secret
  | .createSecret _ | .updateSecret _ | .updateConfiguration .. => Api Unit
  | .getConfiguration .. => Api (List Bytes)
  | .now => Int
  | .generateKey => Except String KeyPair
  | .createCertificate .. => Except String Bytes
  | .emitRotationEvent _ => Unit

/-- A step over them. -/
abbrev PKIOp (α : Type) : Type := Act Unit String PKICmd PKIReply α

namespace PKIOp

/-- Issue a request. -/
def ask (c : PKICmd) : PKIOp (PKIReply c) := Act.request c

/-- `fmt.Errorf("what: %w", err)`. -/
def wrap {α : Type} (what : String) (x : PKIOp α) : PKIOp α :=
  Act.context (fun err => what ++ ": " ++ err) x

/-- Go on with a value, or return the error. -/
def orFail {α : Type} : Except String α → PKIOp α
  | .ok a => pure a
  | .error err => Act.fail err

/-- Go on with the value of an answer, or return its error. -/
def ofApi {α : Type} : Api α → PKIOp α
  | .ok a => pure a
  | .error err => Act.fail err.message

end PKIOp

/-! ## The steps -/

/-- `caSecretName`. -/
def caSecretName : String := "redis-operator-ca-secret"

/-- `webhookCertSecret`. -/
def webhookCertSecret : String := "redis-operator-webhook-cert"

/-- A day, in nanoseconds. -/
def day : Int := 24 * 60 * 60 * 1000000000

/-- `renewalThreshold`. -/
def renewalThreshold : Int := 30 * day

/-- `WebhookPKIOptions`. -/
structure WebhookPKIOptions where
  objectNamespace : String
  serviceName : String
  mutatingWebhookConfigurationName : String := ""
  validatingWebhookConfigurationName : String := ""

/-- The configuration of a kind. -/
def WebhookPKIOptions.configurationName (o : WebhookPKIOptions) : WebhookKind → String
  | .mutating => o.mutatingWebhookConfigurationName
  | .validating => o.validatingWebhookConfigurationName

/-- The name under which the API server calls the webhook. -/
def WebhookPKIOptions.host (o : WebhookPKIOptions) : String :=
  o.serviceName ++ "." ++ o.objectNamespace ++ ".svc"

/-- The template of the CA. -/
def caTemplate (notBefore now : Int) : CertTemplate where
  serialNumber := 1
  organization := ["redis-operator"]
  commonName := "redis-operator-ca"
  notBefore := notBefore
  notAfter := now + 3650 * day
  keyUsage := ["certSign", "crlSign"]
  isCA := true

/-- The template of the webhook's certificate. -/
def serverTemplate (o : WebhookPKIOptions) (notBefore now : Int) : CertTemplate where
  serialNumber := 2
  organization := ["redis-operator"]
  commonName := o.serviceName
  dnsNames := [o.serviceName, o.serviceName ++ "." ++ o.objectNamespace, o.host,
    o.host ++ ".cluster.local"]
  notBefore := notBefore
  notAfter := now + 365 * day
  keyUsage := ["digitalSignature", "keyEncipherment"]
  extKeyUsage := ["serverAuth"]

section

variable (x : X509)

/-- The certificate of a Secret. -/
def certificateOf (secret : Secret) : Option Certificate :=
  (secret.data.lookup "tls.crt").bind x.certificate?

/-- `needsRenewal`, at a time. -/
def needsRenewal (now : Int) (secret : Secret) : Bool :=
  match certificateOf x secret with
  | none => true
  | some cert => cert.notAfter - now < renewalThreshold

/-- `parseCAFromSecret`. -/
def parseCAFromSecret (secret : Secret) : Except String (KeyPair × Certificate) :=
  match (secret.data.lookup "tls.key").bind x.decodePEM with
  | none => .error "no PEM block found in CA key"
  | some keyDER =>
    match x.parseECPrivateKey keyDER with
    | .error err => .error ("parsing CA key: " ++ err)
    | .ok key =>
      match (secret.data.lookup "tls.crt").bind x.decodePEM with
      | none => .error "no PEM block found in CA cert"
      | some certDER =>
        match x.parseCertificate certDER with
        | .error err => .error ("parsing CA cert: " ++ err)
        | .ok cert => .ok (key, cert)

/-- A TLS Secret. -/
def tlsSecretWith (name : String) (key : KeyPair) (certDER caDER : Bytes) : Secret where
  name := name
  type := "kubernetes.io/tls"
  data := (((∅ : GoMap String Bytes).insert "tls.crt" (x.encodePEM "CERTIFICATE" certDER)).insert
    "tls.key" (x.encodePEM "EC PRIVATE KEY" (x.marshalECPrivateKey key))).insert
    "ca.crt" (x.encodePEM "CERTIFICATE" caDER)

/-- A CA that signs itself, stored. -/
def createCA : PKIOp (KeyPair × Certificate) := do
  let generated ← PKIOp.ask .generateKey
  let caKey ← PKIOp.wrap "generating CA key" (PKIOp.orFail generated)
  let notBefore ← PKIOp.ask .now
  let now ← PKIOp.ask .now
  let created ← PKIOp.ask (.createCertificate (caTemplate notBefore now) none caKey caKey)
  let caCertDER ← PKIOp.wrap "creating CA certificate" (PKIOp.orFail created)
  let caCert ← PKIOp.wrap "parsing CA certificate" (PKIOp.orFail (x.parseCertificate caCertDER))
  let answer ← PKIOp.ask (.createSecret (tlsSecretWith x caSecretName caKey caCertDER caCertDER))
  PKIOp.wrap "creating CA secret" (PKIOp.ofApi answer)
  pure (caKey, caCert)

/-- `ensureCA`. -/
def ensureCA : PKIOp (KeyPair × Certificate) := do
  match ← PKIOp.ask (.getSecret caSecretName) with
  | .ok secret => PKIOp.orFail (parseCAFromSecret x secret)
  | .error err =>
    if err.reason ≠ .notFound then Act.fail ("getting CA secret: " ++ err.message)
    else createCA x

/-- A certificate signed by the CA, stored over the Secret that is there, if one
    is; its expiry. -/
def issueWebhookCert (o : WebhookPKIOptions) (caKey : KeyPair) (caCert : Certificate)
    (existing : Option Secret) : PKIOp Int := do
  let generated ← PKIOp.ask .generateKey
  let serverKey ← PKIOp.wrap "generating server key" (PKIOp.orFail generated)
  let notBefore ← PKIOp.ask .now
  let now ← PKIOp.ask .now
  let created ← PKIOp.ask
    (.createCertificate (serverTemplate o notBefore now) (some caCert.publicKey) serverKey caKey)
  let certDER ← PKIOp.wrap "creating server certificate" (PKIOp.orFail created)
  let secret := tlsSecretWith x webhookCertSecret serverKey certDER caCert.raw
  match existing with
  | none => do
      let answer ← PKIOp.ask (.createSecret secret)
      PKIOp.ofApi answer
      pure (serverTemplate o notBefore now).notAfter
  | some existing => do
      let answer ← PKIOp.ask (.updateSecret { existing with data := secret.data })
      PKIOp.ofApi answer
      pure (serverTemplate o notBefore now).notAfter

/-- `ensureWebhookCert`: whether the certificate was rotated, and its expiry. -/
def ensureWebhookCert (o : WebhookPKIOptions) (caKey : KeyPair) (caCert : Certificate) :
    PKIOp (Bool × Int) := do
  match ← PKIOp.ask (.getSecret webhookCertSecret) with
  | .ok secret => do
      let now ← PKIOp.ask .now
      if needsRenewal x now secret then do
        let notAfter ← issueWebhookCert x o caKey caCert (some secret)
        pure (true, notAfter)
      else pure (false, 0)
  | .error err =>
    if err.reason ≠ .notFound then Act.fail ("getting webhook cert secret: " ++ err.message)
    else do
      let notAfter ← issueWebhookCert x o caKey caCert none
      pure (false, notAfter)

/-- `patchMutatingWebhookConfiguration` and `patchValidatingWebhookConfiguration`. -/
def patchWebhookConfiguration (kind : WebhookKind) (name : String) (caCertPEM : Bytes) :
    PKIOp Unit := do
  match ← PKIOp.ask (.getConfiguration kind name) with
  | .error err =>
    if err.reason = .notFound then pure ()
    else Act.fail ("getting " ++ kind.text ++ " webhook configuration " ++ quote name.toList ++
      ": " ++ err.message)
  | .ok caBundles =>
    if ∀ caBundle ∈ caBundles, caBundle = caCertPEM then pure ()
    else do
      let answer ← PKIOp.ask (.updateConfiguration kind name (caBundles.map fun _ => caCertPEM))
      PKIOp.wrap
        ("updating " ++ kind.text ++ " webhook configuration " ++ quote name.toList)
        (PKIOp.ofApi answer)

/-- The configuration of a kind, if it is named. -/
def patchNamedConfiguration (o : WebhookPKIOptions) (kind : WebhookKind) (caCertPEM : Bytes) :
    PKIOp Unit :=
  if o.configurationName kind ≠ "" then
    patchWebhookConfiguration kind (o.configurationName kind) caCertPEM
  else pure ()

/-- `patchWebhookConfigurations`. -/
def patchWebhookConfigurations (o : WebhookPKIOptions) (caCertPEM : Bytes) : PKIOp Unit := do
  patchNamedConfiguration o .mutating caCertPEM
  patchNamedConfiguration o .validating caCertPEM

/-- `EnsureWebhookPKI`. -/
def ensureWebhookPKI (o : WebhookPKIOptions) : PKIOp Unit := do
  let (caKey, caCert) ← PKIOp.wrap "ensuring CA" (ensureCA x)
  let (rotated, notAfter) ← PKIOp.wrap "ensuring webhook cert" (ensureWebhookCert x o caKey caCert)
  PKIOp.wrap "patching webhook configurations"
    (patchWebhookConfigurations o (x.encodePEM "CERTIFICATE" caCert.raw))
  if rotated then PKIOp.ask (.emitRotationEvent notAfter) else pure ()

end

/-! ## The environment -/

/-- Secrets, webhook configurations and the time. -/
structure PKIWorld where
  now : Int
  secrets : GoMap String Secret
  named : ∀ name secret, secrets.lookup name = some secret → secret.name = name
  configurations : WebhookKind → GoMap String (List Bytes) := fun _ => ∅

/-- Some stored certificate was signed with the key. -/
def PKIWorld.Knows (x : X509) (w : PKIWorld) (key : KeyPair) : Prop :=
  ∃ name secret cert, w.secrets.lookup name = some secret ∧ certificateOf x secret = some cert ∧
    cert.signer = key

/-- Store a Secret. -/
def PKIWorld.store (w : PKIWorld) (secret : Secret) : PKIWorld where
  now := w.now
  secrets := w.secrets.insert secret.name secret
  named := by
    intro name stored h
    rw [GoMap.lookup_insert] at h
    split at h
    next heq =>
      cases h
      exact heq.symm
    next => exact w.named name stored h
  configurations := w.configurations

/-- Store the bundles of a configuration. -/
def PKIWorld.storeConfiguration (w : PKIWorld) (kind : WebhookKind) (name : String)
    (caBundles : List Bytes) : PKIWorld :=
  { w with configurations := fun k =>
      if k = kind then (w.configurations k).insert name caBundles else w.configurations k }

/-- Sound primitives: a new key has signed nothing yet; a certificate says what
    its template says, and is signed with the key given, which must be that of
    the parent. -/
def PKIAnswers (x : X509) (w : PKIWorld) : (c : PKICmd) → PKIReply c → PKIWorld → Prop
  | .getSecret name, r, w' => r = found "secrets" name (w.secrets.lookup name) ∧ w' = w
  | .createSecret secret, r, w' =>
    match w.secrets.lookup secret.name with
    | some _ => r = .error (alreadyThere "secrets" secret.name) ∧ w' = w
    | none => r = .ok () ∧ w' = w.store secret
  | .updateSecret secret, r, w' =>
    match w.secrets.lookup secret.name with
    | some _ => r = .ok () ∧ w' = w.store secret
    | none => r = found "secrets" secret.name none ∧ w' = w
  | .getConfiguration kind name, r, w' =>
    r = found (kind.text ++ "webhookconfigurations") name ((w.configurations kind).lookup name) ∧
      w' = w
  | .updateConfiguration kind name caBundles, r, w' =>
    match (w.configurations kind).lookup name with
    | some _ => r = .ok () ∧ w' = w.storeConfiguration kind name caBundles
    | none => r = found (kind.text ++ "webhookconfigurations") name none ∧ w' = w
  | .now, r, w' => r = w.now ∧ w' = w
  | .generateKey, r, w' => (∃ key, ¬ w.Knows x key ∧ r = .ok key) ∧ w' = w
  | .createCertificate template parent key signer, r, w' =>
    (∀ parentKey, parent = some parentKey → parentKey = signer) ∧
      (∃ der, r = .ok der ∧ x.parseCertificate der = .ok (template.signed der key signer)) ∧
      w' = w
  | .emitRotationEvent _, _, w' => w' = w

/-- The request failed. -/
def PKIFails : (c : PKICmd) → PKIReply c → Prop
  | .getSecret _, r => ∃ message, r = .error ⟨.other, message⟩
  | .getConfiguration .., r => ∃ message, r = .error ⟨.other, message⟩
  | .createSecret _, r | .updateSecret _, r | .updateConfiguration .., r =>
    ∃ reason message, r = .error ⟨reason, message⟩
  | .generateKey, r => ∃ message, r = .error message
  | .createCertificate .., r => ∃ message, r = .error message
  | .now, _ | .emitRotationEvent _, _ => False

/-- A request may also fail, carried out or not. -/
def PKIHandles (x : X509) : Prog.Handler PKICmd PKIReply PKIWorld := fun w c r w' =>
  PKIAnswers x w c r w' ∨ (PKIFails c r ∧ (w' = w ∨ ∃ answer, PKIAnswers x w c answer w'))

/-! ## The property and its condition -/

/-- The CA that is stored. -/
def PKIWorld.caCert (x : X509) (w : PKIWorld) : Option Certificate :=
  (w.secrets.lookup caSecretName).bind (certificateOf x)

/-- The certificate of the webhook server that is stored. -/
def PKIWorld.webhookCert (x : X509) (w : PKIWorld) : Option Certificate :=
  (w.secrets.lookup webhookCertSecret).bind (certificateOf x)

/-- Every webhook of the named configurations that exist has this bundle. -/
def PKIWorld.Publishes (o : WebhookPKIOptions) (w : PKIWorld) (caCertPEM : Bytes) : Prop :=
  ∀ kind, o.configurationName kind ≠ "" → ∀ caBundles,
    (w.configurations kind).lookup (o.configurationName kind) = some caBundles →
    ∀ caBundle ∈ caBundles, caBundle = caCertPEM

/-- The webhook certificate matches the published CA. -/
def MatchesPublished (x : X509) (o : WebhookPKIOptions) (w : PKIWorld) : Prop :=
  ∃ ca cert, w.caCert x = some ca ∧ w.webhookCert x = some cert ∧
    w.Publishes o (x.encodePEM "CERTIFICATE" ca.raw) ∧ cert.SignedBy ca ∧
    ca.ValidAt w.now ∧ cert.ValidAt w.now ∧ o.host ∈ cert.dnsNames

/-- What a call would keep is in order. -/
structure PKIReady (x : X509) (o : WebhookPKIOptions) (w : PKIWorld) : Prop where
  /-- the CA, which is kept whatever it is -/
  ca : ∀ ca, w.caCert x = some ca → ca.ValidAt w.now
  /-- a certificate that does not expire soon -/
  cert : ∀ secret, w.secrets.lookup webhookCertSecret = some secret →
    needsRenewal x w.now secret = false →
    ∃ ca cert, w.caCert x = some ca ∧ certificateOf x secret = some cert ∧ cert.SignedBy ca ∧
      cert.notBefore ≤ w.now ∧ o.host ∈ cert.dnsNames

/-! ## Answers of the requests that succeed -/

section

variable {x : X509} {w w' : PKIWorld}

variable {secret : Secret} {name : String}

theorem get_of_handles (h : PKIHandles x w (.getSecret name) (.ok secret) w') :
    w.secrets.lookup name = some secret ∧ w' = w := by
  rcases h with ⟨hr, hw⟩ | ⟨⟨message, hr⟩, -⟩
  · exact ⟨found_eq_ok.mp hr.symm, hw⟩
  · cases hr

theorem missing_of_getSecret {err : ApiError}
    (h : PKIHandles x w (.getSecret name) (.error err) w') (hreason : err.reason = .notFound) :
    w.secrets.lookup name = none ∧ w' = w := by
  rcases h with ⟨hr, hw⟩ | ⟨⟨message, hr⟩, -⟩
  · exact ⟨eq_none_of_found hr.symm, hw⟩
  · cases hr
    cases hreason

theorem create_of_handles (h : PKIHandles x w (.createSecret secret) (.ok ()) w') :
    w' = w.store secret := by
  rcases h with h | ⟨⟨reason, message, hr⟩, -⟩
  · simp only [PKIAnswers] at h
    split at h
    · cases h.1
    · exact h.2
  · cases hr

theorem update_of_handles (h : PKIHandles x w (.updateSecret secret) (.ok ()) w') :
    w' = w.store secret := by
  rcases h with h | ⟨⟨reason, message, hr⟩, -⟩
  · simp only [PKIAnswers] at h
    split at h
    · exact h.2
    · cases h.1
  · cases hr

variable {key : KeyPair}

theorem key_of_handles (h : PKIHandles x w .generateKey (.ok key) w') :
    ¬ w.Knows x key ∧ w' = w := by
  rcases h with ⟨⟨key', hnew, hr⟩, hw⟩ | ⟨⟨message, hr⟩, -⟩
  · cases hr
    exact ⟨hnew, hw⟩
  · cases hr

theorem certificate_of_handles {template : CertTemplate} {parent : Option KeyPair}
    {signer : KeyPair} {der : Bytes}
    (h : PKIHandles x w (.createCertificate template parent key signer) (.ok der) w') :
    (∀ parentKey, parent = some parentKey → parentKey = signer) ∧
      x.parseCertificate der = .ok (template.signed der key signer) ∧ w' = w := by
  rcases h with ⟨hparent, ⟨der', hr, hparse⟩, hw⟩ | ⟨⟨message, hr⟩, -⟩
  · cases hr
    exact ⟨hparent, hparse, hw⟩
  · cases hr

variable {P : PKIWorld → PKICmd → Prop}

theorem wp_pkiAsk {c : PKICmd}
    {Q : PKIReply c → Unit → PKIWorld → Prop} {F : String → PKIWorld → Prop} :
    wp (PKIHandles x) P (PKIOp.ask c) Q F () w ↔
      P w c ∧ ∀ r w', PKIHandles x w c r w' → Q r () w' := wp_request

theorem wp_pkiNow {Q : Int → Unit → PKIWorld → Prop} {F : String → PKIWorld → Prop}
    (h : Q w.now () w) : wp (PKIHandles x) (fun _ _ => True) (PKIOp.ask .now) Q F () w := by
  refine wp_pkiAsk.mpr ⟨trivial, ?_⟩
  rintro time w' (⟨rfl, rfl⟩ | ⟨hfail, -⟩)
  · exact h
  · exact hfail.elim

/-- An outcome that may be an error: the step goes on, or has failed. -/
theorem wp_pkiOrFail {α : Type} {answer : Except String α} {Q : α → Unit → PKIWorld → Prop} :
    wp (PKIHandles x) P (PKIOp.orFail answer) Q (fun _ _ => True) () w ↔
      ∀ a, answer = .ok a → Q a () w := by
  cases answer with
  | ok a => exact ⟨fun h _ ha => by cases ha; exact h, fun h => h a rfl⟩
  | error err => exact iff_of_true trivial fun _ ha => nomatch ha

theorem wp_pkiOfApi {α : Type} {answer : Api α} {Q : α → Unit → PKIWorld → Prop} :
    wp (PKIHandles x) P (PKIOp.ofApi answer) Q (fun _ _ => True) () w ↔
      ∀ a, answer = .ok a → Q a () w := by
  cases answer with
  | ok a => exact ⟨fun h _ ha => by cases ha; exact h, fun h => h a rfl⟩
  | error err => exact iff_of_true trivial fun _ ha => nomatch ha

/-! ## Stored certificates -/

theorem certificateOf_tlsSecretWith {der caDER : Bytes}
    {cert : Certificate} (h : x.parseCertificate der = .ok cert) :
    certificateOf x (tlsSecretWith x name key der caDER) = some cert := by
  have hdata : (tlsSecretWith x name key der caDER).data.lookup "tls.crt" =
      some (x.encodePEM "CERTIFICATE" der) := by
    unfold tlsSecretWith
    rw [GoMap.lookup_insert_ne (by decide), GoMap.lookup_insert_ne (by decide),
      GoMap.lookup_insert_self]
  rw [certificateOf, hdata, Option.bind_some, X509.certificate?_encodePEM h]

/-- The CA that is parsed is the certificate of its Secret. -/
theorem certificateOf_of_parseCA {cert : Certificate}
    (h : parseCAFromSecret x secret = .ok (key, cert)) : certificateOf x secret = some cert := by
  unfold parseCAFromSecret at h
  unfold certificateOf X509.certificate?
  cases hkey : (secret.data.lookup "tls.key").bind x.decodePEM with
  | none => simp [hkey] at h
  | some keyDER =>
    cases hparse : x.parseECPrivateKey keyDER with
    | error err => simp [hkey, hparse] at h
    | ok key' =>
      cases hdata : secret.data.lookup "tls.crt" with
      | none => simp [hkey, hparse, hdata] at h
      | some pem =>
        cases hpem : x.decodePEM pem with
        | none => simp [hkey, hparse, hdata, hpem] at h
        | some der =>
          cases hcert : x.parseCertificate der with
          | error err => simp [hkey, hparse, hdata, hpem, hcert] at h
          | ok cert' =>
            simp only [hkey, hparse, hdata, Option.bind_some, hpem, hcert,
              Except.ok.injEq, Prod.mk.injEq] at h
            simp [hpem, hcert, h.2]

theorem lookup_store : (w.store secret).secrets.lookup name =
      if name = secret.name then some secret else w.secrets.lookup name :=
  GoMap.lookup_insert

theorem lookup_store_self (hname : secret.name = name) :
    (w.store secret).secrets.lookup name = some secret := by
  rw [lookup_store, if_pos hname.symm]

theorem lookup_store_ne (hname : secret.name ≠ name) :
    (w.store secret).secrets.lookup name = w.secrets.lookup name := by
  rw [lookup_store, if_neg (Ne.symm hname)]

theorem caCert_of_lookup (h : w.secrets.lookup caSecretName = some secret) :
    w.caCert x = certificateOf x secret := by
  rw [PKIWorld.caCert, h, Option.bind_some]

theorem webhookCert_of_lookup (h : w.secrets.lookup webhookCertSecret = some secret) :
    w.webhookCert x = certificateOf x secret := by
  rw [PKIWorld.webhookCert, h, Option.bind_some]

/-! ## What each step leaves behind -/

/-- `ensureCA` returned this CA: the stored one, or a new one that has signed
    nothing yet. -/
structure CAEnsured (x : X509) (w : PKIWorld) (ca : Certificate) (w' : PKIWorld) : Prop where
  now : w'.now = w.now
  configurations : w'.configurations = w.configurations
  caCert : w'.caCert x = some ca
  webhookSecret : w'.secrets.lookup webhookCertSecret = w.secrets.lookup webhookCertSecret
  origin : w.caCert x = some ca ∨
    (w.caCert x = none ∧ ca.ValidAt w.now ∧ ∀ cert, w.webhookCert x = some cert →
      ¬ cert.SignedBy ca)

/-- `ensureWebhookCert` kept the certificate, or has issued one. -/
structure CertEnsured (x : X509) (o : WebhookPKIOptions) (w : PKIWorld) (ca : Certificate)
    (w' : PKIWorld) : Prop where
  now : w'.now = w.now
  configurations : w'.configurations = w.configurations
  caCert : w'.caCert x = w.caCert x
  origin : (∃ secret, w.secrets.lookup webhookCertSecret = some secret ∧
      needsRenewal x w.now secret = false ∧ w'.webhookCert x = certificateOf x secret) ∨
    ((∀ secret, w.secrets.lookup webhookCertSecret = some secret →
        needsRenewal x w.now secret = true) ∧
      ∃ cert, w'.webhookCert x = some cert ∧ cert.SignedBy ca ∧ cert.ValidAt w.now ∧
        o.host ∈ cert.dnsNames)

theorem validAt_signed {template : CertTemplate} {der : Bytes} {signer : KeyPair} {time : Int}
    (hbefore : template.notBefore = time) (hafter : time + day ≤ template.notAfter) :
    (template.signed der key signer).ValidAt time := by
  have hstart : wholeSeconds template.notBefore ≤ template.notBefore := wholeSeconds_le _
  have hend := lt_wholeSeconds template.notAfter
  have hday : day = 24 * 60 * 60 * 1000000000 := rfl
  constructor
  · show wholeSeconds template.notBefore ≤ time
    omega
  · show time ≤ wholeSeconds template.notAfter
    omega

theorem caSecretName_ne : caSecretName ≠ webhookCertSecret := by decide

theorem caTemplate_lasts (time : Int) : time + day ≤ (caTemplate time time).notAfter := by
  show time + day ≤ time + 3650 * day
  unfold day
  omega

theorem serverTemplate_lasts (o : WebhookPKIOptions) (time : Int) :
    time + day ≤ (serverTemplate o time time).notAfter := by
  show time + day ≤ time + 365 * day
  unfold day
  omega

theorem wp_createCA (hmissing : w.secrets.lookup caSecretName = none) :
    wp (PKIHandles x) (fun _ _ => True) (createCA x)
      (fun made _ w' => CAEnsured x w made.2 w') (fun _ _ => True) () w := by
  unfold createCA
  rw [wp_bind, wp_pkiAsk]
  refine ⟨trivial, fun generated w₁ hgenerated => ?_⟩
  rw [wp_bind]
  refine wp_context.mpr (wp_pkiOrFail.mpr ?_)
  rintro key rfl
  obtain ⟨hnew, rfl⟩ := key_of_handles hgenerated
  refine wp_bind.mpr (wp_pkiNow (wp_bind.mpr (wp_pkiNow ?_)))
  rw [wp_bind, wp_pkiAsk]
  refine ⟨trivial, fun created w₃ hcreated => ?_⟩
  rw [wp_bind]
  refine wp_context.mpr (wp_pkiOrFail.mpr ?_)
  rintro der rfl
  obtain ⟨-, hparse, rfl⟩ := certificate_of_handles hcreated
  rw [wp_bind]
  refine wp_context.mpr (wp_pkiOrFail.mpr ?_)
  rintro ca hca
  obtain rfl := Except.ok.inj (hparse.symm.trans hca)
  rw [wp_bind, wp_pkiAsk]
  refine ⟨trivial, fun answer w₄ hanswer => ?_⟩
  rw [wp_bind]
  refine wp_context.mpr (wp_pkiOfApi.mpr ?_)
  rintro ⟨⟩ rfl
  obtain rfl := create_of_handles hanswer
  exact
    { now := rfl
      configurations := rfl
      caCert := by
        rw [caCert_of_lookup (lookup_store_self rfl), certificateOf_tlsSecretWith hparse]
      webhookSecret := lookup_store_ne caSecretName_ne
      origin := Or.inr ⟨by rw [PKIWorld.caCert, hmissing, Option.bind_none],
        validAt_signed rfl (caTemplate_lasts _), fun cert hcert hsigned => by
          obtain ⟨secret, hsecret, hcert⟩ := Option.bind_eq_some_iff.mp hcert
          exact hnew ⟨webhookCertSecret, secret, cert, hsecret, hcert, hsigned⟩⟩ }

theorem wp_ensureCA :
    wp (PKIHandles x) (fun _ _ => True) (ensureCA x)
      (fun made _ w' => CAEnsured x w made.2 w') (fun _ _ => True) () w := by
  unfold ensureCA
  rw [wp_bind, wp_pkiAsk]
  refine ⟨trivial, fun r w₁ hr => ?_⟩
  cases r with
  | ok secret =>
    obtain ⟨hsecret, rfl⟩ := get_of_handles hr
    refine wp_pkiOrFail.mpr ?_
    rintro ⟨key, ca⟩ hparse
    have hca : w₁.caCert x = some ca :=
      (caCert_of_lookup hsecret).trans (certificateOf_of_parseCA hparse)
    exact ⟨rfl, rfl, hca, rfl, Or.inl hca⟩
  | error err =>
    refine wp_ite.mpr ⟨fun _ => trivial, fun hreason => ?_⟩
    obtain ⟨hmissing, rfl⟩ := missing_of_getSecret hr (not_not.mp hreason)
    exact wp_createCA hmissing

theorem host_mem_serverTemplate (o : WebhookPKIOptions) (notBefore now : Int) :
    o.host ∈ (serverTemplate o notBefore now).dnsNames := by
  simp [serverTemplate]

variable {ca : Certificate} {o : WebhookPKIOptions}

/-- A certificate that is issued takes the place of the one that was there. -/
theorem wp_issueWebhookCert {caKey : KeyPair}
    {existing : Option Secret} (hexisting : w.secrets.lookup webhookCertSecret = existing)
    (hrenew : ∀ secret, w.secrets.lookup webhookCertSecret = some secret →
      needsRenewal x w.now secret = true) :
    wp (PKIHandles x) (fun _ _ => True) (issueWebhookCert x o caKey ca existing)
      (fun _ _ w' => CertEnsured x o w ca w') (fun _ _ => True) () w := by
  unfold issueWebhookCert
  rw [wp_bind, wp_pkiAsk]
  refine ⟨trivial, fun generated w₁ hgenerated => ?_⟩
  rw [wp_bind]
  refine wp_context.mpr (wp_pkiOrFail.mpr ?_)
  rintro key rfl
  obtain ⟨-, rfl⟩ := key_of_handles hgenerated
  refine wp_bind.mpr (wp_pkiNow (wp_bind.mpr (wp_pkiNow ?_)))
  rw [wp_bind, wp_pkiAsk]
  refine ⟨trivial, fun created w₃ hcreated => ?_⟩
  rw [wp_bind]
  refine wp_context.mpr (wp_pkiOrFail.mpr ?_)
  rintro der rfl
  obtain ⟨hparent, hparse, rfl⟩ := certificate_of_handles hcreated
  have hsigner : ca.publicKey = caKey := hparent _ rfl
  -- either way the Secret is stored under its name, with the new data
  have hstored : ∀ secret : Secret, secret.name = webhookCertSecret →
      secret.data = (tlsSecretWith x webhookCertSecret key der ca.raw).data →
      CertEnsured x o w₃ ca (w₃.store secret) := by
    intro secret hname hdata
    have hcert : certificateOf x secret =
        some ((serverTemplate o w₃.now w₃.now).signed der key caKey) := by
      rw [certificateOf, hdata]
      exact certificateOf_tlsSecretWith hparse
    exact
      { now := rfl
        configurations := rfl
        caCert := by
          rw [PKIWorld.caCert, lookup_store_ne (by rw [hname]; exact caSecretName_ne.symm),
            PKIWorld.caCert]
        origin := Or.inr ⟨hrenew, _, (webhookCert_of_lookup (lookup_store_self hname)).trans hcert,
          hsigner.symm, validAt_signed rfl (serverTemplate_lasts o _),
          host_mem_serverTemplate o w₃.now w₃.now⟩ }
  cases existing with
  | none =>
    refine wp_bind.mpr (wp_pkiAsk.mpr ⟨trivial, fun answer w₄ hanswer => ?_⟩)
    refine wp_bind.mpr (wp_pkiOfApi.mpr ?_)
    rintro ⟨⟩ rfl
    obtain rfl := create_of_handles hanswer
    exact hstored _ rfl rfl
  | some secret =>
    refine wp_bind.mpr (wp_pkiAsk.mpr ⟨trivial, fun answer w₄ hanswer => ?_⟩)
    refine wp_bind.mpr (wp_pkiOfApi.mpr ?_)
    rintro ⟨⟩ rfl
    obtain rfl := update_of_handles hanswer
    have hname : secret.name = webhookCertSecret := w₃.named _ _ hexisting
    exact hstored _ hname rfl

theorem wp_ensureWebhookCert {caKey : KeyPair} :
    wp (PKIHandles x) (fun _ _ => True) (ensureWebhookCert x o caKey ca)
      (fun _ _ w' => CertEnsured x o w ca w') (fun _ _ => True) () w := by
  unfold ensureWebhookCert
  rw [wp_bind, wp_pkiAsk]
  refine ⟨trivial, fun r w₁ hr => ?_⟩
  cases r with
  | ok secret =>
    obtain ⟨hsecret, rfl⟩ := get_of_handles hr
    dsimp only
    refine wp_bind.mpr (wp_pkiNow (wp_ite.mpr ?_))
    refine ⟨fun hrenew => ?_, fun hkeep => ?_⟩
    · rw [wp_bind]
      refine wp_issueWebhookCert hsecret fun secret' hsecret' => ?_
      obtain rfl := Option.some.inj (hsecret.symm.trans hsecret')
      exact hrenew
    · exact ⟨rfl, rfl, rfl, Or.inl ⟨secret, hsecret, Bool.eq_false_iff.mpr hkeep,
        webhookCert_of_lookup hsecret⟩⟩
  | error err =>
    refine wp_ite.mpr ⟨fun _ => trivial, fun hreason => ?_⟩
    obtain ⟨hmissing, rfl⟩ := missing_of_getSecret hr (not_not.mp hreason)
    rw [wp_bind]
    refine wp_issueWebhookCert hmissing fun secret hsecret => ?_
    rw [hmissing] at hsecret
    cases hsecret

/-! ## Configurations -/

variable {kind : WebhookKind}

theorem getConfiguration_of_handles {caBundles : List Bytes}
    (h : PKIHandles x w (.getConfiguration kind name) (.ok caBundles) w') :
    (w.configurations kind).lookup name = some caBundles ∧ w' = w := by
  rcases h with ⟨hr, hw⟩ | ⟨⟨message, hr⟩, -⟩
  · exact ⟨found_eq_ok.mp hr.symm, hw⟩
  · cases hr

theorem missing_of_getConfiguration {err : ApiError}
    (h : PKIHandles x w (.getConfiguration kind name) (.error err) w')
    (hreason : err.reason = .notFound) : (w.configurations kind).lookup name = none ∧ w' = w := by
  rcases h with ⟨hr, hw⟩ | ⟨⟨message, hr⟩, -⟩
  · exact ⟨eq_none_of_found hr.symm, hw⟩
  · cases hr
    cases hreason

theorem updateConfiguration_of_handles {caBundles : List Bytes}
    (h : PKIHandles x w (.updateConfiguration kind name caBundles) (.ok ()) w') :
    w' = w.storeConfiguration kind name caBundles := by
  rcases h with h | ⟨⟨reason, message, hr⟩, -⟩
  · simp only [PKIAnswers] at h
    split at h
    · exact h.2
    · cases h.1
  · cases hr

/-- Every webhook of this configuration, if it exists, has the bundle. -/
def PKIWorld.HasBundle (w : PKIWorld) (kind : WebhookKind) (name : String) (caCertPEM : Bytes) :
    Prop :=
  ∀ caBundles, (w.configurations kind).lookup name = some caBundles →
    ∀ caBundle ∈ caBundles, caBundle = caCertPEM

/-- A configuration is brought to the bundle; nothing else changes. -/
structure BundlePatched (w : PKIWorld) (kind : WebhookKind) (name : String) (caCertPEM : Bytes)
    (w' : PKIWorld) : Prop where
  now : w'.now = w.now
  secrets : w'.secrets = w.secrets
  others : ∀ kind', kind' ≠ kind → w'.configurations kind' = w.configurations kind'
  bundle : name ≠ "" → w'.HasBundle kind name caCertPEM

variable {caCertPEM : Bytes}

theorem wp_patchWebhookConfiguration :
    wp (PKIHandles x) (fun _ _ => True) (patchWebhookConfiguration kind name caCertPEM)
      (fun _ _ w' => BundlePatched w kind name caCertPEM w') (fun _ _ => True) () w := by
  unfold patchWebhookConfiguration
  rw [wp_bind, wp_pkiAsk]
  refine ⟨trivial, fun r w₁ hr => ?_⟩
  cases r with
  | error err =>
    refine wp_ite.mpr ⟨fun hreason => ?_, fun _ => trivial⟩
    obtain ⟨hmissing, rfl⟩ := missing_of_getConfiguration hr hreason
    refine ⟨rfl, rfl, fun _ _ => rfl, fun _ caBundles hbundles => ?_⟩
    rw [hmissing] at hbundles
    cases hbundles
  | ok caBundles =>
    obtain ⟨hlookup, rfl⟩ := getConfiguration_of_handles hr
    refine wp_ite.mpr ⟨fun hall => ?_, fun _ => ?_⟩
    · refine ⟨rfl, rfl, fun _ _ => rfl, fun _ caBundles' hbundles => ?_⟩
      obtain rfl := Option.some.inj (hlookup.symm.trans hbundles)
      exact hall
    · rw [wp_bind, wp_pkiAsk]
      refine ⟨trivial, fun answer w₂ hanswer => ?_⟩
      refine wp_context.mpr (wp_pkiOfApi.mpr ?_)
      rintro ⟨⟩ rfl
      obtain rfl := updateConfiguration_of_handles hanswer
      refine ⟨rfl, rfl, fun kind' hkind => if_neg hkind, fun _ caBundles' hbundles => ?_⟩
      rw [PKIWorld.storeConfiguration] at hbundles
      dsimp only at hbundles
      rw [if_pos rfl, GoMap.lookup_insert_self] at hbundles
      cases hbundles
      intro caBundle hmem
      obtain ⟨_, -, rfl⟩ := List.mem_map.mp hmem
      rfl

theorem wp_patchNamedConfiguration :
    wp (PKIHandles x) (fun _ _ => True) (patchNamedConfiguration o kind caCertPEM)
      (fun _ _ w' => BundlePatched w kind (o.configurationName kind) caCertPEM w')
      (fun _ _ => True) () w := by
  refine wp_ite.mpr ⟨fun _ => wp_patchWebhookConfiguration, fun hname => ?_⟩
  exact ⟨rfl, rfl, fun _ _ => rfl, fun h => absurd h hname⟩

theorem wp_patchWebhookConfigurations :
    wp (PKIHandles x) (fun _ _ => True) (patchWebhookConfigurations o caCertPEM)
      (fun _ _ w' => w'.now = w.now ∧ w'.secrets = w.secrets ∧ w'.Publishes o caCertPEM)
      (fun _ _ => True) () w := by
  unfold patchWebhookConfigurations
  rw [wp_bind]
  refine wp_post wp_patchNamedConfiguration fun _ _ w₁ h₁ => ?_
  refine wp_post wp_patchNamedConfiguration fun _ _ w₂ h₂ => ?_
  refine ⟨h₂.now.trans h₁.now, h₂.secrets.trans h₁.secrets, fun kind hname => ?_⟩
  cases kind with
  | mutating =>
    intro caBundles hbundles
    rw [h₂.others .mutating (by decide)] at hbundles
    exact h₁.bundle hname caBundles hbundles
  | validating => exact h₂.bundle hname

/-! ## The call -/

theorem certificateOf_of_kept {time : Int} (h : needsRenewal x time secret = false) :
    ∃ cert, certificateOf x secret = some cert ∧ time + renewalThreshold ≤ cert.notAfter := by
  unfold needsRenewal at h
  cases hcert : certificateOf x secret with
  | none => simp [hcert] at h
  | some cert =>
    simp only [hcert, decide_eq_false_iff_not] at h
    exact ⟨cert, rfl, by omega⟩

/-- What the three steps leave behind matches exactly if what they kept was in order. -/
theorem matches_iff_ready {w₁ w₂ w₃ : PKIWorld}
    (h₁ : CAEnsured x w ca w₁) (h₂ : CertEnsured x o w₁ ca w₂) (hnow : w₃.now = w₂.now)
    (hsecrets : w₃.secrets = w₂.secrets)
    (hpublished : w₃.Publishes o (x.encodePEM "CERTIFICATE" ca.raw)) :
    MatchesPublished x o w₃ ↔ PKIReady x o w := by
  have htime : w₃.now = w.now := hnow.trans (h₂.now.trans h₁.now)
  have hca : w₃.caCert x = some ca := by
    rw [PKIWorld.caCert, hsecrets]
    exact h₂.caCert.trans h₁.caCert
  have hcert : w₃.webhookCert x = w₂.webhookCert x := by
    rw [PKIWorld.webhookCert, hsecrets, PKIWorld.webhookCert]
  have hmatches : MatchesPublished x o w₃ ↔ ∃ cert, w₂.webhookCert x = some cert ∧
      cert.SignedBy ca ∧ ca.ValidAt w.now ∧ cert.ValidAt w.now ∧ o.host ∈ cert.dnsNames := by
    constructor
    · rintro ⟨ca', cert, hca', hcert', -, hsigned, hvalid, hvalid', hhost⟩
      obtain rfl := Option.some.inj (hca.symm.trans hca')
      rw [htime] at hvalid hvalid'
      exact ⟨cert, hcert.symm.trans hcert', hsigned, hvalid, hvalid', hhost⟩
    · rintro ⟨cert, hcert', hsigned, hvalid, hvalid', hhost⟩
      rw [← htime] at hvalid hvalid'
      exact ⟨ca, cert, hca, hcert.trans hcert', hpublished, hsigned, hvalid, hvalid', hhost⟩
  rw [hmatches]
  rcases h₂.origin with ⟨secret, hsecret, hkeep, hkept⟩ |
    ⟨hrenew, cert, hissued, hsigned, hcvalid, hhost⟩
  · -- the certificate was kept
    rw [h₁.webhookSecret] at hsecret
    rw [h₁.now] at hkeep
    obtain ⟨cert, hstored, hlasts⟩ := certificateOf_of_kept hkeep
    have hthreshold : 0 < renewalThreshold := by decide
    constructor
    · rintro ⟨cert', hcert', hsigned, hcavalid, hcvalid, hhost⟩
      obtain rfl := Option.some.inj (hstored.symm.trans (hkept.symm.trans hcert'))
      rcases h₁.origin with hsome | ⟨-, -, hfresh⟩
      · refine ⟨fun ca' hca' => ?_, fun secret' hsecret' _ => ?_⟩
        · obtain rfl := Option.some.inj (hsome.symm.trans hca')
          exact hcavalid
        · obtain rfl := Option.some.inj (hsecret.symm.trans hsecret')
          exact ⟨ca, cert, hsome, hstored, hsigned, hcvalid.1, hhost⟩
      · -- a new CA has not signed it
        exact absurd hsigned (hfresh cert ((webhookCert_of_lookup hsecret).trans hstored))
    · intro hready
      obtain ⟨ca', cert', hca', hcert', hsigned, hbefore, hhost⟩ := hready.cert secret hsecret hkeep
      obtain rfl := Option.some.inj (hstored.symm.trans hcert')
      rcases h₁.origin with hsome | ⟨hnone, -, -⟩
      · obtain rfl := Option.some.inj (hsome.symm.trans hca')
        exact ⟨cert, hkept.trans hstored, hsigned, hready.ca ca hsome, ⟨hbefore, by omega⟩, hhost⟩
      · rw [hnone] at hca'
        cases hca'
  · -- it is a new one
    rw [h₁.now] at hcvalid
    constructor
    · rintro ⟨-, -, -, hcavalid, -, -⟩
      refine ⟨fun ca' hca' => ?_, fun secret hsecret hkeep => ?_⟩
      · rcases h₁.origin with hsome | ⟨hnone, -, -⟩
        · obtain rfl := Option.some.inj (hsome.symm.trans hca')
          exact hcavalid
        · rw [hnone] at hca'
          cases hca'
      · rw [← h₁.webhookSecret] at hsecret
        rw [← h₁.now, hrenew secret hsecret] at hkeep
        cases hkeep
    · intro hready
      refine ⟨cert, hissued, hsigned, ?_, hcvalid, hhost⟩
      rcases h₁.origin with hsome | ⟨-, hvalid, -⟩
      · exact hready.ca ca hsome
      · exact hvalid

/-- What a call that succeeds has done. -/
structure PKIEnsured (x : X509) (o : WebhookPKIOptions) (w w' : PKIWorld) : Prop where
  now : w'.now = w.now
  caCert : ∀ ca, w.caCert x = some ca → w'.caCert x = some ca
  matches_iff : MatchesPublished x o w' ↔ PKIReady x o w

theorem wp_ensureWebhookPKI : wp (PKIHandles x) (fun _ _ => True) (ensureWebhookPKI x o)
      (fun _ _ w' => PKIEnsured x o w w') (fun _ _ => True) () w := by
  unfold ensureWebhookPKI
  rw [wp_bind]
  refine wp_context.mpr (wp_post wp_ensureCA fun made _ w₁ h₁ => ?_)
  rw [wp_bind]
  refine wp_context.mpr (wp_post wp_ensureWebhookCert fun ensured _ w₂ h₂ => ?_)
  rw [wp_bind]
  refine wp_context.mpr (wp_post wp_patchWebhookConfigurations fun _ _ w₃ h₃ => ?_)
  obtain ⟨hnow, hsecrets, hpublished⟩ := h₃
  have hca : w₃.caCert x = some made.2 := by
    rw [PKIWorld.caCert, hsecrets]
    exact h₂.caCert.trans h₁.caCert
  have hensured : PKIEnsured x o w w₃ :=
    { now := hnow.trans (h₂.now.trans h₁.now)
      caCert := by
        intro ca hstored
        rcases h₁.origin with hsame | ⟨hnone, -, -⟩
        · exact hca.trans (hsame.symm.trans hstored)
        · rw [hnone] at hstored
          cases hstored
      matches_iff := matches_iff_ready h₁ h₂ hnow hsecrets hpublished }
  refine wp_ite.mpr ⟨fun _ => ?_, fun _ => hensured⟩
  refine wp_pkiAsk.mpr ⟨trivial, fun _ w₄ hevent => ?_⟩
  rcases hevent with rfl | ⟨hfail, -⟩
  · exact hensured
  · exact hfail.elim

theorem ensured_of_call
    (hcall : Prog.Returns (PKIHandles x) (ensureWebhookPKI x o ()) w (.ok ((), ())) w') :
    PKIEnsured x o w w' := by
  have hpost := Prog.wp_returns hcall (wp_ensureWebhookPKI (x := x) (o := o) (w := w))
  exact hpost

/-- A call that succeeds, from any state and at any time, leaves a webhook
    certificate that matches the published CA exactly if what it kept was in
    order. -/
theorem webhook_certificate_matches_iff (x : X509) (o : WebhookPKIOptions) {w w' : PKIWorld}
    (hcall : Prog.Returns (PKIHandles x) (ensureWebhookPKI x o ()) w (.ok ((), ())) w') :
    MatchesPublished x o w' ↔ PKIReady x o w :=
  (ensured_of_call hcall).matches_iff

/-! ## A call that keeps everything -/

theorem may_pkiAsk {c : PKICmd} {B : PKIWorld → PKICmd → Prop}
    {Q : PKIReply c → Unit → PKIWorld → Prop} :
    may (PKIHandles x) B (PKIOp.ask c) Q () w ↔
      B w c ∨ ∃ r w', PKIHandles x w c r w' ∧ Q r () w' := may_request

theorem may_patchNamedConfiguration {Q : Unit → Unit → PKIWorld → Prop} (hQ : ∀ w', Q () () w') :
    may (PKIHandles x) (fun _ _ => False) (patchNamedConfiguration o kind caCertPEM) Q () w := by
  refine may_ite.mpr ?_
  by_cases hname : o.configurationName kind = ""
  · exact Or.inr ⟨not_not.mpr hname, hQ w⟩
  · refine Or.inl ⟨hname, ?_⟩
    unfold patchWebhookConfiguration
    rw [may_bind, may_pkiAsk]
    refine Or.inr ⟨_, w, Or.inl ⟨rfl, rfl⟩, ?_⟩
    cases hlookup : (w.configurations kind).lookup (o.configurationName kind) with
    | none => exact may_ite.mpr (Or.inl ⟨rfl, hQ w⟩)
    | some caBundles =>
      refine may_ite.mpr ?_
      by_cases hall : ∀ caBundle ∈ caBundles, caBundle = caCertPEM
      · exact Or.inl ⟨hall, hQ w⟩
      · refine Or.inr ⟨hall, ?_⟩
        have hupdate : PKIHandles x w (.updateConfiguration kind (o.configurationName kind)
            (caBundles.map fun _ => caCertPEM)) (.ok ())
            (w.storeConfiguration kind (o.configurationName kind)
              (caBundles.map fun _ => caCertPEM)) := by
          refine Or.inl ?_
          simp only [PKIAnswers, hlookup]
          exact ⟨trivial, trivial⟩
        rw [may_bind, may_pkiAsk]
        exact Or.inr ⟨.ok (), _, hupdate, may_context.mpr (hQ _)⟩

/-- A CA that can be read and a certificate that need not be renewed are kept. -/
theorem exists_call_keeping {caSecret certSecret : Secret}
    {made : KeyPair × Certificate} (hca : w.secrets.lookup caSecretName = some caSecret)
    (hparse : parseCAFromSecret x caSecret = .ok made)
    (hcert : w.secrets.lookup webhookCertSecret = some certSecret)
    (hkeep : needsRenewal x w.now certSecret = false) :
    ∃ w', Prog.Returns (PKIHandles x) (ensureWebhookPKI x o ()) w (.ok ((), ())) w' := by
  have hmay : may (PKIHandles x) (fun _ _ => False) (ensureWebhookPKI x o)
      (fun _ _ _ => True) () w := by
    unfold ensureWebhookPKI ensureCA ensureWebhookCert patchWebhookConfigurations
    rw [may_bind]
    refine may_context.mpr ?_
    rw [may_bind, may_pkiAsk]
    refine Or.inr ⟨.ok caSecret, w, Or.inl ⟨by rw [hca]; rfl, rfl⟩, ?_⟩
    dsimp only
    rw [hparse]
    refine may_bind.mpr (may_context.mpr ?_)
    rw [may_bind, may_pkiAsk]
    refine Or.inr ⟨.ok certSecret, w, Or.inl ⟨by rw [hcert]; rfl, rfl⟩, ?_⟩
    dsimp only
    rw [may_bind, may_pkiAsk]
    refine Or.inr ⟨w.now, w, Or.inl ⟨rfl, rfl⟩, may_ite.mpr (Or.inr ⟨by simp [hkeep], ?_⟩)⟩
    refine may_bind.mpr (may_context.mpr (may_bind.mpr ?_))
    exact may_patchNamedConfiguration fun _ => may_patchNamedConfiguration fun _ => trivial
  rcases Prog.may_iff.mp hmay with ⟨_, _, _, hfalse⟩ | ⟨outcome, w', hret, houtcome⟩
  · exact hfalse.elim
  · cases outcome with
    | error err => exact houtcome.elim
    | ok _ => exact ⟨w', hret⟩

end

/-- A certificate that has been valid from time zero. -/
def storedCertificate (notAfter : Int) (dnsNames : List String) (raw : Bytes)
    (publicKey signer : KeyPair) : Certificate where
  serialNumber := 1
  dnsNames := dnsNames
  notBefore := 0
  notAfter := notAfter
  raw := raw
  publicKey := publicKey
  signer := signer

/-- Encodings that know three certificates: a CA with key `1`, one it signed for
    the webhook, and one that key `9` signed. -/
def smallX509 : X509 where
  encodePEM := fun _ der => der
  decodePEM := some
  parseCertificate := fun der =>
    if der = [1] then .ok (storedCertificate (3650 * day) [] [1] 1 1)
    else if der = [2] then .ok (storedCertificate (365 * day) ["hooks.ops.svc"] [2] 2 1)
    else if der = [3] then .ok (storedCertificate (365 * day) ["hooks.ops.svc"] [3] 2 9)
    else .error "x509: malformed certificate"
  parseECPrivateKey := fun der => .ok der.length
  marshalECPrivateKey := fun key => List.replicate key 0
  decodePEM_encodePEM := fun _ _ => rfl
  raw_of_parse := by
    intro der cert h
    split at h
    next hder => rw [hder]; cases h; rfl
    next =>
      split at h
      next hder => rw [hder]; cases h; rfl
      next =>
        split at h
        next hder => rw [hder]; cases h; rfl
        next => cases h
  parse_marshal := fun key => by rw [List.length_replicate]

/-- Service `hooks` in `ops`, with a validating configuration. -/
def hooksOptions : WebhookPKIOptions where
  objectNamespace := "ops"
  serviceName := "hooks"
  validatingWebhookConfigurationName := "checks"

/-- The stored CA, a stored certificate, and a configuration without a bundle. -/
def storedPKI (certDER : Bytes) : PKIWorld :=
  (({ now := day, secrets := ∅
      named := fun _ _ h => by rw [GoMap.lookup_empty] at h; cases h } : PKIWorld).store
    (tlsSecretWith smallX509 caSecretName 1 [1] [1])).store
    (tlsSecretWith smallX509 webhookCertSecret 2 certDER [1]) |>.storeConfiguration .validating
      "checks" [[]]

theorem lookup_storedPKI (certDER : Bytes) :
    (storedPKI certDER).secrets.lookup caSecretName =
        some (tlsSecretWith smallX509 caSecretName 1 [1] [1]) ∧
      (storedPKI certDER).secrets.lookup webhookCertSecret =
        some (tlsSecretWith smallX509 webhookCertSecret 2 certDER [1]) := by
  constructor
  · exact (lookup_store_ne caSecretName_ne.symm).trans (lookup_store_self rfl)
  · exact lookup_store_self rfl

/-- A certificate of the stored CA is kept, and the CA published. -/
theorem webhook_certificate_matches_kept :
    ∃ w', Prog.Returns (PKIHandles smallX509) (ensureWebhookPKI smallX509 hooksOptions ())
        (storedPKI [2]) (.ok ((), ())) w' ∧
      MatchesPublished smallX509 hooksOptions w' := by
  obtain ⟨hca, hcert⟩ := lookup_storedPKI [2]
  obtain ⟨w', hcall⟩ := exists_call_keeping (x := smallX509) (o := hooksOptions) hca rfl hcert
    (by decide +kernel)
  refine ⟨w', hcall, (webhook_certificate_matches_iff smallX509 hooksOptions hcall).mpr ⟨?_, ?_⟩⟩
  · intro ca hstored
    rw [caCert_of_lookup hca] at hstored
    cases hstored
    decide +kernel
  · intro secret hsecret _
    obtain rfl := Option.some.inj (hcert.symm.trans hsecret)
    exact ⟨_, _, caCert_of_lookup hca, rfl, by decide +kernel, by decide +kernel, by decide +kernel⟩

/-- A certificate of another CA is kept as well; the API server will not accept it. -/
theorem webhook_certificate_of_another_ca :
    ∃ w', Prog.Returns (PKIHandles smallX509) (ensureWebhookPKI smallX509 hooksOptions ())
        (storedPKI [3]) (.ok ((), ())) w' ∧
      ¬ MatchesPublished smallX509 hooksOptions w' := by
  obtain ⟨hca, hcert⟩ := lookup_storedPKI [3]
  obtain ⟨w', hcall⟩ := exists_call_keeping (x := smallX509) (o := hooksOptions) hca rfl hcert
    (by decide +kernel)
  refine ⟨w', hcall, fun hmatches => ?_⟩
  obtain ⟨ca, cert, hca', hcert', hsigned, -⟩ :=
    ((ensured_of_call hcall).matches_iff.mp hmatches).cert _ hcert (by decide +kernel)
  rw [caCert_of_lookup hca] at hca'
  cases hca'
  cases hcert'
  exact absurd hsigned (by decide +kernel)

end RedisOperator
