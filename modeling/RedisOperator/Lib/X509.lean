/-
  RedisOperator.Lib.X509

  Certificates and keys as Go's `crypto/x509` and `encoding/pem` handle them.
  A certificate is known by what it says and by the key that signed it; which
  bytes stand for it is a parameter, of which only round trips are assumed.
-/

import RedisOperator.Lib.GoBytes

namespace Lib

/-- A key pair. -/
abbrev KeyPair : Type := Nat

/-- What `x509.CreateCertificate` is asked for; times are in nanoseconds. -/
structure CertTemplate where
  serialNumber : Nat
  organization : List String := []
  commonName : String := ""
  dnsNames : List String := []
  notBefore : Int
  notAfter : Int
  keyUsage : List String := []
  extKeyUsage : List String := []
  isCA : Bool := false
  deriving DecidableEq

/-- `x509.Certificate`: `raw` is its DER encoding, `signer` the key that signed it. -/
structure Certificate extends CertTemplate where
  raw : Bytes
  publicKey : KeyPair
  signer : KeyPair
  deriving DecidableEq

namespace Certificate

/-- The signature is that of the other certificate's key. -/
def SignedBy (cert ca : Certificate) : Prop := cert.signer = ca.publicKey

/-- The time is in the validity period. -/
def ValidAt (cert : Certificate) (time : Int) : Prop :=
  cert.notBefore ≤ time ∧ time ≤ cert.notAfter

instance (cert ca : Certificate) : Decidable (cert.SignedBy ca) :=
  inferInstanceAs (Decidable (cert.signer = ca.publicKey))

instance (cert : Certificate) (time : Int) : Decidable (cert.ValidAt time) :=
  inferInstanceAs (Decidable (cert.notBefore ≤ time ∧ time ≤ cert.notAfter))

end Certificate

/-- A time in whole seconds, as certificates have it. -/
def wholeSeconds (time : Int) : Int := time - time % 1000000000

theorem wholeSeconds_le (time : Int) : wholeSeconds time ≤ time := by
  unfold wholeSeconds
  omega

theorem lt_wholeSeconds (time : Int) : time - 1000000000 < wholeSeconds time := by
  unfold wholeSeconds
  omega

/-- The template as it ends up in a certificate. -/
def CertTemplate.issued (template : CertTemplate) : CertTemplate :=
  { template with
    notBefore := wholeSeconds template.notBefore
    notAfter := wholeSeconds template.notAfter }

/-- The certificate for a key, signed with another. -/
def CertTemplate.signed (template : CertTemplate) (raw : Bytes) (key signer : KeyPair) :
    Certificate where
  toCertTemplate := template.issued
  raw := raw
  publicKey := key
  signer := signer

/-- The encodings: PEM blocks with their labels, certificates and keys. -/
structure X509 where
  encodePEM : String → Bytes → Bytes
  decodePEM : Bytes → Option Bytes
  parseCertificate : Bytes → Except String Certificate
  parseECPrivateKey : Bytes → Except String KeyPair
  marshalECPrivateKey : KeyPair → Bytes
  decodePEM_encodePEM : ∀ label der, decodePEM (encodePEM label der) = some der
  raw_of_parse : ∀ der cert, parseCertificate der = .ok cert → cert.raw = der
  parse_marshal : ∀ key, parseECPrivateKey (marshalECPrivateKey key) = .ok key

namespace X509

/-- The certificate in the first PEM block, if there is one. -/
def certificate? (x : X509) (pem : Bytes) : Option Certificate :=
  match x.decodePEM pem with
  | none => none
  | some der =>
    match x.parseCertificate der with
    | .ok cert => some cert
    | .error _ => none

theorem certificate?_encodePEM {x : X509} {label : String} {der : Bytes} {cert : Certificate}
    (h : x.parseCertificate der = .ok cert) :
    x.certificate? (x.encodePEM label der) = some cert := by
  rw [certificate?, x.decodePEM_encodePEM]
  simp only [h]

end X509

end Lib
