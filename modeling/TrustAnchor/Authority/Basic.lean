import TrustAnchor.Authority.Reader
import TrustAnchor.KeyMap

/-! A certificate authority: a certificate, its private key and the window in which the certificate
is valid. It is stored as two entries of a map from names to bytes. -/

namespace TrustAnchor

structure Authority where
  /-- The certificate as wrapped text. -/
  certificate : String
  /-- The private key as wrapped text. -/
  key : String
  notBefore : Instant
  notAfter : Instant
  deriving DecidableEq, Repr

namespace Authority

/-- The entry that holds the certificate. -/
def certificateEntry : String := "ca.crt"

/-- The entry that holds the private key. -/
def keyEntry : String := "ca.key"

/-- The authority that two texts hold. The key is looked at first. -/
def ofPem (certificate key : String) (R : Reader := .standard) :
    Except AuthorityError Authority := do
  (R.key key).mapError fun fault => .unreadable (.key fault)
  let encoded ← readPem certificate R
  let (parsed, _) ←
    (R.certificate encoded).mapError fun fault => .unreadable (.certificate fault)
  return { certificate, key, notBefore := parsed.notBefore, notAfter := parsed.notAfter }

/-- The authority that stored entries hold. There is none if an entry is missing or empty; entries
that cannot be read are an error, so that they are not taken for missing ones. -/
def ofEntries (data : Option (KeyMap Bytes)) (R : Reader := .standard) :
    Except AuthorityError (Option Authority) :=
  match data with
  | none => .ok none
  | some entries =>
    match entries.get? certificateEntry, entries.get? keyEntry with
    | some certificate, some key =>
      if certificate.isEmpty || key.isEmpty then .ok none
      else do
        let certificate ← (Text.Utf8.decode certificate).mapError fun fault =>
          .unreadable (.certificateText fault)
        let key ← (Text.Utf8.decode key).mapError fun fault => .unreadable (.keyText fault)
        return some (← ofPem certificate key R)
    | _, _ => .ok none

/-- The entries that store an authority. -/
def toEntries (a : Authority) : KeyMap Bytes where
  entries :=
    [(certificateEntry, Text.Utf8.encode a.certificate), (keyEntry, Text.Utf8.encode a.key)]
  sorted := by simp [certificateEntry, keyEntry, Text.before, Text.listBefore]

/-- The bytes that clients trust. -/
def bundle (a : Authority) : Bytes := Text.Utf8.encode a.certificate

/-- The time that is left at `now`; the authority has expired when none is. -/
def remaining (a : Authority) (now : Instant) : Except AuthorityError Duration :=
  match a.notAfter.since? now with
  | some d => .ok d
  | none => .error (.expired a.notAfter)

/-- The same material and the same window, whatever the offsets at which the window is seen. -/
def same (a b : Authority) : Bool :=
  a.certificate = b.certificate && a.key = b.key && a.notBefore.same b.notBefore
    && a.notAfter.same b.notAfter

/-- What may be shown of an authority: its window, and nothing of its material. -/
def summary (a : Authority) : String :=
  "CertificateAuthority \x7b not_before: " ++ a.notBefore.text ++ ", not_after: "
    ++ a.notAfter.text ++ ", .. \x7d"

end Authority

end TrustAnchor
