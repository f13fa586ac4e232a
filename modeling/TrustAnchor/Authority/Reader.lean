import TrustAnchor.Authority.Error

/-! How the two texts of an authority are read. What makes a text a key, and what makes bytes a
certificate, can be put differently; the rest of the library only asks that empty texts hold
neither. -/

namespace TrustAnchor

abbrev Bytes := List UInt8

structure Authority.Reader where
  /-- Looks at the text of a key. -/
  key : String → Except PrivateKey.Fault Unit
  /-- The bytes that the text of a certificate wraps. -/
  unwrap : String → Except Pem.Fault Bytes
  /-- The certificate that some bytes begin with, and what follows it. -/
  certificate : Bytes → Except Certificate.Fault (Certificate × Bytes)
  key_empty : ∀ u, key "" ≠ .ok u
  certificate_empty : ∀ bytes found, unwrap "" = .ok bytes → certificate bytes ≠ .ok found

/-- Keys of four kinds, and certificates as they are encoded everywhere. -/
def Authority.Reader.standard : Authority.Reader where
  key := PrivateKey.check
  unwrap := Pem.decode
  certificate := Certificate.read
  key_empty := fun _ h => nomatch h
  certificate_empty := fun _ _ h => nomatch h

/-- The bytes that a wrapped text holds. -/
def readPem (text : String) (R : Authority.Reader := .standard) : Except AuthorityError Bytes :=
  (R.unwrap text).mapError fun fault => .unreadable (.framing fault)

end TrustAnchor
