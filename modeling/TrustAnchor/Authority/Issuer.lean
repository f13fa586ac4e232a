import TrustAnchor.Authority.Basic
import TrustAnchor.Certificate.Writer

/-! New authorities. Their window starts at the last whole second, because certificates know no
fractions; the certificate is written in whole seconds, while the authority keeps the exact end. -/

namespace TrustAnchor

/-- What new authorities are called and how long they are valid. -/
structure Issuer where
  commonName : String
  organization : String
  validity : Duration
  deriving DecidableEq, Repr

namespace Issuer

/-- The first and the last moment of an authority made at `now`. The validity has to fit a signed
number of 64 bits, and its end has to be a time that can be shown. -/
def window (i : Issuer) (now : Instant) : Except AuthorityError (Instant × Instant) :=
  let start := now.wholeSecond
  if Nat.pow 2 63 ≤ i.validity.seconds then .error (.generation .validityRange)
  else
    match start.after? i.validity with
    | none => .error (.generation (.windowOverflow i.validity.seconds start))
    | some stop => .ok (start, stop)

/-- An authority made at `now` with a fresh key. Years that a certificate cannot hold make the
attempt break off. -/
def issue (i : Issuer) (key : Signature.P256.PrivateKey) (now : Instant) :
    Except String (Except AuthorityError Authority) :=
  match i.window now with
  | .error e => .ok (.error e)
  | .ok (notBefore, notAfter) => do
    let draft : Certificate.Draft :=
      { commonName := i.commonName, organization := i.organization, notBefore, notAfter }
    let encoded ← draft.sign key
    return .ok {
      certificate := Pem.encode "CERTIFICATE" encoded
      key := Pem.encode "PRIVATE KEY" (PrivateKey.writeP256 key)
      notBefore, notAfter }

end Issuer

end TrustAnchor
