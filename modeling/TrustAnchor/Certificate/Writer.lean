import TrustAnchor.Certificate.Reader
import TrustAnchor.PrivateKey
import TrustAnchor.Signature.P256

/-! Certificates of authorities that sign for themselves: subject and issuer are the same party, and
the key that is certified also signs. -/

namespace TrustAnchor.Certificate

open Signature (P256.PrivateKey)

/-- What a self-signed certificate is to say. -/
structure Draft where
  commonName : String
  organization : String
  notBefore : Instant
  notAfter : Instant

/-- Object identifiers, encoded. -/
def commonNameOid : List UInt8 := [0x55, 4, 3]

def organizationOid : List UInt8 := [0x55, 4, 10]

def keyUsageOid : List UInt8 := [0x55, 0x1D, 15]

def keyIdentifierOid : List UInt8 := [0x55, 0x1D, 14]

def basicConstraintsOid : List UInt8 := [0x55, 0x1D, 19]

/-- Signatures over a curve with SHA-256. -/
def ecdsaSha256Oid : List UInt8 := [0x2A, 0x86, 0x48, 0xCE, 0x3D, 4, 3, 2]

private def ascii (s : List Char) : List UInt8 := s.map fun c => c.toNat.toUInt8

private def digits (width : Nat) (n : Nat) : List Char := Text.padded width n

/-- A point in time in whole seconds: in short form if it is shown in a year from 1950 to 2049, in
long form otherwise. Each form has its own range of years in universal time, and no clock shows
universal time beyond four digits of a year. -/
def writeTime (t : Instant) : Except String (List UInt8) :=
  let date := t.utcDate
  let time := (t.unixSeconds % 86400).toNat
  let rest := digits 2 date.month ++ digits 2 date.day ++ digits 2 (time / 3600)
    ++ digits 2 (time / 60 % 60) ++ digits 2 (time % 60) ++ ['Z']
  let shown := t.localDate.year
  if 9999 < date.year.natAbs then .error "local datetime out of valid range"
  else if 1950 ≤ shown ∧ shown < 2050 then
    if 1950 ≤ date.year ∧ date.year < 2050 then
      .ok (Der.write 23 (ascii (digits 2 (date.year % 100).toNat ++ rest)))
    else .error ("Can't express a year " ++ toString date.year ++ " in UTCTime")
  else if 0 ≤ date.year ∧ date.year < 10000 then
    .ok (Der.write 24 (ascii (digits 4 date.year.toNat ++ rest)))
  else .error ("Can't express a year " ++ toString date.year ++ " in GeneralizedTime")

private def nameAttribute (oid : List UInt8) (value : String) : List UInt8 :=
  Der.set [Der.sequence [Der.oid oid, Der.utf8String (Text.Utf8.encode value)]]

private def party (d : Draft) : List UInt8 :=
  Der.sequence [
    nameAttribute commonNameOid d.commonName, nameAttribute organizationOid d.organization]

private def publicKeyInfo (point : List UInt8) : List UInt8 :=
  Der.sequence [Der.sequence [PrivateKey.Algorithm.p256.identifier], Der.bitString point]

private def criticalExtension (oid content : List UInt8) : List UInt8 :=
  Der.sequence [Der.oid oid, Der.boolean true, Der.octetString content]

/-- An authority may sign certificates, lists of revoked certificates, and other data. -/
private def authorityExtensions (point : List UInt8) : List UInt8 :=
  Der.explicit 3 (Der.sequence [
    criticalExtension keyUsageOid (Der.write 3 [1, 0x86]),
    Der.sequence [Der.oid keyIdentifierOid,
      Der.octetString (Der.octetString ((Signature.sha256.hash point).take 20))],
    criticalExtension basicConstraintsOid (Der.sequence [Der.boolean true])])

/-- A serial number made of the public key: positive, in 20 bytes. -/
private def freshSerial (point : List UInt8) : List UInt8 :=
  match (Signature.sha256.hash (1 :: point)).take 20 with
  | [] => [1]
  | b :: rest => (b &&& 0x7F) :: rest

private def signatureAlgorithmInfo : List UInt8 := Der.sequence [Der.oid ecdsaSha256Oid]

/-- The certificate of a draft under a key, or the reason why its validity cannot be written. -/
def Draft.sign (d : Draft) (key : P256.PrivateKey) : Except String (List UInt8) := do
  let point := key.publicPoint
  let notBefore ← writeTime d.notBefore
  let notAfter ← writeTime d.notAfter
  let signed := Der.sequence [
    Der.explicit 0 (Der.integer [2]), Der.integer (freshSerial point), signatureAlgorithmInfo,
    party d, Der.sequence [notBefore, notAfter], party d, publicKeyInfo point, authorityExtensions point]
  let (r, s) := key.sign signed
  let signature := Der.sequence [
    Der.integer (Der.bytesOfNat r), Der.integer (Der.bytesOfNat s)]
  return Der.sequence [signed, signatureAlgorithmInfo, Der.bitString signature]

end TrustAnchor.Certificate

namespace TrustAnchor.PrivateKey

/-- A key over P-256 in the wrapping that names the algorithm, with its public point. -/
def writeP256 (key : Signature.P256.PrivateKey) : List UInt8 :=
  let inner := Der.sequence [
    Der.integer [1], Der.octetString key.bytes,
    Der.explicit 1 (Der.bitString key.publicPoint)]
  Der.sequence [
    Der.integer [0], Der.sequence [Algorithm.p256.identifier], Der.octetString inner]

end TrustAnchor.PrivateKey
