import TrustAnchor.Certificate.Writer

/-! What a certificate says about its subject and its purpose. -/

namespace TrustAnchor.Certificate

/-- The first attribute of a kind, as text. -/
def Name.find? (n : Name) (oid : List UInt8) : Option String := do
  let a ← n.attributes.find? (·.oid = oid)
  (Text.Utf8.decode a.value).toOption

/-- Subject and issuer are the same party. -/
def isSelfIssued (c : Certificate) : Bool := c.issuer.encoded = c.subject.encoded

def extension? (c : Certificate) (oid : List UInt8) : Option Extension :=
  c.extensions.find? (·.oid = oid)

/-- Whether the subject may sign certificates, and how many may follow it in a chain. -/
def basicConstraints (c : Certificate) : Bool × Option Nat :=
  match c.extension? basicConstraintsOid with
  | none => (false, none)
  | some e =>
    match Der.read e.value with
    | .error _ => (false, none)
    | .ok (outer, _) =>
      match Der.readAll outer.content with
      | .error _ => (false, none)
      | .ok parts =>
        let flag := parts.any fun p => p.tag = 1 && p.content ≠ [0]
        let length := (parts.find? (·.tag = 2)).map fun p => Der.natOfBytes p.content
        (flag, length)

def keyUsageNames : List String :=
  ["Digital Signature", "Non Repudiation", "Key Encipherment", "Data Encipherment",
    "Key Agreement", "Key Cert Sign", "CRL Sign", "Encipher Only", "Decipher Only"]

/-- The uses that the key is meant for, in the order of their bits. -/
def keyUsages (c : Certificate) : List String :=
  match (c.extension? keyUsageOid).map fun e => Der.read e.value with
  | some (.ok (bits, _)) =>
    let bit (i : Nat) : Bool :=
      (bits.content.getD (1 + i / 8) 0).toNat / Nat.pow 2 (7 - i % 8) % 2 = 1
    (keyUsageNames.zipIdx.filter fun (_, i) => bit i).map (·.1)
  | _ => []

private def arcs (n : Nat) : List UInt8 → List Nat
  | [] => []
  | b :: rest =>
    let n := n * 128 + b.toNat % 128
    if b < 0x80 then n :: arcs 0 rest else arcs n rest

/-- An object identifier in numbers and dots. The first number of the encoding holds two. -/
def oidText (oid : List UInt8) : String :=
  match arcs 0 oid with
  | [] => ""
  | first :: rest =>
    let top := min (first / 40) 2
    String.intercalate "." ((top :: (first - 40 * top) :: rest).map Nat.repr)

end TrustAnchor.Certificate
