import TrustAnchor.Certificate.Reader
import TrustAnchor.PrivateKey

/-! What can go wrong with a certificate authority: its generation, its stored material, its age. -/

namespace TrustAnchor

/-- Why no certificate could be made. -/
inductive GenerationFault where
  /-- The validity does not fit a signed number of seconds. -/
  | validityRange
  /-- The end of the validity lies past the last point in time that can be written. -/
  | windowOverflow (seconds : Nat) (start : Instant)
  | other (text : String)
  deriving DecidableEq, Repr

def GenerationFault.message : GenerationFault → String
  | .validityRange =>
    "validity out of range: Source value is out of range for the target type"
  | .windowOverflow seconds start =>
    "validity of " ++ seconds.repr ++ "s from " ++ start.text ++ " overflows the X.509 time range"
  | .other text => text

/-- Why stored material is no certificate authority. -/
inductive MaterialFault where
  | certificateText (fault : Text.Utf8.Fault)
  | keyText (fault : Text.Utf8.Fault)
  | key (fault : PrivateKey.Fault)
  | framing (fault : Pem.Fault)
  | certificate (fault : Certificate.Fault)
  | other (text : String)
  deriving DecidableEq, Repr

def MaterialFault.message : MaterialFault → String
  | .certificateText fault => "CA cert is not UTF-8: " ++ fault.message
  | .keyText fault => "CA key is not UTF-8: " ++ fault.message
  | .key fault => "failed to parse CA key: " ++ fault.message
  | .framing fault => "failed to parse PEM: " ++ fault.message
  | .certificate fault => "failed to parse CA cert: " ++ fault.message
  | .other text => text

inductive AuthorityError where
  | generation (fault : GenerationFault)
  | keyGeneration (text : String)
  | unreadable (fault : MaterialFault)
  | expired (notAfter : Instant)
  deriving DecidableEq, Repr

def AuthorityError.message : AuthorityError → String
  | .generation fault => "certificate generation failed: " ++ fault.message
  | .keyGeneration text => "key generation failed: " ++ text
  | .unreadable fault => "certificate parsing error: " ++ fault.message
  | .expired notAfter => "CA expired at " ++ notAfter.text

end TrustAnchor
