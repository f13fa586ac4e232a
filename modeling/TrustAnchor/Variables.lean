/-! The environment of a process, as far as it is text. -/

namespace TrustAnchor

/-- Environment variables that are set, each with its value. -/
abbrev Variables := List (String × String)

end TrustAnchor
