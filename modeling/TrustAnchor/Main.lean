import TrustAnchor.CommandLine.Start
import Std.Time.DateTime.Timestamp

/-! The program: arguments, environment and clock are read here, and the outcome is written. -/

open TrustAnchor

/-- The time of the system. -/
private def currentTime : IO Instant := do
  let now ← Std.Time.Timestamp.now
  return ⟨now.toNanosecondsSinceUnixEpoch.val, 0⟩

def main (args : List String) : IO UInt32 := do
  let vars ← CommandLine.variableNames.filterMapM fun name => do
    return (← IO.getEnv name).map (name, ·)
  let outcome := CommandLine.start (Log.stamp (← currentTime)) vars args
  (← IO.getStdout).putStr outcome.output
  (← IO.getStderr).putStr outcome.complaint
  return outcome.exitCode.toUInt32
