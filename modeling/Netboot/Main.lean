import Netboot.Document.Surroundings
import Netboot.Json.Reader

/-! The command line: settings come from the environment, and what the run meets on the machine
from a document on standard input. Every entry of the log that the level lets through is a line of
its own. -/

set_option autoImplicit false

namespace Netboot

def environment : IO Settings.Variables :=
  Settings.variableNames.filterMapM fun name => do
    return (← IO.getEnv name).map fun value => (name, value)

def surroundingsDocument : IO Json := do
  let line ← (← IO.getStdin).getLine
  return (Json.ofString? line).getD (.obj [])

def runIn (around : Run.Surroundings) : IO UInt32 := do
  match Run.run around with
  | .error crash =>
    IO.eprintln crash.message
    return 1
  | .ok report =>
    for entry in report.audible do
      IO.println entry.toJson.text
    return UInt32.ofNat report.exitCode

end Netboot

def main : IO UInt32 := do
  match Netboot.Run.Surroundings.ofJson (← Netboot.environment) (← Netboot.surroundingsDocument) with
  | .error fault =>
    IO.eprintln fault.message
    return 1
  | .ok around => Netboot.runIn around
