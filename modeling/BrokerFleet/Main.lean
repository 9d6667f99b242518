import BrokerFleet.Command

/-!
The program: reads its command line and environment, and does what it is asked.
-/

namespace BrokerFleet.Main

def environment : IO (List (String × String)) :=
  Settings.Setting.all.filterMapM fun s => do
    return (← IO.getEnv s.variableName).map (s.variableName, ·)

def unconnected : String := "Error: no connection to a Kubernetes API"

def run : Command → IO UInt32
  | .tell text => do
    IO.print text
    return 0
  | .definitions none => do
    IO.print Command.definitionText
    return 0
  | .definitions (some file) => do
    IO.FS.writeFile file Command.definitionText
    return 0
  | .serve _ => do
    IO.eprintln unconnected
    return 1

end BrokerFleet.Main

def main (args : List String) : IO UInt32 := do
  let given ← BrokerFleet.Main.environment
  match BrokerFleet.Command.read? args fun name => given.lookup name with
  | some command => BrokerFleet.Main.run command
  | none =>
    IO.eprint BrokerFleet.Command.usage
    return 2
