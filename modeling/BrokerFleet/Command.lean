import BrokerFleet.Definition.Published
import BrokerFleet.Settings
import BrokerFleet.Yaml.Printer

/-!
What the operator can be asked on its command line.
-/

namespace BrokerFleet

inductive Command where
  | definitions (file : Option String)
  | serve (settings : Settings)
  | tell (text : String)
  deriving DecidableEq, Repr

namespace Command

def lines (texts : List String) : String :=
  String.join (texts.map (· ++ "\n"))

def versionText : String := lines ["broker-op 0.1.0"]

def usage : String := lines [
  "Broker cluster Kubernetes Operator CLI",
  "",
  "Usage: broker-op <COMMAND>",
  "",
  "Commands:",
  "  crd     Output CRDs in YAML",
  "  server  Run the controllers",
  "  help    Print this message or the help of the given subcommand(s)",
  "",
  "Options:",
  "  -h, --help     Print help",
  "  -V, --version  Print version"]

def definitionsUsage : String := lines [
  "Output CRDs in YAML",
  "",
  "Usage: broker-op crd [OPTIONS]",
  "",
  "Options:",
  "  -f, --file <FILE>  Optional output path. If not set, the output will be written to stdout",
  "  -h, --help         Print help"]

def serveUsage : String :=
  lines (["Run the controllers", "", "Usage: broker-op server [OPTIONS]", "", "Options:"] ++
    Settings.Setting.all.map (fun s => "      --" ++ s.flag ++ "  [env: " ++ s.variableName ++ "=]") ++
    ["  -h, --help"])

def isHelp (arg : String) : Bool :=
  arg = "-h" || arg = "--help"

def fileOf? : List String → Option (Option String)
  | [] => some none
  | ["-f", file] | ["--file", file] => if Settings.isDashed file then none else some (some file)
  | [arg] =>
    match Text.splitFirst? '=' arg.toList with
    | some (name, file) => if name = "--file".toList then some (some (String.ofList file)) else none
    | none => none
  | _ => none

def read? (args : List String) (valueOf? : String → Option String) : Option Command :=
  match args with
  | "crd" :: rest =>
    if rest.any isHelp then some (.tell definitionsUsage) else (fileOf? rest).map .definitions
  | "server" :: rest =>
    match Settings.read rest valueOf? with
    | .ok settings => some (.serve settings)
    | .error .help => some (.tell serveUsage)
    | .error .usage => none
  | ["help", "crd"] => some (.tell definitionsUsage)
  | ["help", "server"] => some (.tell serveUsage)
  | ["help"] | "-h" :: _ | "--help" :: _ => some (.tell usage)
  | "-V" :: _ | "--version" :: _ => some (.tell versionText)
  | _ => none

def definitionText : String :=
  String.join (Definition.published.map fun d => Yaml.document (toJson d).sorted)

end Command

end BrokerFleet
