import BrokerFleet.Net.SocketAddress
import BrokerFleet.Pass.Job

/-!
The settings of the operator, from the command line and the environment. An option that the command line
gives counts, and its variable is not even looked at.
-/

namespace BrokerFleet

structure Settings where
  steadyRequeue : Span
  retryRequeue : Span
  requestTimeout : Span
  tunnel : Bool
  stopAttempts : Nat
  probeAddress : Net.SocketAddress
  concurrency : Nat
  deriving DecidableEq, Repr

namespace Settings

def standard : Settings where
  steadyRequeue := .ofSeconds 20
  retryRequeue := .ofMillis 1000
  requestTimeout := .ofSeconds 10
  tunnel := false
  stopAttempts := 5
  probeAddress := .v4 [0, 0, 0, 0] 8081
  concurrency := 4

instance : Inhabited Settings := ⟨standard⟩

instance : ToJson Settings where
  toJson s := .object [
    ("steady_requeue", toJson s.steadyRequeue), ("retry_requeue", toJson s.retryRequeue),
    ("request_timeout", toJson s.requestTimeout), ("tunnel", toJson s.tunnel),
    ("stop_attempts", toJson s.stopAttempts), ("probe_addr", .string s.probeAddress.render),
    ("concurrency", toJson s.concurrency)]

def pace (s : Settings) : JobPace :=
  ⟨⟨s.steadyRequeue, s.retryRequeue⟩, s.stopAttempts⟩

inductive Setting where
  | steadyRequeue
  | retryRequeue
  | requestTimeout
  | tunnel
  | stopAttempts
  | probeAddress
  | concurrency
  deriving DecidableEq, Repr, Inhabited

namespace Setting

def all : List Setting :=
  [.steadyRequeue, .retryRequeue, .requestTimeout, .tunnel, .stopAttempts, .probeAddress, .concurrency]

def flag : Setting → String
  | .steadyRequeue => "steady-requeue-secs"
  | .retryRequeue => "retry-requeue-millis"
  | .requestTimeout => "request-timeout-secs"
  | .tunnel => "tunnel"
  | .stopAttempts => "stop-attempts"
  | .probeAddress => "probe-addr"
  | .concurrency => "concurrency"

def variableName : Setting → String
  | .steadyRequeue => "BROKER_OPERATOR_STEADY_REQUEUE_SECS"
  | .retryRequeue => "BROKER_OPERATOR_RETRY_REQUEUE_MILLIS"
  | .requestTimeout => "BROKER_OPERATOR_REQUEST_TIMEOUT_SECS"
  | .tunnel => "BROKER_OPERATOR_TUNNEL"
  | .stopAttempts => "BROKER_OPERATOR_STOP_ATTEMPTS"
  | .probeAddress => "BROKER_OPERATOR_PROBE_ADDR"
  | .concurrency => "BROKER_OPERATOR_CONCURRENCY"

def ofFlag? (flag : String) : Option Setting :=
  all.find? (·.flag == flag)

end Setting

def wide? (value : String) : Option Nat :=
  Text.natUpTo? (UInt64.size - 1) value.toList

def upTo? (limit : Nat) (value : String) : Option Nat := do
  let n ← Text.int? value.toList
  if 0 ≤ n ∧ n ≤ limit then some n.toNat else none

def truth? (value : String) : Option Bool :=
  if value = "true" then some true else if value = "false" then some false else none

def set? (setting : Setting) (value : String) (s : Settings) : Option Settings :=
  match setting with
  | .steadyRequeue => (wide? value).map fun n => { s with steadyRequeue := .ofSeconds n }
  | .retryRequeue => (wide? value).map fun n => { s with retryRequeue := .ofMillis n }
  | .requestTimeout => (wide? value).map fun n => { s with requestTimeout := .ofSeconds n }
  | .tunnel => (truth? value).map fun b => { s with tunnel := b }
  | .stopAttempts => (upTo? (UInt32.size - 1) value).map fun n => { s with stopAttempts := n }
  | .probeAddress => (Net.SocketAddress.parse? value).map fun a => { s with probeAddress := a }
  | .concurrency => (upTo? (UInt16.size - 1) value).map fun n => { s with concurrency := n }

inductive Refusal where
  | help
  | usage
  deriving DecidableEq, Repr, Inhabited

structure Given where
  settings : Settings
  given : List Setting
  deriving DecidableEq, Repr, Inhabited

namespace Given

def set (setting : Setting) (value : String) (g : Given) : Except Refusal Given :=
  if g.given.contains setting then .error .usage
  else match set? setting value g.settings with
    | some settings => .ok ⟨settings, setting :: g.given⟩
    | none => .error .usage

end Given

def option? (arg : String) : Option (String × Option String) :=
  match arg.toList with
  | '-' :: '-' :: cs =>
    match Text.splitFirst? '=' cs with
    | some (name, value) => some (String.ofList name, some (String.ofList value))
    | none => some (String.ofList cs, none)
  | _ => none

def isDashed (arg : String) : Bool :=
  ['-'].isPrefixOf arg.toList

/-- Reads the command line from left to right. Every option is given once at most; all but the tunnel take a
value, attached or as the next word, which then has no dash in front. -/
def readArgs : List String → Given → Except Refusal Given
  | [], g => .ok g
  | arg :: rest, g =>
    match option? arg with
    | none => if ['-', 'h'].isPrefixOf arg.toList then .error .help else .error .usage
    | some ("", none) => if rest.isEmpty then .ok g else .error .usage
    | some ("help", none) => .error .help
    | some (flag, value) =>
      match Setting.ofFlag? flag, value, rest with
      | none, _, _ => .error .usage
      | some .tunnel, some _, _ => .error .usage
      | some .tunnel, none, rest => (g.set .tunnel "true").bind (readArgs rest)
      | some setting, some value, rest => (g.set setting value).bind (readArgs rest)
      | some _, none, [] => .error .usage
      | some setting, none, value :: rest =>
        if isDashed value then .error .usage else (g.set setting value).bind (readArgs rest)
termination_by args => args.length

def readVariables (valueOf? : String → Option String) : List Setting → Given → Except Refusal Given
  | [], g => .ok g
  | setting :: rest, g =>
    match valueOf? setting.variableName with
    | some value =>
      if g.given.contains setting then readVariables valueOf? rest g
      else (g.set setting value).bind (readVariables valueOf? rest)
    | none => readVariables valueOf? rest g

def read (args : List String) (valueOf? : String → Option String) : Except Refusal Settings := do
  let g ← readArgs args ⟨standard, []⟩
  let g ← readVariables valueOf? Setting.all g
  return g.settings

end Settings

end BrokerFleet
