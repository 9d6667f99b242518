import BrokerFleet.Dialogue
import BrokerFleet.Rehearsal.Network
import BrokerFleet.Rehearsal.Store

/-!
A world in which passes are rehearsed: a clock that stands, a store, a network, and faults that make calls
fail. It keeps the chronicle of what was done; reads are not part of it.
-/

namespace BrokerFleet.Rehearsal

open Kubernetes

structure Fault where
  verb : String
  kind : String
  name : Option String
  code : Nat
  skip : Nat
  deriving DecidableEq, Repr, Inhabited

def Fault.concerns (f : Fault) (verb kind name : String) : Bool :=
  f.verb == verb && f.kind == kind && f.name.all (· == name)

inductive Deed where
  | write (key : Key) (w : Write) (failed : Option Nat)
  | event (event : Event) (failed : Option Nat)
  | request (peer : Endpoint) (port : Nat) (credentials : Credentials) (request : ManagementRequest)
  deriving Inhabited

structure World where
  now : Instant
  store : Store
  network : Network
  faults : List Fault
  chronicle : List Deed
  deriving Inhabited

namespace World

def begin (now : Instant) (faults : List Fault) (w : World) : World :=
  { w with now, faults, chronicle := [] }

def deeds (w : World) : List Deed :=
  w.chronicle.reverse

/-- The code with which a call is to fail, and the faults that are left. Of several faults that concern a call,
the first one that lets nothing through any more counts. -/
def strike (verb kind name : String) : List Fault → Option Nat × List Fault
  | [] => (none, [])
  | f :: rest =>
    if f.concerns verb kind name then
      if f.skip = 0 then (some f.code, f :: rest)
      else
        let (code, rest) := strike verb kind name rest
        (code, { f with skip := f.skip - 1 } :: rest)
    else
      let (code, rest) := strike verb kind name rest
      (code, f :: rest)

def checked (verb kind name : String) : StateM World (Option Nat) := fun w =>
  let (code, faults) := strike verb kind name w.faults
  (code, { w with faults })

def note (deed : Deed) : StateM World Unit :=
  modify fun w => { w with chronicle := deed :: w.chronicle }

def rehearsedKey : String :=
  String.ofList (List.replicate Cluster.bootstrapKeyLength 'x')

def unreadable : ApiError := .answered 500

def parsed {α : Type} [FromJson α] (value : Json) : Except ApiError α :=
  match ofJson? value with
  | some a => .ok a
  | none => .error unreadable

/-- What a request reaches; a request that cannot be made reaches nothing. -/
def reached (address : Address) : Except ApiError Address :=
  match address.fault?, address.reached? with
  | some fault, _ => .error (.unsent fault)
  | none, some there => .ok there
  | none, none => .error .notFound

def read (kind : ObjectKind) (ns name : String) : StateM World (Except ApiError Json) := do
  match reached ⟨kind, ns, some name⟩ with
  | .error e => return .error e
  | .ok there =>
    let name := there.name.getD name
    match ← checked "get" kind.word name with
    | some code => return .error (.answered code)
    | none =>
      match (← get).store.get? ⟨kind.word, there.ns, name⟩ with
      | some object => return .ok object
      | none => return .error .notFound

def readAll (kind : ObjectKind) (ns : String) (selector : Option String) :
    StateM World (Except ApiError (List Json)) := do
  match reached ⟨kind, ns, none⟩ with
  | .error e => return .error e
  | .ok there =>
    match ← checked "list" kind.word "" with
    | some code => return .error (.answered code)
    | none =>
      let objects := (← get).store.list kind.word there.ns
      return .ok (match selector with
        | some selector => objects.filter (Store.isSelected selector)
        | none => objects)

/-- Where a write goes; an object that is created is named only in what is sent. -/
def addressOf (ns : String) (w : Write) : Address :=
  ⟨w.kind, ns, if w.verb = .create then none else some w.name⟩

def commit (ns : String) (w : Write) : StateM World (Except ApiError Json) := do
  match reached (addressOf ns w) with
  | .error e => return .error e
  | .ok there =>
    let key : Key := ⟨w.kind.word, there.ns, there.name.getD w.name⟩
    match ← checked w.verb.word key.kind key.name with
    | some code =>
      note (.write key w (some code))
      return .error (.answered code)
    | none =>
      note (.write key w none)
      let world ← get
      match world.store.carryOut world.now key w with
      | .error e => return .error e
      | .ok (object, store) =>
        set { world with store }
        return .ok object

def answerOf (object : Json) : (w : Write) → Except ApiError w.Answer
  | .applyGeneration _ => parsed object
  | .scaleGeneration .. => parsed object
  | .createSecret _ | .applyConfig _ | .applyService _ | .setServingGate .. | .clusterStatus ..
  | .jobStatus .. | .deferStop .. | .editFinalizers .. => .ok ()

def answer : (call : Call) → StateM World call.Reply
  | .clock => return (← get).now
  | .freshKey => return rehearsedKey
  | .getCluster ns name => return (← read .cluster ns name) >>= parsed
  | .getSecret ns name => return (← read .secret ns name) >>= parsed
  | .find kind ns name => return (← read kind ns name).map fun _ => ()
  | .listJobs ns => return (← readAll .job ns none) >>= (·.mapM parsed)
  | .listSets ns selector => return (← readAll .statefulSet ns (some selector)) >>= (·.mapM parsed)
  | .listPods ns selector => return (← readAll .pod ns (some selector)) >>= (·.mapM parsed)
  | .write ns w => return (← commit ns w) >>= (answerOf · w)
  | .tell event => do
    let failed ← checked "create" "Event" ""
    note (.event event failed)
  | .send peer port credentials request => do
    let world ← get
    if world.network.isKnown peer then note (.request peer port credentials request)
    return world.network.answer peer port request

def rehearse {α : Type} (pass : Pass α) (w : World) : Except Failure α × World :=
  (Dialogue.run (m := StateM World) answer pass.run) w

end World

end BrokerFleet.Rehearsal
