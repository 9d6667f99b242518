import BrokerFleet.Json.Patch
import BrokerFleet.Rebalance.Job

/-!
The finalizer of rebalance jobs. It is there before the first pass over a job, and keeps a deleted job
stored until its cleanup is done. Each edit tests what it has seen first, so that it fails if the finalizers
were changed meanwhile.
-/

namespace BrokerFleet

open Json

def rebalanceFinalizer : String := "apps.broker.dev/rebalance-finalizer"

namespace Job

inductive Stage where
  | addFinalizer
  | apply
  | cleanUp (index : Nat)
  | released
  deriving DecidableEq, Repr, Inhabited

def finalizers (j : Job) : List String :=
  j.metadata.finalizers.getD []

def stage (j : Job) : Stage :=
  match j.finalizers.idxOf? rebalanceFinalizer, j.metadata.deleted with
  | none, none => .addFinalizer
  | some _, none => .apply
  | some index, some _ => .cleanUp index
  | none, some _ => .released

def finalizersPath : String := "/metadata/finalizers"

def finalizerAdded (j : Job) : List PatchOp :=
  if j.finalizers.isEmpty then
    [.test finalizersPath .null, .add finalizersPath (strings [rebalanceFinalizer])]
  else
    [.test finalizersPath (strings j.finalizers),
      .add (finalizersPath ++ "/-") (.string rebalanceFinalizer)]

def finalizerRemoved (index : Nat) : List PatchOp :=
  let path := finalizersPath ++ "/" ++ toString index
  [.test path (.string rebalanceFinalizer), .remove path]

end Job

end BrokerFleet
