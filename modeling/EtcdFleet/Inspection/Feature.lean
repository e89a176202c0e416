import EtcdFleet.Inspection.Backend

set_option autoImplicit false

/-!
# Features

A feature schedules and collects inspections of one sort. It works on a backend that it is connected
to once, before anything else; until then every use of it is refused.
-/

namespace EtcdFleet

/-- A feature by its own name, and the name under which it is shared. -/
structure Feature where
  slot : String
  name : String
  deriving DecidableEq

inductive FeatureCall (Call : Type)
  | find (slot : String)
  | build (slot : String)
  | connect (feature : Feature)
  | require (feature : Feature)
  | backend (call : Call)

def FeatureReply {Call : Type} (Reply : Call → Type) : FeatureCall Call → Type
  | .find _ => Option Feature
  | .build _ => Except ProviderError Feature
  | .connect _ => Except ProviderError Unit
  | .require _ => Except ProviderError Unit
  | .backend call => Reply call

abbrev FeatureWork {Call : Type} (Reply : Call → Type) :=
  Program (FeatureCall Call) (FeatureReply Reply)

namespace FeatureWork

variable {Call : Type} {Reply : Call → Type} {α : Type}

def onBackend (program : Program Call Reply α) : FeatureWork Reply α :=
  program.relay fun call =>
    Program.ask (.backend call) fun reply => Program.done (.ok reply)

def build (slot : String) : FeatureWork Reply Feature :=
  Program.ask (.build slot) fun reply => Program.done reply

/-- Others may build the feature after it was found missing. -/
def obtain (slot : String) : FeatureWork Reply Feature :=
  Program.ask (.find slot) fun
    | some feature => Program.done (.ok feature)
    | none => build slot

def connect (feature : Feature) : FeatureWork Reply Unit :=
  Program.ask (.connect feature) fun reply => Program.done reply

def require (feature : Feature) : FeatureWork Reply Unit :=
  Program.ask (.require feature) fun reply => Program.done reply

end FeatureWork

namespace Feature

open FeatureWork

variable {Call : Type} {Reply : Call → Type}

def detect (backend : Backend Call Reply) (feature : Feature) (cluster : Cluster) :
    FeatureWork Reply Bool := do
  require feature
  return !(← onBackend (backend.exists cluster feature.name))

def enqueued (feature : Feature) (task : Task) : Event :=
  ⟨.debug, "Enqueued inspection task", [("feature", feature.name), ("task", task.name)]⟩

/-- Schedules a task unless there is one; losing the race for it is no failure. -/
def sync (backend : Backend Call Reply) (feature : Feature) (cluster : Cluster) :
    FeatureWork Reply Unit := do
  require feature
  if ← onBackend (backend.exists cluster feature.name) then return ()
  match ← Program.attempt (onBackend (backend.enqueue cluster feature.name)) with
  | .ok task => Program.report (enqueued feature task)
  | .error failure =>
    if failure.isAlreadyExists then return () else Program.fail failure

def execute (backend : Backend Call Reply) (feature : Feature) (task : Task) :
    FeatureWork Reply Unit := do
  require feature
  onBackend (backend.collect task)

end Feature
end EtcdFleet
