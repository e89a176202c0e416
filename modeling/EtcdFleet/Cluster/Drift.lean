import EtcdFleet.Cluster.EnvVar
import EtcdFleet.Document.Path
import EtcdFleet.Journal

set_option autoImplicit false

/-!
# Drift

Whether an observed `spec` still says what is desired. Six fields are compared in a fixed order, each
read on the desired side first, and the first mismatch or malformed value decides: no later field is
read. Each field is compared as what it means, so a leading `v` of a version and a unit after a
quantity make no difference.
-/

namespace EtcdFleet

inductive DriftField
  | size
  | version
  | storage
  | cpu
  | memory
  | env
  deriving DecidableEq

/-- What a field says, with everything removed that makes no difference. -/
inductive FieldReading
  | integer (value : Option Int)
  | text (value : Option (List Char))
  | variables (list : List EnvVar)
  deriving DecidableEq

namespace DriftField

def label : DriftField → String
  | size => "size"
  | version => "version"
  | storage => "storage"
  | cpu => "cpu"
  | memory => "memory"
  | env => "env"

def all : List DriftField := [size, version, storage, cpu, memory, env]

def path : DriftField → Path
  | size => ["size"]
  | version => ["version"]
  | storage => ["template", "persistentVolumeClaimSpec", "resources", "requests", "storage"]
  | cpu => ["template", "resources", "requests", "cpu"]
  | memory => ["template", "resources", "requests", "memory"]
  | env => ["template", "env"]

def withoutLeadingV (cs : List Char) : List Char := cs.dropWhile (· == 'v')

/-- Trailing letters `G` and `i` are no part of a quantity, in whatever number and order. -/
def withoutUnit (cs : List Char) : List Char :=
  (cs.reverse.dropWhile fun c => c == 'G' || c == 'i').reverse

def readText (normalize : List Char → List Char) (path : Path) (spec : Document) :
    Except ProviderError FieldReading := do
  let text ← spec.getText? path
  return .text (text.map fun text => normalize text.toList)

/-- A missing list is the empty one. -/
def readVariables (path : Path) (spec : Document) : Except ProviderError FieldReading := do
  match ← spec.getList? path with
  | none => return .variables []
  | some items =>
    match items.mapM EnvVar.ofDocument? with
    | some list => return .variables list
    | none => throw (.malformed path "a list of environment variables")

def read (field : DriftField) (spec : Document) : Except ProviderError FieldReading :=
  match field with
  | size => do return .integer (← spec.getInteger? field.path)
  | version => readText withoutLeadingV field.path spec
  | storage | memory => readText withoutUnit field.path spec
  | cpu => readText id field.path spec
  | env => readVariables field.path spec

def differs (field : DriftField) (desired observed : Document) : Except ProviderError Bool := do
  let wanted ← field.read desired
  let found ← field.read observed
  return wanted ≠ found

end DriftField

abbrev Drift := Option DriftField

namespace Drift

def among : List DriftField → Document → Document → Except ProviderError Drift
  | [], _, _ => .ok none
  | field :: rest, desired, observed => do
    if ← field.differs desired observed then return some field
    among rest desired observed

def detect (desired observed : Document) : Except ProviderError Drift :=
  among DriftField.all desired observed

def events : Drift → List Event
  | none => []
  | some field => [⟨.info, "Spec drift detected", [("field", field.label)]⟩]

end Drift
end EtcdFleet
