import EtcdFleet.Cluster.Gates
import EtcdFleet.Inspection.Feature
import EtcdFleet.Registry

set_option autoImplicit false

/-!
# The feature manager

One feature for each name, shared by all clusters: built by the registry when it is first asked for,
and connected before it is handed out. What the manager does is a program over its shared state; what
it shares, and how each question changes that, is `Inspections`.
-/

namespace EtcdFleet

namespace Manager

open FeatureWork

variable {Call : Type} {Reply : Call → Type}

def feature (slot : String) : FeatureWork Reply Feature := do
  let feature ← obtain slot
  connect feature
  return feature

def scheduled (cluster : Cluster) (slot : String) : Event :=
  ⟨.info, "Scheduled inspection",
    [("cluster", cluster.name), ("namespace", cluster.namespace), ("feature", slot)]⟩

def reconcile (backend : Backend Call Reply) (cluster : Cluster) (slot : String) :
    FeatureWork Reply Bool := do
  let feature ← feature slot
  if !(← feature.detect backend cluster) then return false
  feature.sync backend cluster
  Program.report (scheduled cluster slot)
  return true

def unknownGate (cluster : Cluster) (slot : String) : Event :=
  ⟨.warn, "Feature gate names an unknown feature",
    [("cluster", cluster.name), ("feature", slot)]⟩

def reconcileEach (backend : Backend Call Reply) (cluster : Cluster) :
    List String → FeatureWork Reply (List String)
  | [] => pure []
  | slot :: rest => do
    match ← Program.attempt (reconcile backend cluster slot) with
    | .ok true => return slot :: (← reconcileEach backend cluster rest)
    | .ok false => reconcileEach backend cluster rest
    | .error (.providerNotFound ..) => do
      Program.report (unknownGate cluster slot)
      reconcileEach backend cluster rest
    | .error failure => Program.fail failure

/-- Every feature that the cluster has switched on, in their order; gates that name no feature are
passed over. -/
def reconcileEnabled (backend : Backend Call Reply) (cluster : Cluster) :
    FeatureWork Reply (List String) :=
  reconcileEach backend cluster cluster.enabledFeatures

def execute (backend : Backend Call Reply) (task : Task) : FeatureWork Reply Unit := do
  let feature ← feature task.feature
  feature.execute backend task

end Manager

structure Slot where
  name : String
  connected : Bool
  deriving DecidableEq

structure Inspections (σ : Type) where
  registry : Registry
  slots : NameMap Slot
  outside : σ

namespace Inspections

variable {σ Call : Type} {Reply : Call → Type}

def slot (state : Inspections σ) (feature : Feature) : Slot :=
  (state.slots.find? feature.slot).getD ⟨feature.name, false⟩

def place (state : Inspections σ) (slot name : String) (connected : Bool) : Inspections σ :=
  { state with slots := state.slots.insert slot ⟨name, connected⟩ }

def found? (state : Inspections σ) (slot : String) : Option Feature :=
  (state.slots.find? slot).map fun found => ⟨slot, found.name⟩

/-- A failure to build a feature leaves nothing behind. -/
def built (state : Inspections σ) (slot : String) :
    Except ProviderError Feature × Inspections σ :=
  match state.found? slot with
  | some feature => (.ok feature, state)
  | none =>
    match state.registry.featureName slot with
    | .ok name => (.ok ⟨slot, name⟩, state.place slot name false)
    | .error failure => (.error failure, state)

def connecting (feature : Feature) : Event :=
  ⟨.info, "Connecting inspection backend", [("feature", feature.name)]⟩

abbrev Connector (σ : Type) := σ → Program.Answered (Except ProviderError Unit) σ

/-- One connection is tried at a time; once one has been made, none is tried again. -/
def connected (connector : Connector σ) (state : Inspections σ) (feature : Feature) :
    Program.Answered (Except ProviderError Unit) (Inspections σ) :=
  if (state.slot feature).connected then ⟨.ok (), [], state⟩
  else
    let answered := connector state.outside
    let after := { state with outside := answered.state }
    ⟨answered.reply, connecting feature :: answered.events,
      match answered.reply with
      | .ok () => after.place feature.slot feature.name true
      | .error _ => after⟩

def required (state : Inspections σ) (feature : Feature) : Except ProviderError Unit :=
  if (state.slot feature).connected then .ok () else .error (.featureNotInitialized feature.name)

def handler (connector : Connector σ) (backend : Program.Handler Call Reply σ) :
    Program.Handler (FeatureCall Call) (FeatureReply Reply) (Inspections σ)
  | .find slot, state => ⟨state.found? slot, [], state⟩
  | .build slot, state => ⟨(state.built slot).1, [], (state.built slot).2⟩
  | .connect feature, state => state.connected connector feature
  | .require feature, state => ⟨state.required feature, [], state⟩
  | .backend call, state =>
    let answered := backend call state.outside
    ⟨answered.reply, answered.events, { state with outside := answered.state }⟩

end Inspections
end EtcdFleet
