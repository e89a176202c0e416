import EtcdFleet.Rehearsal.Inspection

set_option autoImplicit false

/-!
# A stage for features

The features of one manager, and a feature of its own that no manager shares, on one bench.
-/

namespace EtcdFleet

structure FeatureStage where
  kind : ResourceKind
  bench : InspectionBench
  shared : NameMap Slot
  /-- The feature that stands alone. -/
  alone : Option Slot

namespace FeatureStage

def start (kind : ResourceKind) (connectionFailures : List ProviderError) : FeatureStage :=
  ⟨kind, .start connectionFailures, .empty, none⟩

def backend (stage : FeatureStage) : Backend TaskCall TaskReply := .ofStore stage.kind

def handler (stage : FeatureStage) :
    Program.Handler (FeatureCall TaskCall) (FeatureReply TaskReply) (Inspections InspectionBench) :=
  Inspections.handler (InspectionBench.connector stage.kind) InspectionBench.handler

def manage {α : Type} (stage : FeatureStage) (program : FeatureWork TaskReply α) :
    Program.Outcome α FeatureStage :=
  let outcome := program.run stage.handler ⟨.builtin, stage.shared, stage.bench⟩
  { outcome with
    state := { stage with shared := outcome.state.slots, bench := outcome.state.outside } }

def aloneName : String := "alone"

def useAlone {α : Type} (stage : FeatureStage) (slot : Slot)
    (program : Feature → FeatureWork TaskReply α) : Program.Outcome α FeatureStage :=
  let outcome := (program ⟨aloneName, slot.name⟩).run stage.handler
    ⟨.empty, .ofEntries [(aloneName, slot)], stage.bench⟩
  { outcome with
    state :=
      { stage with alone := outcome.state.slots.find? aloneName, bench := outcome.state.outside } }

def useBackend {α : Type} (stage : FeatureStage) (program : Backend.Work α) :
    Program.Outcome α FeatureStage :=
  let outcome := program.run InspectionBench.handler stage.bench
  { outcome with state := { stage with bench := outcome.state } }

def withStore (stage : FeatureStage) (store : Store) : FeatureStage :=
  { stage with bench := { stage.bench with tasks := { stage.bench.tasks with store } } }

def withFault (stage : FeatureStage) (fault : Fault) : FeatureStage :=
  { stage with bench := { stage.bench with tasks := stage.bench.tasks.addFault fault } }

end FeatureStage
end EtcdFleet
