import EtcdFleet.Inspection.Manager
import EtcdFleet.Rehearsal.FaultyStore

set_option autoImplicit false

/-!
# Inspections on demand

A faulty store with a collector and a connector. The collector keeps what it collects, or fails every
task; the connector counts its connections and fails the first of them as it is told.
-/

namespace EtcdFleet

structure InspectionBench where
  tasks : FaultyStore
  collected : List Task
  collectorFailure : Option ProviderError
  connections : Nat
  connectionFailures : List ProviderError

namespace InspectionBench

def start (connectionFailures : List ProviderError) : InspectionBench :=
  ⟨.empty, [], none, 0, connectionFailures⟩

def handler : Program.Handler TaskCall TaskReply InspectionBench
  | .store call, bench =>
    let answered := FaultyStore.handler call bench.tasks
    ⟨answered.reply, answered.events, { bench with tasks := answered.state }⟩
  | .collect task, bench =>
    match bench.collectorFailure with
    | some failure => ⟨.error failure, [], bench⟩
    | none => ⟨.ok (), [], { bench with collected := bench.collected ++ [task] }⟩

def connector (kind : ResourceKind) : Inspections.Connector InspectionBench := fun bench =>
  let counted := { bench with connections := bench.connections + 1 }
  match bench.connectionFailures with
  | failure :: rest => ⟨.error failure, [], { counted with connectionFailures := rest }⟩
  | [] => ⟨.ok (), [Backend.storeUsed kind], counted⟩

end InspectionBench
end EtcdFleet
