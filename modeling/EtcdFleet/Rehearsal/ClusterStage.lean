import EtcdFleet.Registry
import EtcdFleet.Rehearsal.FaultyStore

set_option autoImplicit false

/-!
# A stage for cluster strategies

One cluster at a time, bound to its strategy, with a faulty store and members whose endpoints and
health are as they are told to be.
-/

namespace EtcdFleet

structure Bound where
  strategy : ClusterStrategy
  cluster : Cluster

structure ClusterStage where
  settings : Settings
  remote : FaultyStore
  /-- Nothing means the endpoints that the status records. -/
  endpoints : Option (List String)
  health : Except ProviderError (List MemberHealth)
  lastStatus : ClusterStatus
  bound : Option Bound

/-- Runs a program whose probes are all answered alike; the probes are the state. -/
def observeWith {α : Type} (health : Except ProviderError (List MemberHealth))
    (program : Observation α) : Program.Outcome α (List ProbeRequest) :=
  program.run (fun request requests => ⟨health, [], requests ++ [request]⟩) []

namespace ClusterStage

def start (settings : Settings) : ClusterStage := ⟨settings, .empty, none, .ok [], .initial, none⟩

/-- A failure to build the strategy keeps the old one. -/
def bind (stage : ClusterStage) (name : String) (cluster : Cluster) :
    Except ProviderError ClusterStage := do
  let strategy ← Registry.builtin.strategy name stage.settings cluster
  return { stage with bound := some ⟨strategy, cluster⟩ }

def withCluster (stage : ClusterStage) (cluster : Cluster) : ClusterStage :=
  { stage with bound := stage.bound.map fun bound => { bound with cluster } }

def withStore (stage : ClusterStage) (store : Store) : ClusterStage :=
  { stage with remote := { stage.remote with store } }

def perform {α : Type} (stage : ClusterStage) (program : Remote α) :
    Program.Outcome α ClusterStage :=
  let outcome := program.run FaultyStore.handler stage.remote
  { outcome with state := { stage with remote := outcome.state } }

def observe (stage : ClusterStage) (bound : Bound) (tls : Option TlsFiles) :
    Program.Outcome StatusReport (List ProbeRequest) :=
  let discovered := stage.endpoints.getD bound.cluster.recordedEndpoints
  observeWith stage.health (bound.strategy.status bound.cluster discovered tls)

end ClusterStage
end EtcdFleet
