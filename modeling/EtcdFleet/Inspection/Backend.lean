import EtcdFleet.Inspection.Task
import EtcdFleet.Resource.Call

set_option autoImplicit false

/-!
# Where tasks are kept

A backend knows which tasks exist, takes new ones, and has them collected. The one below keeps each
task as a resource of a document store and leaves the collecting to a collector.
-/

namespace EtcdFleet

structure Backend (Call : Type) (Reply : Call → Type) where
  «exists» : Cluster → String → Program Call Reply Bool
  enqueue : Cluster → String → Program Call Reply Task
  collect : Task → Program Call Reply Unit

inductive TaskCall
  | store (call : StoreCall)
  | collect (task : Task)

def TaskReply : TaskCall → Type
  | .store call => StoreReply call
  | .collect _ => Except ProviderError Unit

namespace Backend

abbrev Work := Program TaskCall TaskReply

def storeCall (call : StoreCall) : Work Document :=
  Program.ask (.store call) fun reply => Program.done reply

def collectCall (task : Task) : Work Unit :=
  Program.ask (.collect task) fun reply => Program.done reply

/-- Not to be found is an answer; any other failure is none. -/
def taskExists (kind : ResourceKind) (cluster : Cluster) (feature : String) : Work Bool := do
  let name := Task.nameFor cluster.name feature
  match ← Program.attempt (storeCall (.get kind cluster.namespace name)) with
  | .ok _ => return true
  | .error failure => if failure.isNotFound then return false else Program.fail failure

def enqueueTask (kind : ResourceKind) (cluster : Cluster) (feature : String) : Work Task := do
  let task := Task.ofCluster cluster feature
  discard (storeCall (.create kind task.namespace (task.resource kind cluster)))
  return task

def collectionFailed (task : Task) (failure : ProviderError) : Event :=
  ⟨.warn, "Inspection collection failed: " ++ failure.message,
    [("task", task.name), ("feature", task.feature)]⟩

def collectTask (task : Task) : Work Unit := do
  match ← Program.attempt (collectCall task) with
  | .ok () => pure ()
  | .error failure => do
    Program.report (collectionFailed task failure)
    Program.fail failure

def ofStore (kind : ResourceKind) : Backend TaskCall TaskReply where
  «exists» := taskExists kind
  enqueue := enqueueTask kind
  collect := collectTask

def storeUsed (kind : ResourceKind) : Event :=
  ⟨.debug, "Using store inspection backend", [("kind", kind.kind)]⟩

end Backend
end EtcdFleet
