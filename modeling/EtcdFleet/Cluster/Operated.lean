import EtcdFleet.Cluster.Address
import EtcdFleet.Cluster.Drift
import EtcdFleet.Cluster.Spec
import EtcdFleet.Cluster.Strategy
import EtcdFleet.Resource.Call

set_option autoImplicit false

/-!
# Clusters run by the etcd operator

The descriptor is written as one resource, and the operator does the rest. An update replaces the
`spec` of what is stored and nothing else. Deletion is left to the owner entry of the resource.
-/

namespace EtcdFleet

namespace Cluster

/-- A status pass with the certificates given, or else those of the settings. -/
def statusUnder (settings : Settings) (cluster : Cluster) (discovered : List String)
    (tls : Option TlsFiles) : Observation StatusReport :=
  cluster.statusPass discovered (tls.or settings.probeTls)

end Cluster

namespace Operated

def observed (settings : Settings) (cluster : Cluster) : Remote Document :=
  Remote.call (.get settings.clusterResource cluster.namespace cluster.name)

def alreadyThere (cluster : Cluster) : Event :=
  ⟨.debug, "Remote resource already exists",
    [("cluster", cluster.name), ("namespace", cluster.namespace)]⟩

/-- A resource that is already there is left as it is. -/
def create (settings : Settings) (cluster : Cluster) : Remote Unit := do
  let kind := settings.clusterResource
  let created ← Program.attempt
    (Remote.call (.create kind cluster.namespace (cluster.resource kind)))
  match created with
  | .ok _ => pure ()
  | .error failure =>
    if failure.isAlreadyExists then Program.report (alreadyThere cluster)
    else Program.fail failure

def specPath : Path := ["spec"]

def respecified (cluster : Cluster) (stored : Document) : Except ProviderError Document := do
  match ← stored.getObject? specPath with
  | none => throw (.malformed specPath "an object")
  | some _ => stored.put specPath cluster.desiredSpec

def updateFailed (cluster : Cluster) (failure : ProviderError) : Event :=
  ⟨.error, "Failed to update remote resource: " ++ failure.message,
    [("cluster", cluster.name), ("namespace", cluster.namespace)]⟩

def update (settings : Settings) (cluster : Cluster) : Remote Unit := do
  let stored ← observed settings cluster
  let doc ← Program.ofExcept (respecified cluster stored)
  let updated ← Program.attempt
    (Remote.call (.update settings.clusterResource cluster.namespace doc))
  match updated with
  | .ok _ => pure ()
  | .error failure => do
    Program.report (updateFailed cluster failure)
    Program.fail failure

/-- The stored `spec`; nothing reads as a null one. -/
def storedSpec (stored : Document) : Except ProviderError Document := do
  match ← stored.get? specPath with
  | none => return .null
  | some spec =>
    if spec.object?.isSome then return spec else throw (.malformed specPath "an object")

def inSync (settings : Settings) (cluster : Cluster) : Remote Bool := do
  let stored ← observed settings cluster
  let spec ← Program.ofExcept (storedSpec stored)
  let drift ← Program.ofExcept (Drift.detect cluster.desiredSpec spec)
  drift.events.forM Program.report
  return drift.isNone

end Operated

namespace Strategy

def operated (settings : Settings) : Strategy StoreCall StoreReply where
  name := "kstone-etcd-operator"
  beforeCreate cluster := Program.ofExcept cluster.validate
  create := Operated.create settings
  afterCreate cluster := pure (cluster.withAddresses settings.endpoints)
  beforeUpdate cluster := Program.ofExcept cluster.validate
  update := Operated.update settings
  afterUpdate := idle
  beforeDelete := idle
  delete := idle
  afterDelete := idle
  inSync := Operated.inSync settings
  status := Cluster.statusUnder settings

end Strategy
end EtcdFleet
