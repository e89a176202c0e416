import EtcdFleet.Cluster.Descriptor
import EtcdFleet.Cluster.MemberHealth
import EtcdFleet.Program

set_option autoImplicit false

/-!
# Status passes

One pass asks for the health of the members at most once and folds the answer into the status. The
phase is damped: an inconclusive answer never invents a phase, and only a running cluster becomes
unknown.
-/

namespace EtcdFleet

structure ProbeRequest where
  endpoints : List String
  extensionClientUrls : Option String
  tls : Option TlsFiles
  deriving DecidableEq

abbrev ProbeReply (_ : ProbeRequest) : Type := Except ProviderError (List MemberHealth)

abbrev Observation := Program ProbeRequest ProbeReply

/-- A status that is usable whether or not the probe failed, and that failure. -/
structure StatusReport where
  status : ClusterStatus
  failure : Option ProviderError
  deriving DecidableEq

def StatusReport.toExcept (report : StatusReport) : Except ProviderError ClusterStatus :=
  match report.failure with
  | some failure => .error failure
  | none => .ok report.status

namespace Cluster

def memberEndpoint? (member : MemberStatus) : Option String :=
  if !member.extensionClientUrl.isEmpty then some member.extensionClientUrl
  else if !member.endpoint.isEmpty then some member.endpoint
  else none

/-- The endpoints of the members that the status records, learners left out. -/
def recordedEndpoints (cluster : Cluster) : List String :=
  (cluster.status.members.filter fun member => member.role != some .learner).filterMap
    memberEndpoint?

/-- Without a discovered endpoint the imported address is used, if there is one. -/
def probeEndpoints (cluster : Cluster) (discovered : List String) : List String :=
  if discovered.isEmpty then (cluster.annotation? Annotation.importedAddress).toList
  else discovered

/-- The status before the answer; the imported address becomes the service name once it is used. -/
def statusToProbe (cluster : Cluster) (discovered : List String) : ClusterStatus :=
  match discovered, cluster.annotation? Annotation.importedAddress with
  | [], some address => { cluster.status with serviceName := address }
  | _, _ => cluster.status

/-- A probe is complete when it reports exactly the members that the cluster is meant to have. -/
def isComplete (cluster : Cluster) (members : List MemberHealth) : Bool :=
  !members.isEmpty && members.length == cluster.spec.size.toNat

def probeFailed (cluster : Cluster) (failure : ProviderError) : Event :=
  ⟨.warn, "Member probe failed: " ++ failure.message,
    [("cluster", cluster.name), ("namespace", cluster.namespace)]⟩

def probeIncomplete (cluster : Cluster) (members : List MemberHealth) : Event :=
  ⟨.info, "Member count does not match cluster size",
    [("cluster", cluster.name), ("namespace", cluster.namespace),
      ("expected", Text.decimal cluster.spec.size.toNat),
      ("observed", Text.decimal members.length)]⟩

def afterProbe (cluster : Cluster) (status : ClusterStatus) :
    Except ProviderError (List MemberHealth) → StatusReport
  | .error failure => ⟨{ status with phase := ClusterPhase.degrade status.phase }, some failure⟩
  | .ok members =>
    if cluster.isComplete members then
      ⟨{ status with
          members := members.map MemberHealth.toStatus
          phase := ClusterPhase.resolve status.phase (ClusterPhase.ofMembers members) }, none⟩
    else ⟨{ status with phase := ClusterPhase.degrade status.phase }, none⟩

def probeEvents (cluster : Cluster) : Except ProviderError (List MemberHealth) → List Event
  | .error failure => [cluster.probeFailed failure]
  | .ok members => if cluster.isComplete members then [] else [cluster.probeIncomplete members]

/-- A cluster that nothing can be asked about is still being created. -/
def statusPass (cluster : Cluster) (discovered : List String) (tls : Option TlsFiles) :
    Observation StatusReport :=
  match cluster.probeEndpoints discovered with
  | [] => pure ⟨{ cluster.status with phase := some .creating }, none⟩
  | endpoints => do
    let answer ← Program.request
      ⟨endpoints, cluster.annotation? Annotation.extensionClientUrls, tls⟩
    (cluster.probeEvents answer).forM Program.report
    return cluster.afterProbe (cluster.statusToProbe discovered) answer

end Cluster
end EtcdFleet
