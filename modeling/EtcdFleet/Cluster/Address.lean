import EtcdFleet.Cluster.Descriptor
import EtcdFleet.Settings

set_option autoImplicit false

/-!
# Addresses of a cluster

Where clients reach a cluster that the etcd operator runs, and how its members are reached from
outside: each by its own name behind the headless service.
-/

namespace EtcdFleet.Cluster

def serviceHost (cluster : Cluster) (endpoints : EndpointSettings) : String :=
  cluster.name ++ "-etcd." ++ cluster.namespace ++ ".svc." ++ endpoints.clusterDomain

def portText (endpoints : EndpointSettings) : String := Text.decimal endpoints.clientPort.toNat

def clientAddress (cluster : Cluster) (endpoints : EndpointSettings) : String :=
  cluster.securityMode.scheme ++ "://" ++ cluster.serviceHost endpoints ++ ":" ++
    portText endpoints

def certificateName (cluster : Cluster) : String :=
  cluster.namespace ++ "/" ++ cluster.name ++ "-etcd-client-cert"

def memberHost (cluster : Cluster) (index : Nat) : String :=
  cluster.name ++ "-etcd-" ++ Text.decimal index

def memberAddress (cluster : Cluster) (endpoints : EndpointSettings) (index : Nat) : String :=
  cluster.memberHost index ++ ":" ++ portText endpoints

def memberServiceAddress (cluster : Cluster) (endpoints : EndpointSettings) (index : Nat) :
    String :=
  cluster.memberHost index ++ "." ++ cluster.name ++ "-etcd-headless." ++ cluster.namespace ++
    ".svc." ++ endpoints.clusterDomain ++ ":" ++ portText endpoints

def memberMapping (cluster : Cluster) (endpoints : EndpointSettings) (index : Nat) : String :=
  cluster.memberAddress endpoints index ++ "->" ++ cluster.memberServiceAddress endpoints index

/-- Every member's own address with the one that stands for it outside. -/
def extensionClientUrls (cluster : Cluster) (endpoints : EndpointSettings) : String :=
  ",".intercalate
    ((List.range cluster.spec.size.toNat).map (cluster.memberMapping endpoints))

/-- The descriptor with everything that creation found out. -/
def withAddresses (cluster : Cluster) (endpoints : EndpointSettings) : Cluster :=
  let reached := (cluster.annotate Annotation.importedAddress (cluster.clientAddress endpoints)).annotate
    Annotation.extensionClientUrls (cluster.extensionClientUrls endpoints)
  match cluster.securityMode with
  | .plain => reached
  | .tls => reached.annotate Annotation.certificateName cluster.certificateName

end EtcdFleet.Cluster
