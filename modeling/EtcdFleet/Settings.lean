import EtcdFleet.Cluster.MemberHealth
import EtcdFleet.Failure
import EtcdFleet.Resource.Kind

set_option autoImplicit false

/-!
# Settings

What the operator is told: the resource kinds that it writes, how client endpoints are named, the
certificates for probes, and the logging. Every setting has a default.
-/

namespace EtcdFleet

structure EndpointSettings where
  clientPort : UInt16
  clusterDomain : String
  deriving DecidableEq

/-- When a new log file is begun. -/
inductive Rotation
  | hourly
  | daily
  | never
  deriving DecidableEq

def Rotation.label : Rotation → String
  | .hourly => "hourly"
  | .daily => "daily"
  | .never => "never"

def Rotation.all : List Rotation := [.hourly, .daily, .never]

structure LogSettings where
  level : String
  filePath : Option String
  rotation : Rotation
  jsonFormat : Bool
  deriving DecidableEq

structure Settings where
  clusterResource : ResourceKind
  inspectionResource : ResourceKind
  endpoints : EndpointSettings
  probe : TlsFiles
  logging : LogSettings
  deriving DecidableEq

def EndpointSettings.initial : EndpointSettings := ⟨2379, "cluster.local"⟩

def LogSettings.initial : LogSettings := ⟨"info", none, .daily, false⟩

def Settings.initial : Settings :=
  ⟨.etcdCluster, .etcdInspection, .initial, ⟨none, none, none⟩, .initial⟩

inductive SettingsError
  | unreadable (path problem : String)
  /-- The text is no TOML text, or holds something else than settings. -/
  | unparsable
  | invalid (reason : String)
  deriving DecidableEq

namespace SettingsError

def message : SettingsError → String
  | unreadable path problem => "Failed to read config file " ++ path ++ ": " ++ problem
  | unparsable => "Failed to parse config"
  | invalid reason => "Config validation failed: " ++ reason

def toOperatorError (failure : SettingsError) : OperatorError := .invalidConfig failure.message

end SettingsError

namespace EndpointSettings

def toDocument (endpoints : EndpointSettings) : Document :=
  .object [("client_port", .integer endpoints.clientPort.toNat),
    ("cluster_domain", .text endpoints.clusterDomain)]

def ofFields? (fields : Fields) : Option EndpointSettings := do
  let clientPort ← fields.orDefault 0 "client_port" Document.word16? initial.clientPort
  let clusterDomain ← fields.orDefault 1 "cluster_domain" Document.text? initial.clusterDomain
  return ⟨clientPort, clusterDomain⟩

def ofDocument? (style : RecordStyle) (doc : Document) : Option EndpointSettings :=
  (style.fields 2 doc).bind ofFields?

end EndpointSettings

namespace LogSettings

def toDocument (logging : LogSettings) : Document :=
  .object [("file_path", TlsFiles.orNull logging.filePath),
    ("json_format", .bool logging.jsonFormat),
    ("level", .text logging.level),
    ("rotation", .text logging.rotation.label)]

def rotation? (style : RecordStyle) (doc : Document) : Option Rotation := do
  let name ← doc.caseName? style.isNothing
  Rotation.all.find? fun rotation => rotation.label == name

def ofFields? (style : RecordStyle) (fields : Fields) : Option LogSettings := do
  let level ← fields.orDefault 0 "level" Document.text? initial.level
  let filePath ← fields.optional 1 "file_path" Document.text?
  let rotation ← fields.orDefault 2 "rotation" (rotation? style) initial.rotation
  let jsonFormat ← fields.orDefault 3 "json_format" Document.bool? initial.jsonFormat
  return ⟨level, filePath, rotation, jsonFormat⟩

def ofDocument? (style : RecordStyle) (doc : Document) : Option LogSettings :=
  (style.fields 4 doc).bind (ofFields? style)

end LogSettings

namespace Settings

def probeFields? (fields : Fields) : Option TlsFiles := do
  let caFile ← fields.optional 0 "ca_file" Document.text?
  let certFile ← fields.optional 1 "cert_file" Document.text?
  let keyFile ← fields.optional 2 "key_file" Document.text?
  return ⟨caFile, certFile, keyFile⟩

def toDocument (settings : Settings) : Document :=
  .object [("endpoints", settings.endpoints.toDocument),
    ("etcd_resource", settings.clusterResource.toDocument),
    ("inspection_resource", settings.inspectionResource.toDocument),
    ("logging", settings.logging.toDocument),
    ("probe", settings.probe.toDocument)]

def ofFields? (style : RecordStyle) (fields : Fields) : Option Settings := do
  let resource := ResourceKind.ofDocument? style.fields
  let clusterResource ← fields.orDefault 0 "etcd_resource" resource initial.clusterResource
  let inspectionResource ←
    fields.orDefault 1 "inspection_resource" resource initial.inspectionResource
  let endpoints ←
    fields.orDefault 2 "endpoints" (EndpointSettings.ofDocument? style) initial.endpoints
  let probe ←
    fields.orDefault 3 "probe" (fun doc => (style.fields 3 doc).bind probeFields?) initial.probe
  let logging ← fields.orDefault 4 "logging" (LogSettings.ofDocument? style) initial.logging
  return ⟨clusterResource, inspectionResource, endpoints, probe, logging⟩

def ofDocument? (style : RecordStyle) (doc : Document) : Option Settings :=
  (style.fields 5 doc).bind (ofFields? style)

def probeTls (settings : Settings) : Option TlsFiles :=
  if settings.probe.isEmpty then none else some settings.probe

def isComplete (kind : ResourceKind) : Bool :=
  !kind.version.isEmpty && !kind.kind.isEmpty && !kind.plural.isEmpty

def validate (settings : Settings) : Except SettingsError Unit :=
  if !isComplete settings.clusterResource then
    .error (.invalid "etcd_resource needs a version, kind and plural")
  else if !isComplete settings.inspectionResource then
    .error (.invalid "inspection_resource needs a version, kind and plural")
  else if settings.endpoints.clientPort = 0 then .error (.invalid "Client port cannot be 0")
  else if settings.endpoints.clusterDomain.isEmpty then
    .error (.invalid "Cluster domain cannot be empty")
  else .ok ()

end Settings
end EtcdFleet
