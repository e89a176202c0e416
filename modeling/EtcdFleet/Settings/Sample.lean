import EtcdFleet.Document.Printer
import EtcdFleet.Settings

set_option autoImplicit false

/-!
# A sample of the settings

The TOML text of settings: a table for each group, its fields in their order, and nothing for what is
not set. Texts are written as short quoted texts.
-/

namespace EtcdFleet.Settings

def textLine (name value : String) : String :=
  name ++ " = " ++ String.ofList (Document.quotedChars value) ++ "\n"

def optionalTextLine (name : String) : Option String → String
  | none => ""
  | some value => textLine name value

def plainLine (name value : String) : String := name ++ " = " ++ value ++ "\n"

def resourceLines (kind : ResourceKind) : String :=
  textLine "group" kind.group ++ textLine "version" kind.version ++ textLine "kind" kind.kind ++
    textLine "plural" kind.plural

def probeLines (files : TlsFiles) : String :=
  optionalTextLine "ca_file" files.caFile ++ optionalTextLine "cert_file" files.certFile ++
    optionalTextLine "key_file" files.keyFile

def endpointLines (endpoints : EndpointSettings) : String :=
  plainLine "client_port" (Text.decimal endpoints.clientPort.toNat) ++
    textLine "cluster_domain" endpoints.clusterDomain

def loggingLines (logging : LogSettings) : String :=
  textLine "level" logging.level ++ optionalTextLine "file_path" logging.filePath ++
    textLine "rotation" logging.rotation.label ++
    plainLine "json_format" (if logging.jsonFormat then "true" else "false")

def tables (settings : Settings) : List (String × String) :=
  [("etcd_resource", resourceLines settings.clusterResource),
    ("inspection_resource", resourceLines settings.inspectionResource),
    ("endpoints", endpointLines settings.endpoints),
    ("probe", probeLines settings.probe),
    ("logging", loggingLines settings.logging)]

/-- Tables are set apart by an empty line. -/
def toTomlText (settings : Settings) : String :=
  "\n".intercalate (settings.tables.map fun (name, lines) => "[" ++ name ++ "]\n" ++ lines)

end EtcdFleet.Settings
