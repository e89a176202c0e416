import EtcdFleet.Journal
import EtcdFleet.Settings
import EtcdFleet.Settings.Machine
import EtcdFleet.Toml.Reader

set_option autoImplicit false

/-!
# Layers of settings

The environment wins over the file, and the file over the defaults. Of the places where a file may be,
the first that holds anything is read, and a file that cannot be used is passed over as a whole. A
log format that is no truth value switches the format off; any other variable whose text does not
fit changes nothing.
-/

namespace EtcdFleet

inductive Stored
  | directory
  | file (bytes : ByteArray)

abbrev Places := String → Option Stored

/-- What is there before anything is configured. -/
def Places.bare : Places := fun path =>
  if Machine.isDirectory path then some .directory
  else if Machine.isEmptyFile path then some (.file .empty)
  else none

namespace Settings

def ofTomlText? (text : String) : Option Settings :=
  (Toml.ofText? text).bind (ofDocument? .lenient)

def fromFile (path : String) : Option Stored → Except SettingsError Settings
  | none => .error (.unreadable path "No such file or directory (os error 2)")
  | some .directory => .error (.unreadable path "Is a directory (os error 21)")
  | some (.file bytes) =>
    match String.fromUTF8? bytes with
    | none => .error (.unreadable path "stream did not contain valid UTF-8")
    | some text =>
      match ofTomlText? text with
      | none => .error .unparsable
      | some settings => .ok settings

def places (environment : StringMap) : List String :=
  (environment.find? "KSTONE_CONFIG").toList ++ ["/etc/kstone/config.toml", "./kstone.toml"]

def findFile? (files : Places) : List String → Option (String × Stored)
  | [] => none
  | path :: rest =>
    match files path with
    | some stored => some (path, stored)
    | none => findFile? files rest

def ignored (failure : SettingsError) : Event :=
  ⟨.warn, "Ignoring config file: " ++ failure.message, []⟩

/-- The settings below the environment, and what is reported about the file. -/
def belowEnvironment (environment : StringMap) (files : Places) : Settings × List Event :=
  match findFile? files (places environment) with
  | none => (initial, [])
  | some (path, stored) =>
    match fromFile path (some stored) with
    | .ok settings => (settings, [])
    | .error failure => (initial, [ignored failure])

def port? (text : String) : Option UInt16 :=
  (Text.unsignedBelow? UInt16.size text.toList).map UInt16.ofNat

/-- Each variable reaches its own setting only. -/
def override (environment : StringMap) (settings : Settings) : Settings where
  clusterResource := settings.clusterResource
  inspectionResource := settings.inspectionResource
  endpoints :=
    { clientPort :=
        ((environment.find? "KSTONE_CLIENT_PORT").bind port?).getD settings.endpoints.clientPort
      clusterDomain :=
        (environment.find? "KSTONE_CLUSTER_DOMAIN").getD settings.endpoints.clusterDomain }
  probe :=
    { caFile := (environment.find? "KSTONE_PROBE_CA_FILE").or settings.probe.caFile
      certFile := (environment.find? "KSTONE_PROBE_CERT_FILE").or settings.probe.certFile
      keyFile := (environment.find? "KSTONE_PROBE_KEY_FILE").or settings.probe.keyFile }
  logging :=
    { level := (environment.find? "KSTONE_LOG_LEVEL").getD settings.logging.level
      filePath := (environment.find? "KSTONE_LOG_PATH").or settings.logging.filePath
      rotation := settings.logging.rotation
      jsonFormat :=
        match environment.find? "KSTONE_LOG_JSON" with
        | none => settings.logging.jsonFormat
        | some text => (Text.truth? text).getD false }

def load (environment : StringMap) (files : Places) : Settings × List Event :=
  let (settings, events) := belowEnvironment environment files
  (settings.override environment, events)

end Settings
end EtcdFleet
