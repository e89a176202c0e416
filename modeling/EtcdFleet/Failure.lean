set_option autoImplicit false

/-!
# What can go wrong

Not found and already exists are conditions that callers branch on, so each has a constructor of its
own. Wording lives in one function per type.
-/

namespace EtcdFleet

inductive ProviderKind
  | cluster
  | feature
  deriving DecidableEq

def ProviderKind.label : ProviderKind → String
  | .cluster => "cluster"
  | .feature => "feature"

inductive OperatorError
  | invalidConfig (reason : String)
  | validation (reason : String)
  | system (reason : String)
  deriving DecidableEq

def OperatorError.message : OperatorError → String
  | .invalidConfig reason => "Invalid configuration: " ++ reason
  | .validation reason => "Validation error: " ++ reason
  | .system reason => "System error: " ++ reason

inductive ProviderError
  | providerNotFound (kind : ProviderKind) (name : String)
  | duplicateProvider (kind : ProviderKind) (name : String)
  | resourceNotFound (kind name «namespace» : String)
  | alreadyExists (kind name «namespace» : String)
  | conflict (reason : String)
  | malformed (path : List String) (expected : String)
  | featureNotInitialized (feature : String)
  | probe (reason : String)
  | invalidDescriptor (cause : OperatorError)
  | serialization
  | kubernetes
  | internal (reason : String)
  deriving DecidableEq

def pathText (path : List String) : String :=
  if path.isEmpty then "<root>" else String.intercalate "." path

namespace ProviderError

def message : ProviderError → String
  | providerNotFound kind name => "No " ++ kind.label ++ " provider registered as '" ++ name ++ "'"
  | duplicateProvider kind name =>
    "Duplicate " ++ kind.label ++ " provider registration '" ++ name ++ "'"
  | resourceNotFound kind name «namespace» =>
    "Resource not found: " ++ kind ++ "/" ++ name ++ " in namespace " ++ «namespace»
  | alreadyExists kind name «namespace» =>
    "Resource already exists: " ++ kind ++ "/" ++ name ++ " in namespace " ++ «namespace»
  | conflict reason => "Conflict: " ++ reason
  | malformed path expected => "Malformed document: " ++ pathText path ++ " is not " ++ expected
  | featureNotInitialized feature => "Feature '" ++ feature ++ "' is not initialized"
  | probe reason => "Probe error: " ++ reason
  | invalidDescriptor cause => "Invalid cluster descriptor: " ++ cause.message
  | serialization => "Serialization error"
  | kubernetes => "Kubernetes API error"
  | internal reason => "Internal error: " ++ reason

/-- Serialization and interface failures carry a wording that is not ours. -/
def hasOwnWording : ProviderError → Bool
  | serialization | kubernetes => false
  | _ => true

def isNotFound : ProviderError → Bool
  | resourceNotFound .. | providerNotFound .. => true
  | _ => false

def isAlreadyExists : ProviderError → Bool
  | alreadyExists .. => true
  | _ => false

def toOperatorError : ProviderError → OperatorError
  | invalidDescriptor cause => cause
  | other => .system other.message

/-- The error that an answer of the Kubernetes interface stands for: what its code and reason say
about one resource, and never its HTTP status. -/
def ofStatus (code : Nat) (reason message kind «namespace» name : String) : ProviderError :=
  if code = 404 then resourceNotFound kind name «namespace»
  else if code = 409 then
    if reason = "AlreadyExists" then alreadyExists kind name «namespace» else conflict message
  else kubernetes

end ProviderError
end EtcdFleet
