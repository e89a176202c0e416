set_option autoImplicit false

/-!
# Journal

Events that the operator reports while it works, in the order in which they happen.
-/

namespace EtcdFleet

inductive Severity
  | debug
  | info
  | warn
  | error
  deriving DecidableEq

def Severity.label : Severity → String
  | .debug => "DEBUG"
  | .info => "INFO"
  | .warn => "WARN"
  | .error => "ERROR"

structure Event where
  severity : Severity
  message : String
  fields : List (String × String)
  deriving DecidableEq

end EtcdFleet
