import EtcdFleet.Document.Reader
import EtcdFleet.Failure
import EtcdFleet.Kubernetes.Object
import EtcdFleet.Text.Quoted

set_option autoImplicit false

/-!
# Answers of the Kubernetes interface

An answer in the range of errors carries the description of one, whose own code and reason count; if
it carries none, a description is made from the answer itself. Any other answer carries an object. A
status that has no three digits is no answer.
-/

namespace EtcdFleet.Kubernetes

structure Answer where
  status : Nat
  text : String

structure ErrorDescription where
  code : Nat
  reason : String
  message : String
  deriving DecidableEq

namespace ErrorDescription

def fieldNames : List String := ["status", "message", "reason", "code"]

def ofFields? (fields : Fields) : Option ErrorDescription := do
  let _ ← fields.required 0 "status" Document.text?
  let message ← fields.orDefault 1 "message" Document.text? ""
  let reason ← fields.orDefault 2 "reason" Document.text? ""
  let code ← fields.required 3 "code" (Document.natBelow? UInt16.size)
  return ⟨code, reason, message⟩

/-- No field is written twice. Members that are no fields are passed over; a list has none. -/
def fieldsOf? : Written → Option Fields
  | .object members => do
    let found ← Written.select? (fun name =>
      if name ∈ fieldNames then some (Written.toDocument? Written.depthLimit) else none) members
    guard (found.map Prod.fst).Nodup
    return .named (NameMap.ofEntries found).entries
  | value => (value.toDocument? Written.depthLimit).bind (Fields.strict? fieldNames.length)

def ofText? (text : String) : Option ErrorDescription := do
  ofFields? (← fieldsOf? (← Written.ofText? text))

def ofAnswer (answer : Answer) : ErrorDescription :=
  (ofText? answer.text).getD
    ⟨answer.status, "Failed to parse error data", Text.quoted answer.text⟩

end ErrorDescription

namespace Answer

def isError (answer : Answer) : Bool := 400 ≤ answer.status && answer.status < 600

/-- The object, or what went wrong with the resource of that kind and name. -/
def toExcept (answer : Answer) (kind «namespace» name : String) :
    Except ProviderError Document :=
  if answer.status < 100 ∨ 999 < answer.status then .error .kubernetes
  else if answer.isError then
    let description := ErrorDescription.ofAnswer answer
    .error (.ofStatus description.code description.reason description.message kind «namespace» name)
  else
    match objectOfText? answer.text with
    | some doc => .ok doc
    | none => .error .kubernetes

end Answer
end EtcdFleet.Kubernetes
