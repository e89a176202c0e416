import EtcdFleet.Document.Fields

set_option autoImplicit false

/-!
# Environment variables of members

A variable has a value or a source that the value is taken from. They are written as objects only; a
text that must be there and is absent or null is read as the empty text and always written.
-/

namespace EtcdFleet

structure KeySelector where
  key : String
  name : String
  isOptional : Option Bool
  deriving DecidableEq

structure FieldSelector where
  apiVersion : Option String
  fieldPath : String
  deriving DecidableEq

structure ResourceSelector where
  containerName : Option String
  divisor : Option String
  resource : String
  deriving DecidableEq

structure EnvSource where
  configMapKey : Option KeySelector
  field : Option FieldSelector
  resourceField : Option ResourceSelector
  secretKey : Option KeySelector
  deriving DecidableEq

structure EnvVar where
  name : String
  value : Option String
  source : Option EnvSource
  deriving DecidableEq

namespace Document

/-- A text member that is always written. -/
def plainText? (members : List (String × Document)) (name : String) : Option String :=
  (member? members name text?).map (·.getD "")

end Document

namespace KeySelector

def toDocument (selector : KeySelector) : Document :=
  .record [("key", some (.text selector.key)), ("name", some (.text selector.name)),
    ("optional", selector.isOptional.map .bool)]

def ofDocument? (doc : Document) : Option KeySelector := do
  let members ← doc.object?
  let key ← Document.plainText? members "key"
  let name ← Document.plainText? members "name"
  let isOptional ← Document.member? members "optional" Document.bool?
  return ⟨key, name, isOptional⟩

end KeySelector

namespace FieldSelector

def toDocument (selector : FieldSelector) : Document :=
  .record [("apiVersion", selector.apiVersion.map .text),
    ("fieldPath", some (.text selector.fieldPath))]

def ofDocument? (doc : Document) : Option FieldSelector := do
  let members ← doc.object?
  let apiVersion ← Document.member? members "apiVersion" Document.text?
  let fieldPath ← Document.plainText? members "fieldPath"
  return ⟨apiVersion, fieldPath⟩

end FieldSelector

namespace ResourceSelector

def toDocument (selector : ResourceSelector) : Document :=
  .record [("containerName", selector.containerName.map .text),
    ("divisor", selector.divisor.map .text), ("resource", some (.text selector.resource))]

def ofDocument? (doc : Document) : Option ResourceSelector := do
  let members ← doc.object?
  let containerName ← Document.member? members "containerName" Document.text?
  let divisor ← Document.member? members "divisor" Document.text?
  let resource ← Document.plainText? members "resource"
  return ⟨containerName, divisor, resource⟩

end ResourceSelector

namespace EnvSource

def toDocument (source : EnvSource) : Document :=
  .record [("configMapKeyRef", source.configMapKey.map KeySelector.toDocument),
    ("fieldRef", source.field.map FieldSelector.toDocument),
    ("resourceFieldRef", source.resourceField.map ResourceSelector.toDocument),
    ("secretKeyRef", source.secretKey.map KeySelector.toDocument)]

def ofDocument? (doc : Document) : Option EnvSource := do
  let members ← doc.object?
  let configMapKey ← Document.member? members "configMapKeyRef" KeySelector.ofDocument?
  let field ← Document.member? members "fieldRef" FieldSelector.ofDocument?
  let resourceField ← Document.member? members "resourceFieldRef" ResourceSelector.ofDocument?
  let secretKey ← Document.member? members "secretKeyRef" KeySelector.ofDocument?
  return ⟨configMapKey, field, resourceField, secretKey⟩

end EnvSource

namespace EnvVar

def toDocument (envVar : EnvVar) : Document :=
  .record [("name", some (.text envVar.name)), ("value", envVar.value.map .text),
    ("valueFrom", envVar.source.map EnvSource.toDocument)]

def ofDocument? (doc : Document) : Option EnvVar := do
  let members ← doc.object?
  let name ← Document.plainText? members "name"
  let value ← Document.member? members "value" Document.text?
  let source ← Document.member? members "valueFrom" EnvSource.ofDocument?
  return ⟨name, value, source⟩

end EnvVar
end EtcdFleet
