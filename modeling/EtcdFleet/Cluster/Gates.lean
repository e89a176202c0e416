import EtcdFleet.Cluster.Descriptor
import EtcdFleet.Text.Blank
import EtcdFleet.Text.Pieces

set_option autoImplicit false

/-!
# Feature gates

Which features a cluster has switched on. A gate is a name and a truth value; one that is malformed or
false switches nothing off that another gate switches on.
-/

namespace EtcdFleet

/-- The name that a gate switches on: the text before the first equals sign, trimmed and not empty,
where the trimmed text after it is the word `true`. -/
def enabledName? (gate : List Char) : Option (List Char) :=
  match Text.cut? '=' gate with
  | none => none
  | some (name, value) =>
    if Text.trim value = ['t', 'r', 'u', 'e'] ∧ Text.trim name ≠ [] then some (Text.trim name)
    else none

def gateNames (cs : List Char) : List String :=
  sortedNames (((Text.pieces ',' cs).filterMap enabledName?).map String.ofList)

def featureGates (annotations : StringMap) : List String :=
  match annotations.find? Annotation.featureGates with
  | none => []
  | some text => gateNames text.toList

def Cluster.enabledFeatures (cluster : Cluster) : List String :=
  featureGates cluster.metadata.annotations

end EtcdFleet
