import EtcdFleet.Cluster.Imported

set_option autoImplicit false

/-!
# The registry of providers

Makers of cluster strategies and of features, each under a name of its kind. A name is given once, and
what is asked for is never replaced by something else.
-/

namespace EtcdFleet

abbrev ClusterStrategy := Strategy StoreCall StoreReply

abbrev StrategyMaker := Settings → Cluster → Except ProviderError ClusterStrategy

/-- A feature is made by finding its own name. -/
abbrev FeatureMaker := Except ProviderError String

inductive Maker
  | cluster (make : StrategyMaker)
  | feature (make : FeatureMaker)

namespace Maker

def kind : Maker → ProviderKind
  | cluster _ => .cluster
  | feature _ => .feature

def description (maker : Maker) : String := "ProviderFactory(" ++ maker.kind.label ++ ")"

end Maker

structure Registry where
  clusters : NameMap StrategyMaker
  features : NameMap FeatureMaker

namespace Registry

def empty : Registry := ⟨.empty, .empty⟩

instance : Inhabited Registry := ⟨empty⟩

def find? (registry : Registry) : ProviderKind → String → Option Maker
  | .cluster, name => (registry.clusters.find? name).map .cluster
  | .feature, name => (registry.features.find? name).map .feature

def put (registry : Registry) (name : String) : Maker → Registry
  | .cluster make => { registry with clusters := registry.clusters.insert name make }
  | .feature make => { registry with features := registry.features.insert name make }

def register (registry : Registry) (name : String) (maker : Maker) :
    Except ProviderError Registry :=
  match registry.find? maker.kind name with
  | some _ => .error (.duplicateProvider maker.kind name)
  | none => .ok (registry.put name maker)

def registered (name : String) (kind : ProviderKind) : Event :=
  ⟨.debug, "Registered provider", [("provider", name), ("kind", kind.label)]⟩

def lookup (registry : Registry) (kind : ProviderKind) (name : String) :
    Except ProviderError Maker :=
  match registry.find? kind name with
  | some maker => .ok maker
  | none => .error (.providerNotFound kind name)

def names (registry : Registry) : ProviderKind → List String
  | .cluster => registry.clusters.names
  | .feature => registry.features.names

def strategy (registry : Registry) (name : String) (settings : Settings) (cluster : Cluster) :
    Except ProviderError ClusterStrategy :=
  match registry.clusters.find? name with
  | some make => make settings cluster
  | none => .error (.providerNotFound .cluster name)

def strategyFor (registry : Registry) (settings : Settings) (cluster : Cluster) :
    Except ProviderError ClusterStrategy :=
  registry.strategy cluster.spec.clusterType settings cluster

def featureName (registry : Registry) (name : String) : Except ProviderError String :=
  match registry.features.find? name with
  | some make => make
  | none => .error (.providerNotFound .feature name)

def builtinFeatures : List String := ["request", "healthy", "consistency", "alarm"]

def operatedMaker : StrategyMaker := fun settings _ => .ok (.operated settings)

def importedMaker : StrategyMaker := fun settings _ => .ok (.imported settings)

def featureMaker (name : String) : FeatureMaker := .ok name

/-- What comes with the operator, in the order of registration. -/
def builtinMakers : List (String × Maker) :=
  [("kstone-etcd-operator", .cluster operatedMaker), ("imported", .cluster importedMaker)] ++
    builtinFeatures.map fun name => (name, .feature (featureMaker name))

def registerAll (registry : Registry) : List (String × Maker) → Except ProviderError Registry
  | [] => .ok registry
  | (name, maker) :: rest => do (← registry.register name maker).registerAll rest

def registeredAll (makers : List (String × Maker)) : List Event :=
  makers.map fun (name, maker) => registered name maker.kind

def builtin : Registry :=
  builtinMakers.foldl (fun registry entry => registry.put entry.1 entry.2) empty

end Registry
end EtcdFleet
