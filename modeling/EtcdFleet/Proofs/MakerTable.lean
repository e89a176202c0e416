import EtcdFleet.Proofs.Registrations

set_option autoImplicit false

/-!
# The registry as one table

Makers of both kinds in one table, where nothing in the type keeps a maker of one kind from standing under a key
of the other; whoever takes one out has to look at it. In a table that registrations have made every maker stands
under its own kind. So nobody ever comes upon one of the other kind, and the table answers as the registry does.
-/

namespace EtcdFleet

abbrev MakerTable := List ((ProviderKind × String) × Maker)

namespace MakerTable

def find? (table : MakerTable) (kind : ProviderKind) (name : String) : Option Maker :=
  (List.find? (fun entry => entry.1 = (kind, name)) table).map (·.2)

def register (table : MakerTable) (name : String) (maker : Maker) :
    Except ProviderError MakerTable :=
  match table.find? maker.kind name with
  | some _ => .error (.duplicateProvider maker.kind name)
  | none => .ok (((maker.kind, name), maker) :: table)

def lookup (table : MakerTable) (kind : ProviderKind) (name : String) :
    Except ProviderError Maker :=
  match table.find? kind name with
  | some maker => .ok maker
  | none => .error (.providerNotFound kind name)

def misplacedFeature (name : String) : ProviderError :=
  .internal ("feature factory stored under cluster key '" ++ name ++ "'")

def misplacedCluster (name : String) : ProviderError :=
  .internal ("cluster factory stored under feature key '" ++ name ++ "'")

def strategy (table : MakerTable) (name : String) (settings : Settings) (cluster : Cluster) :
    Except ProviderError ClusterStrategy := do
  match ← table.lookup .cluster name with
  | .cluster make => make settings cluster
  | .feature _ => throw (misplacedFeature name)

def strategyFor (table : MakerTable) (settings : Settings) (cluster : Cluster) :
    Except ProviderError ClusterStrategy :=
  table.strategy cluster.spec.clusterType settings cluster

def featureName (table : MakerTable) (name : String) : Except ProviderError String := do
  match ← table.lookup .feature name with
  | .feature make => make
  | .cluster _ => throw (misplacedCluster name)

def names (table : MakerTable) (kind : ProviderKind) : List String :=
  sortedNames ((table.filter fun entry => entry.1.1 = kind).map (·.1.2))

def registered (table : MakerTable) (entry : Registration) : Except ProviderError Unit × MakerTable :=
  match table.register entry.1 entry.2 with
  | .ok after => (.ok (), after)
  | .error failure => (.error failure, table)

def after (table : MakerTable) (entries : List Registration) : MakerTable :=
  entries.foldl (fun table entry => (table.registered entry).2) table

variable {table : MakerTable} {registry : Registry} {kind : ProviderKind} {name : String}
  {maker : Maker}

theorem find?_cons (key : ProviderKind × String) (maker : Maker) (table : MakerTable)
    (kind : ProviderKind) (name : String) :
    find? ((key, maker) :: table) kind name =
      if key = (kind, name) then some maker else table.find? kind name := by
  by_cases h : key = (kind, name) <;> simp [find?, h]

theorem mem_names_iff : name ∈ table.names kind ↔ table.find? kind name ≠ none := by
  rw [names, mem_sortedNames_iff]
  induction table with
  | nil => simp [find?]
  | cons entry rest ih =>
    obtain ⟨⟨other, slot⟩, maker⟩ := entry
    rw [find?_cons]
    by_cases hkey : (other, slot) = (kind, name)
    · obtain ⟨rfl, rfl⟩ := Prod.mk.inj hkey
      simp
    · rw [if_neg hkey, ← ih]
      by_cases hkind : other = kind
      · have hslot : name ≠ slot := fun h => hkey (by rw [hkind, h])
        simp [hkind, hslot]
      · simp [hkind]

theorem registered_of_taken {entry : Registration} {held : Maker}
    (h : table.find? entry.2.kind entry.1 = some held) :
    table.registered entry = (.error (.duplicateProvider entry.2.kind entry.1), table) := by
  rw [registered, register, h]

theorem registered_of_free {entry : Registration} (h : table.find? entry.2.kind entry.1 = none) :
    table.registered entry = (.ok (), ((entry.2.kind, entry.1), entry.2) :: table) := by
  rw [registered, register, h]

/-! ## The table beside the registry -/

/-- The same is found in both. -/
def Mirrors (table : MakerTable) (registry : Registry) : Prop :=
  ∀ kind name, table.find? kind name = registry.find? kind name

theorem mirrors_empty : Mirrors [] .empty := by
  intro kind name
  cases kind <;> rfl

/-- Both give a registration the same answer, and the same is found in both after it. -/
theorem Mirrors.registered (h : Mirrors table registry) (entry : Registration) :
    (table.registered entry).1 = (Registry.handler entry registry).reply ∧
      Mirrors (table.registered entry).2 (Registry.handler entry registry).state := by
  cases hfree : registry.find? entry.2.kind entry.1 with
  | none =>
    rw [registered_of_free ((h _ _).trans hfree), Registry.handler_of_free hfree]
    refine ⟨rfl, fun kind name => ?_⟩
    rw [find?_cons, Registry.find?_put, h kind name]
    refine if_congr ?_ rfl rfl
    rw [Prod.mk.injEq, and_comm]
    rfl
  | some held =>
    rw [registered_of_taken ((h _ _).trans hfree), Registry.handler_of_taken hfree]
    exact ⟨rfl, h⟩

theorem Mirrors.after (h : Mirrors table registry) (entries : List Registration) :
    Mirrors (table.after entries) (registry.after entries) := by
  induction entries generalizing table registry with
  | nil => exact h
  | cons entry rest ih => exact ih (h.registered entry).2

/-- Every maker stands under its own kind. -/
def KindsKept (table : MakerTable) : Prop :=
  ∀ kind name maker, table.find? kind name = some maker → maker.kind = kind

theorem kindsKept_nil : KindsKept [] := by
  intro kind name maker hmaker
  cases hmaker

theorem KindsKept.registered (h : KindsKept table) (entry : Registration) :
    KindsKept (table.registered entry).2 := by
  cases hfree : table.find? entry.2.kind entry.1 with
  | none =>
    rw [registered_of_free hfree]
    intro kind name maker hmaker
    rw [find?_cons] at hmaker
    split at hmaker
    · rename_i hkey
      obtain ⟨rfl, _⟩ := Prod.mk.inj hkey
      rw [Option.some.inj hmaker]
    · exact h kind name maker hmaker
  | some held =>
    rw [registered_of_taken hfree]
    exact h

theorem KindsKept.after (h : KindsKept table) (entries : List Registration) :
    KindsKept (table.after entries) := by
  induction entries generalizing table with
  | nil => exact h
  | cons entry rest ih => exact ih (h.registered entry)

theorem lookup_eq (h : Mirrors table registry) (kind : ProviderKind) (name : String) :
    table.lookup kind name = registry.lookup kind name := by
  cases hmaker : registry.find? kind name with
  | none => rw [lookup, Registry.lookup, h, hmaker]
  | some maker => rw [lookup, Registry.lookup, h, hmaker]

theorem names_eq (h : Mirrors table registry) (kind : ProviderKind) :
    table.names kind = registry.names kind := by
  refine names_eq_of_mem (sortedNames_ordered _) (registry.names_increasing kind) fun name => ?_
  rw [mem_names_iff, Registry.mem_names_iff, h]

theorem strategy_eq (hkept : KindsKept table) (h : Mirrors table registry) (name : String)
    (settings : Settings) (cluster : Cluster) :
    table.strategy name settings cluster = registry.strategy name settings cluster := by
  have hfind : table.find? .cluster name = (registry.clusters.find? name).map .cluster :=
    h .cluster name
  rw [strategy, lookup, Registry.strategy]
  cases hmaker : table.find? .cluster name with
  | none =>
    rw [hmaker] at hfind
    rw [Option.map_eq_none_iff.1 hfind.symm]
    rfl
  | some maker =>
    cases maker with
    | cluster make =>
      rw [hmaker] at hfind
      obtain ⟨found, hfound, hmake⟩ := Option.map_eq_some_iff.1 hfind.symm
      rw [hfound, Maker.cluster.inj hmake]
      rfl
    | feature make => cases hkept _ _ _ hmaker

theorem featureName_eq (hkept : KindsKept table) (h : Mirrors table registry) (name : String) :
    table.featureName name = registry.featureName name := by
  have hfind : table.find? .feature name = (registry.features.find? name).map .feature :=
    h .feature name
  rw [featureName, lookup, Registry.featureName]
  cases hmaker : table.find? .feature name with
  | none =>
    rw [hmaker] at hfind
    rw [Option.map_eq_none_iff.1 hfind.symm]
    rfl
  | some maker =>
    cases maker with
    | cluster make => cases hkept _ _ _ hmaker
    | feature make =>
      rw [hmaker] at hfind
      obtain ⟨found, hfound, hmake⟩ := Option.map_eq_some_iff.1 hfind.symm
      rw [hfound, Maker.feature.inj hmake]
      rfl

end MakerTable
end EtcdFleet
