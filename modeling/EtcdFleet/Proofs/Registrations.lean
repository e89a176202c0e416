import EtcdFleet.Proofs.ByteOrder
import EtcdFleet.Proofs.Interleaving
import EtcdFleet.Proofs.NameMaps
import EtcdFleet.Registry

set_option autoImplicit false

/-!
# Registrations

Any registrations, one after the other or from many sides at once. The first of a kind and name is the one that
is found, and every later one is refused; a kind never sees the names of the other. A registration is one step,
so of those that race for one name one wins, and the names that are there in the end do not depend on the order.
-/

namespace EtcdFleet

abbrev Registration := String × Maker

def Registration.Of (kind : ProviderKind) (name : String) (entry : Registration) : Prop :=
  entry.1 = name ∧ entry.2.kind = kind

instance (kind : ProviderKind) (name : String) : DecidablePred (Registration.Of kind name) :=
  fun entry => inferInstanceAs (Decidable (entry.1 = name ∧ entry.2.kind = kind))

def Enrolled (kind : ProviderKind) (name : String) (past : List Registration) : Prop :=
  ∃ entry ∈ past, entry.Of kind name

def firstMaker? (kind : ProviderKind) (name : String) (past : List Registration) : Option Maker :=
  (past.find? fun entry => entry.Of kind name).map (·.2)

theorem firstMaker?_cons (kind : ProviderKind) (name : String) (entry : Registration)
    (rest : List Registration) :
    firstMaker? kind name (entry :: rest) =
      if entry.Of kind name then some entry.2 else firstMaker? kind name rest := by
  by_cases h : entry.Of kind name <;> simp [firstMaker?, h]

theorem firstMaker?_eq_none_iff {kind : ProviderKind} {name : String} {past : List Registration} :
    firstMaker? kind name past = none ↔ ¬ Enrolled kind name past := by
  simp [firstMaker?, Enrolled]

namespace Registry

variable {registry : Registry} {kind : ProviderKind} {name : String} {maker : Maker}

theorem find?_put (registry : Registry) (entry : Registration) (kind : ProviderKind) (name : String) :
    (registry.put entry.1 entry.2).find? kind name =
      if entry.Of kind name then some entry.2 else registry.find? kind name := by
  obtain ⟨slot, maker⟩ := entry
  cases maker <;> cases kind
  · simp only [put, find?, NameMap.find?_insert, Registration.Of, Maker.kind]
    split <;> simp_all
  · simp [put, find?, Registration.Of, Maker.kind]
  · simp [put, find?, Registration.Of, Maker.kind]
  · simp only [put, find?, NameMap.find?_insert, Registration.Of, Maker.kind]
    split <;> simp_all

theorem mem_names_iff : name ∈ registry.names kind ↔ registry.find? kind name ≠ none := by
  cases kind <;> simp [names, find?, NameMap.mem_names_iff]

theorem names_increasing (registry : Registry) (kind : ProviderKind) :
    (registry.names kind).Pairwise (· < ·) := by
  cases kind
  · exact registry.clusters.names_ordered
  · exact registry.features.names_ordered

theorem names_increasing_bytes (registry : Registry) (kind : ProviderKind) :
    (registry.names kind).Pairwise fun first second => bytesOf first < bytesOf second :=
  (registry.names_increasing kind).imp bytesOf_lt

theorem register_eq_error_iff {failure : ProviderError} :
    registry.register name maker = .error failure ↔
      registry.find? maker.kind name ≠ none ∧ failure = .duplicateProvider maker.kind name := by
  rw [register]
  cases registry.find? maker.kind name <;> simp [eq_comm]

/-! ## One registration after the other -/

/-- A registration reports itself where it succeeds and changes nothing where it fails. -/
def handler : Program.Handler Registration (fun _ => Except ProviderError Unit) Registry :=
  fun (name, maker) registry =>
    match registry.register name maker with
    | .ok after => ⟨.ok (), [registered name maker.kind], after⟩
    | .error failure => ⟨.error failure, [], registry⟩

def after (registry : Registry) (entries : List Registration) : Registry :=
  entries.foldl (fun registry entry => (handler entry registry).state) registry

theorem handler_of_taken {entry : Registration} {held : Maker}
    (h : registry.find? entry.2.kind entry.1 = some held) :
    handler entry registry = ⟨.error (.duplicateProvider entry.2.kind entry.1), [], registry⟩ := by
  rw [handler, register, h]

theorem handler_of_free {entry : Registration} (h : registry.find? entry.2.kind entry.1 = none) :
    handler entry registry =
      ⟨.ok (), [registered entry.1 entry.2.kind], registry.put entry.1 entry.2⟩ := by
  rw [handler, register, h]

theorem find?_handler (entry : Registration) (registry : Registry) (kind : ProviderKind)
    (name : String) :
    (handler entry registry).state.find? kind name =
      (registry.find? kind name).or (if entry.Of kind name then some entry.2 else none) := by
  cases hfree : registry.find? entry.2.kind entry.1 with
  | none =>
    rw [handler_of_free hfree, find?_put]
    split
    · rename_i hof
      obtain ⟨rfl, rfl⟩ := hof
      rw [hfree, Option.none_or]
    · rw [Option.or_none]
  | some held =>
    rw [handler_of_taken hfree]
    split
    · rename_i hof
      obtain ⟨rfl, rfl⟩ := hof
      rw [hfree, Option.some_or]
    · rw [Option.or_none]

theorem find?_after (registry : Registry) (entries : List Registration) (kind : ProviderKind)
    (name : String) :
    (registry.after entries).find? kind name =
      (registry.find? kind name).or (firstMaker? kind name entries) := by
  induction entries generalizing registry with
  | nil => exact (Option.or_none).symm
  | cons entry rest ih =>
    calc ((handler entry registry).state.after rest).find? kind name
        = ((handler entry registry).state.find? kind name).or (firstMaker? kind name rest) := ih _
      _ = (registry.find? kind name).or (firstMaker? kind name (entry :: rest)) := by
        rw [find?_handler, Option.or_assoc, firstMaker?_cons]
        split <;> simp

theorem find?_after_empty (entries : List Registration) (kind : ProviderKind) (name : String) :
    (empty.after entries).find? kind name = firstMaker? kind name entries := by
  rw [find?_after]
  cases kind <;> rfl

theorem after_append (registry : Registry) (earlier later : List Registration) :
    registry.after (earlier ++ later) = (registry.after earlier).after later :=
  List.foldl_append

theorem find?_eq_none_iff_enrolled {past : List Registration} :
    (empty.after past).find? kind name = none ↔ ¬ Enrolled kind name past := by
  rw [find?_after_empty, firstMaker?_eq_none_iff]

theorem lookup_after (past : List Registration) (kind : ProviderKind) (name : String) :
    (empty.after past).lookup kind name =
      match firstMaker? kind name past with
      | some maker => .ok maker
      | none => .error (.providerNotFound kind name) := by
  cases hmaker : firstMaker? kind name past with
  | none => rw [lookup, find?_after_empty, hmaker]
  | some maker => rw [lookup, find?_after_empty, hmaker]

theorem lookup_eq_error_iff {failure : ProviderError} {past : List Registration} :
    (empty.after past).lookup kind name = .error failure ↔
      ¬ Enrolled kind name past ∧ failure = .providerNotFound kind name := by
  rw [lookup_after, ← firstMaker?_eq_none_iff]
  cases firstMaker? kind name past <;> simp [eq_comm]

theorem mem_names_after_iff {past : List Registration} :
    name ∈ (empty.after past).names kind ↔ Enrolled kind name past := by
  rw [mem_names_iff, Ne, find?_eq_none_iff_enrolled, not_not]

def ofKind (kind : ProviderKind) (past : List Registration) : List Registration :=
  past.filter fun entry => entry.2.kind = kind

theorem firstMaker?_ofKind (kind : ProviderKind) (name : String) (past : List Registration) :
    firstMaker? kind name (ofKind kind past) = firstMaker? kind name past := by
  induction past with
  | nil => rfl
  | cons entry rest ih =>
    by_cases hkind : entry.2.kind = kind
    · rw [ofKind, List.filter_cons_of_pos (by simpa using hkind), firstMaker?_cons, firstMaker?_cons,
        ← ofKind, ih]
    · have hother : ¬ entry.Of kind name := fun hof => hkind hof.2
      rw [ofKind, List.filter_cons_of_neg (by simpa using hkind), firstMaker?_cons, if_neg hother,
        ← ofKind, ih]

theorem lookup_ofKind (kind : ProviderKind) (name : String) (past : List Registration) :
    (empty.after past).lookup kind name = (empty.after (ofKind kind past)).lookup kind name := by
  rw [lookup_after, lookup_after, firstMaker?_ofKind]

theorem names_ofKind (kind : ProviderKind) (past : List Registration) :
    (empty.after past).names kind = (empty.after (ofKind kind past)).names kind := by
  refine names_eq_of_mem (names_increasing _ _) (names_increasing _ _) fun name => ?_
  rw [mem_names_iff, mem_names_iff, find?_after_empty, find?_after_empty, firstMaker?_ofKind]

theorem strategyFor_after (past : List Registration) (settings : Settings) (cluster : Cluster) :
    (empty.after past).strategyFor settings cluster =
      match firstMaker? .cluster cluster.spec.clusterType past with
      | some (.cluster make) => make settings cluster
      | _ => .error (.providerNotFound .cluster cluster.spec.clusterType) := by
  have hfind := find?_after_empty past .cluster cluster.spec.clusterType
  rw [strategyFor, strategy, ← hfind, find?]
  cases (empty.after past).clusters.find? cluster.spec.clusterType <;> rfl

/-! ## What comes with the operator -/

/-- The built-in makers are registered like any others. -/
theorem builtin_eq_after : builtin = empty.after builtinMakers := rfl

theorem registerAll_builtinMakers : empty.registerAll builtinMakers = .ok builtin := rfl

/-- A registry in which nothing has been registered but what comes with the operator. -/
inductive Start
  | empty
  | builtin

namespace Start

def opened : Start → Registry
  | empty => .empty
  | builtin => .builtin

def past : Start → List Registration
  | empty => []
  | builtin => builtinMakers

theorem registerAll_past (start : Start) : Registry.empty.registerAll start.past = .ok start.opened := by
  cases start
  · rfl
  · exact registerAll_builtinMakers

theorem after_eq (start : Start) (entries : List Registration) :
    start.opened.after entries = Registry.empty.after (start.past ++ entries) := by
  rw [after_append]
  cases start
  · rfl
  · rw [opened, past, builtin_eq_after]

end Start

end Registry
end EtcdFleet
