import EtcdFleet.Proofs.FeatureTerms
import EtcdFleet.Proofs.InspectionRuns
import EtcdFleet.Proofs.NameMaps

set_option autoImplicit false

/-!
# Features under their own names

A manager over a store where every feature is registered under its own name, and where connections are made without
touching the store. It has a connected feature for every registered name, whether the feature was shared, or
connected, before; any other name is unknown to it.
-/

namespace EtcdFleet

theorem Registry.featureName_of_notMem {registry : Registry} {slot : String}
    (h : slot ∉ registry.names .feature) :
    registry.featureName slot = .error (.providerNotFound .feature slot) := by
  rw [featureName, NameMap.find?_eq_none_iff.2 h]

namespace Scheduling

open Program (exec)

/-- Every feature that can be built, or is shared, goes by its own name. -/
structure OwnNamed (state : Inspections Store) : Prop where
  makers : ∀ slot make, state.registry.features.find? slot = some make →
    make = Registry.featureMaker slot
  slots : ∀ slot held, state.slots.find? slot = some held →
    held.name = slot ∧ slot ∈ state.registry.names .feature

def Errand.own (kind : ResourceKind) (cluster : Cluster) (slot : String) : Errand :=
  ⟨kind, ⟨slot, slot⟩, cluster, true⟩

/-- Connections are made, and made beside the store. -/
def Connects (connector : Inspections.Connector Store) : Prop :=
  ∀ store, ∃ events, connector store = ⟨.ok (), events, store⟩

variable {connector : Inspections.Connector Store} {collector : Task → Except ProviderError Unit}
  {state : Inspections Store} {slot : String}

theorem place_of_held (h : state.slots.find? slot = some ⟨slot, true⟩) :
    state.place slot slot true = state := by
  have hslots : state.slots.insert slot ⟨slot, true⟩ = state.slots := by
    apply NameMap.ext_find?
    intro other
    rw [NameMap.find?_insert]
    split
    · subst_vars
      exact h.symm
    · rfl
  rw [Inspections.place, hslots]

theorem place_place (state : Inspections Store) (slot : String) (connected : Bool) :
    (state.place slot slot false).place slot slot connected = state.place slot slot connected := by
  rw [Inspections.place, Inspections.place, NameMap.insert_insert_self]
  rfl

theorem connected_of_shared (hconnector : Connects connector) {connected : Bool}
    (h : state.slots.find? slot = some ⟨slot, connected⟩) :
    ((state.connected connector ⟨slot, slot⟩).reply, (state.connected connector ⟨slot, slot⟩).state) =
      (.ok (), state.place slot slot true) := by
  have hslot : state.slot ⟨slot, slot⟩ = ⟨slot, connected⟩ := by
    rw [Inspections.slot, h]
    rfl
  cases connected with
  | true =>
    have hconnected : (state.slot ⟨slot, slot⟩).connected = true := by rw [hslot]
    rw [Inspections.connected_of_connected connector hconnected, place_of_held h]
  | false =>
    obtain ⟨events, hevents⟩ := hconnector state.outside
    rw [Inspections.connected, hslot, hevents]
    rfl

namespace OwnNamed

theorem place (h : OwnNamed state) (hslot : slot ∈ state.registry.names .feature) (connected : Bool) :
    OwnNamed (state.place slot slot connected) := by
  refine ⟨h.makers, ?_⟩
  intro other held hheld
  by_cases hother : other = slot
  · subst hother
    rw [Sharing.find?_place_self] at hheld
    exact ⟨congrArg Slot.name (Option.some.inj hheld).symm, hslot⟩
  · rw [Sharing.find?_place_of_ne _ _ _ hother] at hheld
    exact h.slots other held hheld

theorem settled (h : OwnNamed state) (errand : Errand) : OwnNamed (errand.settled state) :=
  ⟨h.makers, h.slots⟩

theorem featureName (h : OwnNamed state) (hslot : slot ∈ state.registry.names .feature) :
    state.registry.featureName slot = .ok slot := by
  obtain ⟨make, hmake⟩ := Option.ne_none_iff_exists'.1 (NameMap.mem_names_iff.1 hslot)
  rw [Registry.featureName, hmake]
  exact h.makers slot make hmake

variable (connector) (collector)

theorem exec_feature (h : OwnNamed state) (hconnector : Connects connector)
    (hslot : slot ∈ state.registry.names .feature) :
    exec (handler connector collector) (Manager.feature slot) state =
      (.ok ⟨slot, slot⟩, state.place slot slot true) := by
  have hobtain := exec_obtain connector collector slot state
  cases hheld : state.slots.find? slot with
  | some held =>
    obtain ⟨name, connected⟩ := held
    obtain rfl : name = slot := (h.slots slot _ hheld).1
    have hfound : state.found? name = some ⟨name, name⟩ :=
      Sharing.found?_eq_some_iff.2 ⟨rfl, connected, hheld⟩
    rw [Sharing.built_of_found hfound] at hobtain
    have hconnect := exec_connect connector collector ⟨name, name⟩ state
    rw [connected_of_shared hconnector hheld] at hconnect
    rw [Manager.feature, Program.exec_bind_of_ok hobtain, Program.exec_bind_of_ok hconnect]
    rfl
  | none =>
    rw [Inspections.built, Sharing.found?_eq_none_iff.2 hheld, h.featureName hslot] at hobtain
    have hconnect := exec_connect connector collector ⟨slot, slot⟩ (state.place slot slot false)
    rw [connected_of_shared hconnector (Sharing.find?_place_self state slot slot false),
      place_place] at hconnect
    rw [Manager.feature, Program.exec_bind_of_ok hobtain, Program.exec_bind_of_ok hconnect]
    rfl

theorem exec_reconcile (h : OwnNamed state) (hconnector : Connects connector) (kind : ResourceKind)
    (cluster : Cluster) (hslot : slot ∈ state.registry.names .feature) :
    exec (handler connector collector) (Manager.reconcile (.ofStore kind) cluster slot) state =
      (.ok (state.outside.find? (Errand.own kind cluster slot).task).isNone,
        (Errand.own kind cluster slot).settled (state.place slot slot true)) := by
  have hready : (Errand.own kind cluster slot).Ready (state.place slot slot true) :=
    Sharing.find?_place_self ..
  have hfeature : exec (handler connector collector)
      (Manager.feature (Errand.own kind cluster slot).feature.slot) state =
        (.ok (Errand.own kind cluster slot).feature, state.place slot slot true) :=
    h.exec_feature connector collector hconnector hslot
  exact exec_reconcile_of_feature hfeature hready

theorem exec_reconcile_of_notMem (h : OwnNamed state) (kind : ResourceKind) (cluster : Cluster)
    (hslot : slot ∉ state.registry.names .feature) :
    exec (handler connector collector) (Manager.reconcile (.ofStore kind) cluster slot) state =
      (.error (.providerNotFound .feature slot), state) := by
  have hmissing : state.found? slot = none := by
    rw [Sharing.found?_eq_none_iff, Option.eq_none_iff_forall_ne_some]
    exact fun held hheld => hslot (h.slots slot held hheld).2
  have hobtain := exec_obtain connector collector slot state
  rw [Inspections.built, hmissing, Registry.featureName_of_notMem hslot] at hobtain
  exact Program.exec_bind_of_error (Program.exec_bind_of_error hobtain _) _

end OwnNamed

end Scheduling
end EtcdFleet
