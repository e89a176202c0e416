import Mathlib.Data.List.Dedup
import Mathlib.Data.List.Nodup
import EtcdFleet.Proofs.OwnNames
import EtcdFleet.Proofs.TaskNames

set_option autoImplicit false

/-!
# Tasks of the built-in features

A new manager with the built-in features, over a store that is empty, and any calls of it one after the
other. No built-in feature has a hyphen in its name; so a task says which cluster and feature it is for, and
the store holds one task for each cluster and built-in feature that a call was for.
-/

namespace EtcdFleet

namespace Registry

theorem mem_names_builtin {slot : String} :
    slot ∈ builtin.features.names ↔ slot ∈ builtinFeatures := by
  have hperm : builtin.features.names.Perm builtinFeatures := by decide
  exact hperm.mem_iff

theorem featureName_builtin_of_mem {slot : String} (h : slot ∈ builtinFeatures) :
    builtin.featureName slot = .ok slot := by
  simp only [builtinFeatures, List.mem_cons, List.not_mem_nil, or_false] at h
  rcases h with rfl | rfl | rfl | rfl <;> rfl

theorem eq_featureMaker_of_builtin {slot : String} {make : FeatureMaker}
    (h : builtin.features.find? slot = some make) : make = featureMaker slot := by
  have hslot : slot ∈ builtinFeatures := by
    rw [← mem_names_builtin, NameMap.mem_names_iff, h]
    exact Option.some_ne_none make
  have hname := featureName_builtin_of_mem hslot
  rwa [featureName, h] at hname

theorem plain_of_mem_builtin {slot : String} (h : slot ∈ builtinFeatures) : '-' ∉ slot.toList := by
  simp only [builtinFeatures, List.mem_cons, List.not_mem_nil, or_false] at h
  rcases h with rfl | rfl | rfl | rfl <;> decide

end Registry

namespace Scheduling

open Program (exec)

def storeConnector (kind : ResourceKind) : Inspections.Connector Store := fun store =>
  ⟨.ok (), [Backend.storeUsed kind], store⟩

theorem connects_storeConnector (kind : ResourceKind) : Connects (storeConnector kind) :=
  fun _ => ⟨_, rfl⟩

structure Purpose where
  «namespace» : String
  cluster : String
  feature : String
  deriving DecidableEq

namespace Purpose

def key (kind : ResourceKind) (purpose : Purpose) : ResourceKey :=
  ⟨kind, purpose.namespace, Task.nameFor purpose.cluster purpose.feature⟩

def texts (purpose : Purpose) : List (Path × String) :=
  [(["metadata", "name"], Task.nameFor purpose.cluster purpose.feature),
    (["metadata", "namespace"], purpose.namespace),
    (["metadata", "labels", "clusterName"], purpose.cluster),
    (["metadata", "labels", "inspectionType"], purpose.feature),
    (["spec", "clusterName"], purpose.cluster),
    (["spec", "inspectionType"], purpose.feature)]

def SaidBy (purpose : Purpose) (doc : Document) : Prop :=
  ∀ entry ∈ purpose.texts, doc.getText? entry.1 = .ok (some entry.2)

theorem key_inj {kind : ResourceKind} {purpose other : Purpose}
    (h : purpose.feature ∈ Registry.builtinFeatures)
    (hother : other.feature ∈ Registry.builtinFeatures)
    (hkey : purpose.key kind = other.key kind) : purpose = other := by
  obtain ⟨first, cluster, feature⟩ := purpose
  obtain ⟨second, otherCluster, otherFeature⟩ := other
  obtain ⟨_, rfl, hname⟩ := ResourceKey.mk.inj hkey
  obtain ⟨rfl, rfl⟩ := (Task.nameFor_inj_of_plain (Registry.plain_of_mem_builtin h)
    (Registry.plain_of_mem_builtin hother)).1 hname
  rfl

end Purpose

structure Request where
  cluster : Cluster
  slot : String

namespace Request

def purpose (request : Request) : Purpose :=
  ⟨request.cluster.namespace, request.cluster.name, request.slot⟩

def Builtin (request : Request) : Prop := request.slot ∈ Registry.builtinFeatures

instance (request : Request) : Decidable request.Builtin :=
  inferInstanceAs (Decidable (request.slot ∈ Registry.builtinFeatures))

def errand (kind : ResourceKind) (request : Request) : Errand :=
  ⟨kind, ⟨request.slot, request.slot⟩, request.cluster, true⟩

theorem saidBy_document {kind : ResourceKind} (request : Request) {written : Document}
    (h : (request.errand kind).document.withVersion 1 = .ok written) :
    request.purpose.SaidBy written := by
  have happart : ∀ entry ∈ request.purpose.texts, Path.Apart entry.1 Document.versionPath := by
    simp only [Purpose.texts, List.forall_mem_cons, List.not_mem_nil, IsEmpty.forall_iff,
      implies_true, and_true]
    decide
  have hbefore : ∀ entry ∈ request.purpose.texts,
      (request.errand kind).document.get? entry.1 = .ok (some (.text entry.2)) := by
    simp only [Purpose.texts, List.forall_mem_cons, List.not_mem_nil, IsEmpty.forall_iff,
      implies_true, and_true]
    exact ⟨rfl, rfl, rfl, rfl, rfl, rfl⟩
  intro entry hentry
  apply Document.getText?_of_get?
  rw [Document.get?_withVersion_of_apart (happart entry hentry).symm h]
  exact hbefore entry hentry

end Request

section Calls

variable (kind : ResourceKind) (collector : Task → Except ProviderError Unit)

def manage (state : Inspections Store) (request : Request) :
    Except ProviderError Bool × Inspections Store :=
  exec (handler (storeConnector kind) collector)
    (Manager.reconcile (.ofStore kind) request.cluster request.slot) state

def afterCalls (requests : List Request) : Inspections Store :=
  requests.foldl (fun state request => (manage kind collector state request).2)
    ⟨.builtin, .empty, .empty⟩

/-- What the calls were for, as far as it can be done, each once. -/
def due (requests : List Request) : List Purpose :=
  ((requests.filter fun request => request.Builtin).map Request.purpose).dedup

variable {kind} {collector}

theorem mem_due {requests : List Request} {purpose : Purpose} :
    purpose ∈ due requests ↔
      ∃ request ∈ requests, request.Builtin ∧ request.purpose = purpose := by
  simp [due, and_assoc]

/-! ## One call -/

/-- The features that are shared are built-in ones, connected. -/
structure Shares (state : Inspections Store) : Prop where
  registry : state.registry = .builtin
  slots : ∀ name slot, state.slots.find? name = some slot →
    name ∈ Registry.builtinFeatures ∧ slot = ⟨name, true⟩

variable {state : Inspections Store} {request : Request}

theorem Shares.ownNamed (h : Shares state) : OwnNamed state where
  makers := by
    intro slot make hmake
    rw [h.registry] at hmake
    exact Registry.eq_featureMaker_of_builtin hmake
  slots := by
    intro slot held hheld
    obtain ⟨hslot, rfl⟩ := h.slots slot held hheld
    rw [h.registry]
    exact ⟨rfl, Registry.mem_names_builtin.2 hslot⟩

theorem Shares.builtin_iff (h : Shares state) :
    request.Builtin ↔ request.slot ∈ state.registry.names .feature := by
  rw [h.registry]
  exact Registry.mem_names_builtin.symm

theorem Shares.place (h : Shares state) {slot : String} (hslot : slot ∈ Registry.builtinFeatures) :
    Shares (state.place slot slot true) := by
  refine ⟨h.registry, ?_⟩
  intro name found hfound
  by_cases hname : name = slot
  · subst hname
    have hself := Sharing.find?_place_self state name name true
    exact ⟨hslot, Option.some.inj (hfound.symm.trans hself)⟩
  · have hother := Sharing.find?_place_of_ne state slot true hname
    exact h.slots name found (hother.symm.trans hfound)

theorem manage_of_unknown (h : Shares state) (hrequest : ¬ request.Builtin) :
    manage kind collector state request =
      (.error (.providerNotFound .feature request.slot), state) :=
  h.ownNamed.exec_reconcile_of_notMem (storeConnector kind) collector kind request.cluster
    (h.builtin_iff.not.1 hrequest)

variable (kind) (collector) in
/-- The manager goes by the store, and leaves in it what the order of the task leaves. -/
theorem exists_manage (h : Shares state) (hrequest : request.Builtin) :
    ∃ after, manage kind collector state request =
        (.ok (state.outside.find? (request.purpose.key kind)).isNone, after) ∧
      Shares after ∧ after.outside = (request.errand kind).ordered state.outside := by
  have hrun := h.ownNamed.exec_reconcile (storeConnector kind) collector (connects_storeConnector kind)
    kind request.cluster (h.builtin_iff.1 hrequest)
  have hshares := h.place hrequest
  exact ⟨_, hrun, ⟨hshares.registry, hshares.slots⟩, rfl⟩

/-! ## All calls so far -/

/-- What is in the store after the calls, and what is shared. -/
structure Booked (kind : ResourceKind) (requests : List Request) (state : Inspections Store) :
    Prop extends Shares state where
  sound : ∀ key doc, state.outside.find? key = some doc →
    ∃ purpose ∈ due requests, purpose.key kind = key ∧ purpose.SaidBy doc
  complete : ∀ purpose ∈ due requests, (state.outside.find? (purpose.key kind)).isSome = true

theorem booked_start : Booked kind [] ⟨.builtin, .empty, .empty⟩ where
  registry := rfl
  slots := nofun
  sound := nofun
  complete := nofun

theorem feature_mem_of_mem_due {requests : List Request} {purpose : Purpose}
    (h : purpose ∈ due requests) : purpose.feature ∈ Registry.builtinFeatures := by
  obtain ⟨request, _, hbuiltin, rfl⟩ := mem_due.1 h
  exact hbuiltin

theorem mem_due_append {requests : List Request} {purpose : Purpose} :
    purpose ∈ due (requests ++ [request]) ↔
      purpose ∈ due requests ∨ (request.Builtin ∧ request.purpose = purpose) := by
  simp only [mem_due, List.mem_append, List.mem_singleton, or_and_right, exists_or, exists_eq_left]

theorem due_append_of_unknown {requests : List Request} (h : ¬ request.Builtin) :
    due (requests ++ [request]) = due requests := by
  rw [due, List.filter_append, List.filter_cons_of_neg (by simpa using h), List.filter_nil,
    List.append_nil]
  rfl

theorem mem_due_of_mem_map {requests : List Request} (h : request.Builtin) :
    request.purpose ∈ requests.map Request.purpose ↔ request.purpose ∈ due requests := by
  rw [mem_due, List.mem_map]
  constructor
  · rintro ⟨other, hother, heq⟩
    have hslot : other.slot = request.slot := congrArg Purpose.feature heq
    refine ⟨other, hother, ?_, heq⟩
    rw [Request.Builtin, hslot]
    exact h
  · rintro ⟨other, hother, _, heq⟩
    exact ⟨other, hother, heq⟩

namespace Booked

variable {requests : List Request} (h : Booked kind requests state)

include h

theorem isSome_find?_iff (hrequest : request.Builtin) :
    (state.outside.find? (request.purpose.key kind)).isSome = true ↔
      request.purpose ∈ due requests := by
  constructor
  · intro hsome
    obtain ⟨doc, hdoc⟩ := Option.isSome_iff_exists.1 hsome
    obtain ⟨purpose, hpurpose, hkey, _⟩ := h.sound _ doc hdoc
    have heq : purpose = request.purpose :=
      Purpose.key_inj (feature_mem_of_mem_due hpurpose) hrequest hkey
    exact heq ▸ hpurpose
  · exact h.complete request.purpose

theorem manage_fst (hrequest : request.Builtin) :
    (manage kind collector state request).1 =
      .ok (decide (request.purpose ∉ requests.map Request.purpose)) := by
  obtain ⟨after, hmanage, _⟩ :=
    exists_manage kind collector h.toShares hrequest
  rw [hmanage]
  apply congrArg Except.ok
  rw [Bool.eq_iff_iff, decide_eq_true_iff, mem_due_of_mem_map hrequest,
    ← h.isSome_find?_iff hrequest, Option.not_isSome_iff_eq_none, Option.isNone_iff_eq_none]

theorem step : Booked kind (requests ++ [request]) (manage kind collector state request).2 := by
  by_cases hrequest : request.Builtin
  · obtain ⟨after, hmanage, hshares, hordered⟩ :=
      exists_manage kind collector h.toShares hrequest
    rw [hmanage]
    refine ⟨hshares, ?_, ?_⟩
    · intro key doc hdoc
      rw [hordered] at hdoc
      rcases Errand.find?_ordered_cases hdoc with hbefore | ⟨rfl, hwritten⟩
      · obtain ⟨purpose, hpurpose, hsaid⟩ := h.sound key doc hbefore
        exact ⟨purpose, mem_due_append.2 (.inl hpurpose), hsaid⟩
      · exact ⟨request.purpose, mem_due_append.2 (.inr ⟨hrequest, rfl⟩), rfl,
          request.saidBy_document hwritten⟩
    · intro purpose hpurpose
      rw [hordered]
      rcases mem_due_append.1 hpurpose with hbefore | ⟨_, rfl⟩
      · exact Errand.isSome_find?_ordered_of_isSome (h.complete purpose hbefore)
      · exact Errand.isSome_find?_ordered (request.errand kind) _
  · rw [manage_of_unknown h.toShares hrequest]
    refine ⟨h.toShares, ?_, ?_⟩
    · rw [due_append_of_unknown hrequest]
      exact h.sound
    · rw [due_append_of_unknown hrequest]
      exact h.complete

theorem keys_perm : state.outside.keys.Perm ((due requests).map (Purpose.key kind)) := by
  have hdue : ((due requests).map (Purpose.key kind)).Nodup := by
    refine List.Nodup.map_on ?_ (List.nodup_dedup _)
    intro purpose hpurpose other hother hkey
    exact Purpose.key_inj (feature_mem_of_mem_due hpurpose) (feature_mem_of_mem_due hother) hkey
  refine (List.perm_ext_iff_of_nodup state.outside.distinct hdue).2 ?_
  intro key
  change key ∈ state.outside.keys ↔ _
  rw [Store.mem_keys_iff, List.mem_map]
  constructor
  · intro hne
    obtain ⟨doc, hdoc⟩ := Option.ne_none_iff_exists'.1 hne
    obtain ⟨purpose, hpurpose, hkey, _⟩ := h.sound key doc hdoc
    exact ⟨purpose, hpurpose, hkey⟩
  · rintro ⟨purpose, hpurpose, rfl⟩
    exact Option.isSome_iff_ne_none.1 (h.complete purpose hpurpose)

theorem exists_saidBy {purpose : Purpose} (hpurpose : purpose ∈ due requests) :
    ∃ doc, state.outside.find? (purpose.key kind) = some doc ∧ purpose.SaidBy doc := by
  obtain ⟨doc, hdoc⟩ := Option.isSome_iff_exists.1 (h.complete purpose hpurpose)
  obtain ⟨other, hother, hkey, hsaid⟩ := h.sound _ doc hdoc
  obtain rfl := Purpose.key_inj (feature_mem_of_mem_due hother) (feature_mem_of_mem_due hpurpose)
    hkey
  exact ⟨doc, hdoc, hsaid⟩

end Booked

theorem booked_afterCalls (requests : List Request) :
    Booked kind requests (afterCalls kind collector requests) := by
  induction requests using List.reverseRecOn with
  | nil => exact booked_start
  | append_singleton requests request ih =>
    rw [afterCalls, List.foldl_append]
    exact ih.step

end Calls

/-- The requests are those of the run so far, and the request is any that may come next. -/
theorem builtin_scheduled_exactly_once (kind : ResourceKind)
    (collector : Task → Except ProviderError Unit) (requests : List Request) :
    let state := afterCalls kind collector requests
    (∀ request : Request, ¬ request.Builtin →
      manage kind collector state request =
        (.error (.providerNotFound .feature request.slot), state)) ∧
    (∀ request : Request, request.Builtin →
      (manage kind collector state request).1 =
        .ok (decide (request.purpose ∉ requests.map Request.purpose))) ∧
    state.outside.keys.Perm ((due requests).map (Purpose.key kind)) ∧
    ∀ purpose ∈ due requests, ∃ doc,
      state.outside.find? (purpose.key kind) = some doc ∧ purpose.SaidBy doc := by
  intro state
  have hbooked : Booked kind requests state := booked_afterCalls requests
  exact ⟨fun _ hrequest => manage_of_unknown hbooked.toShares hrequest,
    fun _ hrequest => hbooked.manage_fst hrequest, hbooked.keys_perm,
    fun _ hpurpose => hbooked.exists_saidBy hpurpose⟩

end Scheduling
end EtcdFleet
