import EtcdFleet.Proofs.NameMaps
import EtcdFleet.Proofs.OperatedRuns

set_option autoImplicit false

/-!
# A creation is whole and can be repeated

An operated cluster is created exactly if its descriptor is usable. A creation that is refused changes
nothing. One that succeeds touches no document that was there, adds the resource if there was none, and
leaves the descriptor with what it found out in its annotations. None of these annotations is one that
decides about the transport or about the compared fields, so a second creation has nothing to add, and a
cluster that was just created is in sync.
-/

namespace EtcdFleet

/-! ## Usable descriptors -/

theorem firstRepeated?_eq_none_iff {seen names : List String} :
    firstRepeated? seen names = none ↔ names.Nodup ∧ ∀ name ∈ names, name ∉ seen := by
  induction names generalizing seen with
  | nil => simp [firstRepeated?]
  | cons name rest ih =>
    rw [firstRepeated?]
    by_cases hseen : name ∈ seen
    · rw [if_pos hseen]
      constructor
      · intro h
        cases h
      · rintro ⟨_, hnew⟩
        exact absurd hseen (hnew name List.mem_cons_self)
    · rw [if_neg hseen, ih, List.nodup_cons]
      constructor
      · rintro ⟨hrest, hnew⟩
        refine ⟨⟨fun hmem => hnew name hmem List.mem_cons_self, hrest⟩, ?_⟩
        intro other hother
        rcases List.mem_cons.1 hother with rfl | hmem
        · exact hseen
        · exact fun hold => hnew other hmem (List.mem_cons_of_mem _ hold)
      · rintro ⟨⟨hfirst, hrest⟩, hnew⟩
        refine ⟨hrest, fun other hmem hold => ?_⟩
        rcases List.mem_cons.1 hold with rfl | hseen
        · exact hfirst hmem
        · exact hnew other (List.mem_cons_of_mem _ hmem) hseen

namespace Cluster

variable {cluster : Cluster}

structure Usable (cluster : Cluster) : Prop where
  named : cluster.name ≠ ""
  placed : cluster.namespace ≠ ""
  manned : 1 ≤ cluster.spec.size.toNat
  distinct : (cluster.spec.env.map (·.name)).Nodup

theorem checked_eq_none_iff {α : Type} {condition : Prop} [Decidable condition] {defect : α}
    {others : Option α} :
    (if condition then some defect else others) = none ↔ ¬ condition ∧ others = none := by
  by_cases h : condition <;> simp [h]

theorem defect?_eq_none_iff : cluster.defect? = none ↔ cluster.Usable := by
  have hsize : ¬ cluster.spec.size = 0 ↔ 1 ≤ cluster.spec.size.toNat := by
    rw [← UInt32.toNat_inj]
    exact Nat.one_le_iff_ne_zero.symm
  have hvariables : (firstRepeated? [] (cluster.spec.env.map (·.name))).map
      (Defect.repeatedVariable · cluster.name) = none ↔
        (cluster.spec.env.map (·.name)).Nodup := by
    rw [Option.map_eq_none_iff, firstRepeated?_eq_none_iff]
    simp
  rw [defect?, checked_eq_none_iff, checked_eq_none_iff, checked_eq_none_iff, hvariables, hsize,
    String.isEmpty_iff, String.isEmpty_iff]
  constructor
  · rintro ⟨hname, hnamespace, hmembers, hdistinct⟩
    exact ⟨hname, hnamespace, hmembers, hdistinct⟩
  · rintro ⟨hname, hnamespace, hmembers, hdistinct⟩
    exact ⟨hname, hnamespace, hmembers, hdistinct⟩

theorem validate_eq_ok_iff : cluster.validate = .ok () ↔ cluster.Usable := by
  rw [← defect?_eq_none_iff, validate]
  cases cluster.defect? <;> simp

theorem validate_eq_error_iff {failure : ProviderError} :
    cluster.validate = .error failure ↔ ∃ defect, cluster.defect? = some defect ∧
      failure = .invalidDescriptor defect.toOperatorError := by
  rw [validate]
  cases cluster.defect? <;> simp [eq_comm]

/-! ## The annotations of a created cluster -/

variable {endpoints : EndpointSettings} {name value : String}

theorem annotation?_annotate (cluster : Cluster) (name value other : String) :
    (cluster.annotate name value).annotation? other =
      if name = other then some value else cluster.annotation? other :=
  NameMap.find?_insert cluster.metadata.annotations name other value

theorem securityMode_eq_tls_iff :
    cluster.securityMode = .tls ↔ cluster.annotation? Annotation.scheme = some "https" := by
  rw [securityMode, SecurityMode.ofAnnotations, annotation?]
  split <;> simp [*]

theorem securityMode_congr {other : Cluster}
    (h : cluster.annotation? Annotation.scheme = other.annotation? Annotation.scheme) :
    cluster.securityMode = other.securityMode := by
  have hfind : cluster.metadata.annotations.find? Annotation.scheme =
      other.metadata.annotations.find? Annotation.scheme := h
  rw [securityMode, securityMode, SecurityMode.ofAnnotations, SecurityMode.ofAnnotations, hfind]

/-- What a creation writes beside an annotation's name, if it writes there at all. -/
def foundOut? (cluster : Cluster) (endpoints : EndpointSettings) (name : String) : Option String :=
  if name = Annotation.importedAddress then some (cluster.clientAddress endpoints)
  else if name = Annotation.extensionClientUrls then some (cluster.extensionClientUrls endpoints)
  else if name = Annotation.certificateName ∧ cluster.securityMode = .tls then
    some cluster.certificateName
  else none

theorem annotation?_withAddresses (cluster : Cluster) (endpoints : EndpointSettings) (name : String) :
    (cluster.withAddresses endpoints).annotation? name =
      (cluster.foundOut? endpoints name).or (cluster.annotation? name) := by
  have hreached : ((cluster.annotate Annotation.importedAddress
        (cluster.clientAddress endpoints)).annotate
          Annotation.extensionClientUrls (cluster.extensionClientUrls endpoints)).annotation? name =
      if name = Annotation.importedAddress then some (cluster.clientAddress endpoints)
      else if name = Annotation.extensionClientUrls then some (cluster.extensionClientUrls endpoints)
      else cluster.annotation? name := by
    rw [annotation?_annotate, annotation?_annotate]
    by_cases himported : name = Annotation.importedAddress
    · subst himported
      rfl
    · simp only [eq_comm, himported, if_false]
  cases hmode : cluster.securityMode with
  | plain =>
    rw [withAddresses, hmode, foundOut?, hmode]
    dsimp only
    rw [hreached]
    grind
  | tls =>
    rw [withAddresses, hmode, foundOut?, hmode]
    dsimp only
    rw [annotation?_annotate, hreached]
    by_cases hcertificate : name = Annotation.certificateName
    · subst hcertificate
      rfl
    · grind

theorem securityMode_withAddresses (cluster : Cluster) (endpoints : EndpointSettings) :
    (cluster.withAddresses endpoints).securityMode = cluster.securityMode := by
  apply securityMode_congr
  rw [annotation?_withAddresses]
  rfl

theorem withAddresses_eq (cluster : Cluster) (endpoints : EndpointSettings) :
    cluster.withAddresses endpoints =
      { cluster with
        metadata.annotations := (cluster.withAddresses endpoints).metadata.annotations } := by
  rw [withAddresses]
  cases cluster.securityMode <;> rfl

theorem eq_of_annotations {other : Cluster}
    (h : cluster = { other with metadata.annotations := cluster.metadata.annotations })
    (hannotations : ∀ name, cluster.annotation? name = other.annotation? name) : cluster = other := by
  have hsame : cluster.metadata.annotations = other.metadata.annotations :=
    NameMap.ext_find? hannotations
  rw [h, hsame]

theorem foundOut?_withAddresses (cluster : Cluster) (endpoints : EndpointSettings) (name : String) :
    (cluster.withAddresses endpoints).foundOut? endpoints name = cluster.foundOut? endpoints name := by
  have hmode := securityMode_withAddresses cluster endpoints
  have hname : (cluster.withAddresses endpoints).name = cluster.name := by
    rw [withAddresses_eq]
    rfl
  have hnamespace : (cluster.withAddresses endpoints).namespace = cluster.namespace := by
    rw [withAddresses_eq]
    rfl
  have hspec : (cluster.withAddresses endpoints).spec = cluster.spec := by
    rw [withAddresses_eq]
  have hmapping : (cluster.withAddresses endpoints).memberMapping endpoints =
      cluster.memberMapping endpoints := by
    funext index
    simp only [memberMapping, memberAddress, memberServiceAddress, memberHost, hname, hnamespace]
  simp only [foundOut?, clientAddress, serviceHost, extensionClientUrls, certificateName, hname,
    hnamespace, hspec, hmode, hmapping]

theorem withAddresses_withAddresses (cluster : Cluster) (endpoints : EndpointSettings) :
    (cluster.withAddresses endpoints).withAddresses endpoints = cluster.withAddresses endpoints := by
  refine eq_of_annotations (withAddresses_eq _ endpoints) fun name => ?_
  rw [annotation?_withAddresses, foundOut?_withAddresses, annotation?_withAddresses]
  cases cluster.foundOut? endpoints name <;> rfl

end Cluster

/-! ## One creation -/

namespace Operated

open Remote (exec)

variable {settings : Settings} {cluster : Cluster} {store : Store}

/-- A creation for whoever holds the descriptor and the store: the descriptor that it ends with is held from
then on, and a failed one leaves the old. -/
def createHeld (settings : Settings) (cluster : Cluster) (store : Store) :
    Except ProviderError Unit × Cluster × Store :=
  match exec ((Strategy.operated settings).createCluster cluster) store with
  | (.ok renewed, after) => (.ok (), renewed, after)
  | (.error failure, after) => (.error failure, cluster, after)

theorem createHeld_of_invalid {failure : ProviderError} (h : cluster.validate = .error failure) :
    createHeld settings cluster store = (.error failure, cluster, store) := by
  rw [createHeld, exec_createCluster, establish_of_invalid h]
  rfl

theorem createHeld_of_taken {held : Document} (hvalid : cluster.validate = .ok ())
    (hheld : store.find? (key settings cluster) = some held) :
    createHeld settings cluster store =
      (.ok (), cluster.withAddresses settings.endpoints, store) := by
  rw [createHeld, exec_createCluster, establish_of_taken hvalid hheld]
  rfl

theorem createHeld_of_absent (hvalid : cluster.validate = .ok ())
    (habsent : store.find? (key settings cluster) = none) :
    ∃ written, revised cluster 1 (cluster.resource settings.clusterResource) = .ok written ∧
      createHeld settings cluster store = (.ok (), cluster.withAddresses settings.endpoints,
        store.put (key settings cluster) written) := by
  obtain ⟨written, hwritten, hestablish⟩ := establish_of_absent hvalid habsent
  refine ⟨written, hwritten, ?_⟩
  rw [createHeld, exec_createCluster, hestablish]
  rfl

structure FirstStored (settings : Settings) (cluster : Cluster) (written : Document) : Prop where
  resource : (cluster.resource settings.clusterResource).put Document.versionPath (.text "1") =
    .ok written
  version : written.getText? Document.versionPath = .ok (some "1")
  spec : written.get? specPath = .ok (some cluster.desiredSpec)

theorem firstStored_of_revised {written : Document}
    (h : revised cluster 1 (cluster.resource settings.clusterResource) = .ok written) :
    FirstStored settings cluster written :=
  ⟨(revised_resource cluster settings.clusterResource 1).symm.trans h, getText?_revised h,
    get?_revised_spec h⟩

theorem key_withAddresses (settings : Settings) (cluster : Cluster) (endpoints : EndpointSettings) :
    key settings (cluster.withAddresses endpoints) = key settings cluster := by
  rw [Cluster.withAddresses_eq]
  rfl

theorem usable_withAddresses (endpoints : EndpointSettings) (h : cluster.Usable) :
    (cluster.withAddresses endpoints).Usable := by
  rw [Cluster.withAddresses_eq]
  exact ⟨h.named, h.placed, h.manned, h.distinct⟩

theorem createHeld_again {held : Document} (hvalid : cluster.validate = .ok ())
    (hheld : store.find? (key settings cluster) = some held) :
    createHeld settings (cluster.withAddresses settings.endpoints) store =
      (.ok (), cluster.withAddresses settings.endpoints, store) := by
  have hagain : (cluster.withAddresses settings.endpoints).validate = .ok () :=
    Cluster.validate_eq_ok_iff.2
      (usable_withAddresses settings.endpoints (Cluster.validate_eq_ok_iff.1 hvalid))
  rw [createHeld_of_taken hagain ((congrArg store.find? (key_withAddresses _ _ _)).trans hheld),
    Cluster.withAddresses_withAddresses]

theorem inSync_of_firstStored {written : Document} (hwritten : FirstStored settings cluster written)
    (hheld : store.find? (key settings cluster) = some written) :
    exec (inSync settings (cluster.withAddresses settings.endpoints)) store = (.ok true, store) := by
  have hspec : (cluster.withAddresses settings.endpoints).spec = cluster.spec := by
    rw [Cluster.withAddresses_eq]
  have hdrift : storedDrift settings (cluster.withAddresses settings.endpoints) store = .ok none := by
    refine storedDrift_eq_ok_iff.2
      ⟨written, (congrArg store.find? (key_withAddresses _ _ _)).trans hheld, ?_⟩
    rw [driftFrom_of_desired hwritten.spec, hspec, firstDifference_self]
  rw [exec_inSync, hdrift]
  rfl

theorem createHeld_of_valid (settings : Settings) (store : Store) (hvalid : cluster.validate = .ok ()) :
    ∃ after held, createHeld settings cluster store =
        (.ok (), cluster.withAddresses settings.endpoints, after) ∧
      after.find? (key settings cluster) = some held ∧
      (∀ place doc, store.find? place = some doc → after.find? place = some doc) ∧
      (∀ place, place ≠ key settings cluster → after.find? place = store.find? place) ∧
      (store.find? (key settings cluster) = none → FirstStored settings cluster held) := by
  cases hheld : store.find? (key settings cluster) with
  | some held =>
    refine ⟨store, held, createHeld_of_taken hvalid hheld, hheld, fun _ _ hdoc => hdoc,
      fun _ _ => rfl, ?_⟩
    intro habsent
    cases habsent
  | none =>
    obtain ⟨written, hwritten, hcreated⟩ := createHeld_of_absent hvalid hheld
    have helsewhere : ∀ place, place ≠ key settings cluster →
        (store.put (key settings cluster) written).find? place = store.find? place :=
      fun place hplace => store.find?_put_of_ne written hplace
    refine ⟨_, written, hcreated, store.find?_put_self _ written, ?_, helsewhere,
      fun _ => firstStored_of_revised hwritten⟩
    intro place doc hdoc
    have hplace : place ≠ key settings cluster := by
      rintro rfl
      rw [hheld] at hdoc
      cases hdoc
    rw [helsewhere place hplace, hdoc]

theorem annotation?_renewed (cluster : Cluster) (endpoints : EndpointSettings) (name : String) :
    (cluster.withAddresses endpoints).annotation? name =
      if name = Annotation.importedAddress then some (cluster.clientAddress endpoints)
      else if name = Annotation.extensionClientUrls then some (cluster.extensionClientUrls endpoints)
      else if name = Annotation.certificateName ∧
          cluster.annotation? Annotation.scheme = some "https" then
        some cluster.certificateName
      else cluster.annotation? name := by
  rw [Cluster.annotation?_withAddresses, Cluster.foundOut?]
  simp only [Cluster.securityMode_eq_tls_iff]
  grind

/-- What a creation comes to, whatever the store holds. -/
theorem createHeld_idempotent_and_whole (settings : Settings) (cluster : Cluster) (store : Store) :
    let outcome := createHeld settings cluster store
    let renewed := outcome.2.1
    let after := outcome.2.2
    (outcome.1 = .ok () ↔ cluster.Usable) ∧
    (∀ failure, outcome.1 = .error failure →
      (∃ defect, cluster.defect? = some defect ∧
        failure = .invalidDescriptor defect.toOperatorError) ∧
      renewed = cluster ∧ after = store) ∧
    (outcome.1 = .ok () →
      (∀ place held, store.find? place = some held → after.find? place = some held) ∧
      (∀ place, place ≠ key settings cluster → after.find? place = store.find? place) ∧
      renewed = { cluster with metadata.annotations := renewed.metadata.annotations } ∧
      (∀ name, renewed.annotation? name =
        if name = Annotation.importedAddress then
          some (cluster.clientAddress settings.endpoints)
        else if name = Annotation.extensionClientUrls then
          some (cluster.extensionClientUrls settings.endpoints)
        else if name = Annotation.certificateName ∧
            cluster.annotation? Annotation.scheme = some "https" then
          some cluster.certificateName
        else cluster.annotation? name) ∧
      renewed.securityMode = cluster.securityMode ∧
      createHeld settings renewed after = (.ok (), renewed, after) ∧
      (store.find? (key settings cluster) = none →
        (∃ written, after.find? (key settings cluster) = some written ∧
          FirstStored settings cluster written) ∧
        exec ((Strategy.operated settings).inSync renewed) after = (.ok true, after))) := by
  intro outcome renewed after
  cases hvalid : cluster.validate with
  | error failure =>
    have houtcome : outcome = (.error failure, cluster, store) := createHeld_of_invalid hvalid
    have hunusable : ¬ cluster.Usable := by
      rw [← Cluster.validate_eq_ok_iff, hvalid]
      nofun
    refine ⟨?_, ?_, ?_⟩
    · simp only [houtcome, hunusable, reduceCtorEq]
    · intro found hfound
      rw [houtcome] at hfound
      obtain rfl := Except.error.inj hfound
      exact ⟨Cluster.validate_eq_error_iff.1 hvalid, congrArg (·.2.1) houtcome,
        congrArg (·.2.2) houtcome⟩
    · intro hok
      rw [houtcome] at hok
      cases hok
  | ok checked =>
    obtain ⟨left, held, hcreated, hheld, hkept, helsewhere, hfirst⟩ :=
      createHeld_of_valid settings store hvalid
    have hresult : outcome.1 = .ok () := congrArg (·.1) hcreated
    have hrenewed : renewed = cluster.withAddresses settings.endpoints := congrArg (·.2.1) hcreated
    have hafter : after = left := congrArg (·.2.2) hcreated
    rw [hrenewed, hafter]
    refine ⟨iff_of_true hresult (Cluster.validate_eq_ok_iff.1 hvalid), ?_, fun _ => ⟨hkept, helsewhere,
      Cluster.withAddresses_eq cluster settings.endpoints, annotation?_renewed cluster settings.endpoints,
      Cluster.securityMode_withAddresses cluster settings.endpoints, createHeld_again hvalid hheld, ?_⟩⟩
    · intro failure hfailure
      rw [hresult] at hfailure
      cases hfailure
    · intro habsent
      exact ⟨⟨held, hheld, hfirst habsent⟩, inSync_of_firstStored (hfirst habsent) hheld⟩

end Operated
end EtcdFleet
