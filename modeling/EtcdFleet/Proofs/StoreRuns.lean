import EtcdFleet.Proofs.ResourceNames

set_option autoImplicit false

/-!
# Runs of calls on a store

Any sequence of calls on a store that is empty at first, insertions among them. Whatever the documents are, each
stays under the name that it carries; a call that fails changes nothing, and one that writes changes one key. What
a creation or an update returns is what was sent under the next version, and it is there until the key is written
again.
-/

namespace EtcdFleet

def ResourceKey.Differs (key other : ResourceKey) : Prop :=
  key.kind.group ≠ other.kind.group ∨ key.kind.version ≠ other.kind.version ∨
    key.kind.kind ≠ other.kind.kind ∨ key.kind.plural ≠ other.kind.plural ∨
    key.namespace ≠ other.namespace ∨ key.name ≠ other.name

theorem ResourceKey.Differs.ne {key other : ResourceKey} (h : key.Differs other) : key ≠ other := by
  rintro rfl
  simp [ResourceKey.Differs] at h

namespace Store

inductive Step
  | insert (kind : ResourceKind) («namespace» : String) (doc : Document)
  | call (call : StoreCall)

namespace Step

def sent? : Step → Option (ResourceKind × String × Document)
  | insert kind «namespace» doc | call (.create kind «namespace» doc)
  | call (.update kind «namespace» doc) => some (kind, «namespace», doc)
  | call (.get ..) => none

def target? (step : Step) : Option ResourceKey :=
  step.sent?.bind fun (kind, «namespace», doc) =>
    doc.resourceName.toOption.map (⟨kind, «namespace», ·⟩)

theorem target?_of_sent {step : Step} {kind : ResourceKind} {«namespace» name : String}
    {doc : Document} (hsent : step.sent? = some (kind, «namespace», doc))
    (hname : doc.resourceName = .ok name) : step.target? = some ⟨kind, «namespace», name⟩ := by
  rw [target?, hsent, Option.bind_some]
  simp only [hname]
  rfl

end Step

/-- An insertion returns no document. -/
def perform (store : Store) : Step → Except ProviderError (Option Document) × Store
  | .insert kind «namespace» doc =>
    match store.insert kind «namespace» doc with
    | .ok after => (.ok none, after)
    | .error failure => (.error failure, store)
  | .call call => ((store.answer call).1.map some, (store.answer call).2)

def afterSteps (store : Store) (steps : List Step) : Store :=
  steps.foldl (fun store step => (store.perform step).2) store

/-- No step writes the key with success. -/
def Spared (key : ResourceKey) : Store → List Step → Prop
  | _, [] => True
  | store, step :: rest =>
    ((store.perform step).1.isOk → step.target? ≠ some key) ∧ Spared key (store.perform step).2 rest

/-- The document with that version in its metadata, and nothing else changed. -/
structure Versioned (doc : Document) (version : Nat) (written : Document) : Prop where
  form : ∃ members metadata, doc = .object members ∧
    Entries.find? "metadata" members = some (.object metadata) ∧
    written = .object (Entries.insert "metadata" (.object
      (Entries.insert "resourceVersion" (.text (Text.decimal version)) metadata)) members)
  version : written.getText? Document.versionPath = .ok (some (Text.decimal version))
  elsewhere : ∀ path, Path.Apart Document.versionPath path → written.get? path = doc.get? path

variable {store after : Store} {key : ResourceKey} {kind : ResourceKind} {«namespace» : String}
  {doc written : Document} {step : Step}

theorem versioned_of_withVersion {name : String} {version : Nat} (hname : doc.resourceName = .ok name)
    (h : doc.withVersion version = .ok written) : Versioned doc version written := by
  obtain ⟨⟨members, metadata, rfl, hmetadata, _⟩, _⟩ :=
    Document.resourceName_eq_ok_iff_carries.1 hname
  refine ⟨⟨members, metadata, rfl, hmetadata, ?_⟩, Document.getText?_withVersion h,
    fun path hapart => Document.get?_withVersion_of_apart hapart h⟩
  obtain ⟨_, child, hmembers, hchild, rfl⟩ :=
    Document.assign?_cons_eq_ok_iff.1 (Document.put_eq_ok_iff.1 h)
  obtain rfl := Option.some.inj hmembers
  rw [Document.childOr, hmetadata] at hchild
  obtain ⟨_, value, hinner, hvalue, rfl⟩ := Document.assign?_cons_eq_ok_iff.1 hchild
  obtain rfl := Option.some.inj hinner
  obtain rfl := Except.ok.inj hvalue
  rfl

/-! ## One step -/

def Writes (store : Store) (step : Step) (key : ResourceKey) (held : Document) : Prop :=
  step.target? = some key ∧ held.resourceName = .ok key.name ∧
    (∃ result, (store.perform step).1 = .ok result) ∧ (store.perform step).2 = store.put key held

/-- A step fails, reads or writes at one key, and nothing is changed but by a write. -/
theorem perform_cases (store : Store) (step : Step) :
    (step.sent? = none ∨ ∃ failure, (store.perform step).1 = .error failure) ∧
        (store.perform step).2 = store ∨
      ∃ key held, Writes store step key held := by
  cases step with
  | insert kind «namespace» doc =>
    rw [perform]
    cases h : store.insert kind «namespace» doc with
    | error failure => exact .inl ⟨.inr ⟨failure, rfl⟩, rfl⟩
    | ok after =>
      obtain ⟨name, hname, rfl⟩ := insert_eq_ok_iff.1 h
      refine .inr ⟨_, doc, Step.target?_of_sent rfl hname, hname, ?_⟩
      rw [perform, h]
      exact ⟨⟨none, rfl⟩, rfl⟩
  | call call =>
    cases call with
    | get kind «namespace» name => exact .inl ⟨.inl rfl, rfl⟩
    | create kind «namespace» doc =>
      cases h : store.create kind «namespace» doc with
      | error failure =>
        refine .inl ⟨.inr ⟨failure, ?_⟩, ?_⟩ <;> rw [perform, answer, h] <;> rfl
      | ok result =>
        obtain ⟨written, after⟩ := result
        obtain ⟨name, hname, _, hwritten, rfl⟩ := create_eq_ok_iff.1 h
        refine .inr ⟨_, written, Step.target?_of_sent rfl hname,
          (Document.resourceName_withVersion hwritten).trans hname, ?_⟩
        rw [perform, answer, h]
        exact ⟨⟨some written, rfl⟩, rfl⟩
    | update kind «namespace» doc =>
      cases h : store.update kind «namespace» doc with
      | error failure =>
        refine .inl ⟨.inr ⟨failure, ?_⟩, ?_⟩ <;> rw [perform, answer, h] <;> rfl
      | ok result =>
        obtain ⟨written, after⟩ := result
        obtain ⟨name, _, _, hname, _, _, _, hwritten, rfl⟩ := update_eq_ok_iff.1 h
        refine .inr ⟨_, written, Step.target?_of_sent rfl hname,
          (Document.resourceName_withVersion hwritten).trans hname, ?_⟩
        rw [perform, answer, h]
        exact ⟨⟨some written, rfl⟩, rfl⟩

theorem WellNamed.perform (h : WellNamed store) (step : Step) : WellNamed (store.perform step).2 := by
  rcases perform_cases store step with ⟨_, hsame⟩ | ⟨key, held, _, hname, _, hafter⟩
  · rw [hsame]
    exact h
  · rw [hafter]
    exact h.put hname

theorem perform_of_error {failure : ProviderError} (h : (store.perform step).1 = .error failure) :
    (store.perform step).2 = store := by
  rcases perform_cases store step with ⟨_, hsame⟩ | ⟨_, _, _, _, ⟨result, hok⟩, _⟩
  · exact hsame
  · rw [hok] at h
    cases h

theorem find?_perform_of_spared (h : (store.perform step).1.isOk → step.target? ≠ some key) :
    (store.perform step).2.find? key = store.find? key := by
  rcases perform_cases store step with ⟨_, hsame⟩ | ⟨other, held, htarget, _, ⟨result, hok⟩, hafter⟩
  · rw [hsame]
  · have hother : key ≠ other := by
      rintro rfl
      exact h (by rw [hok]; rfl) htarget
    rw [hafter, find?_put_of_ne _ _ hother]

/-! ## What is written -/

theorem perform_insert {result : Option Document}
    (h : store.perform (.insert kind «namespace» doc) = (.ok result, after)) :
    ∃ name, doc.resourceName = .ok name ∧ after.find? ⟨kind, «namespace», name⟩ = some doc := by
  rw [perform] at h
  cases hinsert : store.insert kind «namespace» doc with
  | error failure =>
    rw [hinsert] at h
    cases h
  | ok left =>
    rw [hinsert] at h
    obtain ⟨_, rfl⟩ := Prod.mk.inj h
    obtain ⟨name, hname, rfl⟩ := insert_eq_ok_iff.1 hinsert
    exact ⟨name, hname, find?_put_self _ _ _⟩

theorem perform_call_eq_ok {call : StoreCall} {result : Except ProviderError (Document × Store)}
    (hanswer : store.answer call = store.written result)
    (h : store.perform (.call call) = (.ok (some written), after)) : result = .ok (written, after) := by
  rw [perform, hanswer] at h
  cases result with
  | error failure => cases h
  | ok pair =>
    obtain ⟨hwritten, rfl⟩ := Prod.mk.inj h
    obtain rfl := Option.some.inj (Except.ok.inj hwritten)
    rfl

theorem perform_create (h : store.perform (.call (.create kind «namespace» doc)) =
      (.ok (some written), after)) :
    ∃ name, doc.resourceName = .ok name ∧ Versioned doc 1 written ∧
      after.find? ⟨kind, «namespace», name⟩ = some written := by
  obtain ⟨name, hname, _, hwritten, rfl⟩ := create_eq_ok_iff.1 (perform_call_eq_ok rfl h)
  exact ⟨name, hname, versioned_of_withVersion hname hwritten, find?_put_self _ _ _⟩

theorem perform_update (h : store.perform (.call (.update kind «namespace» doc)) =
      (.ok (some written), after)) :
    ∃ name existing current, doc.resourceName = .ok name ∧
      store.find? ⟨kind, «namespace», name⟩ = some existing ∧ existing.storedVersion = .ok current ∧
      Versioned doc (current + 1) written ∧
      after.find? ⟨kind, «namespace», name⟩ = some written := by
  obtain ⟨name, existing, current, hname, hexisting, hcurrent, _, hwritten, rfl⟩ :=
    update_eq_ok_iff.1 (perform_call_eq_ok rfl h)
  exact ⟨name, existing, current, hname, hexisting, hcurrent,
    versioned_of_withVersion hname hwritten, find?_put_self _ _ _⟩

/-- A creation fails for the name or because the key is taken, and for nothing else. -/
theorem perform_create_eq_error_iff {failure : ProviderError} :
    (store.perform (.call (.create kind «namespace» doc))).1 = .error failure ↔
      doc.resourceName = .error failure ∨
      ∃ name held, doc.resourceName = .ok name ∧ store.find? ⟨kind, «namespace», name⟩ = some held ∧
        failure = .alreadyExists kind.kind name «namespace» := by
  rw [perform, answer]
  cases hname : doc.resourceName with
  | error fault =>
    rw [create, hname, error_bind]
    simp [Store.written, Except.map]
  | ok name =>
    cases hheld : store.find? ⟨kind, «namespace», name⟩ with
    | some held =>
      rw [create_of_taken hname hheld]
      simp [Store.written, Except.map, hheld, eq_comm]
    | none =>
      obtain ⟨written, hwritten⟩ := Document.exists_withVersion hname 1
      rw [create_eq_ok_iff.2 ⟨name, hname, hheld, hwritten, rfl⟩]
      simp [Store.written, Except.map, hheld]

theorem perform_update_of_current {name : String} {existing : Document} {current : Nat}
    (hname : doc.resourceName = .ok name)
    (hexisting : store.find? ⟨kind, «namespace», name⟩ = some existing)
    (hcurrent : existing.storedVersion = .ok current)
    (hrequested : doc.getText? Document.versionPath = .ok none ∨
      doc.getText? Document.versionPath = .ok (some (Text.decimal current))) :
    ∃ written, (store.perform (.call (.update kind «namespace» doc))).1 = .ok (some written) := by
  obtain ⟨written, hwritten⟩ := Document.exists_withVersion hname (current + 1)
  refine ⟨written, ?_⟩
  rw [perform, answer, update_of_current hname hexisting hcurrent hrequested hwritten]
  rfl

/-! ## Whole runs -/

theorem WellNamed.afterSteps (h : WellNamed store) (steps : List Step) :
    WellNamed (store.afterSteps steps) := by
  induction steps generalizing store with
  | nil => exact h
  | cons step rest ih => exact ih (h.perform step)

theorem find?_afterSteps_of_spared {steps : List Step} (h : Spared key store steps) :
    (store.afterSteps steps).find? key = store.find? key := by
  induction steps generalizing store with
  | nil => rfl
  | cons step rest ih =>
    obtain ⟨hstep, hrest⟩ := h
    calc ((store.perform step).2.afterSteps rest).find? key
        = (store.perform step).2.find? key := ih hrest
      _ = store.find? key := find?_perform_of_spared hstep

/-- The document is what a get returns until the key is written again. -/
def Lasts (store : Store) (key : ResourceKey) (doc : Document) : Prop :=
  ∀ later, Spared key store later → (store.afterSteps later).get key = .ok doc

theorem lasts_of_find? (h : store.find? key = some doc) : Lasts store key doc := by
  intro later hspared
  exact get_eq_ok_iff.2 ((find?_afterSteps_of_spared hspared).trans h)

theorem exists_written_name {result : Option Document}
    (hsent : step.sent? = some (kind, «namespace», doc))
    (hresult : (store.perform step).1 = .ok result) :
    ∃ name, doc.Carries name ∧ name ≠ "" ∧ ∀ other : ResourceKey,
      other.Differs ⟨kind, «namespace», name⟩ →
        (store.perform step).2.find? other = store.find? other := by
  rcases perform_cases store step with ⟨hnone | ⟨failure, hfailed⟩, _⟩ | ⟨key, held, htarget, _⟩
  · rw [hsent] at hnone
    cases hnone
  · rw [hresult] at hfailed
    cases hfailed
  · cases hname : doc.resourceName with
    | error failure =>
      rw [Step.target?, hsent, Option.bind_some] at htarget
      simp only [hname] at htarget
      cases htarget
    | ok name =>
      obtain ⟨hcarries, hne⟩ := Document.resourceName_eq_ok_iff_carries.1 hname
      refine ⟨name, hcarries, hne, fun other hdiffers => find?_perform_of_spared fun _ hother => ?_⟩
      rw [Step.target?_of_sent hsent hname] at hother
      exact hdiffers.ne (Option.some.inj hother).symm

/-- After any steps: what is stored, what the next step changes, and how long its result stays. -/
theorem steps_keep_names_and_are_atomic (before : List Step) :
    let store := empty.afterSteps before
    (∀ key held, store.find? key = some held → held.Carries key.name ∧ key.name ≠ "") ∧
    (∀ step failure, (store.perform step).1 = .error failure → (store.perform step).2 = store) ∧
    (∀ kind «namespace» name, (store.perform (.call (.get kind «namespace» name))).2 = store) ∧
    (∀ step kind «namespace» doc result, step.sent? = some (kind, «namespace», doc) →
      (store.perform step).1 = .ok result → ∃ name, doc.Carries name ∧ name ≠ "" ∧
        ∀ other : ResourceKey, other.Differs ⟨kind, «namespace», name⟩ →
          (store.perform step).2.find? other = store.find? other) ∧
    (∀ kind «namespace» doc result after,
      store.perform (.insert kind «namespace» doc) = (.ok result, after) →
      ∃ name, doc.Carries name ∧ Lasts after ⟨kind, «namespace», name⟩ doc) ∧
    (∀ kind «namespace» doc written after,
      store.perform (.call (.create kind «namespace» doc)) = (.ok (some written), after) →
      ∃ name, doc.Carries name ∧ Versioned doc 1 written ∧
        Lasts after ⟨kind, «namespace», name⟩ written) ∧
    (∀ kind «namespace» doc written after,
      store.perform (.call (.update kind «namespace» doc)) = (.ok (some written), after) →
      ∃ name existing current, doc.Carries name ∧
        store.find? ⟨kind, «namespace», name⟩ = some existing ∧
        existing.storedVersion = .ok current ∧ Versioned doc (current + 1) written ∧
        Lasts after ⟨kind, «namespace», name⟩ written) ∧
    (∀ kind «namespace» doc failure,
      (store.perform (.call (.create kind «namespace» doc))).1 = .error failure ↔
        (doc.resourceName = .error failure ∧ ∃ path expected, failure = .malformed path expected) ∨
        ∃ name held, doc.resourceName = .ok name ∧
          store.find? ⟨kind, «namespace», name⟩ = some held ∧
          failure = .alreadyExists kind.kind name «namespace») ∧
    (∀ kind «namespace» doc name existing current, doc.resourceName = .ok name →
      store.find? ⟨kind, «namespace», name⟩ = some existing → existing.storedVersion = .ok current →
      (doc.getText? Document.versionPath = .ok none ∨
        doc.getText? Document.versionPath = .ok (some (Text.decimal current))) →
      ∃ written, (store.perform (.call (.update kind «namespace» doc))).1 = .ok (some written)) := by
  intro store
  have hnamed : WellNamed store := wellNamed_empty.afterSteps before
  refine ⟨fun key held hheld => Document.resourceName_eq_ok_iff_carries.1 (hnamed key held hheld),
    fun step failure => perform_of_error, fun _ _ _ => rfl,
    fun step kind «namespace» doc result => exists_written_name, ?_, ?_, ?_, ?_,
    fun kind «namespace» doc name existing current => perform_update_of_current⟩
  · intro kind «namespace» doc result after hinsert
    obtain ⟨name, hname, hheld⟩ := perform_insert hinsert
    exact ⟨name, (Document.resourceName_eq_ok_iff_carries.1 hname).1, lasts_of_find? hheld⟩
  · intro kind «namespace» doc written after hcreate
    obtain ⟨name, hname, hversioned, hheld⟩ := perform_create hcreate
    exact ⟨name, (Document.resourceName_eq_ok_iff_carries.1 hname).1, hversioned,
      lasts_of_find? hheld⟩
  · intro kind «namespace» doc written after hupdate
    obtain ⟨name, existing, current, hname, hexisting, hcurrent, hversioned, hheld⟩ :=
      perform_update hupdate
    exact ⟨name, existing, current, (Document.resourceName_eq_ok_iff_carries.1 hname).1, hexisting,
      hcurrent, hversioned, lasts_of_find? hheld⟩
  · intro kind «namespace» doc failure
    rw [perform_create_eq_error_iff]
    refine or_congr_left ⟨fun hname => ⟨hname, ?_⟩, fun h => h.1⟩
    obtain ⟨path, expected, _, hmalformed⟩ := Document.exists_malformed_of_resourceName hname
    exact ⟨path, expected, hmalformed⟩

end Store
end EtcdFleet
