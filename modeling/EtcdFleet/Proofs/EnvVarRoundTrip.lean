import EtcdFleet.Cluster.EnvVar

set_option autoImplicit false

/-!
# Environment variables are read back as they were written

A record leaves out the fields that are absent, and a reader takes a member that is left out for an absent
one. So each optional part comes back through as many levels as it was nested in, and a list of variables
comes back in its order.
-/

namespace EtcdFleet

namespace Document

/-! ## Members of a written record -/

variable {α : Type}

def presentFields (fields : List (String × Option Document)) : List (String × Document) :=
  fields.filterMap fun field => field.2.map (field.1, ·)

theorem find?_presentFields_of_not_mem {name : String} {fields : List (String × Option Document)}
    (h : name ∉ fields.map (·.1)) : Entries.find? name (presentFields fields) = none := by
  induction fields with
  | nil => rfl
  | cons field rest ih =>
    obtain ⟨key, value⟩ := field
    simp only [List.map_cons, List.mem_cons, not_or] at h
    cases value with
    | none => exact ih h.2
    | some doc =>
      change Entries.find? name ((key, doc) :: presentFields rest) = none
      rw [Entries.find?, if_neg (Ne.symm h.1), ih h.2]

theorem find?_presentFields (name : String) {fields : List (String × Option Document)}
    (hdistinct : (fields.map (·.1)).Nodup) :
    Entries.find? name (presentFields fields) = (Entries.find? name fields).join := by
  induction fields with
  | nil => rfl
  | cons field rest ih =>
    obtain ⟨key, value⟩ := field
    obtain ⟨hnew, hrest⟩ := List.nodup_cons.1 hdistinct
    by_cases hk : key = name
    · subst hk
      cases value with
      | none =>
        change Entries.find? key (presentFields rest) = _
        rw [find?_presentFields_of_not_mem hnew, Entries.find?, if_pos rfl]
        rfl
      | some doc => simp [presentFields, Entries.find?]
    · rw [Entries.find?, if_neg hk, ← ih hrest]
      cases value with
      | none => rfl
      | some doc =>
        change Entries.find? name ((key, doc) :: presentFields rest) = _
        rw [Entries.find?, if_neg hk]

/-- An optional member of a record that was written by `write` and is read by `read`. -/
theorem member?_presentFields {fields : List (String × Option Document)}
    (hdistinct : (fields.map (·.1)).Nodup) {name : String} {value : Option α}
    (write : α → Document) {read : Document → Option α}
    (hread : ∀ v, read (write v) = some v) (hnull : ∀ v, (write v).isNull = false)
    (hfield : Entries.find? name fields = some (value.map write)) :
    member? (presentFields fields) name read = some value := by
  rw [member?, Fields.optional, Fields.orDefault, Fields.item?, find?_presentFields name hdistinct,
    hfield]
  cases value with
  | none => rfl
  | some v =>
    have hv := hnull v
    change Fields.orNull read (write v) = _
    cases hw : write v with
    | null => rw [hw] at hv; cases hv
    | _ => simp [Fields.orNull, ← hw, hread]

theorem plainText?_presentFields {fields : List (String × Option Document)}
    (hdistinct : (fields.map (·.1)).Nodup) {name text : String}
    (hfield : Entries.find? name fields = some (some (.text text))) :
    plainText? (presentFields fields) name = some text := by
  have hmember : member? (presentFields fields) name text? = some (some text) :=
    member?_presentFields hdistinct .text (fun _ => rfl) (fun _ => rfl) hfield
  rw [plainText?, hmember]
  rfl

theorem mapM_map_of_read {β : Type} {write : α → β} {read : β → Option α}
    (hread : ∀ v, read (write v) = some v) (values : List α) :
    (values.map write).mapM read = some values := by
  induction values with
  | nil => rfl
  | cons value rest ih => simp [List.mapM_cons, hread, ih]

end Document

open Document

theorem KeySelector.ofDocument?_toDocument (selector : KeySelector) :
    KeySelector.ofDocument? selector.toDocument = some selector := by
  let fields : List (String × Option Document) :=
    [("key", some (.text selector.key)), ("name", some (.text selector.name)),
      ("optional", selector.isOptional.map .bool)]
  have hdistinct : (fields.map (·.1)).Nodup := by simp [fields]
  have hobject : selector.toDocument.object? = some (presentFields fields) := rfl
  have hkey : plainText? (presentFields fields) "key" = some selector.key :=
    plainText?_presentFields hdistinct rfl
  have hname : plainText? (presentFields fields) "name" = some selector.name :=
    plainText?_presentFields hdistinct rfl
  have hoptional : member? (presentFields fields) "optional" bool? = some selector.isOptional :=
    member?_presentFields hdistinct .bool (fun _ => rfl) (fun _ => rfl) rfl
  simp [KeySelector.ofDocument?, hobject, hkey, hname, hoptional]

theorem FieldSelector.ofDocument?_toDocument (selector : FieldSelector) :
    FieldSelector.ofDocument? selector.toDocument = some selector := by
  let fields : List (String × Option Document) :=
    [("apiVersion", selector.apiVersion.map .text),
      ("fieldPath", some (.text selector.fieldPath))]
  have hdistinct : (fields.map (·.1)).Nodup := by simp [fields]
  have hobject : selector.toDocument.object? = some (presentFields fields) := rfl
  have hversion : member? (presentFields fields) "apiVersion" text? = some selector.apiVersion :=
    member?_presentFields hdistinct .text (fun _ => rfl) (fun _ => rfl) rfl
  have hpath : plainText? (presentFields fields) "fieldPath" = some selector.fieldPath :=
    plainText?_presentFields hdistinct rfl
  simp [FieldSelector.ofDocument?, hobject, hversion, hpath]

theorem ResourceSelector.ofDocument?_toDocument (selector : ResourceSelector) :
    ResourceSelector.ofDocument? selector.toDocument = some selector := by
  let fields : List (String × Option Document) :=
    [("containerName", selector.containerName.map .text),
      ("divisor", selector.divisor.map .text), ("resource", some (.text selector.resource))]
  have hdistinct : (fields.map (·.1)).Nodup := by simp [fields]
  have hobject : selector.toDocument.object? = some (presentFields fields) := rfl
  have hcontainer : member? (presentFields fields) "containerName" text? =
      some selector.containerName :=
    member?_presentFields hdistinct .text (fun _ => rfl) (fun _ => rfl) rfl
  have hdivisor : member? (presentFields fields) "divisor" text? = some selector.divisor :=
    member?_presentFields hdistinct .text (fun _ => rfl) (fun _ => rfl) rfl
  have hresource : plainText? (presentFields fields) "resource" = some selector.resource :=
    plainText?_presentFields hdistinct rfl
  simp [ResourceSelector.ofDocument?, hobject, hcontainer, hdivisor, hresource]

theorem EnvSource.ofDocument?_toDocument (source : EnvSource) :
    EnvSource.ofDocument? source.toDocument = some source := by
  let fields : List (String × Option Document) :=
    [("configMapKeyRef", source.configMapKey.map KeySelector.toDocument),
      ("fieldRef", source.field.map FieldSelector.toDocument),
      ("resourceFieldRef", source.resourceField.map ResourceSelector.toDocument),
      ("secretKeyRef", source.secretKey.map KeySelector.toDocument)]
  have hdistinct : (fields.map (·.1)).Nodup := by simp [fields]
  have hobject : source.toDocument.object? = some (presentFields fields) := rfl
  have hconfig : member? (presentFields fields) "configMapKeyRef" KeySelector.ofDocument? =
      some source.configMapKey :=
    member?_presentFields hdistinct _ KeySelector.ofDocument?_toDocument (fun _ => rfl) rfl
  have hfield : member? (presentFields fields) "fieldRef" FieldSelector.ofDocument? =
      some source.field :=
    member?_presentFields hdistinct _ FieldSelector.ofDocument?_toDocument (fun _ => rfl) rfl
  have hresource : member? (presentFields fields) "resourceFieldRef"
      ResourceSelector.ofDocument? = some source.resourceField :=
    member?_presentFields hdistinct _ ResourceSelector.ofDocument?_toDocument (fun _ => rfl) rfl
  have hsecret : member? (presentFields fields) "secretKeyRef" KeySelector.ofDocument? =
      some source.secretKey :=
    member?_presentFields hdistinct _ KeySelector.ofDocument?_toDocument (fun _ => rfl) rfl
  simp [EnvSource.ofDocument?, hobject, hconfig, hfield, hresource, hsecret]

theorem EnvVar.ofDocument?_toDocument (envVar : EnvVar) :
    EnvVar.ofDocument? envVar.toDocument = some envVar := by
  let fields : List (String × Option Document) :=
    [("name", some (.text envVar.name)), ("value", envVar.value.map .text),
      ("valueFrom", envVar.source.map EnvSource.toDocument)]
  have hdistinct : (fields.map (·.1)).Nodup := by simp [fields]
  have hobject : envVar.toDocument.object? = some (presentFields fields) := rfl
  have hname : plainText? (presentFields fields) "name" = some envVar.name :=
    plainText?_presentFields hdistinct rfl
  have hvalue : member? (presentFields fields) "value" text? = some envVar.value :=
    member?_presentFields hdistinct .text (fun _ => rfl) (fun _ => rfl) rfl
  have hsource : member? (presentFields fields) "valueFrom" EnvSource.ofDocument? =
      some envVar.source :=
    member?_presentFields hdistinct _ EnvSource.ofDocument?_toDocument (fun _ => rfl) rfl
  simp [EnvVar.ofDocument?, hobject, hname, hvalue, hsource]

theorem EnvVar.mapM_ofDocument?_toDocument (list : List EnvVar) :
    (list.map EnvVar.toDocument).mapM EnvVar.ofDocument? = some list :=
  mapM_map_of_read EnvVar.ofDocument?_toDocument list

end EtcdFleet
