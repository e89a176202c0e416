import Mathlib.Data.List.Induction
import EtcdFleet.Proofs.OperatedRuns

set_option autoImplicit false

/-!
# The lives of clusters

A run of creations, updates and deletions of operated clusters, on a store that is empty at first. What
was called and answered determines what is stored: a cluster is there from the first creation that
passed the check, with the spec of the last update that reported a change, and its version counts these
updates. What the next call answers is determined too.
-/

namespace EtcdFleet.Operated

open Remote (exec)

/-! ## Histories -/

inductive LifeCall
  | create (cluster : Cluster)
  | update (cluster : Cluster)
  | delete (cluster : Cluster)

inductive LifeAnswer
  | created (result : Except ProviderError Cluster)
  | updated (result : Except ProviderError Bool)
  | deleted (result : Except ProviderError Unit)

abbrev History := List (LifeCall × LifeAnswer)

namespace LifeCall

def perform (settings : Settings) (store : Store) : LifeCall → LifeAnswer × Store
  | create cluster =>
    let outcome := exec ((Strategy.operated settings).createCluster cluster) store
    (.created outcome.1, outcome.2)
  | update cluster =>
    let outcome := exec ((Strategy.operated settings).updateCluster cluster) store
    (.updated outcome.1, outcome.2)
  | delete cluster =>
    let outcome := exec ((Strategy.operated settings).deleteCluster cluster) store
    (.deleted outcome.1, outcome.2)

end LifeCall

def record (settings : Settings) (past : History × Store) (call : LifeCall) : History × Store :=
  let outcome := call.perform settings past.2
  (past.1 ++ [(call, outcome.1)], outcome.2)

/-- What the calls were answered, one after the other, and the store that is left. -/
def chronicle (settings : Settings) (calls : List LifeCall) : History × Store :=
  calls.foldl (record settings) ([], .empty)

def founding? (settings : Settings) (place : ResourceKey) : LifeCall × LifeAnswer → Option Cluster
  | (.create cluster, _) =>
    if key settings cluster = place ∧ cluster.validate.isOk then some cluster else none
  | _ => none

def revising? (settings : Settings) (place : ResourceKey) : LifeCall × LifeAnswer → Option Cluster
  | (.update cluster, .updated (.ok true)) =>
    if key settings cluster = place then some cluster else none
  | _ => none

/-- The descriptor of the first creation there that passed the check. -/
def founder? (settings : Settings) (place : ResourceKey) (history : History) : Option Cluster :=
  history.findSome? (founding? settings place)

/-- The descriptors of the updates there that reported a change. -/
def revisers (settings : Settings) (place : ResourceKey) (history : History) : List Cluster :=
  history.filterMap (revising? settings place)

def versionReached (settings : Settings) (place : ResourceKey) (history : History) : Nat :=
  1 + (revisers settings place history).length

/-- What a call answers after a history. -/
def LifeCall.expected (settings : Settings) (history : History) : LifeCall → LifeAnswer
  | create cluster =>
    .created (cluster.validate.map fun _ => cluster.withAddresses settings.endpoints)
  | update cluster =>
    let place := key settings cluster
    match founder? settings place history with
    | none => .updated (.error (Store.missing place))
    | some founder =>
      let latest := (revisers settings place history).getLastD founder
      if (firstDifference cluster.spec latest.spec).isNone then .updated (.ok false)
      else .updated (cluster.validate.map fun _ => true)
  | delete _ => .deleted (.ok ())

section Concat

variable {settings : Settings} {place : ResourceKey} {history : History}

theorem chronicle_concat (settings : Settings) (calls : List LifeCall) (call : LifeCall) :
    chronicle settings (calls ++ [call]) = record settings (chronicle settings calls) call := by
  rw [chronicle, List.foldl_append]
  rfl

theorem founder?_concat (entry : LifeCall × LifeAnswer) :
    founder? settings place (history ++ [entry]) =
      (founder? settings place history).or (founding? settings place entry) := by
  rw [founder?, List.findSome?_append]
  cases h : founding? settings place entry <;> simp [founder?, h]

theorem revisers_concat (entry : LifeCall × LifeAnswer) :
    revisers settings place (history ++ [entry]) =
      revisers settings place history ++ (revising? settings place entry).toList := by
  rw [revisers, List.filterMap_append]
  cases h : revising? settings place entry <;> simp [revisers, h]

theorem versionReached_le_concat (entry : LifeCall × LifeAnswer) :
    versionReached settings place history ≤ versionReached settings place (history ++ [entry]) := by
  rw [versionReached, versionReached, revisers_concat, List.length_append]
  omega

theorem versionReached_chronicle_le (calls : List LifeCall) :
    versionReached settings place (chronicle settings calls).1 ≤ 1 + calls.length := by
  have hlength : (chronicle settings calls).1.length = calls.length := by
    induction calls using List.reverseRecOn with
    | nil => rfl
    | append_singleton calls call ih =>
      rw [chronicle_concat, record, List.length_append, List.length_append, ih]
      rfl
  have hle := List.length_filterMap_le (revising? settings place) (chronicle settings calls).1
  rw [versionReached, revisers]
  omega

theorem founder?_isSome_iff :
    (founder? settings place history).isSome ↔ ∃ cluster answer,
      (LifeCall.create cluster, answer) ∈ history ∧ key settings cluster = place ∧
        cluster.validate = .ok () := by
  rw [founder?, List.findSome?_isSome_iff]
  constructor
  · rintro ⟨⟨call, answer⟩, hmem, h⟩
    cases call with
    | create cluster =>
      rw [founding?] at h
      split at h
      · rename_i hboth
        refine ⟨cluster, answer, hmem, hboth.1, ?_⟩
        cases hv : cluster.validate with
        | ok checked => rfl
        | error failure => rw [hv] at hboth; cases hboth.2
      · cases h
    | update cluster => cases h
    | delete cluster => cases h
  · rintro ⟨cluster, answer, hmem, hplace, hvalid⟩
    refine ⟨_, hmem, ?_⟩
    rw [founding?, if_pos ⟨hplace, by rw [hvalid]; rfl⟩]
    rfl

end Concat

/-! ## What the history of a place says of what is stored there -/

def Kept (settings : Settings) (revisers : List Cluster) (held : Option Document) :
    Option Cluster → Prop
  | none => held = none ∧ revisers = []
  | some founder => ∃ doc, held = some doc ∧
      revised (revisers.getLastD founder) (1 + revisers.length)
        (founder.resource settings.clusterResource) = .ok doc ∧
      (revisers.getLastD founder).validate = .ok ()

structure Recorded (settings : Settings) (history : History) (store : Store) : Prop where
  wellNamed : store.WellNamed
  kept : ∀ place, Kept settings (revisers settings place history) (store.find? place)
    (founder? settings place history)

section Step

variable {settings : Settings} {history : History} {store : Store} {cluster : Cluster}

theorem recorded_empty : Recorded settings [] .empty :=
  ⟨Store.wellNamed_empty, fun _ => ⟨rfl, rfl⟩⟩

theorem Recorded.concat_idle (h : Recorded settings history store) {entry : LifeCall × LifeAnswer}
    (hfounding : ∀ place, founding? settings place entry ≠ none →
      founder? settings place history ≠ none)
    (hrevising : ∀ place, revising? settings place entry = none) :
    Recorded settings (history ++ [entry]) store := by
  refine ⟨h.wellNamed, fun place => ?_⟩
  have hfounder : founder? settings place (history ++ [entry]) =
      founder? settings place history := by
    rw [founder?_concat]
    cases hf : founder? settings place history with
    | some founder => rfl
    | none =>
      have hnone : founding? settings place entry = none :=
        Decidable.byContradiction fun hne => hfounding place hne hf
      rw [hnone]
      rfl
  rw [hfounder, revisers_concat, hrevising place, Option.toList_none, List.append_nil]
  exact h.kept place

theorem Recorded.founder?_eq_none (h : Recorded settings history store) {place : ResourceKey}
    (habsent : store.find? place = none) :
    founder? settings place history = none ∧ revisers settings place history = [] := by
  have hkept := h.kept place
  cases hf : founder? settings place history with
  | none =>
    rw [hf] at hkept
    exact ⟨rfl, hkept.2⟩
  | some founder =>
    rw [hf] at hkept
    obtain ⟨doc, hdoc, _⟩ := hkept
    rw [habsent] at hdoc
    cases hdoc

theorem Recorded.exists_founder (h : Recorded settings history store) {place : ResourceKey}
    {doc : Document} (hdoc : store.find? place = some doc) :
    ∃ founder, founder? settings place history = some founder ∧
      revised ((revisers settings place history).getLastD founder)
        (versionReached settings place history)
        (founder.resource settings.clusterResource) = .ok doc := by
  have hkept := h.kept place
  cases hf : founder? settings place history with
  | none =>
    rw [hf] at hkept
    rw [hkept.1] at hdoc
    cases hdoc
  | some founder =>
    rw [hf] at hkept
    obtain ⟨stored, hstored, hrevised, _⟩ := hkept
    obtain rfl : doc = stored := Option.some.inj (hdoc.symm.trans hstored)
    exact ⟨founder, rfl, hrevised⟩

theorem Recorded.concat_put (h : Recorded settings history store) {entry : LifeCall × LifeAnswer}
    {place : ResourceKey} {written : Document} (hname : written.resourceName = .ok place.name)
    (helsewhere : ∀ other, other ≠ place →
      founding? settings other entry = none ∧ revising? settings other entry = none)
    (hhere : Kept settings
      (revisers settings place history ++ (revising? settings place entry).toList) (some written)
      ((founder? settings place history).or (founding? settings place entry))) :
    Recorded settings (history ++ [entry]) (store.put place written) := by
  refine ⟨h.wellNamed.put hname, fun other => ?_⟩
  rw [founder?_concat, revisers_concat]
  by_cases hother : other = place
  · subst hother
    rw [Store.find?_put_self]
    exact hhere
  · obtain ⟨hfounding, hrevising⟩ := helsewhere other hother
    rw [Store.find?_put_of_ne _ _ hother, hfounding, hrevising, Option.or_none, Option.toList_none,
      List.append_nil]
    exact h.kept other

theorem founding?_eq_none_of_ne {place : ResourceKey} {answer : LifeAnswer}
    (hplace : key settings cluster ≠ place) :
    founding? settings place (.create cluster, answer) = none := by
  rw [founding?, if_neg fun hboth => hplace hboth.1]

theorem revising?_eq_none_of_ne {place : ResourceKey} (hplace : key settings cluster ≠ place) :
    revising? settings place (.update cluster, .updated (.ok true)) = none := by
  rw [revising?, if_neg hplace]

theorem revising?_eq_none_of_result {place : ResourceKey} {result : Except ProviderError Bool}
    (h : result ≠ .ok true) :
    revising? settings place (.update cluster, .updated result) = none := by
  cases result with
  | error failure => rfl
  | ok changed =>
    cases changed with
    | false => rfl
    | true => exact absurd rfl h

/-- The answer is the expected one, and the store that is left fits the longer history. -/
def Accounted (settings : Settings) (history : History) (call : LifeCall)
    (outcome : LifeAnswer × Store) : Prop :=
  outcome.1 = call.expected settings history ∧
    Recorded settings (history ++ [(call, outcome.1)]) outcome.2

theorem accounted_create (h : Recorded settings history store) (cluster : Cluster) :
    Accounted settings history (.create cluster)
      ((LifeCall.create cluster).perform settings store) := by
  rw [LifeCall.perform, exec_createCluster]
  cases hv : cluster.validate with
  | error failure =>
    rw [establish_of_invalid hv]
    refine ⟨?_, h.concat_idle (fun place hne => absurd ?_ hne) fun _ => rfl⟩
    · rw [LifeCall.expected, hv]
      rfl
    · rw [founding?, hv, if_neg (by rintro ⟨_, hok⟩; cases hok)]
  | ok checked =>
    have hanswer : LifeAnswer.created (.ok (cluster.withAddresses settings.endpoints)) =
        (LifeCall.create cluster).expected settings history := by
      rw [LifeCall.expected, hv]
      rfl
    cases hheld : store.find? (key settings cluster) with
    | some held =>
      -- Not the first creation there: the founder stays, and so does the document.
      rw [establish_of_taken hv hheld]
      refine ⟨hanswer, h.concat_idle (fun place hne => ?_) fun _ => rfl⟩
      obtain ⟨founder, hfounder, _⟩ := h.exists_founder hheld
      have hplace : key settings cluster = place :=
        Decidable.byContradiction fun hother => hne (founding?_eq_none_of_ne hother)
      rw [← hplace, hfounder]
      exact Option.some_ne_none founder
    | none =>
      obtain ⟨written, hwritten, hestablish⟩ := establish_of_absent hv hheld
      obtain ⟨hfounder, hrevisers⟩ := h.founder?_eq_none hheld
      rw [hestablish]
      refine ⟨hanswer, h.concat_put ?_ (fun other hother =>
        ⟨founding?_eq_none_of_ne (Ne.symm hother), rfl⟩) ?_⟩
      · exact (resourceName_revised hwritten).trans
          (resourceName_resource cluster _ (name_ne_empty_of_validate hv))
      · rw [hfounder, hrevisers, founding?, if_pos ⟨rfl, by rw [hv]; rfl⟩]
        exact ⟨written, rfl, hwritten, hv⟩

theorem settle_of_absent (habsent : store.find? (key settings cluster) = none) :
    settle settings cluster store = .error (Store.missing (key settings cluster)) := by
  rw [settle, storedDrift, Store.get_eq_error_iff.2 ⟨habsent, rfl⟩]
  rfl

theorem settle_of_revised {latest : Cluster} {version : Nat} {base doc : Document}
    (hnamed : store.WellNamed) (hdoc : store.find? (key settings cluster) = some doc)
    (hrevised : revised latest version base = .ok doc) (hfits : version < UInt64.size) :
    (firstDifference cluster.spec latest.spec = none →
      settle settings cluster store = .ok (false, store)) ∧
    (∀ field, firstDifference cluster.spec latest.spec = some field →
      (∀ failure, cluster.validate = .error failure →
        settle settings cluster store = .error failure) ∧
      (cluster.validate = .ok () → ∃ written, revised cluster (version + 1) base = .ok written ∧
        settle settings cluster store =
          .ok (true, store.put (key settings cluster) written))) := by
  have hdrift : storedDrift settings cluster store =
      .ok (firstDifference cluster.spec latest.spec) :=
    storedDrift_eq_ok_iff.2 ⟨doc, hdoc, driftFrom_revised hrevised cluster⟩
  refine ⟨fun hsame => ?_, fun field hfield => ⟨fun failure hinvalid => ?_, fun hvalid => ?_⟩⟩
  · exact settle_eq_unchanged_iff.2 ⟨hdrift.trans (by rw [hsame]), rfl⟩
  · rw [settle, hdrift, hfield, ok_bind]
    change (cluster.validate >>= _) = _
    rw [hinvalid]
    rfl
  · obtain ⟨members, hmembers⟩ : ∃ members, latest.desiredSpec = .object members := ⟨_, rfl⟩
    have hspec := get?_revised_spec hrevised
    rw [hmembers] at hspec
    have hversion := getText?_revised hrevised
    obtain ⟨written, hwritten⟩ := exists_revised (hnamed _ _ hdoc) hspec cluster (version + 1)
    refine ⟨written, (revised_revised hrevised cluster _).symm.trans hwritten, ?_⟩
    refine (settle_eq_changed_iff hnamed).2 ⟨doc, members, field, version, written, hdoc, hspec, ?_,
      hvalid, Document.storedVersion_of_decimal hversion hfits, .inr hversion, hwritten, rfl⟩
    rw [← hmembers, Drift.detect_desiredSpec, hfield]

theorem expected_update {founder : Cluster}
    (h : founder? settings (key settings cluster) history = some founder) :
    (LifeCall.update cluster).expected settings history =
      if (firstDifference cluster.spec
        ((revisers settings (key settings cluster) history).getLastD founder).spec).isNone
      then .updated (.ok false) else .updated (cluster.validate.map fun _ => true) := by
  rw [LifeCall.expected]
  simp only [h]

theorem accounted_update (h : Recorded settings history store) (cluster : Cluster)
    (hfits : versionReached settings (key settings cluster) history < UInt64.size) :
    Accounted settings history (.update cluster)
      ((LifeCall.update cluster).perform settings store) := by
  rw [LifeCall.perform, exec_updateCluster]
  have hidle : ∀ result, result ≠ .ok true →
      Recorded settings (history ++ [(.update cluster, .updated result)]) store :=
    fun result hresult => h.concat_idle (fun place hne => absurd rfl hne) fun place =>
      revising?_eq_none_of_result hresult
  cases hheld : store.find? (key settings cluster) with
  | none =>
    rw [settle_of_absent hheld]
    refine ⟨?_, hidle _ (by rintro ⟨⟩)⟩
    rw [LifeCall.expected]
    simp only [(h.founder?_eq_none hheld).1]
    rfl
  | some doc =>
    obtain ⟨founder, hfounder, hrevised⟩ := h.exists_founder hheld
    obtain ⟨hsame, hother⟩ := settle_of_revised h.wellNamed hheld hrevised hfits
    have hexpected := expected_update hfounder
    cases hd : firstDifference cluster.spec
        ((revisers settings (key settings cluster) history).getLastD founder).spec with
    | none =>
      rw [hsame hd]
      refine ⟨?_, hidle _ (by rintro ⟨⟩)⟩
      rw [hexpected, hd]
      rfl
    | some field =>
      obtain ⟨hinvalid, hvalid⟩ := hother field hd
      cases hv : cluster.validate with
      | error failure =>
        rw [hinvalid failure hv]
        refine ⟨?_, hidle _ (by rintro ⟨⟩)⟩
        rw [hexpected, hd, hv]
        rfl
      | ok checked =>
        obtain ⟨written, hwritten, hsettle⟩ := hvalid hv
        rw [hsettle]
        change Accounted settings history _ (.updated (.ok true), store.put _ written)
        refine ⟨?_, h.concat_put ?_ (fun other hne =>
          ⟨rfl, revising?_eq_none_of_ne (Ne.symm hne)⟩) ?_⟩
        · rw [hexpected, hd, hv]
          rfl
        · exact (resourceName_revised hwritten).trans ((resourceName_revised hrevised).symm.trans
            (h.wellNamed _ _ hheld))
        · rw [hfounder, revising?, if_pos rfl, Option.toList_some]
          refine ⟨written, rfl, ?_, ?_⟩
          · rw [List.getLastD_concat, List.length_append]
            rw [versionReached, Nat.add_assoc] at hwritten
            exact hwritten
          · rw [List.getLastD_concat]
            exact hv

theorem accounted_delete (h : Recorded settings history store) (cluster : Cluster) :
    Accounted settings history (.delete cluster)
      ((LifeCall.delete cluster).perform settings store) := by
  rw [LifeCall.perform, exec_deleteCluster]
  exact ⟨rfl, h.concat_idle (fun _ hne => absurd rfl hne) fun _ => rfl⟩

theorem accounted_perform (h : Recorded settings history store)
    (hfits : ∀ place, versionReached settings place history < UInt64.size) (call : LifeCall) :
    Accounted settings history call (call.perform settings store) := by
  cases call with
  | create cluster => exact accounted_create h cluster
  | update cluster => exact accounted_update h cluster (hfits _)
  | delete cluster => exact accounted_delete h cluster

end Step

/-! ## Whole runs -/

theorem recorded_chronicle {settings : Settings} {calls : List LifeCall}
    (hfits : ∀ place, versionReached settings place (chronicle settings calls).1 < UInt64.size) :
    Recorded settings (chronicle settings calls).1 (chronicle settings calls).2 := by
  induction calls using List.reverseRecOn with
  | nil => exact recorded_empty
  | append_singleton calls call ih =>
    rw [chronicle_concat] at hfits ⊢
    have hearlier : ∀ place,
        versionReached settings place (chronicle settings calls).1 < UInt64.size :=
      fun place => Nat.lt_of_le_of_lt (versionReached_le_concat _) (hfits place)
    exact (accounted_perform (ih hearlier) hearlier call).2

theorem clusterLives_determined (settings : Settings) (calls : List LifeCall)
    (hfits : ∀ place,
      versionReached settings place (chronicle settings calls).1 < UInt64.size - 1) :
    let history := (chronicle settings calls).1
    let store := (chronicle settings calls).2
    (∀ place, place ∈ store.keys ↔ ∃ cluster answer, (.create cluster, answer) ∈ history ∧
      key settings cluster = place ∧ cluster.validate = .ok ()) ∧
    (∀ place founder, founder? settings place history = some founder →
      let updates := revisers settings place history
      let latest := updates.getLastD founder
      latest.validate = .ok () ∧ ∃ doc, store.find? place = some doc ∧
        revised latest (1 + updates.length)
          (founder.resource settings.clusterResource) = .ok doc ∧
        doc.get? ["spec"] = .ok (some latest.desiredSpec) ∧
        doc.get? ["metadata", "resourceVersion"] =
          .ok (some (.text (Text.decimal (1 + updates.length)))) ∧
        ∀ path, Path.Apart ["spec"] path → Path.Apart ["metadata", "resourceVersion"] path →
          doc.get? path = (founder.resource settings.clusterResource).get? path) ∧
    (∀ call : LifeCall, (call.perform settings store).1 = call.expected settings history) := by
  intro history store
  have hbelow : ∀ place, versionReached settings place history < UInt64.size :=
    fun place => Nat.lt_of_lt_of_le (hfits place) (Nat.sub_le _ _)
  have hrecorded : Recorded settings history store := recorded_chronicle hbelow
  refine ⟨fun place => ?_, fun place founder hfounder => ?_, fun call => ?_⟩
  · rw [← founder?_isSome_iff, Store.mem_keys_iff]
    constructor
    · intro hheld
      obtain ⟨doc, hdoc⟩ := Option.ne_none_iff_exists'.1 hheld
      obtain ⟨founder, hfounder, _⟩ := hrecorded.exists_founder hdoc
      exact Option.isSome_iff_exists.2 ⟨founder, hfounder⟩
    · intro hfounder habsent
      rw [(hrecorded.founder?_eq_none habsent).1] at hfounder
      cases hfounder
  · have hkept := hrecorded.kept place
    rw [hfounder] at hkept
    obtain ⟨doc, hdoc, hrevised, hvalid⟩ := hkept
    exact ⟨hvalid, doc, hdoc, hrevised, get?_revised_spec hrevised, get?_revised_version hrevised,
      fun path => get?_revised_of_apart hrevised⟩
  · exact (accounted_perform hrecorded hbelow call).1

theorem clusterLives_determined_resized :
    let calls : List LifeCall := [.create smallCluster, .update wideCluster]
    let store := (chronicle .initial calls).2
    (∀ place, versionReached .initial place (chronicle .initial calls).1 < UInt64.size - 1) ∧
      ∃ doc, store.find? (key .initial smallCluster) = some doc ∧
        revised wideCluster 2 (smallCluster.resource .etcdCluster) = .ok doc ∧
        doc.get? ["spec"] = .ok (some wideCluster.desiredSpec) ∧
        doc.get? ["metadata", "resourceVersion"] = .ok (some (.text "2")) ∧
        doc.get? ["metadata", "name"] = .ok (some (.text "a")) := by
  intro calls store
  have hfits : ∀ place,
      versionReached .initial place (chronicle .initial calls).1 < UInt64.size - 1 :=
    fun place => Nat.lt_of_le_of_lt (versionReached_chronicle_le calls) (by decide)
  have h := clusterLives_determined .initial calls hfits
  obtain ⟨_, doc, hdoc, hrevised, hspec, hversion, hapart⟩ :=
    h.2.1 (key .initial smallCluster) smallCluster rfl
  have htwo : Text.decimal 2 = "2" := by decide
  rw [← htwo]
  exact ⟨hfits, doc, hdoc, hrevised, hspec, hversion,
    hapart ["metadata", "name"] (by decide) (by decide)⟩

end EtcdFleet.Operated
