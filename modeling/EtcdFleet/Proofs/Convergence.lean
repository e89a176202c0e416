import EtcdFleet.Proofs.OperatedRuns

set_option autoImplicit false

/-!
# An update converges and is atomic

From every store that insertions, creations and updates lead to, whatever documents they put there: an
update of an operated cluster that succeeds leaves the cluster in sync, so the next one has nothing to do;
one that changes nothing or fails leaves the store as it was; and one that writes changes the spec and
the version of one document. It does write whenever the stored spec is an object from which the
descriptor has drifted and the stored version can be counted on.
-/

namespace EtcdFleet.Operated

open Remote (exec)

variable {settings : Settings} {cluster : Cluster} {store after : Store}

theorem exec_updateCluster_of_settle {changed : Bool}
    (h : settle settings cluster store = .ok (changed, after)) :
    exec ((Strategy.operated settings).updateCluster cluster) store = (.ok changed, after) := by
  rw [exec_updateCluster, h]
  rfl

theorem settle_of_exec {changed : Bool}
    (h : (exec ((Strategy.operated settings).updateCluster cluster) store).1 = .ok changed) :
    settle settings cluster store = .ok
      (changed, (exec ((Strategy.operated settings).updateCluster cluster) store).2) := by
  rw [exec_updateCluster] at h ⊢
  cases hs : settle settings cluster store with
  | error failure => rw [hs] at h; cases h
  | ok result =>
    obtain ⟨value, after⟩ := result
    rw [hs] at h
    cases h
    rfl

theorem storedDrift_of_settle (hnamed : store.WellNamed) {changed : Bool}
    (h : settle settings cluster store = .ok (changed, after)) :
    storedDrift settings cluster after = .ok none := by
  cases changed with
  | false =>
    obtain ⟨hdrift, rfl⟩ := settle_eq_unchanged_iff.1 h
    exact hdrift
  | true =>
    obtain ⟨_, _, _, _, written, _, _, _, _, _, _, hwritten, rfl⟩ :=
      (settle_eq_changed_iff hnamed).1 h
    refine storedDrift_eq_ok_iff.2 ⟨written, store.find?_put_self _ written, ?_⟩
    rw [driftFrom_revised hwritten, firstDifference_self]

theorem version_of_allowed {stored : Document} {current : Nat}
    (hcurrent : stored.storedVersion = .ok current)
    (hallowed : stored.getText? Document.versionPath = .ok none ∨
      stored.getText? Document.versionPath = .ok (some (Text.decimal current))) :
    stored.getText? Document.versionPath = .ok none ∧ current = 0 ∨
      stored.getText? Document.versionPath = .ok (some (Text.decimal current)) := by
  rcases hallowed with hnone | hsome
  · rw [Document.storedVersion_of_none hnone] at hcurrent
    exact .inl ⟨hnone, (Except.ok.inj hcurrent).symm⟩
  · exact .inr hsome

theorem nothing_left_to_update (hnamed : store.WellNamed) {changed : Bool}
    (h : settle settings cluster store = .ok (changed, after)) :
    exec ((Strategy.operated settings).inSync cluster) after = (.ok true, after) ∧
      exec ((Strategy.operated settings).updateCluster cluster) after = (.ok false, after) := by
  have hdrift := storedDrift_of_settle hnamed h
  constructor
  · have hsync := exec_inSync settings cluster after
    rw [hdrift] at hsync
    exact hsync
  · exact exec_updateCluster_of_settle (settle_eq_unchanged_iff.2 ⟨hdrift, rfl⟩)

theorem store_eq_of_not_changed
    (h : (exec ((Strategy.operated settings).updateCluster cluster) store).1 ≠ .ok true) :
    (exec ((Strategy.operated settings).updateCluster cluster) store).2 = store := by
  rw [exec_updateCluster] at h ⊢
  cases hs : settle settings cluster store with
  | error failure => rfl
  | ok result =>
    obtain ⟨changed, left⟩ := result
    rw [hs] at h
    cases changed with
    | true => exact absurd rfl h
    | false => exact (settle_eq_unchanged_iff.1 hs).2

theorem settle_of_drift (hnamed : store.WellNamed) {old : Document}
    {members : List (String × Document)} {field : DriftField}
    (hold : store.find? (key settings cluster) = some old)
    (hmembers : old.get? specPath = .ok (some (.object members)))
    (hdrift : Drift.detect cluster.desiredSpec (.object members) = .ok (some field))
    (hvalid : cluster.validate = .ok ())
    (hversion : old.getText? Document.versionPath = .ok none ∨ ∃ version, version < UInt64.size - 1 ∧
      old.getText? Document.versionPath = .ok (some (Text.decimal version))) :
    ∃ after, settle settings cluster store = .ok (true, after) := by
  obtain ⟨version, hstored, hallowed⟩ : ∃ version, old.storedVersion = .ok version ∧
      (old.getText? Document.versionPath = .ok none ∨
        old.getText? Document.versionPath = .ok (some (Text.decimal version))) := by
    rcases hversion with hnone | ⟨version, hfits, hsome⟩
    · exact ⟨0, Document.storedVersion_of_none hnone, .inl hnone⟩
    · exact ⟨version, Document.storedVersion_of_decimal hsome (by omega), .inr hsome⟩
  obtain ⟨new, hnew⟩ := exists_revised (hnamed _ _ hold) hmembers cluster (version + 1)
  exact ⟨_, (settle_eq_changed_iff hnamed).2 ⟨old, members, field, version, new, hold, hmembers,
    hdrift, hvalid, hstored, hallowed, hnew, rfl⟩⟩

theorem updateCluster_converges (hreach : store.Reachable) (settings : Settings)
    (cluster : Cluster) :
    let update := exec ((Strategy.operated settings).updateCluster cluster)
    let inSync := exec ((Strategy.operated settings).inSync cluster)
    let after := (update store).2
    (∀ changed, (update store).1 = .ok changed →
      inSync after = (.ok true, after) ∧ update after = (.ok false, after)) ∧
    ((update store).1 ≠ .ok true → after = store) ∧
    ((update store).1 = .ok true → ∃ old version new,
      store.find? (key settings cluster) = some old ∧
      (old.getText? Document.versionPath = .ok none ∧ version = 0 ∨
        old.getText? Document.versionPath = .ok (some (Text.decimal version))) ∧
      after.find? (key settings cluster) = some new ∧
      (∀ other, other ≠ key settings cluster → after.find? other = store.find? other) ∧
      revised cluster (version + 1) old = .ok new ∧
      new.get? specPath = .ok (some cluster.desiredSpec) ∧
      new.getText? Document.versionPath = .ok (some (Text.decimal (version + 1))) ∧
      ∀ path, Path.Apart specPath path → Path.Apart Document.versionPath path →
        new.get? path = old.get? path) ∧
    (∀ old members field, store.find? (key settings cluster) = some old →
      old.get? specPath = .ok (some (.object members)) →
      Drift.detect cluster.desiredSpec (.object members) = .ok (some field) →
      cluster.validate = .ok () →
      (old.getText? Document.versionPath = .ok none ∨ ∃ version, version < UInt64.size - 1 ∧
        old.getText? Document.versionPath = .ok (some (Text.decimal version))) →
      (update store).1 = .ok true) := by
  intro update inSync after
  have hnamed := hreach.wellNamed
  refine ⟨?_, store_eq_of_not_changed, ?_, ?_⟩
  · intro changed hchanged
    exact nothing_left_to_update hnamed (settle_of_exec hchanged)
  · intro hresult
    obtain ⟨old, members, field, version, new, hold, _, _, _, hversion, hallowed, hnew, hafter⟩ :=
      (settle_eq_changed_iff hnamed).1 (settle_of_exec hresult)
    have hput : after = store.put (key settings cluster) new := hafter
    refine ⟨old, version, new, hold, version_of_allowed hversion hallowed, ?_, ?_, hnew,
      get?_revised_spec hnew, getText?_revised hnew, fun path => get?_revised_of_apart hnew⟩
    · rw [hput, Store.find?_put_self]
    · intro other hother
      rw [hput, Store.find?_put_of_ne _ _ hother]
  · intro old members field hold hmembers hdrift hvalid hversion
    obtain ⟨left, hsettle⟩ := settle_of_drift hnamed hold hmembers hdrift hvalid hversion
    exact congrArg Prod.fst (exec_updateCluster_of_settle hsettle)

/-- A resource that somebody else has written, with nothing in its spec. -/
def foreignResource : Document :=
  .object [("metadata", .object [("name", .text "a"), ("resourceVersion", .text "7")]),
    ("spec", .object [])]

theorem updateCluster_converges_foreign :
    let store := Store.empty.put (key .initial smallCluster) foreignResource
    let outcome := exec ((Strategy.operated .initial).updateCluster smallCluster) store
    store.Reachable ∧ outcome.1 = .ok true ∧
      exec ((Strategy.operated .initial).inSync smallCluster) outcome.2 =
        (.ok true, outcome.2) := by
  intro store outcome
  have hinsert : Store.empty.insert .etcdCluster "ns" foreignResource = .ok store := rfl
  have hreach : store.Reachable := .insert .empty hinsert
  have h := updateCluster_converges hreach .initial smallCluster
  have hok : outcome.1 = .ok true :=
    h.2.2.2 foreignResource [] .size rfl rfl rfl rfl (.inr ⟨7, by decide, rfl⟩)
  exact ⟨hreach, hok, (h.1 true hok).1⟩

end EtcdFleet.Operated
