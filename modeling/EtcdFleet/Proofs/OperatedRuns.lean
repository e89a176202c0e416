import EtcdFleet.Cluster.Operated
import EtcdFleet.Proofs.DescriptorDrift
import EtcdFleet.Proofs.Execution
import EtcdFleet.Proofs.StoreWrites

set_option autoImplicit false

/-!
# One call on an operated cluster

What a creation or an update of an operated cluster comes to, and the store that it leaves, as plain
functions of the store it starts from. An update compares first, then checks the descriptor, and then
writes once; everything that can stop it comes before the write.
-/

namespace EtcdFleet

/-! ## Programs alone on a store -/

namespace Remote

abbrev exec {α : Type} (program : Remote α) (store : Store) : Except ProviderError α × Store :=
  Program.exec Store.handler program store

theorem exec_call {σ : Type} (handle : Program.Handler StoreCall StoreReply σ) (question : StoreCall)
    (state : σ) : Program.exec handle (call question) state =
      ((handle question state).reply, (handle question state).state) := rfl

end Remote

namespace Operated

open Remote (exec)

variable {settings : Settings} {cluster other : Cluster} {store after : Store}

def key (settings : Settings) (cluster : Cluster) : ResourceKey :=
  ⟨settings.clusterResource, cluster.namespace, cluster.name⟩

def smallCluster : Cluster :=
  ⟨⟨"a", "ns", none, .empty, .empty⟩, ⟨"kstone-etcd-operator", 3, "3.5.7", 10, 2, 4, []⟩, .initial⟩

def wideCluster : Cluster :=
  { smallCluster with spec := { smallCluster.spec with size := 5 } }

/-! ## Calls over any environment -/

/-- What an existing resource means to a creation. -/
def settled (result : Except ProviderError Document) : Except ProviderError Unit :=
  match result with
  | .ok _ => .ok ()
  | .error failure => if failure.isAlreadyExists then .ok () else .error failure

theorem exec_create {σ : Type} (handle : Program.Handler StoreCall StoreReply σ) (settings : Settings)
    (cluster : Cluster) (state : σ) :
    Program.exec handle (create settings cluster) state =
      let kind := settings.clusterResource
      let answered := handle (.create kind cluster.namespace (cluster.resource kind)) state
      (settled answered.reply, answered.state) := by
  rw [create, Program.exec_attempt_bind, Remote.exec_call]
  dsimp only
  cases (handle (.create settings.clusterResource cluster.namespace
      (cluster.resource settings.clusterResource)) state).reply with
  | ok doc => rfl
  | error failure =>
    dsimp only [settled]
    split <;> rfl

theorem exec_update_of_respecified {σ : Type} (handle : Program.Handler StoreCall StoreReply σ)
    {state : σ} {stored doc : Document}
    (hstored : (handle (.get settings.clusterResource cluster.namespace cluster.name) state).reply =
      .ok stored)
    (hdoc : respecified cluster stored = .ok doc) :
    Program.exec handle (update settings cluster) state =
      let fetched := handle (.get settings.clusterResource cluster.namespace cluster.name) state
      let replaced := handle (.update settings.clusterResource cluster.namespace doc) fetched.state
      (replaced.reply.map fun _ => (), replaced.state) := by
  have hobserved : Program.exec handle (observed settings cluster) state =
      (.ok stored, (handle (.get settings.clusterResource cluster.namespace cluster.name) state).state) := by
    rw [observed, Remote.exec_call, hstored]
  rw [update, Program.exec_bind_of_ok hobserved, hdoc, Program.exec_ofExcept_bind]
  dsimp only
  rw [Program.exec_attempt_bind, Remote.exec_call]
  dsimp only
  cases (handle (.update settings.clusterResource cluster.namespace doc)
    (handle (.get settings.clusterResource cluster.namespace cluster.name) state).state).reply <;> rfl

/-! ## The comparison -/

def driftFrom (cluster : Cluster) (stored : Document) : Except ProviderError Drift :=
  storedSpec stored >>= Drift.detect cluster.desiredSpec

def storedDrift (settings : Settings) (cluster : Cluster) (store : Store) :
    Except ProviderError Drift :=
  store.get (key settings cluster) >>= driftFrom cluster

theorem storedDrift_eq_ok_iff {drift : Drift} :
    storedDrift settings cluster store = .ok drift ↔
      ∃ stored, store.find? (key settings cluster) = some stored ∧
        driftFrom cluster stored = .ok drift := by
  rw [storedDrift, bind_eq_ok_iff]
  simp only [Store.get_eq_ok_iff]

theorem exec_observed (settings : Settings) (cluster : Cluster) (store : Store) :
    exec (observed settings cluster) store = (store.get (key settings cluster), store) := rfl

theorem exec_inSync (settings : Settings) (cluster : Cluster) (store : Store) :
    exec (inSync settings cluster) store =
      ((storedDrift settings cluster store).map Option.isNone, store) := by
  have hcall := exec_observed settings cluster store
  rw [exec, inSync, storedDrift]
  cases hg : store.get (key settings cluster) with
  | error failure => rw [Program.exec_bind_of_error (hcall.trans (by rw [hg]))]; rfl
  | ok stored =>
    rw [Program.exec_bind_of_ok (hcall.trans (by rw [hg])), ok_bind, driftFrom]
    cases storedSpec stored with
    | error failure => rfl
    | ok spec =>
      rw [ok_bind]
      change Program.exec Store.handler
        (Program.ofExcept (Drift.detect cluster.desiredSpec spec) >>= _) store = _
      cases Drift.detect cluster.desiredSpec spec with
      | error failure => rfl
      | ok drift => cases drift <;> rfl

/-! ## The replacement of the spec -/

theorem getObject?_eq_ok_iff {doc : Document} {path : Path}
    {members : List (String × Document)} :
    doc.getObject? path = .ok (some members) ↔ doc.get? path = .ok (some (.object members)) := by
  rw [Document.getObject?, Document.getAs?_eq_ok_iff]
  constructor
  · rintro (⟨_, h⟩ | ⟨found, seen, hg, hv, h⟩)
    · cases h
    · cases h
      cases found <;> cases hv
      exact hg
  · intro h
    exact .inr ⟨_, members, h, rfl, rfl⟩

theorem respecified_eq_ok_iff {stored doc : Document} :
    respecified cluster stored = .ok doc ↔
      (∃ members, stored.get? specPath = .ok (some (.object members))) ∧
        stored.put specPath cluster.desiredSpec = .ok doc := by
  rw [respecified, bind_eq_ok_iff]
  constructor
  · rintro ⟨found, hg, h⟩
    cases found with
    | none => cases h
    | some members => exact ⟨⟨members, getObject?_eq_ok_iff.1 hg⟩, h⟩
  · rintro ⟨⟨members, hg⟩, h⟩
    exact ⟨some members, getObject?_eq_ok_iff.2 hg, h⟩

/-- The document with the desired spec of the cluster and the given version. -/
def revised (cluster : Cluster) (version : Nat) (doc : Document) :
    Except ProviderError Document := do
  (← doc.put specPath cluster.desiredSpec).withVersion version

theorem specPath_apart_versionPath : Path.Apart specPath Document.versionPath := by decide

theorem specPath_apart_namePath : Path.Apart specPath Document.namePath := by decide

theorem resourceName_put_spec {stored spec doc : Document}
    (h : stored.put specPath spec = .ok doc) : doc.resourceName = stored.resourceName :=
  Document.resourceName_congr (Document.get?_put_of_apart specPath_apart_namePath h)

theorem versionText_put_spec {stored spec doc : Document}
    (h : stored.put specPath spec = .ok doc) :
    doc.getText? Document.versionPath = stored.getText? Document.versionPath :=
  Document.getAs?_congr (Document.get?_put_of_apart specPath_apart_versionPath h) _ _

theorem isNull_desiredSpec (cluster : Cluster) : cluster.desiredSpec.isNull = false := rfl

section Revised

variable {doc written : Document} {version : Nat}

theorem get?_revised_spec (h : revised cluster version doc = .ok written) :
    written.get? specPath = .ok (some cluster.desiredSpec) := by
  obtain ⟨respec, hspec, hversion⟩ := bind_eq_ok_iff.1 h
  rw [Document.get?_withVersion_of_apart specPath_apart_versionPath.symm hversion]
  exact Document.get?_put_self (by decide) (isNull_desiredSpec cluster) hspec

theorem get?_revised_of_apart (h : revised cluster version doc = .ok written) {path : Path}
    (hspec : Path.Apart specPath path) (hversion : Path.Apart Document.versionPath path) :
    written.get? path = doc.get? path := by
  obtain ⟨respec, hput, hwritten⟩ := bind_eq_ok_iff.1 h
  rw [Document.get?_withVersion_of_apart hversion hwritten,
    Document.get?_put_of_apart hspec hput]

theorem get?_revised_version (h : revised cluster version doc = .ok written) :
    written.get? Document.versionPath = .ok (some (.text (Text.decimal version))) := by
  obtain ⟨respec, _, hwritten⟩ := bind_eq_ok_iff.1 h
  exact Document.get?_version_withVersion hwritten

theorem getText?_revised (h : revised cluster version doc = .ok written) :
    written.getText? Document.versionPath = .ok (some (Text.decimal version)) :=
  Document.getText?_of_get? (get?_revised_version h)

theorem resourceName_revised (h : revised cluster version doc = .ok written) :
    written.resourceName = doc.resourceName :=
  Document.resourceName_congr (get?_revised_of_apart h specPath_apart_namePath
    Document.namePath_apart_versionPath.symm)

/-- Of two revisions the later one stands alone. -/
theorem revised_revised (h : revised cluster version doc = .ok written) (other : Cluster)
    (later : Nat) : revised other later written = revised other later doc := by
  obtain ⟨respec, hspec, hversion⟩ := bind_eq_ok_iff.1 h
  obtain ⟨second, hsecond⟩ := Document.exists_put_of_get?
    (Document.get?_put_self (by decide) (isNull_desiredSpec cluster) hspec) other.desiredSpec
  obtain ⟨both, hboth, hboth'⟩ :=
    Document.put_comm_of_apart specPath_apart_versionPath hsecond hversion
  rw [revised, revised, hboth', ok_bind, ← Document.put_put_self hspec, hsecond, ok_bind]
  exact Document.withVersion_withVersion hboth later

theorem exists_revised {stored : Document} {name : String}
    {members : List (String × Document)} (hname : stored.resourceName = .ok name)
    (hmembers : stored.get? specPath = .ok (some (.object members))) (cluster : Cluster)
    (version : Nat) : ∃ written, revised cluster version stored = .ok written := by
  obtain ⟨doc, hput⟩ := Document.exists_put_of_get? hmembers cluster.desiredSpec
  obtain ⟨written, hwritten⟩ :=
    Document.exists_withVersion ((resourceName_put_spec hput).trans hname) version
  exact ⟨written, bind_eq_ok_iff.2 ⟨doc, hput, hwritten⟩⟩

end Revised

/-! ## What is read of a stored spec -/

theorem driftFrom_of_object {stored : Document} {members : List (String × Document)}
    (h : stored.get? specPath = .ok (some (.object members))) (cluster : Cluster) :
    driftFrom cluster stored = Drift.detect cluster.desiredSpec (.object members) := by
  rw [driftFrom, storedSpec, h]
  rfl

theorem driftFrom_of_desired {stored : Document}
    (h : stored.get? specPath = .ok (some other.desiredSpec)) (cluster : Cluster) :
    driftFrom cluster stored = .ok (firstDifference cluster.spec other.spec) := by
  rw [← Drift.detect_desiredSpec, driftFrom, storedSpec, h]
  rfl

theorem driftFrom_revised {doc written : Document} {version : Nat}
    (h : revised other version doc = .ok written) (cluster : Cluster) :
    driftFrom cluster written = .ok (firstDifference cluster.spec other.spec) :=
  driftFrom_of_desired (get?_revised_spec h) cluster

/-! ## An update -/

/-- A failed call leaves the store as it was. -/
def keeping {α : Type} (store : Store) :
    Except ProviderError (α × Store) → Except ProviderError α × Store
  | .ok (value, after) => (.ok value, after)
  | .error failure => (.error failure, store)

def respecify (settings : Settings) (cluster : Cluster) (store : Store) :
    Except ProviderError (Unit × Store) := do
  let stored ← store.get (key settings cluster)
  let doc ← respecified cluster stored
  let (_, after) ← store.update settings.clusterResource cluster.namespace doc
  return ((), after)

/-- Whether the store was written to, and the store after that. -/
def settle (settings : Settings) (cluster : Cluster) (store : Store) :
    Except ProviderError (Bool × Store) := do
  let drift ← storedDrift settings cluster store
  if drift.isNone then return (false, store)
  cluster.validate
  let (_, after) ← respecify settings cluster store
  return (true, after)

theorem exec_update (settings : Settings) (cluster : Cluster) (store : Store) :
    exec (update settings cluster) store = keeping store (respecify settings cluster store) := by
  have hcall := exec_observed settings cluster store
  rw [exec, respecify]
  cases hg : store.get (key settings cluster) with
  | error failure =>
    rw [update, Program.exec_bind_of_error (hcall.trans (by rw [hg]))]
    rfl
  | ok stored =>
    rw [ok_bind]
    cases hdoc : respecified cluster stored with
    | error failure =>
      rw [update, Program.exec_bind_of_ok (hcall.trans (by rw [hg])), hdoc]
      rfl
    | ok doc =>
      rw [exec_update_of_respecified Store.handler hg hdoc, ok_bind]
      dsimp only [Store.handler, Store.answer]
      cases store.update settings.clusterResource cluster.namespace doc with
      | error failure => rfl
      | ok result => rfl

theorem exec_updateCluster (settings : Settings) (cluster : Cluster) (store : Store) :
    exec ((Strategy.operated settings).updateCluster cluster) store =
      keeping store (settle settings cluster store) := by
  have hsync : exec ((Strategy.operated settings).inSync cluster) store = _ :=
    exec_inSync settings cluster store
  have hwrite : exec ((Strategy.operated settings).update cluster) store = _ :=
    exec_update settings cluster store
  rw [exec, Strategy.updateCluster, settle]
  cases hd : storedDrift settings cluster store with
  | error failure =>
    rw [hd] at hsync
    rw [Program.exec_bind_of_error hsync]
    rfl
  | ok drift =>
    rw [hd] at hsync
    rw [Program.exec_bind_of_ok hsync, ok_bind]
    cases drift with
    | none => rfl
    | some field =>
      change Program.exec Store.handler (Program.ofExcept cluster.validate >>= fun _ =>
        (Strategy.operated settings).update cluster >>= fun _ =>
          Strategy.idle cluster >>= fun _ => pure true) store =
        keeping store (cluster.validate >>= fun _ =>
          respecify settings cluster store >>= fun result => pure (true, result.2))
      rw [Program.exec_ofExcept_bind]
      cases cluster.validate with
      | error failure => rfl
      | ok checked =>
        rw [ok_bind]
        dsimp only
        cases hr : respecify settings cluster store with
        | error failure =>
          rw [hr] at hwrite
          rw [Program.exec_bind_of_error hwrite]
          rfl
        | ok result =>
          rw [hr] at hwrite
          rw [Program.exec_bind_of_ok hwrite]
          rfl

/-- The write of an update: it replaces the spec of what is stored and gives it the next version. -/
theorem respecify_eq_ok_iff (hnamed : store.WellNamed) :
    respecify settings cluster store = .ok ((), after) ↔
      ∃ stored members current written,
        store.find? (key settings cluster) = some stored ∧
        stored.get? specPath = .ok (some (.object members)) ∧
        stored.storedVersion = .ok current ∧
        (stored.getText? Document.versionPath = .ok none ∨
          stored.getText? Document.versionPath = .ok (some (Text.decimal current))) ∧
        revised cluster (current + 1) stored = .ok written ∧
        after = store.put (key settings cluster) written := by
  constructor
  · intro h
    obtain ⟨stored, hget, h⟩ := bind_eq_ok_iff.1 h
    obtain ⟨doc, hdoc, h⟩ := bind_eq_ok_iff.1 h
    obtain ⟨⟨written, after'⟩, hupdate, h⟩ := bind_eq_ok_iff.1 h
    cases h
    have hstored := Store.get_eq_ok_iff.1 hget
    obtain ⟨⟨members, hmembers⟩, hput⟩ := respecified_eq_ok_iff.1 hdoc
    obtain ⟨name, existing, current, hname, hexisting, hcurrent, hversion, hwritten, rfl⟩ :=
      Store.update_eq_ok_iff.1 hupdate
    obtain rfl : cluster.name = name :=
      Except.ok.inj ((hnamed _ _ hstored).symm.trans ((resourceName_put_spec hput).symm.trans hname))
    obtain rfl : stored = existing := Option.some.inj (hstored.symm.trans hexisting)
    rw [versionText_put_spec hput] at hversion
    exact ⟨stored, members, current, written, hstored, hmembers, hcurrent, hversion,
      bind_eq_ok_iff.2 ⟨doc, hput, hwritten⟩, rfl⟩
  · rintro ⟨stored, members, current, written, hstored, hmembers, hcurrent, hversion, hwritten, rfl⟩
    obtain ⟨doc, hput, hwritten⟩ := bind_eq_ok_iff.1 hwritten
    have hname : doc.resourceName = .ok cluster.name :=
      (resourceName_put_spec hput).trans (hnamed _ _ hstored)
    rw [← versionText_put_spec hput] at hversion
    have hupdate : store.update settings.clusterResource cluster.namespace doc =
        .ok (written, store.put (key settings cluster) written) :=
      Store.update_of_current hname hstored hcurrent hversion hwritten
    rw [respecify, Store.get_eq_ok_iff.2 hstored, ok_bind,
      respecified_eq_ok_iff.2 ⟨⟨members, hmembers⟩, hput⟩, ok_bind, hupdate]
    rfl

theorem settle_eq_unchanged_iff :
    settle settings cluster store = .ok (false, after) ↔
      storedDrift settings cluster store = .ok none ∧ after = store := by
  rw [settle, bind_eq_ok_iff]
  constructor
  · rintro ⟨drift, hdrift, h⟩
    cases drift with
    | none => cases h; exact ⟨hdrift, rfl⟩
    | some field =>
      obtain ⟨_, _, h⟩ := bind_eq_ok_iff.1 h
      obtain ⟨_, _, h⟩ := bind_eq_ok_iff.1 h
      cases h
  · rintro ⟨hdrift, rfl⟩
    exact ⟨none, hdrift, rfl⟩

theorem settle_eq_changed_iff (hnamed : store.WellNamed) :
    settle settings cluster store = .ok (true, after) ↔
      ∃ stored members field current written,
        store.find? (key settings cluster) = some stored ∧
        stored.get? specPath = .ok (some (.object members)) ∧
        Drift.detect cluster.desiredSpec (.object members) = .ok (some field) ∧
        cluster.validate = .ok () ∧
        stored.storedVersion = .ok current ∧
        (stored.getText? Document.versionPath = .ok none ∨
          stored.getText? Document.versionPath = .ok (some (Text.decimal current))) ∧
        revised cluster (current + 1) stored = .ok written ∧
        after = store.put (key settings cluster) written := by
  constructor
  · intro h
    obtain ⟨drift, hdrift, h⟩ := bind_eq_ok_iff.1 h
    cases drift with
    | none => cases h
    | some field =>
      obtain ⟨_, hvalid, h⟩ := bind_eq_ok_iff.1 h
      obtain ⟨⟨_, respec⟩, hrespecify, h⟩ := bind_eq_ok_iff.1 h
      cases h
      obtain ⟨stored, members, current, written, hstored, hmembers, hrest⟩ :=
        (respecify_eq_ok_iff hnamed).1 hrespecify
      obtain ⟨found, hfound, hdrift⟩ := storedDrift_eq_ok_iff.1 hdrift
      obtain rfl : stored = found := Option.some.inj (hstored.symm.trans hfound)
      rw [driftFrom_of_object hmembers] at hdrift
      exact ⟨stored, members, field, current, written, hstored, hmembers, hdrift, hvalid, hrest⟩
  · rintro ⟨stored, members, field, current, written, hstored, hmembers, hdrift, hvalid, hrest⟩
    have hrespecify : respecify settings cluster store = .ok ((), after) :=
      (respecify_eq_ok_iff hnamed).2 ⟨stored, members, current, written, hstored, hmembers, hrest⟩
    have hfound : storedDrift settings cluster store = .ok (some field) :=
      storedDrift_eq_ok_iff.2 ⟨stored, hstored, (driftFrom_of_object hmembers cluster).trans hdrift⟩
    rw [settle, hfound, ok_bind]
    change (cluster.validate >>= _) = _
    rw [hvalid, ok_bind, hrespecify]
    rfl

/-! ## A creation -/

theorem resourceName_resource (cluster : Cluster) (kind : ResourceKind) (h : cluster.name ≠ "") :
    (cluster.resource kind).resourceName = .ok cluster.name := by
  have hname : (cluster.resource kind).get? Document.namePath = .ok (some (.text cluster.name)) :=
    rfl
  exact Document.resourceName_eq_ok_iff.2 ⟨Document.getText?_of_get? hname, h⟩

theorem revised_resource (cluster : Cluster) (kind : ResourceKind) (version : Nat) :
    revised cluster version (cluster.resource kind) =
      (cluster.resource kind).withVersion version := by
  have hput : (cluster.resource kind).put specPath cluster.desiredSpec =
      .ok (cluster.resource kind) := rfl
  rw [revised, hput, ok_bind]

theorem name_ne_empty_of_validate (h : cluster.validate = .ok ()) : cluster.name ≠ "" := by
  intro hempty
  have hdefect : cluster.defect? = some .noName := by
    rw [Cluster.defect?, if_pos (by rw [hempty]; rfl)]
  rw [Cluster.validate, hdefect] at h
  cases h

def establish (settings : Settings) (cluster : Cluster) (store : Store) :
    Except ProviderError (Cluster × Store) := do
  cluster.validate
  match store.create settings.clusterResource cluster.namespace
      (cluster.resource settings.clusterResource) with
  | .ok (_, after) => return (cluster.withAddresses settings.endpoints, after)
  | .error failure =>
    if failure.isAlreadyExists then return (cluster.withAddresses settings.endpoints, store)
    else throw failure

theorem exec_createCluster (settings : Settings) (cluster : Cluster) (store : Store) :
    exec ((Strategy.operated settings).createCluster cluster) store =
      keeping store (establish settings cluster store) := by
  rw [exec, Strategy.createCluster, establish, Program.exec_report_bind]
  change Program.exec Store.handler (Program.ofExcept cluster.validate >>= fun _ =>
    create settings cluster >>= fun _ => pure (cluster.withAddresses settings.endpoints)) store = _
  rw [Program.exec_ofExcept_bind]
  cases cluster.validate with
  | error failure => rfl
  | ok checked =>
    rw [Program.exec_bind_pure _ _ fun _ => cluster.withAddresses settings.endpoints, exec_create,
      ok_bind]
    dsimp only [Store.handler, Store.answer]
    cases store.create settings.clusterResource cluster.namespace
        (cluster.resource settings.clusterResource) with
    | ok result => rfl
    | error failure =>
      dsimp only [Store.written, settled]
      split <;> rfl

theorem establish_of_invalid {failure : ProviderError} (h : cluster.validate = .error failure) :
    establish settings cluster store = .error failure := by
  rw [establish, h]
  rfl

/-- A creation never touches a resource that is there. -/
theorem establish_of_taken {stored : Document} (hvalid : cluster.validate = .ok ())
    (hstored : store.find? (key settings cluster) = some stored) :
    establish settings cluster store =
      .ok (cluster.withAddresses settings.endpoints, store) := by
  have hname := resourceName_resource cluster settings.clusterResource
    (name_ne_empty_of_validate hvalid)
  rw [establish, hvalid, ok_bind, Store.create_of_taken hname hstored]
  rfl

theorem establish_of_absent (hvalid : cluster.validate = .ok ())
    (habsent : store.find? (key settings cluster) = none) :
    ∃ written, revised cluster 1 (cluster.resource settings.clusterResource) = .ok written ∧
      establish settings cluster store = .ok (cluster.withAddresses settings.endpoints,
        store.put (key settings cluster) written) := by
  have hname := resourceName_resource cluster settings.clusterResource
    (name_ne_empty_of_validate hvalid)
  obtain ⟨written, hwritten⟩ := Document.exists_withVersion hname 1
  have hcreate : store.create settings.clusterResource cluster.namespace
      (cluster.resource settings.clusterResource) =
        .ok (written, store.put (key settings cluster) written) :=
    Store.create_eq_ok_iff.2 ⟨_, hname, habsent, hwritten, rfl⟩
  refine ⟨written, (revised_resource cluster _ 1).trans hwritten, ?_⟩
  rw [establish, hvalid, ok_bind, hcreate]
  rfl

theorem exec_deleteCluster (settings : Settings) (cluster : Cluster) (store : Store) :
    exec ((Strategy.operated settings).deleteCluster cluster) store = (.ok (), store) := rfl

end Operated
end EtcdFleet
