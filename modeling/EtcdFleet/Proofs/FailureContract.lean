import EtcdFleet.Proofs.KubernetesCalls
import EtcdFleet.Proofs.OperatedRuns
import EtcdFleet.Proofs.ResourceNames
import EtcdFleet.Proofs.StoreRuns

set_option autoImplicit false

/-!
# The two stores fail alike

Whoever works on a store is told of the same failures by one kept in memory and by one kept by Kubernetes. A document
without a name is refused by both before anything else is looked at, and an error of the interface is told by its own
code and reason: the resource is missing, it is already there, the write lost, or something else went wrong.
-/

namespace EtcdFleet

def StoreCall.doc? : StoreCall → Option Document
  | .get _ _ _ => none
  | .create _ _ doc | .update _ _ doc => some doc

namespace Kubernetes

open Document
open Operated (settled)

variable {server : Server} {call : StoreCall} {doc : Document} {key : ResourceKey}
  {sent : List Request} {request : Request} {failure : ProviderError}

/-! ## The name of what is written -/

theorem exec_of_nameless (hdoc : call.doc? = some doc) (h : doc.resourceName = .error failure) :
    server.exec (ofStoreCall call) sent = (.error failure, sent) := by
  cases call with
  | get kind «namespace» name => cases hdoc
  | create kind «namespace» own =>
    obtain rfl := Option.some.inj hdoc
    rw [ofStoreCall, exec_create, h]
  | update kind «namespace» own =>
    obtain rfl := Option.some.inj hdoc
    rw [ofStoreCall, exec_update, h]

theorem answer_of_nameless (store : Store) (hdoc : call.doc? = some doc)
    (h : doc.resourceName = .error failure) : store.answer call = (.error failure, store) := by
  cases call with
  | get kind «namespace» name => cases hdoc
  | create kind «namespace» own =>
    obtain rfl := Option.some.inj hdoc
    rw [Store.answer, Store.create, h]
    rfl
  | update kind «namespace» own =>
    obtain rfl := Option.some.inj hdoc
    rw [Store.answer, Store.update, h]
    rfl

theorem exists_place_iff (hdoc : call.doc? = some doc) :
    (∃ key, call.place? = some key) ↔ ∃ name, doc.Carries name ∧ name ≠ "" := by
  have hplace : (∃ key, call.place? = some key) ↔ ∃ name, doc.resourceName = .ok name := by
    cases call with
    | get kind «namespace» name => cases hdoc
    | create kind «namespace» own =>
      obtain rfl := Option.some.inj hdoc
      cases h : own.resourceName <;> simp [StoreCall.place?, h, Except.toOption]
    | update kind «namespace» own =>
      obtain rfl := Option.some.inj hdoc
      cases h : own.resourceName <;> simp [StoreCall.place?, h, Except.toOption]
  rw [hplace]
  exact exists_congr fun name => resourceName_eq_ok_iff_carries

/-- What a document with a name has as its version is a text, or is refused for itself. -/
theorem path_of_getText?_version {name : String} {path : List String} {expected : String}
    (hname : doc.resourceName = .ok name)
    (h : doc.getText? versionPath = .error (.malformed path expected)) : path = versionPath := by
  obtain ⟨beside, hread⟩ := exists_get?_version hname
  rw [getText?, getAs?, hread, ok_bind] at h
  cases beside with
  | none => cases h
  | some value =>
    cases value with
    | text text => cases h
    | _ =>
      cases h
      rfl

section Memory

variable {store : Store} {kind : ResourceKind} {«namespace» name : String}

theorem answer_create_of_free (hname : doc.resourceName = .ok name)
    (hfree : store.find? ⟨kind, «namespace», name⟩ = none) :
    ∃ written, (store.answer (.create kind «namespace» doc)).1 = .ok written := by
  obtain ⟨written, hwritten⟩ := exists_withVersion hname 1
  refine ⟨written, ?_⟩
  rw [Store.answer, Store.create_eq_ok_iff.2 ⟨name, hname, hfree, hwritten, rfl⟩]
  rfl

theorem answer_create_of_taken {held : Document} (hname : doc.resourceName = .ok name)
    (hheld : store.find? ⟨kind, «namespace», name⟩ = some held) :
    store.answer (.create kind «namespace» doc) =
      (.error (.alreadyExists kind.kind name «namespace»), store) := by
  rw [Store.answer, Store.create_of_taken hname hheld]
  rfl

theorem update_of_absent (hname : doc.resourceName = .ok name)
    (habsent : store.find? ⟨kind, «namespace», name⟩ = none) :
    store.update kind «namespace» doc = .error (Store.missing ⟨kind, «namespace», name⟩) := by
  rw [Store.update, hname, ok_bind]
  dsimp only
  rw [Store.get_eq_error_iff.2 ⟨habsent, rfl⟩, error_bind]

theorem getText?_of_storedVersion (h : doc.storedVersion = .error failure) :
    doc.getText? versionPath = .error failure := by
  rw [storedVersion] at h
  cases hread : doc.getText? versionPath with
  | error own =>
    rw [hread, error_bind] at h
    rw [Except.error.inj h]
  | ok text =>
    rw [hread] at h
    cases h

theorem update_of_unread {existing : Document} {current : Nat} (hname : doc.resourceName = .ok name)
    (hexisting : store.find? ⟨kind, «namespace», name⟩ = some existing)
    (hcurrent : existing.storedVersion = .ok current)
    (hrequested : doc.getText? versionPath = .error failure) :
    store.update kind «namespace» doc = .error failure := by
  rw [Store.update, hname, ok_bind]
  dsimp only
  rw [Store.get_eq_ok_iff.2 hexisting, ok_bind, hcurrent, ok_bind, hrequested, error_bind]

/-- A document that has its name is refused by a store in memory for its version at most. -/
theorem path_of_update_malformed {path : List String} {expected : String} (hstore : store.WellNamed)
    (hname : doc.resourceName = .ok name)
    (h : store.update kind «namespace» doc = .error (.malformed path expected)) :
    path = versionPath := by
  cases hheld : store.find? ⟨kind, «namespace», name⟩ with
  | none =>
    rw [update_of_absent hname hheld] at h
    cases h
  | some existing =>
    -- Both documents have their names, so nothing but a version can be in the way.
    cases hcurrent : existing.storedVersion with
    | error failure =>
      rw [Store.update_of_unversioned hname hheld hcurrent] at h
      rw [Except.error.inj h] at hcurrent
      exact path_of_getText?_version (hstore _ _ hheld) (getText?_of_storedVersion hcurrent)
    | ok current =>
      obtain ⟨written, hwritten⟩ := exists_withVersion hname (current + 1)
      cases hrequested : doc.getText? versionPath with
      | error failure =>
        rw [update_of_unread hname hheld hcurrent hrequested] at h
        rw [Except.error.inj h] at hrequested
        exact path_of_getText?_version hname hrequested
      | ok requested =>
        cases requested with
        | none =>
          rw [Store.update_of_current hname hheld hcurrent (.inl hrequested) hwritten] at h
          cases h
        | some requested =>
          by_cases hstale : requested = Text.decimal current
          · rw [hstale] at hrequested
            rw [Store.update_of_current hname hheld hcurrent (.inr hrequested) hwritten] at h
            cases h
          · rw [Store.update_of_stale hname hheld hcurrent hrequested hstale] at h
            cases h

theorem error_of_written {result : Except ProviderError (Document × Store)}
    (h : (store.written result).1 = .error failure) : result = .error failure := by
  cases result with
  | ok pair => cases h
  | error own =>
    obtain rfl := Except.error.inj h
    rfl

theorem path_of_answer_malformed {path : List String} {expected : String}
    (hstore : store.WellNamed) (hplace : call.place? = some key)
    (h : (store.answer call).1 = .error (.malformed path expected)) : path = versionPath := by
  cases call with
  | get kind «namespace» name =>
    obtain ⟨_, hmissing⟩ := Store.get_eq_error_iff.1 h
    cases hmissing
  | create kind «namespace» own =>
    obtain ⟨name, hname, rfl⟩ := Option.map_eq_some_iff.1 hplace
    replace hname := eq_ok_of_toOption hname
    cases hheld : store.find? ⟨kind, «namespace», name⟩ with
    | none =>
      obtain ⟨written, hwritten⟩ := answer_create_of_free hname hheld
      rw [hwritten] at h
      cases h
    | some held =>
      rw [answer_create_of_taken hname hheld] at h
      cases h
  | update kind «namespace» own =>
    obtain ⟨name, hname, rfl⟩ := Option.map_eq_some_iff.1 hplace
    exact path_of_update_malformed hstore (eq_ok_of_toOption hname) (error_of_written h)

end Memory

/-! ## What the interface tells -/

def taken (key : ResourceKey) : ProviderError :=
  .alreadyExists key.kind.kind key.name key.namespace

/-- What is told of a resource by an error with that description. -/
def ErrorDescription.Tells (description : ErrorDescription) (key : ResourceKey)
    (failure : ProviderError) : Prop :=
  match failure with
  | .resourceNotFound .. => description.code = 404 ∧ failure = Store.missing key
  | .alreadyExists .. =>
    description.code = 409 ∧ description.reason = "AlreadyExists" ∧ failure = taken key
  | .conflict reason =>
    description.code = 409 ∧ description.reason ≠ "AlreadyExists" ∧ reason = description.message
  | .kubernetes => description.code ≠ 404 ∧ description.code ≠ 409
  | _ => False

theorem ErrorDescription.tells_iff {description : ErrorDescription} :
    description.Tells key failure ↔
      ProviderError.ofStatus description.code description.reason description.message key.kind.kind
        key.namespace key.name = failure := by
  unfold ProviderError.ofStatus
  by_cases hmissing : description.code = 404
  · rw [if_pos hmissing]
    cases failure <;> simp [Tells, hmissing, Store.missing, eq_comm]
  · by_cases hconflict : description.code = 409
    · by_cases hexists : description.reason = "AlreadyExists"
      · rw [if_neg hmissing, if_pos hconflict, if_pos hexists]
        cases failure <;> simp [Tells, hconflict, hexists, taken, eq_comm]
      · rw [if_neg hmissing, if_pos hconflict, if_neg hexists]
        cases failure <;> simp [Tells, hconflict, hexists, eq_comm]
    · rw [if_neg hmissing, if_neg hconflict]
      cases failure <;> simp [Tells, hmissing, hconflict]

theorem concluded_of_isError {answer : Answer} (h : answer.isError = true) :
    concluded key answer = .error failure ↔ (ErrorDescription.ofAnswer answer).Tells key failure := by
  have hrange : ¬ (answer.status < 100 ∨ 999 < answer.status) := by
    simp only [Answer.isError, Bool.and_eq_true, decide_eq_true_eq] at h
    omega
  rw [ErrorDescription.tells_iff, concluded, Answer.toExcept, if_neg hrange, if_pos h, Except.error.injEq]

theorem concluded_of_not_isError {answer : Answer} (h : answer.isError = false)
    (hfailed : concluded key answer = .error failure) : failure = .kubernetes := by
  rw [concluded, Answer.toExcept] at hfailed
  split at hfailed
  · exact (Except.error.inj hfailed).symm
  · rw [if_neg (by rw [h]; exact Bool.false_ne_true)] at hfailed
    split at hfailed
    · cases hfailed
    · exact (Except.error.inj hfailed).symm

theorem concluded_ne_malformed (key : ResourceKey) (answer : Answer) (path : List String)
    (expected : String) : concluded key answer ≠ .error (.malformed path expected) := by
  intro hfailed
  cases h : answer.isError with
  | true => exact (concluded_of_isError h).1 hfailed
  | false => cases concluded_of_not_isError h hfailed

theorem target_eq_error {method : Method} {path : Option String} {body : Option Document}
    (h : target method path body = .error failure) : failure = .kubernetes := by
  cases path with
  | none => exact (Except.error.inj h).symm
  | some path => cases h

theorem objectToSend_eq_error (h : objectToSend doc = .error failure) : failure = .serialization := by
  rw [objectToSend] at h
  split at h
  · cases h
  · exact (Except.error.inj h).symm

theorem write_eq_error {method : Method} {path : Option String}
    (h : (objectToSend doc >>= fun object => target method path (some object)) = .error failure) :
    failure = .serialization ∨ failure = .kubernetes := by
  cases hobject : objectToSend doc with
  | error fault =>
    rw [hobject, error_bind] at h
    obtain rfl := Except.error.inj h
    exact .inl (objectToSend_eq_error hobject)
  | ok object =>
    rw [hobject, ok_bind] at h
    exact .inr (target_eq_error h)

theorem requestOf_eq_error (hplace : call.place? = some key) (h : requestOf call = .error failure) :
    failure = .serialization ∨ failure = .kubernetes := by
  cases call with
  | get kind «namespace» name => exact .inr (target_eq_error h)
  | create kind «namespace» own =>
    obtain ⟨name, hname, _⟩ := Option.map_eq_some_iff.1 hplace
    rw [requestOf, eq_ok_of_toOption hname, ok_bind] at h
    exact write_eq_error h
  | update kind «namespace» own =>
    obtain ⟨name, hname, _⟩ := Option.map_eq_some_iff.1 hplace
    rw [requestOf, eq_ok_of_toOption hname, ok_bind] at h
    exact write_eq_error h

theorem exec_ne_malformed (hplace : call.place? = some key) (path : List String) (expected : String) :
    (server.exec (ofStoreCall call) sent).1 ≠ .error (.malformed path expected) := by
  rw [exec_of_place hplace]
  cases hrequest : requestOf call with
  | ok request => exact concluded_ne_malformed key _ path expected
  | error failure =>
    intro hfailed
    obtain rfl := Except.error.inj hfailed
    rcases requestOf_eq_error hplace hrequest with heq | heq <;> cases heq

/-! ## The creation of a cluster -/

section Creation

variable {settings : Settings} {cluster : Cluster}

theorem readRecord?_owner (name uid : String) :
    readRecord? ["apiVersion", "kind", "name", "uid"]
      [("blockOwnerDeletion", .flag), ("controller", .flag)]
      (.object [("apiVersion", .text "kstone.tkestack.io/v1alpha1"), ("blockOwnerDeletion", .bool true),
        ("controller", .bool true), ("kind", .text "EtcdCluster"), ("name", .text name),
        ("uid", .text uid)]) =
      some (.object [("apiVersion", .text "kstone.tkestack.io/v1alpha1"),
        ("blockOwnerDeletion", .bool true), ("controller", .bool true), ("kind", .text "EtcdCluster"),
        ("name", .text name), ("uid", .text uid)]) := by
  generalize hmembers : [("apiVersion", Document.text "kstone.tkestack.io/v1alpha1"),
    ("blockOwnerDeletion", .bool true), ("controller", .bool true), ("kind", .text "EtcdCluster"),
    ("name", .text name), ("uid", .text uid)] = members
  have hrequired : readAlways? members ["apiVersion", "kind", "name", "uid"] =
      some [("apiVersion", .text "kstone.tkestack.io/v1alpha1"), ("kind", .text "EtcdCluster"),
        ("name", .text name), ("uid", .text uid)] := hmembers ▸ rfl
  have hoptional : readMembers? ScalarShape.read? members
      [("blockOwnerDeletion", .flag), ("controller", .flag)] =
      some [("blockOwnerDeletion", .bool true), ("controller", .bool true)] := hmembers ▸ rfl
  -- What may be missing is read after what may not, and has its place between it.
  have hsorted : (NameMap.ofEntries [("apiVersion", Document.text "kstone.tkestack.io/v1alpha1"),
      ("kind", .text "EtcdCluster"), ("name", .text name), ("uid", .text uid),
      ("blockOwnerDeletion", .bool true), ("controller", .bool true)]).entries = members := by
    simp only [← hmembers, NameMap.ofEntries, NameMap.insert, NameMap.empty, List.foldl_cons,
      List.foldl_nil, Entries.insert, Entries.find?, Entries.place, String.reduceEq, String.reduceLT,
      ↓reduceIte, Option.isSome_none, Bool.false_eq_true]
  simp only [readRecord?, object?, Option.bind_eq_bind, Option.bind_some, hrequired, hoptional]
  exact congrArg (fun entries => some (Document.object entries)) hsorted

def ownerShape : MemberShape :=
  .records ["apiVersion", "kind", "name", "uid"] [("blockOwnerDeletion", .flag), ("controller", .flag)]

theorem read?_ownerShape {name uid : String} {owners : Document}
    (h : ownerReferences name (some uid) = some owners) :
    owners.isNull = false ∧ ownerShape.read? owners = some owners := by
  obtain rfl := Option.some.inj h
  refine ⟨rfl, ?_⟩
  simp only [ownerShape, MemberShape.read?, listOf?, List.mapM_cons, List.mapM_nil, readRecord?_owner]
  rfl

theorem readMetadata?_resource (name «namespace» : String) (uid : Option String) :
    readMetadata? (.record
      [("name", some (.text name)), ("namespace", some (.text «namespace»)),
        ("ownerReferences", ownerReferences name uid)]) =
      some (.record
        [("name", some (.text name)), ("namespace", some (.text «namespace»)),
          ("ownerReferences", ownerReferences name uid)]) := by
  cases uid with
  | none => rfl
  | some uid =>
    obtain ⟨owners, howners⟩ : ∃ owners, ownerReferences name (some uid) = some owners := ⟨_, rfl⟩
    obtain ⟨hnull, hself⟩ := read?_ownerShape howners
    obtain ⟨members, hmembers⟩ : ∃ members, [("name", Document.text name),
        ("namespace", .text «namespace»), ("ownerReferences", owners)] = members := ⟨_, rfl⟩
    have hbefore : readMembers? MemberShape.read? members (metadataShapes.take 11) =
        some [("name", .text name), ("namespace", .text «namespace»)] := hmembers ▸ rfl
    have howner : member? members "ownerReferences" ownerShape.read? = some (some owners) := by
      rw [member?_of_some (hmembers ▸ rfl) hnull, hself, Option.map_some]
    have hafter : readMembers? MemberShape.read? members (metadataShapes.drop 12) = some [] :=
      hmembers ▸ rfl
    have hall : readMembers? MemberShape.read? members metadataShapes = some members := by
      rw [← hmembers] at *
      exact readMembers?_append hbefore
        (readMembers?_cons_eq_some_iff.2 ⟨some owners, [], howner, hafter, rfl⟩)
    have hrecord : Document.record [("name", some (.text name)),
        ("namespace", some (.text «namespace»)), ("ownerReferences", some owners)] =
        .object members := hmembers ▸ rfl
    rw [howners, hrecord, readMetadata?]
    simp only [object?, Option.bind_eq_bind, Option.bind_some, hall]
    rfl

theorem objectToSend_of_kept {members : List (String × Document)} (h : Kept members)
    (hwhole : TypeWhole members) : objectToSend (.object members) = .ok (.object members) := by
  obtain ⟨sent, hsent, _, _, hsame⟩ := h.exists_objectOfMembers?
  obtain rfl := hsame.2 hwhole
  rw [objectToSend, objectOfDocument?, object?, Option.bind_some, hsent]

theorem objectToSend_resource (cluster : Cluster) (kind : ResourceKind) :
    objectToSend (cluster.resource kind) = .ok (cluster.resource kind) := by
  have hkept : Kept [("apiVersion", .text kind.apiVersion), ("kind", .text kind.kind),
      ("metadata", .record
        [("name", some (.text cluster.name)), ("namespace", some (.text cluster.namespace)),
          ("ownerReferences", ownerReferences cluster.name cluster.metadata.uid)]),
      ("spec", cluster.desiredSpec)] := by
    have hnames : ["apiVersion", "kind", "metadata", "spec"].Pairwise (· < ·) := by decide
    refine ⟨List.pairwise_map.1 hnames, _, rfl, ?_⟩
    exact readMetadata?_resource cluster.name cluster.namespace cluster.metadata.uid
  exact objectToSend_of_kept hkept (.inl ⟨_, _, rfl, rfl⟩)

theorem settled_eq_error_iff {result : Except ProviderError Document} :
    settled result = .error failure ↔ result = .error failure ∧ failure.isAlreadyExists = false := by
  cases result with
  | ok doc => simp [settled]
  | error own =>
    rw [settled]
    constructor
    · intro h
      split at h
      · cases h
      · rename_i hexists
        obtain rfl := Except.error.inj h
        exact ⟨rfl, Bool.eq_false_iff.2 hexists⟩
    · rintro ⟨heq, hexists⟩
      obtain rfl := Except.error.inj heq
      rw [if_neg (Bool.eq_false_iff.1 hexists)]

theorem settled_eq_ok_iff {result : Except ProviderError Document} :
    settled result = .ok () ↔ (∃ doc, result = .ok doc) ∨
      ∃ failure, result = .error failure ∧ failure.isAlreadyExists = true := by
  cases result with
  | ok doc => simp [settled]
  | error own =>
    simp only [settled]
    split <;> simp_all

theorem settled_concluded_eq_ok_iff {answer : Answer} :
    settled (concluded key answer) = .ok () ↔
      (∃ doc, concluded key answer = .ok doc) ∨
        answer.isError = true ∧ (ErrorDescription.ofAnswer answer).Tells key (taken key) := by
  rw [settled_eq_ok_iff]
  refine or_congr_right ⟨?_, fun ⟨h, htells⟩ => ⟨taken key, (concluded_of_isError h).2 htells, rfl⟩⟩
  rintro ⟨failure, hfailed, hexists⟩
  cases h : answer.isError with
  | false =>
    rw [concluded_of_not_isError h hfailed] at hexists
    cases hexists
  | true =>
    have htells := (concluded_of_isError h).1 hfailed
    cases failure with
    | alreadyExists kind name «namespace» =>
      have hkey := htells.2.2
      exact ⟨rfl, hkey ▸ htells⟩
    | _ => cases hexists

end Creation

/-! ## The contract -/

theorem exec_relayed_create (settings : Settings) (cluster : Cluster) (server : Server)
    (h : cluster.name ≠ "") :
    server.exec (relayed (Operated.create settings cluster)) [] =
      let answered := asked server (Operated.key settings cluster)
        (target .post (collectionPath? settings.clusterResource cluster.namespace)
          (some (cluster.resource settings.clusterResource))) []
      (settled answered.1, answered.2) := by
  have hname := Operated.resourceName_resource cluster settings.clusterResource h
  have hrequest : requestOf (.create settings.clusterResource cluster.namespace
      (cluster.resource settings.clusterResource)) =
      target .post (collectionPath? settings.clusterResource cluster.namespace)
        (some (cluster.resource settings.clusterResource)) := by
    rw [requestOf, hname, ok_bind, objectToSend_resource, ok_bind]
  have hplace : (StoreCall.create settings.clusterResource cluster.namespace
      (cluster.resource settings.clusterResource)).place? = some (Operated.key settings cluster) :=
    (Store.place?_of_resourceName hname).1
  rw [exec_relayed, Operated.exec_create]
  dsimp only [Server.storeHandler]
  rw [exec_of_place hplace, hrequest]

theorem stores_fail_alike :
    (∀ call doc, StoreCall.doc? call = some doc →
      ((∃ failure, doc.resourceName = .error failure) ↔ ∀ name, doc.Carries name → name = "") ∧
      ((∃ key, call.place? = some key) ↔ ∃ name, doc.Carries name ∧ name ≠ "") ∧
      ∀ failure, doc.resourceName = .error failure →
        (∃ path expected, path <+: namePath ∧ failure = .malformed path expected) ∧
        (∀ (server : Server) sent, server.exec (ofStoreCall call) sent = (.error failure, sent)) ∧
        ∀ store : Store, store.answer call = (.error failure, store)) ∧
    (∀ call key, StoreCall.place? call = some key → ∀ path expected,
      (∀ (server : Server) sent,
        (server.exec (ofStoreCall call) sent).1 ≠ .error (.malformed path expected)) ∧
      ∀ store : Store, store.Reachable →
        (store.answer call).1 = .error (.malformed path expected) → path = versionPath) ∧
    (∀ (server : Server) call key sent request, StoreCall.place? call = some key →
      (server.exec (ofStoreCall call) sent).2 = sent ++ [request] →
      (server sent request).isError = true →
      ∀ failure, (server.exec (ofStoreCall call) sent).1 = .error failure ↔
        (ErrorDescription.ofAnswer (server sent request)).Tells key failure) ∧
    (∀ (store : Store) key, store.find? key = none →
      store.get key = .error (Store.missing key) ∧
      ∀ doc, doc.resourceName = .ok key.name →
        store.update key.kind key.namespace doc = .error (Store.missing key)) ∧
    (∀ (store : Store) key held, store.find? key = some held →
      ∀ doc, doc.resourceName = .ok key.name →
        store.create key.kind key.namespace doc = .error (taken key)) ∧
    (∀ settings cluster (server : Server),
      let kind := settings.clusterResource
      let outcome := server.exec (relayed (Operated.create settings cluster)) []
      (cluster.name = "" → outcome = (.error nameless, [])) ∧
      (cluster.name ≠ "" → collectionPath? kind cluster.namespace = none →
        outcome = (.error .kubernetes, [])) ∧
      ∀ path, cluster.name ≠ "" → collectionPath? kind cluster.namespace = some path →
        let request : Request := ⟨.post, path, some (cluster.resource kind)⟩
        let answer := server [] request
        let key := Operated.key settings cluster
        outcome.2 = [request] ∧
        (outcome.1 = .ok () ↔ (∃ created, concluded key answer = .ok created) ∨
          answer.isError = true ∧ (ErrorDescription.ofAnswer answer).Tells key (taken key)) ∧
        ∀ failure, outcome.1 = .error failure ↔
          concluded key answer = .error failure ∧ failure.isAlreadyExists = false) := by
  refine ⟨fun call doc hdoc => ⟨exists_resourceName_error_iff, exists_place_iff hdoc,
      fun failure hname => ⟨exists_malformed_of_resourceName hname,
        fun server sent => exec_of_nameless hdoc hname, fun store => answer_of_nameless store hdoc hname⟩⟩,
    fun call key hplace path expected => ⟨fun server sent => exec_ne_malformed hplace path expected,
      fun store hstore hfailed => path_of_answer_malformed hstore.wellNamed hplace hfailed⟩,
    fun server call key sent request hplace hsent hfailed failure => ?_,
    fun store key habsent => ⟨Store.get_eq_error_iff.2 ⟨habsent, rfl⟩,
      fun doc hname => update_of_absent hname habsent⟩,
    fun store key held hheld doc hname => Store.create_of_taken hname hheld,
    fun settings cluster server => ⟨fun hempty => ?_, fun hname hpath => ?_, fun path hname hpath => ?_⟩⟩
  · rw [exec_of_place hplace] at hsent ⊢
    cases hrequest : requestOf call with
    | error failure =>
      rw [hrequest] at hsent
      simp [asked] at hsent
    | ok own =>
      rw [hrequest] at hsent
      obtain rfl : own = request := by simpa [asked] using hsent
      exact concluded_of_isError hfailed
  · have hnameless : (cluster.resource settings.clusterResource).resourceName = .error nameless := by
      have hread : (cluster.resource settings.clusterResource).get? namePath =
          .ok (some (.text cluster.name)) := rfl
      rw [resourceName_eq_error_iff, hread, hempty]
      rfl
    rw [exec_relayed, Operated.exec_create]
    dsimp only [Server.storeHandler]
    rw [exec_of_nameless rfl hnameless]
    rfl
  · rw [exec_relayed_create settings cluster server hname, hpath]
    rfl
  · rw [exec_relayed_create settings cluster server hname, hpath]
    exact ⟨rfl, settled_concluded_eq_ok_iff, fun failure => settled_eq_error_iff⟩

end Kubernetes
end EtcdFleet
