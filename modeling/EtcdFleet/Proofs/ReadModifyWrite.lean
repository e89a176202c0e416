import Mathlib
import EtcdFleet.Proofs.FailureContract

set_option autoImplicit false

/-!
# What is read and written back

A document that an answer of the interface holds is sent back as it is, whether or not its `spec` has been replaced:
every member, all of its metadata, whatever else stands in it. The type is the exception. An object has its type or has
none, so what is left of a type with one part given up goes the way of the other.
-/

namespace EtcdFleet.Kubernetes

open Document

variable {server : Server} {members : List (String × Document)} {doc written : Document}
  {key : ResourceKey} {kind : ResourceKind} {«namespace» name : String} {sent : List Request}

/-! ## Paths -/

def resourceText (kind : ResourceKind) («namespace» name : String) : String :=
  collectionText kind «namespace» ++ "/" ++ name

/-- The whole of it can stand in a path. -/
def Sendable (kind : ResourceKind) («namespace» name : String) : Prop :=
  (resourceText kind «namespace» name).toList.all isPathChar = true ∧
    (resourceText kind «namespace» name ++ "?").utf8ByteSize ≤ longestTarget

instance (kind : ResourceKind) («namespace» name : String) :
    Decidable (Sendable kind «namespace» name) :=
  inferInstanceAs (Decidable (_ ∧ _))

theorem goesOn_of_isPathChar {c : Char} (h : isPathChar c = true) : (c != '?' && c != '#') = true := by
  have hquestion : c ≠ '?' := by
    rintro rfl
    revert h
    decide
  have hnumber : c ≠ '#' := by
    rintro rfl
    revert h
    decide
  simp [hquestion, hnumber]

theorem resourcePath?_of_sendable (method : Method) (hname : name ≠ "")
    (h : Sendable kind «namespace» name) :
    resourcePath? method kind «namespace» name = some (resourceText kind «namespace» name) := by
  obtain ⟨hchars, hsize⟩ := h
  have htaken : (resourceText kind «namespace» name).toList.takeWhile
      (fun c => c != '?' && c != '#') = (resourceText kind «namespace» name).toList := by
    refine List.takeWhile_eq_self_iff.2 fun c hc => ?_
    exact goesOn_of_isPathChar (List.all_eq_true.1 hchars c hc)
  have hmark : (resourceText kind «namespace» name ++ method.queryMark).utf8ByteSize ≤ longestTarget := by
    cases method with
    | get =>
      refine Nat.le_trans ?_ hsize
      simp [Method.queryMark]
    | post => exact hsize
    | put => exact hsize
  have hempty : name.isEmpty = false := by simpa using hname
  rw [resourcePath?, hempty, if_neg Bool.false_ne_true, ← resourceText, pathOf?]
  simp only [htaken, List.drop_length]
  rw [if_pos ⟨hmark, hchars, rfl⟩, String.ofList_toList]

/-! ## Documents out of answers -/

theorem kept_of_objectOfText? {text : String} (h : objectOfText? text = some doc) :
    ∃ members, doc = .object members ∧ Kept members := by
  obtain ⟨value, _, hvalue⟩ := Option.bind_eq_some_iff.1 h
  cases value with
  | object own =>
    simp only [objectOfWritten?, Option.bind_eq_bind, Option.bind_eq_some_iff] at hvalue
    obtain ⟨found, _, hfound⟩ := hvalue
    exact exists_kept_of_objectOfMembers? hfound
  | _ => cases hvalue

theorem kept_of_concluded {answer : Answer} (h : concluded key answer = .ok doc) :
    ∃ members, doc = .object members ∧ Kept members := by
  rw [concluded, Answer.toExcept] at h
  split at h
  · cases h
  · split at h
    · cases h
    · split at h
      · rename_i found hobject
        obtain rfl := Except.ok.inj h
        exact kept_of_objectOfText? hobject
      · cases h

theorem kept_of_asked {request : Except ProviderError Request}
    (h : (asked server key request sent).1 = .ok doc) : ∃ members, doc = .object members ∧ Kept members := by
  cases request with
  | ok request => exact kept_of_concluded h
  | error failure => cases h

theorem kept_of_exec {call : StoreCall} (h : (server.exec (ofStoreCall call) sent).1 = .ok doc) :
    ∃ members, doc = .object members ∧ Kept members := by
  cases call with
  | get kind «namespace» name =>
    rw [exec_of_place rfl] at h
    exact kept_of_asked h
  | create kind «namespace» own =>
    rw [ofStoreCall, exec_create] at h
    cases hname : own.resourceName with
    | ok name =>
      rw [hname] at h
      exact kept_of_asked h
    | error failure =>
      rw [hname] at h
      cases h
  | update kind «namespace» own =>
    rw [ofStoreCall, exec_update] at h
    cases hname : own.resourceName with
    | ok name =>
      rw [hname] at h
      exact kept_of_asked h
    | error failure =>
      rw [hname] at h
      cases h

/-! ## What is sent back -/

theorem Kept.insert (h : Kept members) (hname : name ≠ "metadata") (value : Document) :
    Kept (Entries.insert name value members) := by
  obtain ⟨metadata, hmetadata, hread⟩ := h.metadata
  refine ⟨h.ordered.insert name value, metadata, ?_, hread⟩
  rw [Entries.find?_insert_of_ne value members (Ne.symm hname), hmetadata]

/-- The type of the document has both its parts, or none. -/
def WholeType (doc : Document) : Prop := ∃ members, doc = .object members ∧ TypeWhole members

def SameBut (names : List String) (doc other : Document) : Prop :=
  ∃ members others, doc = .object members ∧ other = .object others ∧
    ∀ name, name ∉ names → Entries.find? name members = Entries.find? name others

/-- Nothing is lost of the document but what is left of its type. -/
structure SentAs (doc object : Document) : Prop where
  others : SameBut ["apiVersion", "kind"] doc object
  whole : object = doc ↔ WholeType doc

theorem Kept.exists_sentAs (h : Kept members) :
    ∃ object, objectOfDocument? (.object members) = some object ∧ SentAs (.object members) object := by
  obtain ⟨object, hobject, _, hothers, hsame⟩ := h.exists_objectOfMembers?
  refine ⟨.object object, hobject, ⟨members, object, rfl, rfl, fun name hname => ?_⟩, ?_⟩
  · simp only [List.mem_cons, List.not_mem_nil, or_false, not_or] at hname
    exact (hothers name hname.1 hname.2).symm
  · rw [Document.object.injEq, hsame]
    constructor
    · exact fun hwhole => ⟨members, rfl, hwhole⟩
    · rintro ⟨own, hown, hwhole⟩
      rwa [Document.object.inj hown]

theorem requestOf_get (hname : name ≠ "") (hsendable : Sendable kind «namespace» name) :
    requestOf (.get kind «namespace» name) = .ok ⟨.get, resourceText kind «namespace» name, none⟩ := by
  rw [requestOf, resourcePath?_of_sendable _ hname hsendable]
  rfl

theorem requestOf_update {object : Document} (hname : doc.resourceName = .ok name)
    (hsendable : Sendable kind «namespace» name) (hobject : objectOfDocument? doc = some object) :
    requestOf (.update kind «namespace» doc) =
      .ok ⟨.put, resourceText kind «namespace» name, some object⟩ := by
  have hne := (resourceName_eq_ok_iff.1 hname).2
  rw [requestOf, hname, ok_bind, objectToSend, hobject, ok_bind, resourcePath?_of_sendable _ hne hsendable]
  rfl

theorem exec_update_of_object {object : Document} (hname : doc.resourceName = .ok name)
    (hsendable : Sendable kind «namespace» name) (hobject : objectOfDocument? doc = some object) :
    server.exec (update kind «namespace» doc) sent =
      let request : Request := ⟨.put, resourceText kind «namespace» name, some object⟩
      (concluded ⟨kind, «namespace», name⟩ (server sent request), sent ++ [request]) := by
  rw [exec_update, hname]
  dsimp only
  rw [requestOf_update hname hsendable hobject]
  rfl

/-! ## Another spec -/

theorem put_spec (members : List (String × Document)) (value : Document) :
    (Document.object members).put Operated.specPath value =
      .ok (.object (Entries.insert "spec" value members)) := rfl

theorem wholeType_insert_spec (value : Document) :
    WholeType (.object (Entries.insert "spec" value members)) ↔ WholeType (.object members) := by
  have hapi := Entries.find?_insert_of_ne value members (by decide : "apiVersion" ≠ "spec")
  have hkind := Entries.find?_insert_of_ne value members (by decide : "kind" ≠ "spec")
  simp [WholeType, TypeWhole, hapi, hkind]

def Revised (doc written : Document) : Prop :=
  written = doc ∨ ∃ spec, doc.put Operated.specPath spec = .ok written

theorem Kept.of_revised (h : Kept members) (hrevised : Revised (.object members) written) :
    ∃ others, written = .object others ∧ Kept others ∧
      SameBut ["spec"] (.object members) written ∧ written.resourceName = (Document.object members).resourceName ∧
      (WholeType written ↔ WholeType (.object members)) := by
  rcases hrevised with rfl | ⟨spec, hspec⟩
  · exact ⟨members, rfl, h, ⟨members, members, rfl, rfl, fun _ _ => rfl⟩, rfl, .rfl⟩
  · obtain rfl := Except.ok.inj ((put_spec members spec).symm.trans hspec)
    refine ⟨_, rfl, h.insert (by decide) spec, ⟨members, _, rfl, rfl, fun name hname => ?_⟩,
      Operated.resourceName_put_spec hspec, wholeType_insert_spec spec⟩
    have hne : name ≠ "spec" := by simpa using hname
    exact (Entries.find?_insert_of_ne spec members hne).symm

/-- An update of a document that has been read is one request, with the whole of it. -/
theorem Kept.exec_update_of_revised (h : Kept members) (hname : (Document.object members).resourceName = .ok name)
    (hsendable : Sendable kind «namespace» name) (hrevised : Revised (.object members) written) :
    ∃ object, objectOfDocument? written = some object ∧ SentAs written object ∧
      ∀ (server : Server) sent, server.exec (update kind «namespace» written) sent =
        let request : Request := ⟨.put, resourceText kind «namespace» name, some object⟩
        (concluded ⟨kind, «namespace», name⟩ (server sent request), sent ++ [request]) := by
  obtain ⟨others, rfl, hkept, _, hsame, _⟩ := h.of_revised hrevised
  obtain ⟨object, hobject, hsent⟩ := hkept.exists_sentAs
  exact ⟨object, hobject, hsent, fun server sent =>
    exec_update_of_object (hsame.trans hname) hsendable hobject⟩

/-! ## Whole rounds -/

theorem revisions_are_sent_whole :
    (∀ (server : Server) call sent doc, (server.exec (ofStoreCall call) sent).1 = .ok doc →
      (∃ object, objectOfDocument? doc = some object ∧ SentAs doc object) ∧
      (∀ spec, ∃ written, doc.put Operated.specPath (.object spec) = .ok written) ∧
      ∀ kind «namespace» name written, doc.Carries name → name ≠ "" → Sendable kind «namespace» name →
        Revised doc written →
        SameBut ["spec"] doc written ∧ (WholeType written ↔ WholeType doc) ∧
        ∃ object, SentAs written object ∧
          ∀ (later : Server) before, later.exec (update kind «namespace» written) before =
            let request : Request := ⟨.put, resourceText kind «namespace» name, some object⟩
            (concluded ⟨kind, «namespace», name⟩ (later before request), before ++ [request])) ∧
    (∀ (server : Server) settings cluster doc spec path name,
      let kind := settings.clusterResource
      let fetch : Request := ⟨.get, path, none⟩
      resourcePath? .get kind cluster.namespace cluster.name = some path →
      concluded (Operated.key settings cluster) (server [] fetch) = .ok doc →
      doc.getObject? Operated.specPath = .ok (some spec) →
      doc.Carries name → name ≠ "" → Sendable kind cluster.namespace name →
      ∃ written object, doc.put Operated.specPath cluster.desiredSpec = .ok written ∧
        SameBut ["spec"] doc written ∧ (WholeType written ↔ WholeType doc) ∧ SentAs written object ∧
        let request : Request := ⟨.put, resourceText kind cluster.namespace name, some object⟩
        server.exec (relayed (Operated.update settings cluster)) [] =
          ((concluded ⟨kind, cluster.namespace, name⟩ (server [fetch] request)).map fun _ => (),
            [fetch, request])) := by
  constructor
  · intro server call sent doc hread
    obtain ⟨members, rfl, hkept⟩ := kept_of_exec hread
    refine ⟨hkept.exists_sentAs, fun spec => ⟨_, put_spec members (.object spec)⟩,
      fun kind «namespace» name written hcarries hne hsendable hrevised => ?_⟩
    have hname := resourceName_eq_ok_iff_carries.2 ⟨hcarries, hne⟩
    obtain ⟨_, _, _, hothers, _, hwhole⟩ := hkept.of_revised hrevised
    obtain ⟨object, _, hsent, hexec⟩ := hkept.exec_update_of_revised hname hsendable hrevised
    exact ⟨hothers, hwhole, object, hsent, hexec⟩
  · intro server settings cluster doc spec path name kind fetch hpath hread hspec hcarries hne hsendable
    obtain ⟨members, rfl, hkept⟩ := kept_of_concluded hread
    have hname := resourceName_eq_ok_iff_carries.2 ⟨hcarries, hne⟩
    have hput := put_spec members cluster.desiredSpec
    have hrevised : Revised (.object members) _ := .inr ⟨_, hput⟩
    obtain ⟨_, _, _, hothers, _, hwhole⟩ := hkept.of_revised hrevised
    obtain ⟨object, _, hsent, hexec⟩ := hkept.exec_update_of_revised hname hsendable hrevised
    have hfetch : server.exec (ofStoreCall (.get kind cluster.namespace cluster.name)) [] =
        (.ok (.object members), [fetch]) := by
      rw [exec_of_place rfl, requestOf, hpath, ← hread]
      rfl
    have hrespecified : Operated.respecified cluster (.object members) = .ok _ :=
      Operated.respecified_eq_ok_iff.2 ⟨⟨spec, Operated.getObject?_eq_ok_iff.1 hspec⟩, hput⟩
    refine ⟨_, object, hput, hothers, hwhole, hsent, ?_⟩
    have hreply : (server.storeHandler (.get kind cluster.namespace cluster.name) []).reply =
        .ok (.object members) := congrArg Prod.fst hfetch
    have hstate : (server.storeHandler (.get kind cluster.namespace cluster.name) []).state = [fetch] :=
      congrArg Prod.snd hfetch
    rw [exec_relayed, Operated.exec_update_of_respecified server.storeHandler hreply hrespecified]
    dsimp only
    rw [hstate]
    dsimp only [Server.storeHandler, ofStoreCall]
    rw [hexec]
    rfl

/-! ## Half a type -/

def etcdKind : ResourceKind := ⟨"etcd.tkestack.io", "v1alpha1", "EtcdCluster", "etcdclusters"⟩

def versionless : Server := fun _ _ =>
  ⟨200, "\x7b\"apiVersion\":7,\"kind\":\"K\",\"metadata\":\x7b\"name\":\"a\"\x7d\x7d"⟩

def halfTyped : Document :=
  .object [("kind", .text "K"), ("metadata", .object [("name", .text "a")])]

def untyped : Document := .object [("metadata", .object [("name", .text "a")])]

theorem objectOfText?_versionless (sent : List Request) (request : Request) :
    objectOfText? (versionless sent request).text = some halfTyped := by
  rw [versionless, halfTyped]
  cbv

theorem concluded_versionless (key : ResourceKey) (sent : List Request) (request : Request) :
    concluded key (versionless sent request) = .ok halfTyped := by
  have hstatus : (versionless sent request).status = 200 := rfl
  rw [concluded, Answer.toExcept, Answer.isError, hstatus, objectOfText?_versionless]
  simp

theorem objectOfDocument?_halfTyped : objectOfDocument? halfTyped = some untyped := rfl

/-- The kind that was read is not sent back. -/
theorem half_a_type_is_not_sent_back :
    (versionless.exec (get etcdKind "ns" "a") []).1 = .ok halfTyped ∧ halfTyped.Carries "a" ∧
      Sendable etcdKind "ns" "a" ∧
      (versionless.exec (update etcdKind "ns" halfTyped) []).2 =
        [⟨.put, resourceText etcdKind "ns" "a", some untyped⟩] ∧
      untyped ≠ halfTyped := by
  have hsendable : Sendable etcdKind "ns" "a" := by decide
  have hcarries : halfTyped.Carries "a" := ⟨_, _, rfl, rfl, rfl⟩
  have hname : halfTyped.resourceName = .ok "a" :=
    resourceName_eq_ok_iff_carries.2 ⟨hcarries, by decide⟩
  refine ⟨?_, hcarries, hsendable, ?_, fun h => ?_⟩
  · rw [exec_get, requestOf_get (by decide) hsendable]
    simp only [asked, concluded_versionless]
  · rw [exec_update_of_object hname hsendable objectOfDocument?_halfTyped]
    simp only [List.nil_append]
  · have hlength := congrArg (fun doc => (doc.object?.getD []).length) h
    cases hlength

end EtcdFleet.Kubernetes
