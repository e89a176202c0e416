import EtcdFleet.Proofs.BuiltinFeatures
import EtcdFleet.Proofs.ExactTexts

set_option autoImplicit false

/-!
# Tasks read back

A backend over a store writes a task as a document, and a task is read from a document by its own function, at
paths of its own. What was enqueued reads back as itself, and with the time of its creation once the cluster has
stamped it; until then it has none. To the backend it is there from then on, and nothing else is.
-/

namespace EtcdFleet

namespace Task

variable {doc stamped : Document}

theorem creation_of_absent (h : doc.get? creationPath = .ok none) : creation doc = .ok none := by
  rw [creation, Document.getText?_of_none h]
  rfl

theorem creation_of_stamped {text : String} {instant : Instant}
    (h : doc.put creationPath (.text text) = .ok stamped)
    (hread : Instant.ofExactText? text = some instant) : creation stamped = .ok (some instant) := by
  have hget : stamped.get? creationPath = .ok (some (.text text)) :=
    Document.get?_put_self (by decide) rfl h
  rw [creation, Document.getText?_of_get? hget, ok_bind]
  dsimp only
  rw [hread]
  rfl

theorem requiredText_of_getText? {path : Path} {text : String}
    (h : doc.getText? path = .ok (some text)) : requiredText doc path = .ok text := by
  rw [requiredText, h]
  rfl

end Task

namespace Scheduling

open Program (exec)

/-! ## Reading a task -/

namespace Purpose

variable {purpose : Purpose} {doc written : Document}

theorem SaidBy.put (h : purpose.SaidBy doc) {path : Path} {value : Document}
    (hapart : ∀ entry ∈ purpose.texts, Path.Apart path entry.1)
    (hwritten : doc.put path value = .ok written) : purpose.SaidBy written := by
  intro entry hentry
  have hget := Document.get?_put_of_apart (hapart entry hentry) hwritten
  have hsame : written.getText? entry.1 = doc.getText? entry.1 := Document.getAs?_congr hget _ _
  exact hsame.trans (h entry hentry)

theorem creationPath_apart (purpose : Purpose) :
    ∀ entry ∈ purpose.texts, Path.Apart Task.creationPath entry.1 := by
  simp only [texts, List.forall_mem_cons, List.not_mem_nil, IsEmpty.forall_iff, implies_true,
    and_true]
  decide

theorem SaidBy.ofResource (h : purpose.SaidBy doc) {createdAt : Option Instant}
    (hcreation : Task.creation doc = .ok createdAt) :
    Task.ofResource doc = .ok ⟨Task.nameFor purpose.cluster purpose.feature, purpose.namespace,
      purpose.cluster, purpose.feature, createdAt⟩ := by
  simp only [SaidBy, texts, List.forall_mem_cons, List.not_mem_nil, IsEmpty.forall_iff,
    implies_true, and_true] at h
  obtain ⟨hname, hnamespace, _, _, hcluster, hfeature⟩ := h
  rw [Task.ofResource, hcreation, ok_bind, Task.requiredText_of_getText? hname, ok_bind,
    Task.requiredText_of_getText? hnamespace, ok_bind, Task.requiredText_of_getText? hcluster,
    ok_bind, Task.requiredText_of_getText? hfeature]
  rfl

end Purpose

/-- No task is written with a time. -/
theorem Errand.get?_creationPath (errand : Errand) :
    errand.document.get? Task.creationPath = .ok none := by
  obtain ⟨_, _, ⟨⟨name, «namespace», uid, labels, annotations⟩, _, _⟩, _⟩ := errand
  cases uid <;> rfl

/-! ## The backend alone -/

section Calls

variable (collector : Task → Except ProviderError Unit) (errand : Errand) (store : Store)

theorem exec_backend_exists :
    exec (Backend.overStore collector) (errand.backend.exists errand.cluster errand.feature.name)
        store = (.ok (store.find? errand.task).isSome, store) := by
  change exec _ (Program.attempt (Backend.storeCall errand.look) >>= _) store = _
  have hlook : exec (Backend.overStore collector) (Backend.storeCall errand.look) store =
      store.answer errand.look := rfl
  rw [Program.exec_attempt_bind, hlook, Errand.answer_look, Store.get]
  cases store.find? errand.task <;> rfl

theorem exec_backend_enqueue :
    exec (Backend.overStore collector) (errand.backend.enqueue errand.cluster errand.feature.name)
        store =
      ((store.answer errand.order).1.map fun _ =>
        Task.ofCluster errand.cluster errand.feature.name, errand.ordered store) := by
  rw [backend_enqueue, Program.exec_ask]
  rfl

end Calls

/-- A task that is not there is enqueued, and reads back as itself from then on. -/
theorem enqueued_reads_back (kind : ResourceKind) (collector : Task → Except ProviderError Unit)
    (store : Store) (cluster : Cluster) (feature : String)
    (habsent : store.find? ⟨kind, cluster.namespace, Task.nameFor cluster.name feature⟩ = none) :
    let enqueue := exec (Backend.overStore collector)
      ((Backend.ofStore kind).enqueue cluster feature)
    let isThere := fun (other : Cluster) (otherFeature : String) =>
      exec (Backend.overStore collector) ((Backend.ofStore kind).exists other otherFeature)
    let task := Task.ofCluster cluster feature
    ∃ doc after, enqueue store = (.ok task, after) ∧
      after.get ⟨kind, task.namespace, task.name⟩ = .ok doc ∧ Task.ofResource doc = .ok task ∧
      (∀ stamp : Instant.Stamp, ∃ stamped,
        doc.put Task.creationPath (.text stamp.text) = .ok stamped ∧
        Task.ofResource stamped = .ok { task with createdAt := some stamp.instant }) ∧
      enqueue after = (.error (.alreadyExists kind.kind task.name task.namespace), after) ∧
      ∀ other otherFeature, ∃ before later, isThere other otherFeature store = (.ok before, store) ∧
        isThere other otherFeature after = (.ok later, after) ∧
        (before = false ∧ later = true ↔ other.namespace = cluster.namespace ∧
          Task.nameFor other.name otherFeature = Task.nameFor cluster.name feature) ∧
        (¬ (other.namespace = cluster.namespace ∧
          Task.nameFor other.name otherFeature = Task.nameFor cluster.name feature) →
            later = before) := by
  intro enqueue isThere task
  let request : Request := ⟨cluster, feature⟩
  let errand := request.errand kind
  obtain ⟨doc, hwritten, hanswer⟩ := @Errand.exists_answer_order errand store habsent
  have hordered : errand.ordered store = store.put errand.task doc := congrArg Prod.snd hanswer
  have hsaid : request.purpose.SaidBy doc := request.saidBy_document hwritten
  have hcreation : doc.get? Task.creationPath = .ok none :=
    (Document.get?_withVersion_of_apart (by decide) hwritten).trans errand.get?_creationPath
  refine ⟨doc, store.put errand.task doc, ?_, Store.get_put_self .., ?_, ?_, ?_, ?_⟩
  · have henqueue := exec_backend_enqueue collector errand store
    rw [hanswer, hordered] at henqueue
    exact henqueue
  · exact hsaid.ofResource (Task.creation_of_absent hcreation)
  · intro stamp
    obtain ⟨stamped, hstamped⟩ := Document.exists_put_of_get? hcreation (.text stamp.text)
    have hread := Task.creation_of_stamped hstamped (Instant.ofExactText?_text stamp)
    exact ⟨stamped, hstamped,
      (hsaid.put request.purpose.creationPath_apart hstamped).ofResource hread⟩
  · have htaken : (store.put errand.task doc).find? errand.task = some doc :=
      store.find?_put_self errand.task doc
    have hagain := exec_backend_enqueue collector errand (store.put errand.task doc)
    rw [Errand.ordered_of_taken htaken, Errand.order, Store.answer,
      Store.create_of_taken errand.resourceName_document htaken] at hagain
    exact hagain
  · intro other otherFeature
    let asked := (Request.mk other otherFeature).errand kind
    refine ⟨_, _, exec_backend_exists collector asked store,
      exec_backend_exists collector asked (store.put errand.task doc), ?_⟩
    have hsame : asked.task = errand.task ↔ other.namespace = cluster.namespace ∧
        Task.nameFor other.name otherFeature = Task.nameFor cluster.name feature := by
      change ResourceKey.mk kind _ _ = ResourceKey.mk kind _ _ ↔ _
      rw [ResourceKey.mk.injEq, eq_self_iff_true, true_and]
      rfl
    rw [← hsame, Store.find?_put]
    by_cases hkey : asked.task = errand.task
    · have hnone : store.find? errand.task = none := habsent
      simp [hkey, hnone]
    · simp [hkey]

/-- The last second of a leap day, on a clock that is ahead, with half of the leap second gone. -/
def leapStamp : Instant.Stamp where
  year := 2024
  month := 2
  day := 29
  hour := 23
  minute := 59
  second := 60
  fraction := ['5']
  separator := 't'
  zone := .ahead 1 30 (by decide) (by decide)
  year_le := by decide
  date_valid := by decide
  hour_le := by decide
  minute_le := by decide
  second_le := by decide
  fraction_digits := List.forall_mem_singleton.2 rfl
  separator_known := by decide

def ownedCluster : Cluster :=
  { Operated.smallCluster with
    metadata := { Operated.smallCluster.metadata with uid := some "5f0c" } }

theorem enqueued_reads_back_on_leap_day :
    Store.empty.find? ⟨.etcdInspection, ownedCluster.namespace,
      Task.nameFor ownedCluster.name "backup"⟩ = none ∧
    leapStamp.text = "2024-02-29t23:59:60.5+01:30" ∧
    ∃ doc stamped : Document,
      (exec (Backend.overStore fun _ => .ok ())
        ((Backend.ofStore .etcdInspection).enqueue ownedCluster "backup") .empty).2.get
          ⟨.etcdInspection, "ns", "a-backup"⟩ = .ok doc ∧
      doc.put Task.creationPath (.text leapStamp.text) = .ok stamped ∧
      Task.ofResource stamped =
        .ok ⟨"a-backup", "ns", "a", "backup", some ⟨1709245799, 1500000000⟩⟩ := by
  have habsent : Store.empty.find? ⟨.etcdInspection, ownedCluster.namespace,
      Task.nameFor ownedCluster.name "backup"⟩ = none := rfl
  have hinstant : leapStamp.instant = ⟨1709245799, 1500000000⟩ := by decide
  obtain ⟨doc, after, henqueue, hget, _, hstamped, _⟩ :=
    enqueued_reads_back .etcdInspection (fun _ => .ok ()) .empty ownedCluster "backup" habsent
  obtain ⟨stamped, hput, hread⟩ := hstamped leapStamp
  rw [hinstant] at hread
  refine ⟨habsent, rfl, doc, stamped, ?_, hput, hread⟩
  rw [henqueue]
  exact hget

end Scheduling
end EtcdFleet
