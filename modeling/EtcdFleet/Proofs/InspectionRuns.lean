import EtcdFleet.Proofs.Execution
import EtcdFleet.Proofs.Scheduling

set_option autoImplicit false

/-!
# One call on a feature

What a call at a feature that is ready, or through its manager, comes to on a state that nobody else uses, as
plain functions of that state. Whatever the call, all that it leaves is what the order of a task leaves in
the store: a task where there was none, and nothing new where there was one.
-/

namespace EtcdFleet.Scheduling

open Program (exec)

variable {connector : Inspections.Connector Store} {collector : Task → Except ProviderError Unit}
  {errand : Errand} {state after : Inspections Store}

/-! ## The order of a task -/

namespace Errand

def ordered (errand : Errand) (store : Store) : Store := (store.answer errand.order).2

def settled (errand : Errand) (state : Inspections Store) : Inspections Store :=
  { state with outside := errand.ordered state.outside }

theorem resourceName_document (errand : Errand) :
    errand.document.resourceName = .ok errand.task.name :=
  Task.resourceName_resource ..

theorem ordered_of_taken {store : Store} {doc : Document} (h : store.find? errand.task = some doc) :
    errand.ordered store = store := by
  rw [ordered, order, Store.answer, Store.create_of_taken errand.resourceName_document h]
  rfl

theorem exists_answer_order {store : Store} (h : store.find? errand.task = none) :
    ∃ written, errand.document.withVersion 1 = .ok written ∧
      store.answer errand.order = (.ok written, store.put errand.task written) := by
  obtain ⟨written, hwritten⟩ := Document.exists_withVersion errand.resourceName_document 1
  refine ⟨written, hwritten, ?_⟩
  rw [order, Store.answer,
    Store.create_eq_ok_iff.2 ⟨_, errand.resourceName_document, h, hwritten, rfl⟩]
  rfl

theorem isSome_find?_ordered (errand : Errand) (store : Store) :
    ((errand.ordered store).find? errand.task).isSome = true := by
  cases h : store.find? errand.task with
  | some doc => rw [ordered_of_taken h, h, Option.isSome_some]
  | none =>
    obtain ⟨written, _, hanswer⟩ := exists_answer_order h
    rw [ordered, hanswer, Store.find?_put_self, Option.isSome_some]

theorem find?_ordered_of_ne (errand : Errand) (store : Store) {key : ResourceKey}
    (hkey : key ≠ errand.task) : (errand.ordered store).find? key = store.find? key := by
  cases h : store.find? errand.task with
  | some doc => rw [ordered_of_taken h]
  | none =>
    obtain ⟨written, _, hanswer⟩ := exists_answer_order h
    rw [ordered, hanswer, Store.find?_put_of_ne _ _ hkey]

theorem isSome_find?_ordered_of_isSome {store : Store} {key : ResourceKey}
    (h : (store.find? key).isSome = true) : ((errand.ordered store).find? key).isSome = true := by
  by_cases hkey : key = errand.task
  · rw [hkey]
    exact errand.isSome_find?_ordered store
  · rw [errand.find?_ordered_of_ne store hkey]
    exact h

theorem find?_ordered_cases {store : Store} {key : ResourceKey} {doc : Document}
    (h : (errand.ordered store).find? key = some doc) :
    store.find? key = some doc ∨
      (key = errand.task ∧ errand.document.withVersion 1 = .ok doc) := by
  by_cases hkey : key = errand.task
  · subst hkey
    cases hfound : store.find? errand.task with
    | some held =>
      rw [ordered_of_taken hfound, hfound] at h
      exact .inl h
    | none =>
      obtain ⟨written, hwritten, hanswer⟩ := exists_answer_order hfound
      rw [ordered, hanswer, Store.find?_put_self] at h
      exact .inr ⟨rfl, hwritten.trans (congrArg _ (Option.some.inj h))⟩
  · rw [errand.find?_ordered_of_ne store hkey] at h
    exact .inl h

theorem Ready.settled {other : Errand} (h : errand.Ready state) : errand.Ready (other.settled state) := h

end Errand

/-! ## Calls at a feature that is ready -/

theorem exec_require (h : errand.Ready state) :
    exec (handler connector collector) (FeatureWork.require errand.feature) state =
      (.ok (), state) := by
  have hreply : state.required errand.feature = .ok () := if_pos h.connected
  change (state.required errand.feature, state) = _
  rw [hreply]

variable (connector) (collector) in
theorem exec_exists (errand : Errand) (state : Inspections Store) :
    exec (handler connector collector)
        (FeatureWork.onBackend (errand.backend.exists errand.cluster errand.feature.name)) state =
      (.ok (state.outside.find? errand.task).isSome, state) := by
  rw [onBackend_exists, Program.exec_ask, handler_store, Errand.answer_look, Store.get]
  cases state.outside.find? errand.task <;> rfl

theorem exec_detect (h : errand.Ready state) :
    exec (handler connector collector) (errand.feature.detect errand.backend errand.cluster) state =
      (.ok (state.outside.find? errand.task).isNone, state) := by
  rw [Feature.detect, Program.exec_bind_of_ok (exec_require h),
    Program.exec_bind_of_ok (exec_exists connector collector errand state)]
  cases state.outside.find? errand.task <;> rfl

variable (connector) (collector) in
theorem exec_attempt_enqueue (errand : Errand) (state : Inspections Store) :
    exec (handler connector collector)
        (Program.attempt
          (FeatureWork.onBackend (errand.backend.enqueue errand.cluster errand.feature.name))) state =
      (.ok ((state.outside.answer errand.order).1.map fun _ =>
        Task.ofCluster errand.cluster errand.feature.name), errand.settled state) := by
  rw [attempt_enqueue, Program.exec_ask, handler_store]
  rfl

theorem exec_sync (h : errand.Ready state) :
    exec (handler connector collector) (errand.feature.sync errand.backend errand.cluster) state =
      (.ok (), errand.settled state) := by
  have hexists := exec_exists connector collector errand state
  rw [Feature.sync, Program.exec_bind_of_ok (exec_require h), Program.exec_bind_of_ok hexists]
  cases hfound : state.outside.find? errand.task with
  | some doc =>
    rw [Errand.settled, Errand.ordered_of_taken hfound]
    rfl
  | none =>
    obtain ⟨written, _, hanswer⟩ := Errand.exists_answer_order hfound
    change exec _ (Program.attempt _ >>= _) state = _
    rw [Program.exec_bind_of_ok (exec_attempt_enqueue connector collector errand state), hanswer]
    rfl

variable (connector) (collector) in
theorem exec_obtain (slot : String) (state : Inspections Store) :
    exec (handler connector collector) (FeatureWork.obtain slot) state = state.built slot := by
  have hreply : (handler connector collector (.find slot) state).reply = state.found? slot := rfl
  rw [FeatureWork.obtain, Program.exec_ask, hreply]
  cases hfound : state.found? slot with
  | some feature =>
    rw [Inspections.built, hfound]
    rfl
  | none => rfl

variable (connector) (collector) in
theorem exec_connect (feature : Feature) (state : Inspections Store) :
    exec (handler connector collector) (FeatureWork.connect feature) state =
      ((state.connected connector feature).reply, (state.connected connector feature).state) := rfl

theorem exec_feature (h : errand.Ready state) :
    exec (handler connector collector) (Manager.feature errand.feature.slot) state =
      (.ok errand.feature, state) := by
  have hfound : state.found? errand.feature.slot = some errand.feature := by
    rw [Inspections.found?, h]
    rfl
  have hobtain := exec_obtain connector collector errand.feature.slot state
  rw [Inspections.built, hfound] at hobtain
  have hconnect := exec_connect connector collector errand.feature state
  rw [Inspections.connected_of_connected connector h.connected] at hconnect
  rw [Manager.feature, Program.exec_bind_of_ok hobtain, Program.exec_bind_of_ok hconnect]
  rfl

/-- Once it has its feature, the manager goes by what is in the store then. -/
theorem exec_reconcile_of_feature
    (hfeature : exec (handler connector collector) (Manager.feature errand.feature.slot) state =
      (.ok errand.feature, after)) (hready : errand.Ready after) :
    exec (handler connector collector)
        (Manager.reconcile errand.backend errand.cluster errand.feature.slot) state =
      (.ok (after.outside.find? errand.task).isNone, errand.settled after) := by
  rw [Manager.reconcile, Program.exec_bind_of_ok hfeature,
    Program.exec_bind_of_ok (exec_detect hready)]
  cases hfound : after.outside.find? errand.task with
  | some doc =>
    rw [Errand.settled, Errand.ordered_of_taken hfound]
    rfl
  | none =>
    change exec _ (errand.feature.sync errand.backend errand.cluster >>= _) after = _
    rw [Program.exec_bind_of_ok (exec_sync hready)]
    rfl

theorem exec_reconcile (h : errand.Ready state) :
    exec (handler connector collector)
        (Manager.reconcile errand.backend errand.cluster errand.feature.slot) state =
      (.ok (state.outside.find? errand.task).isNone, errand.settled state) :=
  exec_reconcile_of_feature (exec_feature h) h

/-- What a call leaves does not depend on whether it went through the manager. -/
theorem exec_program (h : errand.Ready state) :
    exec (handler connector collector) errand.program state =
      (.ok (if errand.managed then some (state.outside.find? errand.task).isNone else none),
        errand.settled state) := by
  unfold Errand.program
  by_cases hmanaged : errand.managed = true
  · rw [if_pos hmanaged, if_pos hmanaged, Program.exec_bind_of_ok (exec_reconcile h)]
    rfl
  · rw [if_neg hmanaged, if_neg hmanaged, Program.exec_bind_of_ok (exec_sync h)]
    rfl

end EtcdFleet.Scheduling
