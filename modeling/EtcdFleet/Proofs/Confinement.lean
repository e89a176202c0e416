import EtcdFleet.Proofs.Assurance
import EtcdFleet.Proofs.OperatedRuns
import EtcdFleet.Proofs.OptimisticVersions

set_option autoImplicit false

/-!
# Programs confined to some keys of a store

A program is confined to some keys if it asks about no other, as long as every document that it is given
carries the name of its key. Of a store whose documents do, such a program sees only what is under these
keys, and it changes nothing else. So a client that shares a store with clients confined to other keys goes
on as if it were alone.
-/

namespace EtcdFleet

namespace Store

variable {store other : Store} {call : StoreCall} {key : ResourceKey}

/-! ## One answer -/

/-- All that a call can do to a store is put its own reply at its own key. -/
theorem answer_eq_or (store : Store) (call : StoreCall) :
    (store.answer call).2 = store ∨ ∃ place written, call.place? = some place ∧
      written.resourceName = .ok place.name ∧
      store.answer call = (.ok written, store.put place written) := by
  cases call with
  | get kind «namespace» name => exact .inl rfl
  | create kind «namespace» doc =>
    rw [answer]
    cases hcreate : store.create kind «namespace» doc with
    | error failure => exact .inl rfl
    | ok result =>
      obtain ⟨written, after⟩ := result
      obtain ⟨name, hname, _, hwritten, rfl⟩ := create_eq_ok_iff.1 hcreate
      exact .inr ⟨_, written, (place?_of_resourceName hname).1,
        (Document.resourceName_withVersion hwritten).trans hname, rfl⟩
  | update kind «namespace» doc =>
    rw [answer]
    cases hupdate : store.update kind «namespace» doc with
    | error failure => exact .inl rfl
    | ok result =>
      obtain ⟨written, after⟩ := result
      obtain ⟨name, _, _, hname, _, _, _, hwritten, rfl⟩ := update_eq_ok_iff.1 hupdate
      exact .inr ⟨_, written, (place?_of_resourceName hname).2,
        (Document.resourceName_withVersion hwritten).trans hname, rfl⟩

theorem WellNamed.answer (h : store.WellNamed) (call : StoreCall) :
    (store.answer call).2.WellNamed := by
  rcases answer_eq_or store call with hsame | ⟨place, written, _, hname, hanswer⟩
  · rw [hsame]
    exact h
  · rw [hanswer]
    exact h.put hname

theorem find?_answer_of_ne (store : Store) (h : call.place? ≠ some key) :
    (store.answer call).2.find? key = store.find? key := by
  rcases answer_eq_or store call with hsame | ⟨place, written, hplace, _, hanswer⟩
  · rw [hsame]
  · have hne : key ≠ place := by
      rintro rfl
      exact h hplace
    rw [hanswer]
    exact find?_put_of_ne _ _ hne

theorem reply_congr (h : ∀ place, call.place? = some place → store.find? place = other.find? place) :
    (store.answer call).1 = (other.answer call).1 := by
  cases call with
  | get kind «namespace» name =>
    change store.get _ = other.get _
    rw [get, get, h _ rfl]
  | create kind «namespace» doc =>
    rw [answer, answer, create, create]
    cases hname : doc.resourceName with
    | error failure => rfl
    | ok name =>
      rw [ok_bind, ok_bind]
      dsimp only
      rw [h _ (place?_of_resourceName hname).1]
      cases other.find? ⟨kind, «namespace», name⟩ with
      | some held => rfl
      | none => cases doc.withVersion 1 <;> rfl
  | update kind «namespace» doc =>
    rw [answer, answer, update, update]
    cases hname : doc.resourceName with
    | error failure => rfl
    | ok name =>
      rw [ok_bind, ok_bind]
      dsimp only
      rw [get, get, h _ (place?_of_resourceName hname).2]
      cases other.find? ⟨kind, «namespace», name⟩ with
      | none => rfl
      | some existing =>
        dsimp only
        rw [ok_bind, ok_bind]
        cases existing.storedVersion with
        | error failure => rfl
        | ok current =>
          rw [ok_bind, ok_bind]
          cases doc.getText? Document.versionPath with
          | error failure => rfl
          | ok requested? =>
            rw [ok_bind, ok_bind]
            cases requested? with
            | none => cases doc.withVersion (current + 1) <;> rfl
            | some requested =>
              dsimp only
              split
              · rfl
              · cases doc.withVersion (current + 1) <;> rfl

theorem answer_of_error {failure : ProviderError} (h : (store.answer call).1 = .error failure) :
    (store.answer call).2 = store := by
  rcases answer_eq_or store call with hsame | ⟨place, written, _, _, hanswer⟩
  · exact hsame
  · rw [hanswer] at h
    cases h

theorem find?_answer_congr
    (h : ∀ place, call.place? = some place → store.find? place = other.find? place)
    (hkey : store.find? key = other.find? key) :
    (store.answer call).2.find? key = (other.answer call).2.find? key := by
  by_cases hplace : call.place? = some key
  · cases hreply : (store.answer call).1 with
    | ok doc =>
      rw [find?_of_answer_ok hplace hreply,
        find?_of_answer_ok hplace ((reply_congr h).symm.trans hreply)]
    | error failure =>
      rw [answer_of_error hreply, answer_of_error ((reply_congr h).symm.trans hreply), hkey]
  · rw [find?_answer_of_ne _ hplace, find?_answer_of_ne _ hplace, hkey]

def NamedReply (call : StoreCall) (reply : Except ProviderError Document) : Prop :=
  ∀ place doc, call.place? = some place → reply = .ok doc → doc.resourceName = .ok place.name

theorem WellNamed.namedReply (h : store.WellNamed) (call : StoreCall) :
    NamedReply call (store.answer call).1 := by
  intro place doc hplace hreply
  exact h.answer call place doc (find?_of_answer_ok hplace hreply)

/-- The stores hold the same documents under these keys. -/
def Agree (keys : ResourceKey → Prop) (store other : Store) : Prop :=
  ∀ key, keys key → store.find? key = other.find? key

end Store

/-! ## Programs -/

namespace Remote

open Store (NamedReply Agree)

variable {α β : Type} {keys : ResourceKey → Prop} {program : Remote α} {store other : Store}

def Confined (keys : ResourceKey → Prop) : Remote α → Prop
  | .done _ => True
  | .note _ rest => Confined keys rest
  | .ask call next => (∀ place, call.place? = some place → keys place) ∧
      ∀ reply, NamedReply call reply → Confined keys (next reply)

theorem Confined.andThen {next : Except ProviderError α → Remote β} (h : Confined keys program)
    (hnext : ∀ result, Confined keys (next result)) : Confined keys (program.andThen next) := by
  induction program with
  | done result => exact hnext result
  | note event rest ih => exact ih h
  | ask call rest ih => exact ⟨h.1, fun reply hreply => ih reply (h.2 reply hreply)⟩

theorem Confined.bind {next : α → Remote β} (h : Confined keys program)
    (hnext : ∀ value, Confined keys (next value)) : Confined keys (program >>= next) := by
  apply h.andThen
  intro result
  cases result with
  | ok value => exact hnext value
  | error failure => trivial

theorem Confined.exec_congr (h : Confined keys program) (hnamed : store.WellNamed)
    (hagree : Agree keys store other) :
    (exec program store).1 = (exec program other).1 ∧
      Agree keys (exec program store).2 (exec program other).2 := by
  induction program generalizing store other with
  | done result => exact ⟨rfl, hagree⟩
  | note event rest ih => exact ih h hnamed hagree
  | ask call next ih =>
    have hplaces := fun place hplace => hagree place (h.1 place hplace)
    have hreply := Store.reply_congr hplaces
    have hnext := ih _ (h.2 _ (hnamed.namedReply call)) (hnamed.answer call)
      fun key hkey => Store.find?_answer_congr hplaces (hagree key hkey)
    change (exec (next (store.answer call).1) (store.answer call).2).1 =
        (exec (next (other.answer call).1) (other.answer call).2).1 ∧
      Agree keys (exec (next (store.answer call).1) (store.answer call).2).2
        (exec (next (other.answer call).1) (other.answer call).2).2
    rw [← hreply]
    exact hnext

theorem Confined.find?_exec_of_not (h : Confined keys program) (hnamed : store.WellNamed)
    {key : ResourceKey} (hkey : ¬ keys key) : (exec program store).2.find? key = store.find? key := by
  induction program generalizing store with
  | done result => rfl
  | note event rest ih => exact ih h hnamed
  | ask call next ih =>
    refine (ih _ (h.2 _ (hnamed.namedReply call)) (hnamed.answer call)).trans ?_
    exact Store.find?_answer_of_ne store fun hplace => hkey (h.1 key hplace)

theorem wellNamed_exec (hnamed : store.WellNamed) (program : Remote α) :
    (exec program store).2.WellNamed := by
  induction program generalizing store with
  | done result => exact hnamed
  | note event rest ih => exact ih hnamed
  | ask call next ih => exact ih _ (hnamed.answer call)

end Remote

/-! ## Clients with a share each -/

namespace Program

open Store (Agree)
open Remote (Confined)

variable {α : Type} {shares : Nat → ResourceKey → Prop} {programs current : Nat → Remote α}
  {initial state : Store} {talk : List Store.Exchange}

theorem Interleaved.confined
    (h : Interleaved Store.handler programs initial talk state current) (hnamed : initial.WellNamed)
    (hprograms : ∀ client, Confined (shares client) (programs client)) :
    state.WellNamed ∧ ∀ client, Confined (shares client) (current client) := by
  induction h with
  | start => exact ⟨hnamed, hprograms⟩
  | @report talk state current mover event rest _ hcurrent ih =>
    refine ⟨ih.1, fun client => ?_⟩
    by_cases hmover : client = mover
    · subst hmover
      have hnow := ih.2 client
      rw [hcurrent] at hnow
      rw [Function.update_self]
      exact hnow
    · rw [Function.update_of_ne hmover]
      exact ih.2 client
  | @answer talk state current mover call next _ hcurrent ih =>
    refine ⟨ih.1.answer call, fun client => ?_⟩
    by_cases hmover : client = mover
    · subst hmover
      have hnow := ih.2 client
      rw [hcurrent] at hnow
      rw [Function.update_self]
      exact hnow.2 _ (ih.1.namedReply call)
    · rw [Function.update_of_ne hmover]
      exact ih.2 client

theorem Interleaved.find?_of_not_shared
    (h : Interleaved Store.handler programs initial talk state current) (hnamed : initial.WellNamed)
    (hprograms : ∀ client, Confined (shares client) (programs client)) {key : ResourceKey}
    (hkey : ∀ client, ¬ shares client key) : state.find? key = initial.find? key := by
  induction h with
  | start => rfl
  | report _ _ _ ih => exact ih
  | @answer talk state current mover call next hrun hcurrent ih =>
    have hnow := (hrun.confined hnamed hprograms).2 mover
    rw [hcurrent] at hnow
    refine (Store.find?_answer_of_ne state fun hplace => ?_).trans ih
    exact hkey mover (hnow.1 key hplace)

/-- A client goes on as it would alone, on a store that holds the same under the keys of its share. -/
theorem Interleaved.exists_alone
    (h : Interleaved Store.handler programs initial talk state current) (hnamed : initial.WellNamed)
    (hprograms : ∀ client, Confined (shares client) (programs client)) (client : Nat)
    (hapart : ∀ other key, other ≠ client → shares other key → ¬ shares client key) :
    ∃ alone : Store, Agree (shares client) alone state ∧
      Remote.exec (current client) alone = Remote.exec (programs client) initial := by
  induction h with
  | start => exact ⟨initial, fun _ _ => rfl, rfl⟩
  | @report talk state current mover event rest _ hcurrent ih =>
    obtain ⟨alone, hagree, hexec⟩ := ih
    refine ⟨alone, hagree, ?_⟩
    by_cases hmover : client = mover
    · subst hmover
      rw [hcurrent] at hexec
      rw [Function.update_self]
      exact hexec
    · rw [Function.update_of_ne hmover]
      exact hexec
  | @answer talk state current mover call next hrun hcurrent ih =>
    obtain ⟨alone, hagree, hexec⟩ := ih
    have hnow := (hrun.confined hnamed hprograms).2 mover
    rw [hcurrent] at hnow
    by_cases hmover : client = mover
    · subst hmover
      have hplaces := fun place hplace => hagree place (hnow.1 place hplace)
      refine ⟨(alone.answer call).2, fun key hkey => ?_, ?_⟩
      · exact Store.find?_answer_congr hplaces (hagree key hkey)
      · rw [hcurrent] at hexec
        rw [Function.update_self]
        change Remote.exec (next (state.answer call).1) _ = _
        rw [← Store.reply_congr hplaces]
        exact hexec
    · refine ⟨alone, fun key hkey => ?_, ?_⟩
      · -- The mover's keys are not among those of the client.
        rw [hagree key hkey]
        refine (Store.find?_answer_of_ne state fun hplace => ?_).symm
        exact hapart mover key (Ne.symm hmover) (hnow.1 key hplace) hkey
      · rw [Function.update_of_ne hmover]
        exact hexec

theorem Interleaved.result_eq_alone
    (h : Interleaved Store.handler programs initial talk state current) (hnamed : initial.WellNamed)
    (hprograms : ∀ client, Confined (shares client) (programs client)) (client : Nat)
    (hapart : ∀ other key, other ≠ client → shares other key → ¬ shares client key)
    {result : Except ProviderError α} (hdone : current client = .done result) :
    result = (Remote.exec (programs client) initial).1 ∧
      Agree (shares client) state (Remote.exec (programs client) initial).2 := by
  obtain ⟨alone, hagree, hexec⟩ := h.exists_alone hnamed hprograms client hapart
  rw [hdone] at hexec
  rw [← hexec]
  exact ⟨rfl, fun key hkey => (hagree key hkey).symm⟩

end Program
end EtcdFleet
