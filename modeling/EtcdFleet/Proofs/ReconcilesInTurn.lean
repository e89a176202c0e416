import EtcdFleet.Proofs.Execution
import EtcdFleet.Proofs.FeatureCalls

set_option autoImplicit false

/-!
# Features in turn

The manager takes the features that a cluster has switched on one after the other, whatever they are connected to.
A feature that is unknown is passed over, and any other failure is the end; so the result is told by the first
such failure, and what is left is what the features up to it have left. Each keeps to its own slot.
-/

namespace EtcdFleet.Sharing

open Program (exec)

variable {σ Call : Type} {Reply : Call → Type} {α β : Type} {connector : Inspections.Connector σ}
  {handle : Program.Handler Call Reply σ}

/-! ## The slot of a feature -/

section Slots

/-- The program leaves all slots but the one alone, and its results are as told. -/
def KeepsTo (connector : Inspections.Connector σ) (handle : Program.Handler Call Reply σ)
    (slot : String) (program : FeatureWork Reply α) (told : α → Prop) : Prop :=
  ∀ state, (∀ value, (exec (Inspections.handler connector handle) program state).1 = .ok value →
      told value) ∧
    ∀ other ≠ slot, (exec (Inspections.handler connector handle) program state).2.slots.find? other =
      state.slots.find? other

variable {slot : String} {told : α → Prop} {later : β → Prop}

theorem keepsTo_done {result : Except ProviderError α}
    (h : ∀ value, result = .ok value → told value) :
    KeepsTo connector handle slot (.done result) told :=
  fun _ => ⟨h, fun _ _ => rfl⟩

theorem keepsTo_ask {call : FeatureCall Call} {next : FeatureReply Reply call → FeatureWork Reply α}
    (h : ∀ state, KeepsTo connector handle slot
        (next (Inspections.handler connector handle call state).reply) told ∧
      ∀ other ≠ slot, (Inspections.handler connector handle call state).state.slots.find? other =
        state.slots.find? other) : KeepsTo connector handle slot (.ask call next) told := by
  intro state
  obtain ⟨hnext, hstate⟩ := h state
  obtain ⟨hvalue, hslots⟩ := hnext (Inspections.handler connector handle call state).state
  exact ⟨hvalue, fun other hother => (hslots other hother).trans (hstate other hother)⟩

theorem KeepsTo.note {program : FeatureWork Reply α} {event : Event}
    (h : KeepsTo connector handle slot program told) :
    KeepsTo connector handle slot (.note event program) told := h

theorem KeepsTo.bind {program : FeatureWork Reply α} {next : α → FeatureWork Reply β}
    (h : KeepsTo connector handle slot program told)
    (hnext : ∀ value, told value → KeepsTo connector handle slot (next value) later) :
    KeepsTo connector handle slot (program >>= next) later := by
  intro state
  obtain ⟨hvalue, hslots⟩ := h state
  obtain ⟨result, after, hrun⟩ : ∃ result after,
      exec (Inspections.handler connector handle) program state = (result, after) := ⟨_, _, rfl⟩
  rw [hrun] at hvalue hslots
  cases result with
  | error failure =>
    rw [Program.exec_bind_of_error hrun]
    exact ⟨nofun, hslots⟩
  | ok value =>
    rw [Program.exec_bind_of_ok hrun]
    obtain ⟨hlater, hafter⟩ := hnext value (hvalue value rfl) after
    exact ⟨hlater, fun other hother => (hafter other hother).trans (hslots other hother)⟩

theorem KeepsTo.attempt {program : FeatureWork Reply α}
    (h : KeepsTo connector handle slot program told) :
    KeepsTo connector handle slot (Program.attempt program) fun _ => True := by
  intro state
  rw [Program.exec_attempt]
  exact ⟨fun _ _ => trivial, (h state).2⟩

theorem keepsTo_onBackend (program : Program Call Reply α) :
    KeepsTo connector handle slot (FeatureWork.onBackend program) fun _ => True := by
  induction program with
  | done result => exact keepsTo_done fun _ _ => trivial
  | note event rest ih => exact ih
  | ask call next ih => exact keepsTo_ask fun state => ⟨ih _, fun _ _ => rfl⟩

theorem keepsTo_require (feature : Feature) :
    KeepsTo connector handle slot (FeatureWork.require feature) fun _ => True :=
  keepsTo_ask fun _ => ⟨keepsTo_done fun _ _ => trivial, fun _ _ => rfl⟩

theorem find?_connected_of_ne (state : Inspections σ) {feature : Feature} {other : String}
    (h : other ≠ feature.slot) :
    (state.connected connector feature).state.slots.find? other = state.slots.find? other := by
  rw [Inspections.connected]
  split
  · rfl
  · dsimp only
    split
    · exact find?_place_of_ne _ _ _ h
    · rfl

theorem keepsTo_build :
    KeepsTo connector handle slot (FeatureWork.build slot : FeatureWork Reply Feature)
      fun feature => feature.slot = slot := by
  apply keepsTo_ask
  intro state
  change KeepsTo connector handle slot (.done (state.built slot).1) _ ∧
    ∀ other ≠ slot, (state.built slot).2.slots.find? other = state.slots.find? other
  cases hfound : state.found? slot with
  | some feature =>
    rw [built_of_found hfound]
    refine ⟨keepsTo_done ?_, fun _ _ => rfl⟩
    rintro _ ⟨⟩
    exact (found?_eq_some_iff.1 hfound).1
  | none =>
    rcases built_of_missing hfound with ⟨name, _, hbuilt⟩ | ⟨failure, _, hbuilt⟩
    · rw [hbuilt]
      refine ⟨keepsTo_done ?_, fun _ hother => find?_place_of_ne _ _ _ hother⟩
      rintro _ ⟨⟩
      rfl
    · rw [hbuilt]
      exact ⟨keepsTo_done nofun, fun _ _ => rfl⟩

theorem keepsTo_obtain :
    KeepsTo connector handle slot (FeatureWork.obtain slot : FeatureWork Reply Feature)
      fun feature => feature.slot = slot := by
  apply keepsTo_ask
  intro state
  refine ⟨?_, fun _ _ => rfl⟩
  have hreply : (Inspections.handler connector handle (.find slot) state).reply =
      state.found? slot := rfl
  rw [hreply]
  cases hfound : state.found? slot with
  | some feature =>
    apply keepsTo_done
    rintro _ ⟨⟩
    exact (found?_eq_some_iff.1 hfound).1
  | none => exact keepsTo_build

theorem keepsTo_feature :
    KeepsTo connector handle slot (Manager.feature slot) fun _ => True := by
  -- The feature comes under the name that was asked for, so its connection is kept in the same slot.
  refine keepsTo_obtain.bind fun feature hfeature => ?_
  subst hfeature
  have hconnect : KeepsTo connector handle feature.slot (FeatureWork.connect feature) fun _ => True :=
    keepsTo_ask fun state => ⟨keepsTo_done fun _ _ => trivial,
      fun _ hother => find?_connected_of_ne state hother⟩
  exact hconnect.bind fun _ _ => keepsTo_done fun _ _ => trivial

variable {backend : Backend Call Reply} {cluster : Cluster}

theorem keepsTo_detect (feature : Feature) :
    KeepsTo connector handle slot (feature.detect backend cluster) fun _ => True := by
  refine (keepsTo_require feature).bind fun _ _ => ?_
  exact (keepsTo_onBackend _).bind fun _ _ => keepsTo_done fun _ _ => trivial

theorem keepsTo_sync (feature : Feature) :
    KeepsTo connector handle slot (feature.sync backend cluster) fun _ => True := by
  refine (keepsTo_require feature).bind fun _ _ => (keepsTo_onBackend _).bind fun found _ => ?_
  cases found with
  | true => exact keepsTo_done fun _ _ => trivial
  | false =>
    refine (keepsTo_onBackend _).attempt.bind fun result _ => ?_
    cases result with
    | ok task => exact (keepsTo_done fun _ _ => trivial).note
    | error failure =>
      dsimp only
      split
      · exact keepsTo_done fun _ _ => trivial
      · exact keepsTo_done nofun

theorem keepsTo_reconcile :
    KeepsTo connector handle slot (Manager.reconcile backend cluster slot) fun _ => True := by
  refine keepsTo_feature.bind fun feature _ => (keepsTo_detect feature).bind fun wanted _ => ?_
  cases wanted with
  | false => exact keepsTo_done fun _ _ => trivial
  | true =>
    refine (keepsTo_sync feature).bind fun _ _ => ?_
    exact (keepsTo_done fun _ _ => trivial).note

end Slots

/-! ## One after the other -/

section Turns

variable (connector handle) (backend : Backend Call Reply) (cluster : Cluster)

def turn (slot : String) (state : Inspections σ) : Except ProviderError Bool × Inspections σ :=
  exec (Inspections.handler connector handle) (Manager.reconcile backend cluster slot) state

/-- What the features leave, one after the other, whatever comes of them. -/
def afterTurns (slots : List String) (state : Inspections σ) : Inspections σ :=
  slots.foldl (fun state slot => (turn connector handle backend cluster slot state).2) state

/-- The feature has been dealt with, unless it is unknown. -/
def Passes (result : Except ProviderError Bool) : Prop :=
  ∀ failure, result = .error failure → Unknown failure

def AllPass (slots : List String) (state : Inspections σ) : Prop :=
  ∀ done slot rest, slots = done ++ slot :: rest →
    Passes (turn connector handle backend cluster slot
      (afterTurns connector handle backend cluster done state)).1

/-- The first failure that is not passed over, and where it stands. -/
structure FirstFailure (slots : List String) (state : Inspections σ) (before : List String)
    (slot : String) (rest : List String) (failure : ProviderError) : Prop where
  order : slots = before ++ slot :: rest
  earlier : AllPass connector handle backend cluster before state
  failed : (turn connector handle backend cluster slot
    (afterTurns connector handle backend cluster before state)).1 = .error failure
  real : ¬ Unknown failure

def toldBy (slot : String) : Except ProviderError Bool → List String
  | .ok true => [slot]
  | _ => []

def told : List String → Inspections σ → List String
  | [], _ => []
  | slot :: rest, state =>
    toldBy slot (turn connector handle backend cluster slot state).1 ++
      told rest (turn connector handle backend cluster slot state).2

variable {connector handle backend cluster} {slot : String} {slots before rest : List String}
  {state next : Inspections σ} {failure : ProviderError}

theorem afterTurns_cons (slot : String) (rest : List String) (state : Inspections σ) :
    afterTurns connector handle backend cluster (slot :: rest) state =
      afterTurns connector handle backend cluster rest
        (turn connector handle backend cluster slot state).2 := rfl

theorem afterTurns_append_singleton (before : List String) (slot : String) (state : Inspections σ) :
    afterTurns connector handle backend cluster (before ++ [slot]) state =
      (turn connector handle backend cluster slot
        (afterTurns connector handle backend cluster before state)).2 :=
  List.foldl_append

def ahead (names : List String) (run : Except ProviderError (List String) × Inspections σ) :
    Except ProviderError (List String) × Inspections σ :=
  (run.1.map (names ++ ·), run.2)

theorem ahead_nil (run : Except ProviderError (List String) × Inspections σ) : ahead [] run = run := by
  obtain ⟨result, after⟩ := run
  cases result <;> rfl

theorem ahead_ahead (names more : List String)
    (run : Except ProviderError (List String) × Inspections σ) :
    ahead names (ahead more run) = ahead (names ++ more) run := by
  obtain ⟨result, after⟩ := run
  cases result with
  | error failure => rfl
  | ok rest => simp [ahead, Except.map]

theorem allPass_nil : AllPass connector handle backend cluster [] state :=
  fun done slot rest h => absurd h.symm (List.append_ne_nil_of_right_ne_nil done (List.cons_ne_nil slot rest))

theorem allPass_cons :
    AllPass connector handle backend cluster (slot :: rest) state ↔
      Passes (turn connector handle backend cluster slot state).1 ∧
        AllPass connector handle backend cluster rest
          (turn connector handle backend cluster slot state).2 := by
  constructor
  · intro h
    refine ⟨h [] slot rest rfl, fun done other later hrest => ?_⟩
    exact h (slot :: done) other later (congrArg (slot :: ·) hrest)
  · rintro ⟨hfirst, hrest⟩ done other later hslots
    cases done with
    | nil =>
      obtain ⟨rfl, rfl⟩ := List.cons.inj hslots
      exact hfirst
    | cons first done =>
      obtain ⟨rfl, hlater⟩ := List.cons.inj hslots
      exact hrest done other later hlater

theorem exec_attempt_reconcile {result : Except ProviderError Bool}
    (h : turn connector handle backend cluster slot state = (result, next)) :
    exec (Inspections.handler connector handle)
      (Program.attempt (Manager.reconcile backend cluster slot)) state = (.ok result, next) := by
  rw [Program.exec_attempt]
  change (Except.ok (turn connector handle backend cluster slot state).1,
    (turn connector handle backend cluster slot state).2) = _
  rw [h]

theorem exec_reconcileEach_cons_of_passes {result : Except ProviderError Bool}
    (hturn : turn connector handle backend cluster slot state = (result, next))
    (h : Passes result) :
    exec (Inspections.handler connector handle) (Manager.reconcileEach backend cluster (slot :: rest))
        state =
      ahead (toldBy slot result) (exec (Inspections.handler connector handle)
        (Manager.reconcileEach backend cluster rest) next) := by
  rw [Manager.reconcileEach, Program.exec_bind_of_ok (exec_attempt_reconcile hturn)]
  cases result with
  | ok scheduled =>
    cases scheduled with
    | true => exact Program.exec_bind_pure _ _ (slot :: ·) next
    | false => exact (ahead_nil _).symm
  | error failure =>
    obtain ⟨kind, name, rfl⟩ := h failure rfl
    exact (ahead_nil _).symm

theorem exec_reconcileEach_cons_of_fails
    (hturn : turn connector handle backend cluster slot state = (.error failure, next))
    (hreal : ¬ Unknown failure) :
    exec (Inspections.handler connector handle) (Manager.reconcileEach backend cluster (slot :: rest))
        state = (.error failure, next) := by
  rw [Manager.reconcileEach, Program.exec_bind_of_ok (exec_attempt_reconcile hturn)]
  cases failure with
  | providerNotFound kind name => exact absurd ⟨kind, name, rfl⟩ hreal
  | _ => rfl

theorem exec_reconcileEach_append (h : AllPass connector handle backend cluster before state)
    (rest : List String) :
    exec (Inspections.handler connector handle)
        (Manager.reconcileEach backend cluster (before ++ rest)) state =
      ahead (told connector handle backend cluster before state)
        (exec (Inspections.handler connector handle) (Manager.reconcileEach backend cluster rest)
          (afterTurns connector handle backend cluster before state)) := by
  induction before generalizing state with
  | nil => exact (ahead_nil _).symm
  | cons slot before ih =>
    obtain ⟨hfirst, hrest⟩ := allPass_cons.1 h
    obtain ⟨result, next, hturn⟩ : ∃ result next,
      turn connector handle backend cluster slot state = (result, next) := ⟨_, _, rfl⟩
    rw [hturn] at hfirst hrest
    rw [List.cons_append, exec_reconcileEach_cons_of_passes hturn hfirst, ih hrest, ahead_ahead, told,
      afterTurns_cons, hturn]

theorem exec_reconcileEach_of_allPass (h : AllPass connector handle backend cluster slots state) :
    exec (Inspections.handler connector handle) (Manager.reconcileEach backend cluster slots) state =
      (.ok (told connector handle backend cluster slots state),
        afterTurns connector handle backend cluster slots state) := by
  have hrun := exec_reconcileEach_append h []
  have hnothing : exec (Inspections.handler connector handle) (Manager.reconcileEach backend cluster [])
      (afterTurns connector handle backend cluster slots state) =
        (.ok [], afterTurns connector handle backend cluster slots state) := rfl
  rw [List.append_nil, hnothing] at hrun
  rw [hrun, ahead, Except.map, List.append_nil]

theorem FirstFailure.exec_reconcileEach
    (h : FirstFailure connector handle backend cluster slots state before slot rest failure) :
    exec (Inspections.handler connector handle) (Manager.reconcileEach backend cluster slots) state =
      (.error failure, afterTurns connector handle backend cluster (before ++ [slot]) state) := by
  have hturn : turn connector handle backend cluster slot
      (afterTurns connector handle backend cluster before state) =
        (.error failure, afterTurns connector handle backend cluster (before ++ [slot]) state) := by
    rw [afterTurns_append_singleton, ← h.failed]
  rw [h.order, exec_reconcileEach_append h.earlier, exec_reconcileEach_cons_of_fails hturn h.real]
  rfl

theorem FirstFailure.cons {first : String}
    (hfirst : Passes (turn connector handle backend cluster first state).1)
    (h : FirstFailure connector handle backend cluster slots
      (turn connector handle backend cluster first state).2 before slot rest failure) :
    FirstFailure connector handle backend cluster (first :: slots) state (first :: before) slot rest
      failure where
  order := congrArg (first :: ·) h.order
  earlier := allPass_cons.2 ⟨hfirst, h.earlier⟩
  failed := h.failed
  real := h.real

theorem allPass_or_firstFailure (slots : List String) (state : Inspections σ) :
    AllPass connector handle backend cluster slots state ∨ ∃ before slot rest failure,
      FirstFailure connector handle backend cluster slots state before slot rest failure := by
  induction slots generalizing state with
  | nil => exact .inl allPass_nil
  | cons first rest ih =>
    by_cases hfirst : Passes (turn connector handle backend cluster first state).1
    · rcases ih (turn connector handle backend cluster first state).2 with hrest | hrest
      · exact .inl (allPass_cons.2 ⟨hfirst, hrest⟩)
      · obtain ⟨before, slot, after, failure, hfailure⟩ := hrest
        exact .inr ⟨first :: before, slot, after, failure, hfailure.cons hfirst⟩
    · obtain ⟨failure, hnot⟩ := not_forall.1 hfirst
      obtain ⟨hfailed, hreal⟩ := Classical.not_imp.1 hnot
      exact .inr ⟨[], first, rest, failure, rfl, allPass_nil, hfailed, hreal⟩

theorem find?_afterTurns_of_notMem {other : String} (h : other ∉ slots) :
    (afterTurns connector handle backend cluster slots state).slots.find? other =
      state.slots.find? other := by
  induction slots generalizing state with
  | nil => rfl
  | cons first rest ih =>
    obtain ⟨hfirst, hrest⟩ := List.ne_and_not_mem_of_not_mem_cons h
    rw [afterTurns_cons, ih hrest]
    exact (keepsTo_reconcile state).2 other hfirst

end Turns

end EtcdFleet.Sharing
