import EtcdFleet.Inspection.Manager
import EtcdFleet.Proofs.Assurance
import EtcdFleet.Proofs.Creations
import EtcdFleet.Proofs.OperatedRuns

set_option autoImplicit false

/-!
# Scheduling side by side

Any number of calls that schedule tasks in one store, through managers or at the features themselves, with
features that are connected. Features of several managers, and features that stand alone, are slots of
different names. The calls only look tasks up and create them; so tasks only come about, the features stay
connected, and every call ends well with its task in the store.
-/

namespace EtcdFleet

namespace Task

theorem nameFor_ne_empty (clusterName feature : String) : nameFor clusterName feature ≠ "" := by
  intro h
  have hlength := congrArg String.length h
  simp [nameFor] at hlength

theorem resourceName_resource (cluster other : Cluster) (feature : String) (kind : ResourceKind) :
    ((ofCluster cluster feature).resource kind other).resourceName =
      .ok (nameFor cluster.name feature) := by
  have hname : ((ofCluster cluster feature).resource kind other).get? Document.namePath =
      .ok (some (.text (nameFor cluster.name feature))) := rfl
  exact Document.resourceName_eq_ok_iff.2
    ⟨Document.getText?_of_get? hname, nameFor_ne_empty cluster.name feature⟩

end Task

theorem Inspections.connected_of_connected {σ : Type} (connector : Connector σ)
    {state : Inspections σ} {feature : Feature} (h : (state.slot feature).connected = true) :
    state.connected connector feature = ⟨.ok (), [], state⟩ :=
  if_pos h

def Backend.overStore (collector : Task → Except ProviderError Unit) :
    Program.Handler TaskCall TaskReply Store
  | .store call, store => Store.handler call store
  | .collect task, store => ⟨collector task, [], store⟩

namespace Scheduling

abbrev Exchange := Program.Exchange (FeatureCall TaskCall) (FeatureReply TaskReply)

/-- A call ends with the manager's word, if it goes through the manager. -/
abbrev Work := FeatureWork TaskReply (Option Bool)

abbrev handler (connector : Inspections.Connector Store)
    (collector : Task → Except ProviderError Unit) :
    Program.Handler (FeatureCall TaskCall) (FeatureReply TaskReply) (Inspections Store) :=
  Inspections.handler connector (Backend.overStore collector)

/-! ## The terms of scheduling -/

/-- Nothing is built, connected, replaced or collected. -/
def Allowed : FeatureCall TaskCall → Inspections Store → Prop
  | .find _, _ => True
  | .require _, _ => True
  | .connect feature, state => (state.slot feature).connected = true
  | .backend (.store (.get ..)), _ => True
  | .backend (.store (.create ..)), _ => True
  | _, _ => False

structure Grows (state later : Inspections Store) : Prop where
  slots : later.slots = state.slots
  tasks : ∀ key doc, state.outside.find? key = some doc → later.outside.find? key = some doc

theorem Grows.refl (state : Inspections Store) : Grows state state := ⟨rfl, fun _ _ h => h⟩

theorem Grows.trans {first second third : Inspections Store} (h : Grows first second)
    (hlater : Grows second third) : Grows first third :=
  ⟨hlater.slots.trans h.slots, fun key doc hdoc => hlater.tasks key doc (h.tasks key doc hdoc)⟩

theorem Grows.absent {state later : Inspections Store} {key : ResourceKey} (h : Grows state later)
    (habsent : later.outside.find? key = none) : state.outside.find? key = none := by
  cases hdoc : state.outside.find? key with
  | none => rfl
  | some doc =>
    rw [h.tasks key doc hdoc] at habsent
    cases habsent

variable {connector : Inspections.Connector Store} {collector : Task → Except ProviderError Unit}

theorem grows_create (state : Inspections Store) (kind : ResourceKind) («namespace» : String)
    (doc : Document) :
    Grows state
      { state with outside := (state.outside.answer (.create kind «namespace» doc)).2 } := by
  refine ⟨rfl, ?_⟩
  intro key held hheld
  change (state.outside.answer (.create kind «namespace» doc)).2.find? key = some held
  rw [Store.answer]
  cases hcreate : state.outside.create kind «namespace» doc with
  | error failure => exact hheld
  | ok result =>
    obtain ⟨written, after⟩ := result
    obtain ⟨name, _, habsent, _, rfl⟩ := Store.create_eq_ok_iff.1 hcreate
    have hne : key ≠ ⟨kind, «namespace», name⟩ := by
      rintro rfl
      rw [habsent] at hheld
      cases hheld
    exact (Store.find?_put_of_ne _ _ hne).trans hheld

theorem grows_of_allowed {call : FeatureCall TaskCall} {state : Inspections Store}
    (h : Allowed call state) : Grows state (handler connector collector call state).state := by
  cases call with
  | find slot => exact .refl state
  | build slot => cases h
  | connect feature =>
    change Grows state (state.connected connector feature).state
    rw [Inspections.connected_of_connected connector h]
    exact .refl state
  | require feature => exact .refl state
  | backend call =>
    cases call with
    | collect task => cases h
    | store call =>
      cases call with
      | get kind «namespace» name => exact .refl state
      | create kind «namespace» doc => exact grows_create state kind «namespace» doc
      | update kind «namespace» doc => cases h

def terms (connector : Inspections.Connector Store) (collector : Task → Except ProviderError Unit) :
    Program.Terms (handler connector collector) where
  allowed := Allowed
  grows := Grows
  refl := .refl
  trans := .trans
  grows_of_allowed := grows_of_allowed

/-! ## The store's part of the conversation -/

def storeExchange? : Exchange → Option Store.Exchange
  | ⟨client, .backend (.store call), reply⟩ => some ⟨client, call, reply⟩
  | _ => none

def storeTalk (talk : List Exchange) : List Store.Exchange := talk.filterMap storeExchange?

theorem storeTalk_append (before after : List Exchange) :
    storeTalk (before ++ after) = storeTalk before ++ storeTalk after :=
  List.filterMap_append

theorem storeTalk_silent (told : List Exchange) {exchange : Exchange}
    (h : storeExchange? exchange = none) : storeTalk (told ++ [exchange]) = storeTalk told := by
  rw [storeTalk_append]
  have hnone : storeTalk [exchange] = [] := List.filterMap_cons_none h
  rw [hnone, List.append_nil]

theorem storeTalk_asked (told : List Exchange) (client : Nat) (call : StoreCall)
    (reply : Except ProviderError Document) :
    storeTalk (told ++ [⟨client, .backend (.store call), reply⟩]) =
      storeTalk told ++ [⟨client, call, reply⟩] :=
  storeTalk_append told _

/-- On these terms the store is changed by what is asked of it and by nothing else. -/
theorem storeTalk_truthful {state : Inspections Store} {talk : List Exchange}
    (htruth : Program.Truthful (handler connector collector) state talk)
    (hkept : (terms connector collector).Kept state talk) :
    Program.Truthful Store.handler state.outside (storeTalk talk) ∧
      Program.stateAfter Store.handler state.outside (storeTalk talk) =
        (Program.stateAfter (handler connector collector) state talk).outside := by
  induction talk generalizing state with
  | nil => exact ⟨trivial, rfl⟩
  | cons exchange rest ih =>
    obtain ⟨hreply, hrest⟩ := htruth
    obtain ⟨hallowed, hlater⟩ := hkept
    obtain ⟨ihtruth, ihstate⟩ := ih hrest hlater
    obtain ⟨client, call, reply⟩ := exchange
    cases call with
    | find slot => exact ⟨ihtruth, ihstate⟩
    | build slot => cases hallowed
    | require feature => exact ⟨ihtruth, ihstate⟩
    | connect feature =>
      -- The connector works on the same store, but is not called for a connected feature.
      have hsame : (handler connector collector (.connect feature) state).state = state := by
        change (state.connected connector feature).state = state
        rw [Inspections.connected_of_connected connector hallowed]
      rw [hsame] at ihtruth ihstate
      refine ⟨ihtruth, ihstate.trans ?_⟩
      rw [Program.stateAfter, Program.stateAfter, List.foldl_cons, hsame]
    | backend call =>
      cases call with
      | collect task => cases hallowed
      | store call => exact ⟨⟨hreply, ihtruth⟩, ihstate⟩

/-! ## One call -/

structure Errand where
  kind : ResourceKind
  feature : Feature
  cluster : Cluster
  /-- Through the manager, and not at the feature itself. -/
  managed : Bool

namespace Errand

variable (errand : Errand)

def backend : Backend TaskCall TaskReply := .ofStore errand.kind

def task : ResourceKey :=
  ⟨errand.kind, errand.cluster.namespace, Task.nameFor errand.cluster.name errand.feature.name⟩

def document : Document :=
  (Task.ofCluster errand.cluster errand.feature.name).resource errand.kind errand.cluster

def program : Work :=
  if errand.managed then do
    return some (← Manager.reconcile errand.backend errand.cluster errand.feature.slot)
  else do
    errand.feature.sync errand.backend errand.cluster
    return none

def Ready (state : Inspections Store) : Prop :=
  state.slots.find? errand.feature.slot = some ⟨errand.feature.name, true⟩

def look : StoreCall :=
  .get errand.kind errand.cluster.namespace (Task.nameFor errand.cluster.name errand.feature.name)

def order : StoreCall := .create errand.kind errand.cluster.namespace errand.document

end Errand

/-- The first that was looked for was not there. -/
def foundNothing : List Store.Exchange → Bool
  | ⟨_, _, .error _⟩ :: _ => true
  | _ => false

/-! ## What each part of a call asks -/

theorem onBackend_exists (errand : Errand) :
    FeatureWork.onBackend (errand.backend.exists errand.cluster errand.feature.name) =
      .ask (.backend (.store errand.look)) fun
        | .ok _ => .done (.ok true)
        | .error failure =>
          if failure.isNotFound then .done (.ok false) else .done (.error failure) := by
  apply congrArg (Program.ask _)
  funext reply
  cases reply with
  | ok doc => rfl
  | error failure =>
    exact apply_ite FeatureWork.onBackend (failure.isNotFound = true) (pure false)
      (Program.fail failure)

theorem backend_enqueue (errand : Errand) :
    errand.backend.enqueue errand.cluster errand.feature.name =
      .ask (.store errand.order) fun reply =>
        .done (reply.map fun _ => Task.ofCluster errand.cluster errand.feature.name) := by
  apply congrArg (Program.ask _)
  funext reply
  cases reply with
  | ok doc => rfl
  | error failure => rfl

theorem attempt_enqueue (errand : Errand) :
    Program.attempt
        (FeatureWork.onBackend (errand.backend.enqueue errand.cluster errand.feature.name)) =
      .ask (.backend (.store errand.order)) fun reply =>
        .done (.ok (reply.map fun _ => Task.ofCluster errand.cluster errand.feature.name)) := by
  rw [backend_enqueue]
  rfl

/-! ## What a call is assured of -/

section Calls

variable {errand : Errand} {client : Nat} {told : List Exchange} {state later : Inspections Store}

theorem Errand.Ready.of_grows (h : errand.Ready state) (hgrows : Grows state later) :
    errand.Ready later := by
  rw [Errand.Ready, hgrows.slots]
  exact h

theorem Errand.Ready.connected (h : errand.Ready state) :
    (state.slot errand.feature).connected = true := by
  rw [Inspections.slot, h]
  rfl

theorem assures_require (h : errand.Ready state) :
    (terms connector collector).Assures client
      (fun told' result _ => result = .ok () ∧ storeTalk told' = storeTalk told)
      told (FeatureWork.require errand.feature) state := by
  intro later hlater
  refine ⟨trivial, ?_⟩
  intro _ _
  exact ⟨if_pos (h.of_grows hlater).connected, storeTalk_silent _ rfl⟩

theorem assures_feature (h : errand.Ready state) :
    (terms connector collector).Assures client
      (fun told' result _ => result = .ok errand.feature ∧ storeTalk told' = storeTalk told)
      told (Manager.feature errand.feature.slot) state := by
  intro later hlater
  refine ⟨trivial, ?_⟩
  have hfound : (handler connector collector (.find errand.feature.slot) later).reply =
      some errand.feature := by
    change (later.slots.find? errand.feature.slot).map _ = _
    rw [h.of_grows hlater]
    rfl
  rw [hfound]
  intro last hlast
  have hconnected := ((h.of_grows hlater).of_grows hlast).connected
  refine ⟨hconnected, ?_⟩
  have hreply : (handler connector collector (.connect errand.feature) last).reply = .ok () := by
    change (last.connected connector errand.feature).reply = .ok ()
    rw [Inspections.connected_of_connected connector hconnected]
  rw [hreply]
  intro _ _
  exact ⟨rfl, (storeTalk_silent _ rfl).trans (storeTalk_silent _ rfl)⟩

theorem handler_store (call : StoreCall) (state : Inspections Store) :
    handler connector collector (.backend (.store call)) state =
      ⟨(state.outside.answer call).1, [],
        { state with outside := (state.outside.answer call).2 }⟩ := rfl

theorem Errand.answer_look (errand : Errand) (store : Store) :
    store.answer errand.look = (store.get errand.task, store) := rfl

inductive Errand.Looked (errand : Errand) (client : Nat) (start : Inspections Store)
    (asked asked' : List Store.Exchange) : Bool → Inspections Store → Prop
  | found {doc : Document} {later : Inspections Store} :
      asked' = asked ++ [⟨client, errand.look, .ok doc⟩] →
      later.outside.find? errand.task = some doc →
      Looked errand client start asked asked' true later
  | missing {failure : ProviderError} {later : Inspections Store} :
      asked' = asked ++ [⟨client, errand.look, .error failure⟩] →
      start.outside.find? errand.task = none →
      Looked errand client start asked asked' false later

theorem Errand.Looked.of_grows {start : Inspections Store} {asked asked' : List Store.Exchange}
    {found : Bool} (h : errand.Looked client state asked asked' found later)
    (hbefore : Grows start state) {last : Inspections Store} (hafter : Grows later last) :
    errand.Looked client start asked asked' found last := by
  cases h with
  | found hasked hdoc => exact .found hasked (hafter.tasks _ _ hdoc)
  | missing hasked habsent => exact .missing hasked (hbefore.absent habsent)

theorem assures_exists :
    (terms connector collector).Assures client
      (fun told' result later => ∃ found, result = .ok found ∧
        errand.Looked client state (storeTalk told) (storeTalk told') found later)
      told (FeatureWork.onBackend (errand.backend.exists errand.cluster errand.feature.name))
      state := by
  rw [onBackend_exists]
  intro later hlater
  refine ⟨trivial, ?_⟩
  rw [handler_store, Errand.answer_look]
  cases hdoc : later.outside.get errand.task with
  | ok doc =>
    intro last hlast
    exact ⟨true, rfl, .found (storeTalk_asked ..) (hlast.tasks _ _ (Store.get_eq_ok_iff.1 hdoc))⟩
  | error failure =>
    obtain ⟨habsent, rfl⟩ := Store.get_eq_error_iff.1 hdoc
    intro last hlast
    exact ⟨false, rfl, .missing (storeTalk_asked ..) (Grows.absent hlater habsent)⟩

/-- What follows a feature's look at the task may take for granted what came of it. -/
theorem assures_after_look {α : Type} {next : Bool → FeatureWork TaskReply α}
    {promise : List Exchange → Except ProviderError α → Inspections Store → Prop}
    (h : errand.Ready state)
    (hnext : ∀ more found later,
      errand.Looked client state (storeTalk told) (storeTalk (told ++ more)) found later →
      Grows state later →
      (terms connector collector).Assures client promise (told ++ more) (next found) later) :
    (terms connector collector).Assures client promise told
      (do
        FeatureWork.require errand.feature
        next (← FeatureWork.onBackend (errand.backend.exists errand.cluster errand.feature.name)))
      state := by
  apply Program.Terms.Assures.bind
  apply (assures_require h).mono
  rintro first _ middle hmiddle ⟨rfl, htalk⟩
  refine ⟨(), rfl, ?_⟩
  apply Program.Terms.Assures.bind
  apply assures_exists.mono
  rintro second _ later hlater ⟨found, rfl, hlooked⟩
  rw [htalk] at hlooked
  rw [List.append_assoc] at hlooked ⊢
  exact ⟨found, rfl, hnext _ found later (hlooked.of_grows hmiddle (.refl later))
    (hmiddle.trans hlater)⟩

theorem assures_detect (h : errand.Ready state) :
    (terms connector collector).Assures client
      (fun told' result later => ∃ found, result = .ok (!found) ∧
        errand.Looked client state (storeTalk told) (storeTalk told') found later)
      told (errand.feature.detect errand.backend errand.cluster) state := by
  apply assures_after_look h
  intro more found later hlooked _ last hlast
  exact ⟨found, rfl, hlooked.of_grows (.refl state) hlast⟩

theorem assures_enqueue :
    (terms connector collector).Assures client
      (fun told' result later => ∃ answer reply, result = .ok answer ∧
        (∀ failure, answer = .error failure → failure.isAlreadyExists = true) ∧
        storeTalk told' = storeTalk told ++ [⟨client, errand.order, reply⟩] ∧
        ∃ doc, later.outside.find? errand.task = some doc)
      told
      (Program.attempt
        (FeatureWork.onBackend (errand.backend.enqueue errand.cluster errand.feature.name)))
      state := by
  rw [attempt_enqueue]
  intro later hlater
  refine ⟨trivial, ?_⟩
  have hname : errand.document.resourceName =
      .ok (Task.nameFor errand.cluster.name errand.feature.name) :=
    Task.resourceName_resource ..
  rcases Store.answer_create later.outside errand.kind errand.cluster.namespace hname with
    ⟨hanswer, existing, hexisting⟩ | ⟨written, hanswer⟩
  · rw [handler_store, Errand.order, hanswer]
    intro last hlast
    refine ⟨_, _, rfl, ?_, storeTalk_asked .., existing, hlast.tasks _ _ hexisting⟩
    rintro failure ⟨⟩
    rfl
  · rw [handler_store, Errand.order, hanswer]
    intro last hlast
    exact ⟨_, _, rfl, nofun, storeTalk_asked .., written,
      hlast.tasks _ _ (Store.find?_put_self ..)⟩

/-- What comes of a call: it asks for a new task only where it has found none. -/
structure Settled (key : ResourceKey) (start : Inspections Store) (asked : List Store.Exchange)
    (later : Inspections Store) : Prop where
  absent : foundNothing asked = true → start.outside.find? key = none
  idle : foundNothing asked = false → Store.creations key asked = 0
  present : ∃ doc, later.outside.find? key = some doc

theorem Settled.of_grows {key : ResourceKey} {asked : List Store.Exchange}
    (h : Settled key state asked later) {last : Inspections Store} (hgrows : Grows later last) :
    Settled key state asked last := by
  obtain ⟨doc, hdoc⟩ := h.present
  exact ⟨h.absent, h.idle, doc, hgrows.tasks _ _ hdoc⟩

theorem assures_sync (h : errand.Ready state) :
    (terms connector collector).Assures client
      (fun told' result later => result = .ok () ∧
        ∃ asked, storeTalk told' = storeTalk told ++ asked ∧ Settled errand.task state asked later)
      told (errand.feature.sync errand.backend errand.cluster) state := by
  apply assures_after_look h
  intro more found later hlooked hgrows
  cases hlooked with
  | @found doc _ hasked hdoc =>
    intro last hlast
    refine ⟨rfl, _, hasked, ?_⟩
    exact ⟨nofun, fun _ => rfl, doc, hlast.tasks _ _ hdoc⟩
  | @missing failure _ hasked habsent =>
    apply Program.Terms.Assures.bind
    apply assures_enqueue.mono
    rintro _ _ last hlast ⟨answer, reply, rfl, hanswer, hordered, hpresent⟩
    refine ⟨answer, rfl, ?_⟩
    rw [hasked] at hordered
    have hasked' := hordered.trans (List.append_assoc ..)
    have hsettled : Settled errand.task state
        [⟨client, errand.look, .error failure⟩, ⟨client, errand.order, reply⟩] last :=
      ⟨fun _ => habsent, nofun, hpresent⟩
    cases answer with
    | ok task =>
      intro final hfinal
      exact ⟨rfl, _, hasked', hsettled.of_grows hfinal⟩
    | error failure =>
      -- Somebody else has created the task since the look.
      have hexists : failure.isAlreadyExists = true := hanswer failure rfl
      dsimp only
      rw [if_pos hexists]
      intro final hfinal
      exact ⟨rfl, _, hasked', hsettled.of_grows hfinal⟩

theorem assures_reconcile (h : errand.Ready state) :
    (terms connector collector).Assures client
      (fun told' result later => ∃ asked, storeTalk told' = storeTalk told ++ asked ∧
        result = .ok (foundNothing asked) ∧ Settled errand.task state asked later)
      told (Manager.reconcile errand.backend errand.cluster errand.feature.slot) state := by
  apply Program.Terms.Assures.bind
  apply (assures_feature h).mono
  rintro more _ first hfirst ⟨rfl, htalk⟩
  refine ⟨errand.feature, rfl, ?_⟩
  apply Program.Terms.Assures.bind
  apply (assures_detect (h.of_grows hfirst)).mono
  rintro _ _ second hsecond ⟨found, rfl, hlooked⟩
  refine ⟨!found, rfl, ?_⟩
  rw [htalk] at hlooked
  cases hlooked with
  | @found doc _ hasked hdoc =>
    intro last hlast
    exact ⟨_, hasked, rfl, nofun, fun _ => rfl, doc, hlast.tasks _ _ hdoc⟩
  | @missing failure _ hasked habsent =>
    apply Program.Terms.Assures.bind
    apply (assures_sync ((h.of_grows hfirst).of_grows hsecond)).mono
    rintro _ _ third hthird ⟨rfl, asked, hsynced, hsettled⟩
    refine ⟨(), rfl, ?_⟩
    rw [hasked] at hsynced
    intro last hlast
    refine ⟨_, hsynced.trans (List.append_assoc ..), rfl, ?_⟩
    exact ⟨fun _ => hfirst.absent habsent, nofun, (hsettled.of_grows hlast).present⟩

theorem assures_program (h : errand.Ready state) :
    (terms connector collector).Assures client
      (fun told result later => ∃ answer, result = .ok answer ∧
        (errand.managed = true → answer = some (foundNothing (storeTalk told))) ∧
        Settled errand.task state (storeTalk told) later)
      [] errand.program state := by
  unfold Errand.program
  by_cases hmanaged : errand.managed = true
  · rw [if_pos hmanaged]
    apply Program.Terms.Assures.bind
    apply (assures_reconcile h).mono
    rintro _ _ later hlater ⟨asked, hasked, rfl, hsettled⟩
    refine ⟨_, rfl, ?_⟩
    intro last hlast
    rw [hasked]
    exact ⟨_, rfl, fun _ => rfl, hsettled.of_grows hlast⟩
  · rw [if_neg hmanaged]
    apply Program.Terms.Assures.bind
    apply (assures_sync h).mono
    rintro _ _ later hlater ⟨rfl, asked, hasked, hsettled⟩
    refine ⟨_, rfl, ?_⟩
    intro last hlast
    rw [hasked]
    exact ⟨_, rfl, fun h => absurd h hmanaged, hsettled.of_grows hlast⟩

end Calls

/-! ## All calls together -/

/-- The clients are numbered as their calls are listed; nobody else asks anything. -/
def calls (errands : List Errand) (client : Nat) : Work :=
  match errands[client]? with
  | some errand => errand.program
  | none => .done (.ok none)

structure Run (connector : Inspections.Connector Store)
    (collector : Task → Except ProviderError Unit) (errands : List Errand)
    (initial : Inspections Store) (talk : List Exchange) (state : Inspections Store)
    (current : Nat → Work) : Prop where
  ready : ∀ errand ∈ errands, errand.Ready initial
  interleaved :
    Program.Interleaved (handler connector collector) (calls errands) initial talk state current

section Runs

variable {errands : List Errand} {initial state later : Inspections Store}
  {talk more : List Exchange} {current final : Nat → Work}

def Ended (errands : List Errand) (initial : Inspections Store) (client : Nat)
    (told : List Exchange) (result : Except ProviderError (Option Bool))
    (later : Inspections Store) : Prop :=
  ∃ answer, result = .ok answer ∧ ∀ errand, errands[client]? = some errand →
    (errand.managed = true → answer = some (foundNothing (storeTalk told))) ∧
      Settled errand.task initial (storeTalk told) later

theorem assures_calls (hready : ∀ errand ∈ errands, errand.Ready initial) (client : Nat) :
    (terms connector collector).Assures client (Ended errands initial client) []
      (calls errands client) initial := by
  unfold calls
  cases herrand : errands[client]? with
  | none =>
    intro later hlater
    refine ⟨none, rfl, ?_⟩
    intro errand hsome
    rw [herrand] at hsome
    cases hsome
  | some errand =>
    apply (assures_program (hready errand (List.mem_of_getElem? herrand))).mono
    rintro more result later hlater ⟨answer, hresult, hended⟩
    refine ⟨answer, hresult, ?_⟩
    rintro other hsome
    obtain rfl := Option.some.inj (herrand.symm.trans hsome)
    exact hended

theorem Run.goOn (h : Run connector collector errands initial talk state current)
    (hmore : Program.Interleaved (handler connector collector) current state more later final) :
    Run connector collector errands initial (talk ++ more) later final :=
  ⟨h.ready, h.interleaved.trans hmore⟩

theorem Run.kept (h : Run connector collector errands initial talk state current) :
    (terms connector collector).Kept initial talk :=
  (h.interleaved.assures (assures_calls h.ready)).1

theorem Run.ended (h : Run connector collector errands initial talk state current) {client : Nat}
    {result : Except ProviderError (Option Bool)} (hdone : current client = .done result) :
    Ended errands initial client (Program.own client talk) result state := by
  have hassured := (h.interleaved.assures (assures_calls h.ready)).2 client
  rw [hdone] at hassured
  exact hassured state (.refl state)

theorem Run.grows (h : Run connector collector errands initial talk state current) :
    Grows initial state := by
  have hgrows := (terms connector collector).grows_of_kept h.kept
  rw [← h.interleaved.state_eq] at hgrows
  exact hgrows

theorem Run.grows_on (h : Run connector collector errands initial talk state current)
    (hmore : Program.Interleaved (handler connector collector) current state more later final) :
    Grows state later := by
  have hkept := (h.goOn hmore).kept
  rw [(terms connector collector).kept_append_iff, ← h.interleaved.state_eq] at hkept
  rw [hmore.state_eq]
  exact (terms connector collector).grows_of_kept hkept.2

/-- A task that is free at first and then taken has been created once, any other never. -/
theorem Run.creations_add_held (h : Run connector collector errands initial talk state current)
    (key : ResourceKey) :
    Store.creations key (storeTalk talk) + initial.outside.held key = state.outside.held key := by
  obtain ⟨htruth, hafter⟩ := storeTalk_truthful h.interleaved.truthful h.kept
  rw [Store.creations_add_held htruth, hafter, ← h.interleaved.state_eq]

theorem Run.creations_le_one (h : Run connector collector errands initial talk state current)
    (key : ResourceKey) : Store.creations key (storeTalk talk) ≤ 1 := by
  have hcount := h.creations_add_held key
  have hheld := state.outside.held_le_one key
  omega

theorem detect_of_present {errand : Errand} (h : errand.Ready state) {doc : Document}
    (hdoc : state.outside.find? errand.task = some doc) :
    ((errand.feature.detect errand.backend errand.cluster).run (handler connector collector)
      state).result = .ok false := by
  have hassured : (terms connector collector).Assures 0 _ []
      (errand.feature.detect errand.backend errand.cluster) state := assures_detect h
  obtain ⟨told, found, hresult, hlooked⟩ := hassured.run
  cases hlooked with
  | found _ _ => exact hresult
  | missing _ habsent =>
    rw [hdoc] at habsent
    cases habsent

theorem at_most_one_task (h : Run connector collector errands initial talk state current) :
    (∀ key, Store.creations key (storeTalk talk) ≤ 1) ∧
    (∀ client, ∃ more later final answer,
      Program.Interleaved (handler connector collector) current state more later final ∧
        final client = .done (.ok answer)) ∧
    ∀ more later final,
      Program.Interleaved (handler connector collector) current state more later final →
      (∀ key doc, state.outside.find? key = some doc → later.outside.find? key = some doc) ∧
      ∀ client errand result, errands[client]? = some errand → current client = .done result →
        final client = .done result ∧ (∃ answer, result = .ok answer) ∧
        ∀ other : Errand, other.Ready initial → other.task = errand.task →
          ((other.feature.detect other.backend other.cluster).run (handler connector collector)
            later).result = .ok false := by
  refine ⟨h.creations_le_one, ?_, ?_⟩
  · intro client
    have hstart : Program.Interleaved (handler connector collector) current state [] state
        current := .start
    obtain ⟨more, hmore⟩ := hstart.finish client
    obtain ⟨answer, hanswer, _⟩ := (h.goOn hmore).ended (Function.update_self client _ current)
    rw [hanswer] at hmore
    exact ⟨_, _, _, answer, hmore, Function.update_self ..⟩
  · intro more later final hmore
    have hlater := h.goOn hmore
    refine ⟨(h.grows_on hmore).tasks, ?_⟩
    intro client errand result herrand hdone
    have hlast := hmore.eq_of_done hdone
    obtain ⟨answer, rfl, hended⟩ := hlater.ended hlast
    refine ⟨hlast, ⟨answer, rfl⟩, ?_⟩
    intro other hother htask
    obtain ⟨doc, hdoc⟩ := (hended errand herrand).2.present
    rw [← htask] at hdoc
    exact detect_of_present (hother.of_grows hlater.grows) hdoc

end Runs

/-! ## A race -/

def rival : Errand := ⟨.etcdInspection, ⟨"request", "request"⟩, Operated.smallCluster, true⟩

def rivals : List Errand := List.replicate 2 rival

def rivalStart : Inspections Store :=
  ⟨.builtin, .ofEntries [("request", ⟨"request", true⟩)], .empty⟩

abbrev RivalRun (talk : List Exchange) (state : Inspections Store) (current : Nat → Work) : Prop :=
  Run (fun store => ⟨.ok (), [], store⟩) (fun _ => .ok ()) rivals rivalStart talk state current

theorem rivals_start : RivalRun [] rivalStart (calls rivals) := by
  refine ⟨?_, .start⟩
  intro errand herrand
  rw [List.eq_of_mem_replicate herrand]
  rfl

/-- The second call looks, the first does all it has to do, and only then the second goes on. -/
theorem exists_race :
    ∃ talk state current, RivalRun talk state current ∧
      current 0 = .done (.ok (some true)) ∧ current 1 = .done (.ok (some true)) := by
  have hfound := Program.Interleaved.answer 1 rivals_start.interleaved rfl
  have hconnected := Program.Interleaved.answer 1 hfound rfl
  have hrequired := Program.Interleaved.answer 1 hconnected rfl
  have hmissed := Program.Interleaved.answer 1 hrequired rfl
  obtain ⟨first, hfirst⟩ := hmissed.finish 0
  obtain ⟨second, hsecond⟩ := hfirst.finish 1
  exact ⟨_, _, _, ⟨rivals_start.ready, hsecond⟩, rfl, rfl⟩

theorem at_most_one_task_rivals :
    ∃ talk state current, RivalRun talk state current ∧
      (∀ key, Store.creations key (storeTalk talk) ≤ 1) ∧
      ((rival.feature.detect rival.backend rival.cluster).run
        (handler (fun store => ⟨.ok (), [], store⟩) (fun _ => .ok ())) state).result =
          .ok false := by
  obtain ⟨talk, state, current, hrun, hdone, _⟩ := exists_race
  obtain ⟨hcount, _, hlater⟩ := at_most_one_task hrun
  obtain ⟨_, hended⟩ := hlater [] state current .start
  obtain ⟨_, _, hdetect⟩ := hended 0 rival _ rfl hdone
  exact ⟨talk, state, current, hrun, hcount, hdetect rival rfl rfl⟩

end Scheduling
end EtcdFleet
