import EtcdFleet.Proofs.FeatureTerms

set_option autoImplicit false

/-!
# What calls of the manager account for

Every call keeps to the terms of sharing, whatever the others do meanwhile. It tries the names that it is about
in their order, until it fails; what it fails with is what it was answered by the registry, the connector
or the backend, and what the registry or the connector refuses it ends with.
-/

namespace EtcdFleet

/-- How the programs of a backend can fail, by what they asked. -/
inductive Backend.Fails {Call : Type} {Reply : Call → Type} (backend : Backend Call Reply)
    (failure : ProviderError) : List (Program.Exchange Call Reply) → Prop
  | exists {cluster : Cluster} {feature : String} {part : List (Program.Exchange Call Reply)} :
    Program.Follows (backend.exists cluster feature) part (.done (.error failure)) →
    backend.Fails failure part
  | enqueue {cluster : Cluster} {feature : String} {part : List (Program.Exchange Call Reply)} :
    Program.Follows (backend.enqueue cluster feature) part (.done (.error failure)) →
    backend.Fails failure part
  | collect {task : Task} {part : List (Program.Exchange Call Reply)} :
    Program.Follows (backend.collect task) part (.done (.error failure)) →
    backend.Fails failure part

namespace Sharing

variable {σ Call : Type} {Reply : Call → Type} {α β : Type}

def onShared (program : FeatureWork Reply α) : Program (SharedCall Call) (SharedReply Reply) α :=
  program.relay fun call => Program.ask (.use call) fun reply => Program.done (.ok reply)

theorem onShared_andThen (program : FeatureWork Reply α)
    (next : Except ProviderError α → FeatureWork Reply β) :
    onShared (program.andThen next) =
      (onShared program).andThen fun result => onShared (next result) := by
  induction program with
  | done result => rfl
  | note event rest ih => exact congrArg (Program.note event) ih
  | ask call rest ih => exact congrArg (Program.ask (SharedCall.use call)) (funext ih)

/-! ## What a call has to account for -/

/-- The name whose feature an exchange settles, one way or the other. -/
def tried? : Exchange Reply → Option String
  | ⟨_, .use (.build slot), .error _⟩ => some slot
  | ⟨_, .use (.connect feature), _⟩ => some feature.slot
  | _ => none

def refusal? : Exchange Reply → Option ProviderError
  | ⟨_, .use (.build _), .error failure⟩ => some failure
  | ⟨_, .use (.connect _), .error failure⟩ => some failure
  | _ => none

theorem eq_error_of_refusal_build {client : Nat} {slot : String}
    {reply : Except ProviderError Feature} {failure : ProviderError}
    (h : refusal? (⟨client, .use (.build slot), reply⟩ : Exchange Reply) = some failure) :
    reply = .error failure := by
  cases reply with
  | ok feature => cases h
  | error other => exact congrArg _ (Option.some.inj h)

theorem eq_error_of_refusal_connect {client : Nat} {feature : Feature}
    {reply : Except ProviderError Unit} {failure : ProviderError}
    (h : refusal? (⟨client, .use (.connect feature), reply⟩ : Exchange Reply) = some failure) :
    reply = .error failure := by
  cases reply with
  | ok _ => cases h
  | error other => exact congrArg _ (Option.some.inj h)

def onUse (exchange : Program.Exchange Call Reply) : Exchange Reply :=
  ⟨exchange.client, .use (.backend exchange.call), exchange.reply⟩

/-- Somewhere among what was asked, a program of the backend fails. -/
def FailedIn (backend : Backend Call Reply) (asked : List (Exchange Reply))
    (failure : ProviderError) : Prop :=
  ∃ part, backend.Fails failure part ∧ part.map onUse <:+: asked

/-- The names that were tried, and how what was asked accounts for the result. -/
structure Accounted (backend : Backend Call Reply) (passes : ProviderError → Prop)
    (tried : List String) (asked : List (Exchange Reply)) (result : Except ProviderError α) :
    Prop where
  tried : asked.filterMap tried? = tried
  refusals : ∀ failure ∈ asked.filterMap refusal?, result = .error failure ∨ passes failure
  failures : ∀ failure, result = .error failure →
    failure ∈ asked.filterMap refusal? ∨ FailedIn backend asked failure

variable {backend : Backend Call Reply} {passes : ProviderError → Prop} {tried : List String}
  {asked more : List (Exchange Reply)} {failure : ProviderError}

theorem FailedIn.append_left (h : FailedIn backend more failure)
    (asked : List (Exchange Reply)) : FailedIn backend (asked ++ more) failure := by
  obtain ⟨part, hfails, hpart⟩ := h
  exact ⟨part, hfails, hpart.trans (List.suffix_append asked more).isInfix⟩

namespace Accounted

theorem append {value : α} {later : List String} {result : Except ProviderError β}
    (h : Accounted backend passes tried asked (.ok value : Except ProviderError α))
    (hnext : Accounted backend passes later more result) :
    Accounted backend passes (tried ++ later) (asked ++ more) result where
  tried := by rw [List.filterMap_append, h.tried, hnext.tried]
  refusals := by
    intro failure hfailure
    rw [List.filterMap_append, List.mem_append] at hfailure
    rcases hfailure with hfirst | hsecond
    · exact .inr ((h.refusals failure hfirst).resolve_left nofun)
    · exact hnext.refusals failure hsecond
  failures := by
    intro failure hfailure
    rw [List.filterMap_append, List.mem_append]
    rcases hnext.failures failure hfailure with hrefusal | hfailed
    · exact .inl (.inr hrefusal)
    · exact .inr (hfailed.append_left asked)

theorem congr {result : Except ProviderError α} {other : Except ProviderError β}
    (h : Accounted backend passes tried asked result)
    (hsame : ∀ failure, result = .error failure ↔ other = .error failure) :
    Accounted backend passes tried asked other where
  tried := h.tried
  refusals := fun failure hfailure =>
    (h.refusals failure hfailure).imp_left (hsame failure).1
  failures := fun failure hfailure => h.failures failure ((hsame failure).2 hfailure)

theorem error (h : Accounted backend passes tried asked (.error failure : Except ProviderError α)) :
    Accounted backend passes tried asked (.error failure : Except ProviderError β) :=
  h.congr fun _ => ⟨fun heq => congrArg _ (Except.error.inj heq),
    fun heq => congrArg _ (Except.error.inj heq)⟩

theorem mono {weaker : ProviderError → Prop} {result : Except ProviderError α}
    (h : Accounted backend passes tried asked result)
    (hpasses : ∀ failure, passes failure → weaker failure) :
    Accounted backend weaker tried asked result where
  tried := h.tried
  refusals := fun failure hfailure => (h.refusals failure hfailure).imp_right (hpasses failure)
  failures := h.failures

theorem weaken {result : Except ProviderError α}
    (h : Accounted backend (fun _ => False) tried asked result) :
    Accounted backend passes tried asked result :=
  h.mono fun _ => False.elim

theorem passed {value : β}
    (h : Accounted backend (fun _ => False) tried asked (.error failure : Except ProviderError α))
    (hpasses : passes failure) :
    Accounted backend passes tried asked (.ok value : Except ProviderError β) where
  tried := h.tried
  refusals := by
    intro other hother
    obtain rfl := Except.error.inj ((h.refusals other hother).resolve_right id)
    exact .inr hpasses
  failures := nofun

end Accounted

/-- Of the given names those up to some point were tried: all of them, unless the call failed there. -/
def Reckoned (backend : Backend Call Reply) (passes : ProviderError → Prop) (slots : List String)
    (asked : List (Exchange Reply)) (result : Except ProviderError α) : Prop :=
  ∃ tried rest, slots = tried ++ rest ∧ Accounted backend passes tried asked result ∧
    (rest = [] ∨ (tried ≠ [] ∧ ∃ failure, result = .error failure))

theorem Accounted.reckoned {result : Except ProviderError α}
    (h : Accounted backend passes tried asked result) :
    Reckoned backend passes tried asked result :=
  ⟨tried, [], (List.append_nil tried).symm, h, .inl rfl⟩

theorem Reckoned.of_ok {slots : List String} {value : α} {other : β}
    (h : Reckoned backend passes slots asked (.ok value : Except ProviderError α)) :
    Reckoned backend passes slots asked (.ok other : Except ProviderError β) := by
  obtain ⟨tried, rest, hslots, haccounted, hend⟩ := h
  refine ⟨tried, rest, hslots, haccounted.congr fun _ => ⟨nofun, nofun⟩, hend.imp_right ?_⟩
  rintro ⟨_, _, hfailure⟩
  cases hfailure

theorem Reckoned.of_error {slots : List String}
    (h : Reckoned backend passes slots asked (.error failure : Except ProviderError α)) :
    Reckoned backend passes slots asked (.error failure : Except ProviderError β) := by
  obtain ⟨tried, rest, hslots, haccounted, hend⟩ := h
  exact ⟨tried, rest, hslots, haccounted.error,
    hend.imp_right (And.imp_right fun _ => ⟨failure, rfl⟩)⟩

theorem Accounted.cons_reckoned {value : β} {slot : String} {slots : List String}
    {result : Except ProviderError α}
    (h : Accounted backend passes [slot] asked (.ok value : Except ProviderError β))
    (hmore : Reckoned backend passes slots more result) :
    Reckoned backend passes (slot :: slots) (asked ++ more) result := by
  obtain ⟨tried, rest, rfl, haccounted, hend⟩ := hmore
  exact ⟨slot :: tried, rest, rfl, h.append haccounted,
    hend.imp id (And.imp_left fun _ => List.cons_ne_nil slot tried)⟩

def Quiet (asked : List (Exchange Reply)) : Prop :=
  ∀ exchange ∈ asked, tried? exchange = none ∧ refusal? exchange = none

theorem Quiet.accounted (h : Quiet asked) {result : Except ProviderError α}
    (hfailures : ∀ failure, result = .error failure → FailedIn backend asked failure) :
    Accounted backend passes [] asked result where
  tried := List.filterMap_eq_nil_iff.2 fun exchange hexchange => (h exchange hexchange).1
  refusals := by
    intro failure hfailure
    rw [List.filterMap_eq_nil_iff.2 fun exchange hexchange => (h exchange hexchange).2] at hfailure
    cases hfailure
  failures := fun failure hfailure => .inr (hfailures failure hfailure)

theorem Quiet.accounted_append (h : Quiet asked) {result : Except ProviderError α}
    (hmore : Accounted backend passes tried more result) :
    Accounted backend passes tried (asked ++ more) result := by
  have hnothing : Accounted backend passes [] asked (.ok () : Except ProviderError Unit) :=
    h.accounted nofun
  exact hnothing.append hmore

theorem quiet_onUse (part : List (Program.Exchange Call Reply)) :
    Quiet (part.map onUse) := by
  intro exchange hexchange
  obtain ⟨source, _, rfl⟩ := List.mem_map.1 hexchange
  exact ⟨rfl, rfl⟩

theorem failedIn_onUse {part : List (Program.Exchange Call Reply)}
    (h : backend.Fails failure part) : FailedIn backend (part.map onUse) failure :=
  ⟨part, h, List.infix_rfl⟩

/-! ## How a program ends -/

section Ends

variable (connector : Inspections.Connector σ) (handle : Program.Handler Call Reply σ)
  (client : Nat)

/-- The program keeps to the terms, and ends as promised by what it asked. -/
def Ends (state : Inspections σ) (program : FeatureWork Reply α)
    (promise : List (Exchange Reply) → Except ProviderError α → Inspections σ → Prop) : Prop :=
  ∀ told, (terms connector handle).Assures client
    (fun told' result later => ∃ asked, told' = told ++ asked ∧ promise asked result later)
    told (onShared program) state

variable {connector} {handle} {client} {state later : Inspections σ}
  {program : FeatureWork Reply α} {feature : Feature} {slot : String}

namespace Ends

theorem done {result : Except ProviderError α}
    {promise : List (Exchange Reply) → Except ProviderError α → Inspections σ → Prop}
    (h : ∀ later, Grows state later → promise [] result later) :
    Ends connector handle client state (.done result) promise := by
  intro told later hlater
  exact ⟨[], (List.append_nil told).symm, h later hlater⟩

theorem ask {call : FeatureCall Call} {next : FeatureReply Reply call → FeatureWork Reply α}
    {promise : List (Exchange Reply) → Except ProviderError α → Inspections σ → Prop}
    (h : ∀ later, Grows state later → Allowed (.use call) later ∧
      Ends connector handle client (Inspections.handler connector handle call later).state
        (next (Inspections.handler connector handle call later).reply)
        fun asked result last => promise
          (⟨client, .use call, (Inspections.handler connector handle call later).reply⟩ :: asked)
          result last) :
    Ends connector handle client state (.ask call next) promise := by
  intro told later hlater
  obtain ⟨hallowed, hnext⟩ := h later hlater
  refine ⟨hallowed, (hnext _).mono ?_⟩
  rintro more result last _ ⟨asked, hasked, hpromise⟩
  exact ⟨_, hasked.trans (List.append_assoc ..), hpromise⟩

variable {promise : List (Exchange Reply) → Except ProviderError α → Inspections σ → Prop}

theorem mono {weaker : List (Exchange Reply) → Except ProviderError α → Inspections σ → Prop}
    (h : Ends connector handle client state program promise)
    (hweaker : ∀ asked result later, Grows state later → promise asked result later →
      weaker asked result later) : Ends connector handle client state program weaker := by
  intro told
  apply (h told).mono
  rintro more result later hlater ⟨asked, hasked, hpromise⟩
  exact ⟨asked, hasked, hweaker asked result later hlater hpromise⟩

theorem andThen {next : Except ProviderError α → FeatureWork Reply β}
    {goal : List (Exchange Reply) → Except ProviderError β → Inspections σ → Prop}
    (h : Ends connector handle client state program promise)
    (hnext : ∀ asked result later, Grows state later → promise asked result later →
      Ends connector handle client later (next result)
        fun more final last => goal (asked ++ more) final last) :
    Ends connector handle client state (program.andThen next) goal := by
  intro told
  rw [onShared_andThen]
  apply Program.Terms.Assures.andThen
  apply (h told).mono
  rintro _ result later hlater ⟨asked, hasked, hpromise⟩
  rw [hasked]
  apply (hnext asked result later hlater hpromise _).mono
  rintro _ final last _ ⟨more, hmore, hgoal⟩
  exact ⟨asked ++ more, hmore.trans (List.append_assoc ..), hgoal⟩

theorem attempt_bind {next : Except ProviderError α → FeatureWork Reply β}
    {goal : List (Exchange Reply) → Except ProviderError β → Inspections σ → Prop}
    (h : Ends connector handle client state program promise)
    (hnext : ∀ asked result later, Grows state later → promise asked result later →
      Ends connector handle client later (next result)
        fun more final last => goal (asked ++ more) final last) :
    Ends connector handle client state (Program.attempt program >>= next) goal := by
  change Ends connector handle client state ((program.andThen pure).andThen _) goal
  rw [Program.andThen_assoc]
  exact h.andThen hnext

theorem note {event : Event} (h : Ends connector handle client state program promise) :
    Ends connector handle client state (.note event program) promise := h

end Ends

/-! ## The parts of a call -/

theorem ends_onBackend (program : Program Call Reply α) (state : Inspections σ) :
    Ends connector handle client state (FeatureWork.onBackend program) fun asked result _ =>
      ∃ part, asked = part.map onUse ∧ Program.Follows program part (.done result) := by
  induction program generalizing state with
  | done result => exact .done fun _ _ => ⟨[], rfl, .rest⟩
  | note event rest ih =>
    apply Ends.note
    apply (ih state).mono
    rintro asked result later _ ⟨part, hasked, hfollows⟩
    exact ⟨part, hasked, .report hfollows⟩
  | ask call next ih =>
    apply Ends.ask
    intro later _
    refine ⟨trivial, (ih _ _).mono ?_⟩
    rintro asked result last _ ⟨part, rfl, hfollows⟩
    exact ⟨_ :: part, rfl, .answer hfollows⟩

variable (connector) (handle) (client) (backend) in
/-- The program accounts for its result without passing over anything, and is good for its value. -/
def Settles (state : Inspections σ) (program : FeatureWork Reply α) (tried : List String)
    (good : α → Inspections σ → Prop) : Prop :=
  Ends connector handle client state program fun asked result later =>
    Accounted backend (fun _ => False) tried asked result ∧
      ∀ value, result = .ok value → good value later

variable {good : α → Inspections σ → Prop} {goal : β → Inspections σ → Prop}

theorem settles_pure {value : α} (h : ∀ later, Grows state later → good value later) :
    Settles backend connector handle client state (pure value) [] good := by
  apply Ends.done
  intro later hlater
  refine ⟨Quiet.accounted (List.forall_mem_nil _) nofun, ?_⟩
  intro other hother
  obtain rfl := Except.ok.inj hother
  exact h later hlater

theorem Settles.bind {next : α → FeatureWork Reply β}
    (h : Settles backend connector handle client state program tried good)
    (hnext : ∀ value later, Grows state later → good value later →
      Settles backend connector handle client later (next value) [] goal) :
    Settles backend connector handle client state (program >>= next) tried goal := by
  apply Ends.andThen h
  rintro asked result later hlater ⟨haccounted, hgood⟩
  cases result with
  | error failure =>
    apply Ends.done
    intro last _
    rw [List.append_nil]
    exact ⟨haccounted.error, nofun⟩
  | ok value =>
    apply (hnext value later hlater (hgood value rfl)).mono
    rintro more final last _ ⟨hmore, hgoal⟩
    have hwhole := haccounted.append hmore
    rw [List.append_nil] at hwhole
    exact ⟨hwhole, hgoal⟩

theorem settles_require (h : Held state feature) :
    Settles backend connector handle client state (FeatureWork.require feature) []
      fun _ _ => True := by
  apply Ends.ask
  intro later hlater
  have hheld : Held later feature := hlater.held h
  refine ⟨hheld, ?_⟩
  have hreply : (Inspections.handler connector handle (.require feature) later).reply = .ok () :=
    hheld.required
  rw [hreply]
  apply Ends.done
  intro last _
  exact ⟨Quiet.accounted (List.forall_mem_singleton.2 ⟨rfl, rfl⟩) nofun, fun _ _ => trivial⟩

theorem ends_quiet {result : Except ProviderError α} (hasked : Quiet asked)
    (hfailures : ∀ failure, result = .error failure → FailedIn backend asked failure) :
    Ends connector handle client state (.done result) fun more final _ =>
      Accounted backend (fun _ => False) [] (asked ++ more) final ∧
        ∀ value, final = .ok value → True := by
  apply Ends.done
  intro later _
  rw [List.append_nil]
  exact ⟨hasked.accounted hfailures, fun _ _ => trivial⟩

theorem settles_onBackend {program : Program Call Reply α}
    (hfails : ∀ failure part, Program.Follows program part (.done (.error failure)) →
      backend.Fails failure part) :
    Settles backend connector handle client state (FeatureWork.onBackend program) []
      fun _ _ => True := by
  apply (ends_onBackend program state).mono
  rintro _ result later _ ⟨part, rfl, hfollows⟩
  refine ⟨(quiet_onUse part).accounted ?_, fun _ _ => trivial⟩
  rintro failure rfl
  exact failedIn_onUse (hfails failure part hfollows)

theorem settles_exists (cluster : Cluster) (feature : String) :
    Settles backend connector handle client state
      (FeatureWork.onBackend (backend.exists cluster feature)) [] fun _ _ => True :=
  settles_onBackend fun _ _ => .exists

theorem settles_detect (h : Held state feature) (cluster : Cluster) :
    Settles backend connector handle client state (feature.detect backend cluster) []
      fun _ _ => True := by
  apply (settles_require h).bind
  intro _ later _ _
  apply (settles_exists cluster feature.name).bind
  intro found last _ _
  exact settles_pure fun _ _ => trivial

/-- To lose the race for a task is the one failure of a backend that is not passed on. -/
theorem settles_enqueue (cluster : Cluster) :
    Settles backend connector handle client state
      (do
        match ← Program.attempt (FeatureWork.onBackend (backend.enqueue cluster feature.name)) with
        | .ok task => Program.report (feature.enqueued task)
        | .error failure => if failure.isAlreadyExists then return () else Program.fail failure)
      [] fun _ _ => True := by
  apply (ends_onBackend _ state).attempt_bind
  rintro _ result later _ ⟨part, rfl, hfollows⟩
  have hquiet : Quiet (part.map onUse) := quiet_onUse part
  cases result with
  | ok task => exact Ends.note (ends_quiet hquiet nofun)
  | error failure =>
    dsimp only
    by_cases hexists : failure.isAlreadyExists = true
    · rw [if_pos hexists]
      exact ends_quiet hquiet nofun
    · rw [if_neg hexists]
      apply ends_quiet hquiet
      rintro other ⟨⟩
      exact failedIn_onUse (.enqueue hfollows)

theorem settles_sync (h : Held state feature) (cluster : Cluster) :
    Settles backend connector handle client state (feature.sync backend cluster) []
      fun _ _ => True := by
  apply (settles_require h).bind
  intro _ later _ _
  apply (settles_exists cluster feature.name).bind
  intro found last _ _
  cases found with
  | true => exact settles_pure fun _ _ => trivial
  | false => exact settles_enqueue cluster

theorem settles_collect (h : Held state feature) (task : Task) :
    Settles backend connector handle client state (feature.execute backend task) []
      fun _ _ => True := by
  apply (settles_require h).bind
  intro _ later _ _
  exact settles_onBackend fun _ _ => .collect

/-! ## Whole calls, by the names they try -/

theorem settles_connect (h : state.found? feature.slot = some feature) :
    Settles backend connector handle client state
      (do
        FeatureWork.connect feature
        return feature)
      [feature.slot] fun value later => value = feature ∧ Held later feature := by
  apply Ends.ask
  intro later hlater
  have hfound := hlater.found? h
  refine ⟨hfound, ?_⟩
  have hconnect : Inspections.handler connector handle (.connect feature) later =
      later.connected connector feature := rfl
  rw [hconnect]
  cases hreply : (later.connected connector feature).reply with
  | ok _ =>
    have hheld : Held (later.connected connector feature).state feature :=
      held_connected hfound hreply
    apply Ends.done
    intro last hlast
    refine ⟨⟨rfl, nofun, nofun⟩, ?_⟩
    rintro value ⟨⟩
    exact ⟨rfl, hlast.held hheld⟩
  | error failure =>
    apply Ends.done
    intro last _
    refine ⟨⟨rfl, ?_, ?_⟩, nofun⟩
    · intro other hother
      obtain rfl := List.mem_singleton.1 hother
      exact .inl rfl
    · rintro other ⟨⟩
      exact .inl (List.mem_singleton.2 rfl)

theorem settles_feature (slot : String) (state : Inspections σ) :
    Settles backend connector handle client state (Manager.feature slot) [slot]
      fun feature later => feature.slot = slot ∧ Held later feature := by
  apply Ends.ask
  intro later _
  refine ⟨trivial, ?_⟩
  have hfind : Inspections.handler connector handle (.find slot) later =
      ⟨later.found? slot, [], later⟩ := rfl
  rw [hfind]
  cases hfound : later.found? slot with
  | some feature =>
    obtain ⟨rfl, _⟩ := found?_eq_some_iff.1 hfound
    have hquiet : Quiet
        ([⟨client, .use (.find feature.slot), some feature⟩] : List (Exchange Reply)) :=
      List.forall_mem_singleton.2 ⟨rfl, rfl⟩
    apply Ends.mono (settles_connect hfound)
    rintro asked result last _ ⟨haccounted, hgood⟩
    refine ⟨hquiet.accounted_append haccounted, ?_⟩
    intro value hvalue
    obtain ⟨rfl, hheld⟩ := hgood value hvalue
    exact ⟨rfl, hheld⟩
  | none =>
    -- Somebody else may have built it by now.
    apply Ends.ask
    intro last _
    refine ⟨trivial, ?_⟩
    have hbuild : Inspections.handler connector handle (.build slot) last =
        ⟨(last.built slot).1, [], (last.built slot).2⟩ := rfl
    rw [hbuild]
    cases hbuilt : (last.built slot).1 with
    | ok feature =>
      have hfound := found?_built hbuilt
      obtain ⟨rfl, _⟩ := found?_eq_some_iff.1 hfound
      have hquiet : Quiet
          ([⟨client, .use (.find feature.slot), none⟩,
            ⟨client, .use (.build feature.slot), .ok feature⟩] : List (Exchange Reply)) :=
        List.forall_mem_cons.2 ⟨⟨rfl, rfl⟩, List.forall_mem_singleton.2 ⟨rfl, rfl⟩⟩
      apply Ends.mono (settles_connect hfound)
      rintro asked result final _ ⟨haccounted, hgood⟩
      refine ⟨hquiet.accounted_append haccounted, ?_⟩
      intro value hvalue
      obtain ⟨rfl, hheld⟩ := hgood value hvalue
      exact ⟨rfl, hheld⟩
    | error failure =>
      apply Ends.done
      intro final _
      refine ⟨⟨rfl, ?_, ?_⟩, nofun⟩
      · intro other hother
        obtain rfl := List.mem_singleton.1 hother
        exact .inl rfl
      · rintro other ⟨⟩
        exact .inl (List.mem_singleton.2 rfl)

theorem settles_reconcile (cluster : Cluster) (slot : String) (state : Inspections σ) :
    Settles backend connector handle client state (Manager.reconcile backend cluster slot) [slot]
      fun _ _ => True := by
  apply (settles_feature slot state).bind
  rintro feature later _ ⟨_, hheld⟩
  apply (settles_detect hheld cluster).bind
  intro free last hlast _
  cases free with
  | false => exact settles_pure fun _ _ => trivial
  | true =>
    apply (settles_sync (hlast.held hheld) cluster).bind
    intro _ end' _ _
    apply Ends.note
    exact settles_pure fun _ _ => trivial

theorem settles_execute (task : Task) (state : Inspections σ) :
    Settles backend connector handle client state (Manager.execute backend task) [task.feature]
      fun _ _ => True := by
  apply (settles_feature task.feature state).bind
  rintro feature later _ ⟨_, hheld⟩
  exact settles_collect hheld task

/-- Nothing is registered under the name, or so it is said. -/
def Unknown (failure : ProviderError) : Prop := ∃ kind name, failure = .providerNotFound kind name

theorem ends_reconcileEach (cluster : Cluster) (slots : List String) (state : Inspections σ) :
    Ends connector handle client state (Manager.reconcileEach backend cluster slots)
      fun asked result _ => Reckoned backend Unknown slots asked result := by
  induction slots generalizing state with
  | nil =>
    have hnothing : Accounted backend Unknown [] []
        (.ok [] : Except ProviderError (List String)) :=
      Quiet.accounted (List.forall_mem_nil _) nofun
    exact Ends.done fun _ _ => hnothing.reckoned
  | cons slot slots ih =>
    have hslot : Settles backend connector handle client state
        (Manager.reconcile backend cluster slot) [slot] fun _ _ => True :=
      settles_reconcile cluster slot state
    apply Ends.attempt_bind hslot
    rintro asked result later _ ⟨haccounted, _⟩
    split
    · apply Ends.andThen (ih later)
      intro more final last _ hmore
      have hwhole := haccounted.weaken.cons_reckoned hmore
      cases final with
      | ok slots =>
        apply Ends.done
        intro _ _
        rw [List.append_nil]
        exact hwhole.of_ok
      | error failure =>
        apply Ends.done
        intro _ _
        rw [List.append_nil]
        exact hwhole
    · apply (ih later).mono
      intro more final last _ hmore
      exact haccounted.weaken.cons_reckoned hmore
    · -- Passed over.
      apply Ends.note
      apply (ih later).mono
      intro more final last _ hmore
      have hslot : Accounted backend Unknown [slot] asked (.ok () : Except ProviderError Unit) :=
        haccounted.passed ⟨_, _, rfl⟩
      exact hslot.cons_reckoned hmore
    · apply Ends.done
      intro last _
      rw [List.append_nil]
      exact ⟨[slot], slots, rfl, haccounted.weaken.error,
        .inr ⟨List.cons_ne_nil slot [], _, rfl⟩⟩

end Ends

/-! ## The calls as a whole -/

inductive ManagerCall
  | provide (slot : String)
  | reconcile (cluster : Cluster) (slot : String)
  | reconcileEnabled (cluster : Cluster)
  | execute (task : Task)

inductive Answer
  | provided (feature : Feature)
  | reconciled (scheduled : Bool)
  | enabled (scheduled : List String)
  | done

namespace ManagerCall

def work (backend : Backend Call Reply) : ManagerCall → FeatureWork Reply Answer
  | provide slot => do return .provided (← Manager.feature slot)
  | reconcile cluster slot => do return .reconciled (← Manager.reconcile backend cluster slot)
  | reconcileEnabled cluster => do return .enabled (← Manager.reconcileEnabled backend cluster)
  | execute task => do
    Manager.execute backend task
    return .done

def slots : ManagerCall → List String
  | provide slot => [slot]
  | reconcile _ slot => [slot]
  | reconcileEnabled cluster => cluster.enabledFeatures
  | execute task => [task.feature]

/-- The failures that do not end it. -/
def Passes : ManagerCall → ProviderError → Prop
  | reconcileEnabled _ => Unknown
  | _ => fun _ => False

def Good (call : ManagerCall) (result : Except ProviderError Answer) (state : Inspections σ) : Prop :=
  ∀ feature, result = .ok (.provided feature) → feature.slot ∈ call.slots ∧ Held state feature

end ManagerCall

section Calls

variable {connector : Inspections.Connector σ} {handle : Program.Handler Call Reply σ}
  {client : Nat} {state : Inspections σ}

theorem Settles.ends {work : FeatureWork Reply Answer} {slot : String} {call : ManagerCall}
    (hslots : call.slots = [slot])
    (h : Settles backend connector handle client state work [slot] fun answer later =>
      ∀ feature, answer = .provided feature → feature.slot ∈ call.slots ∧ Held later feature) :
    Ends connector handle client state work fun asked result later =>
      Reckoned backend call.Passes call.slots asked result ∧ call.Good result later := by
  apply Ends.mono h
  rintro asked result later _ ⟨haccounted, hgood⟩
  rw [hslots] at hgood ⊢
  refine ⟨haccounted.weaken.reckoned, ?_⟩
  intro feature hfeature
  rw [hslots]
  exact hgood _ hfeature feature rfl

theorem ends_work (call : ManagerCall) (state : Inspections σ) :
    Ends connector handle client state (call.work backend) fun asked result later =>
      Reckoned backend call.Passes call.slots asked result ∧ call.Good result later := by
  cases call with
  | provide slot =>
    apply Settles.ends rfl
    apply (settles_feature slot state).bind
    rintro feature later _ ⟨rfl, hheld⟩
    apply settles_pure
    rintro last hlast other ⟨⟩
    exact ⟨List.mem_singleton.2 rfl, hlast.held hheld⟩
  | reconcile cluster slot =>
    apply Settles.ends rfl
    apply (settles_reconcile cluster slot state).bind
    intro scheduled later _ _
    exact settles_pure fun _ _ => nofun
  | reconcileEnabled cluster =>
    apply Ends.andThen (ends_reconcileEach cluster cluster.enabledFeatures state)
    intro asked result later _ hreckoned
    cases result with
    | ok slots =>
      apply Ends.done
      intro _ _
      rw [List.append_nil]
      exact ⟨hreckoned.of_ok, nofun⟩
    | error failure =>
      apply Ends.done
      intro _ _
      rw [List.append_nil]
      exact ⟨hreckoned.of_error, nofun⟩
  | execute task =>
    apply Settles.ends rfl
    apply (settles_execute task state).bind
    intro _ later _ _
    exact settles_pure fun _ _ => nofun

end Calls

end Sharing
end EtcdFleet
