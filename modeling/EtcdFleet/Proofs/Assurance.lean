import EtcdFleet.Proofs.Interleaving

set_option autoImplicit false

/-!
# What clients assure each other

Clients of one environment may agree on terms: which questions are allowed in a state, and how the state
grows by them. A client keeps to the terms if it asks nothing else and ends as it promises, whatever the
others make of the state between its questions. Where every client does, all of them end as they promise,
in any interleaving.
-/

namespace EtcdFleet.Program

variable {Call : Type} {Reply : Call → Type} {α β σ : Type}

structure Terms (handle : Handler Call Reply σ) where
  allowed : Call → σ → Prop
  grows : σ → σ → Prop
  refl (state : σ) : grows state state
  trans {first second third : σ} : grows first second → grows second third → grows first third
  grows_of_allowed {call : Call} {state : σ} :
    allowed call state → grows state (handle call state).state

/-! ## Runs that go on -/

section Runs

variable {handle : Handler Call Reply σ} {programs current final : Nat → Program Call Reply α}
  {initial state later : σ} {talk more : List (Exchange Call Reply)}

theorem Interleaved.trans (h : Interleaved handle programs initial talk state current)
    (hmore : Interleaved handle current state more later final) :
    Interleaved handle programs initial (talk ++ more) later final := by
  induction hmore with
  | start =>
    rw [List.append_nil]
    exact h
  | report client _ hcurrent ih => exact .report client ih hcurrent
  | answer client _ hcurrent ih =>
    rw [← List.append_assoc]
    exact .answer client ih hcurrent

theorem Interleaved.eq_of_done (h : Interleaved handle programs initial talk state current)
    {client : Nat} {result : Except ProviderError α} (hdone : programs client = .done result) :
    current client = .done result := by
  induction h with
  | start => exact hdone
  | report mover _ hcurrent ih =>
    have hne : client ≠ mover := by
      rintro rfl
      rw [ih] at hcurrent
      cases hcurrent
    rw [Function.update_of_ne hne]
    exact ih
  | answer mover _ hcurrent ih =>
    have hne : client ≠ mover := by
      rintro rfl
      rw [ih] at hcurrent
      cases hcurrent
    rw [Function.update_of_ne hne]
    exact ih

/-- From any point on, one client may go on alone until it ends. -/
theorem Interleaved.finish (h : Interleaved handle programs initial talk state current)
    (client : Nat) :
    ∃ more, Interleaved handle programs initial (talk ++ more)
      ((current client).run handle state).state
      (Function.update current client (.done ((current client).run handle state).result)) := by
  generalize hprogram : current client = program
  induction program generalizing talk state current with
  | done result =>
    refine ⟨[], ?_⟩
    rw [List.append_nil, run, ← hprogram, Function.update_eq_self]
    exact h
  | note event rest ih =>
    obtain ⟨more, hmore⟩ := ih (h.report client hprogram) (Function.update_self ..)
    rw [Function.update_idem] at hmore
    exact ⟨more, hmore⟩
  | ask call next ih =>
    obtain ⟨more, hmore⟩ := ih _ (h.answer client hprogram) (Function.update_self ..)
    rw [Function.update_idem, List.append_assoc] at hmore
    exact ⟨_, hmore⟩

theorem exists_finished (handle : Handler Call Reply σ) (programs : Nat → Program Call Reply α)
    (initial : σ) (count : Nat) :
    ∃ talk state current, Interleaved handle programs initial talk state current ∧
      ∀ client < count, ∃ result, current client = .done result := by
  induction count with
  | zero => exact ⟨[], initial, programs, .start, fun _ h => absurd h (Nat.not_lt_zero _)⟩
  | succ count ih =>
    obtain ⟨talk, state, current, hrun, hdone⟩ := ih
    obtain ⟨more, hmore⟩ := hrun.finish count
    refine ⟨_, _, _, hmore, fun client hclient => ?_⟩
    by_cases hlast : client = count
    · rw [hlast, Function.update_self]
      exact ⟨_, rfl⟩
    · rw [Function.update_of_ne hlast]
      exact hdone client (by omega)

end Runs

namespace Terms

variable {handle : Handler Call Reply σ} (terms : Terms handle)

/-- From this state on, the program keeps to the terms and ends as promised. What it has been told counts
for the promise, and the promise holds from its end on. -/
def Assures (client : Nat)
    (promise : List (Exchange Call Reply) → Except ProviderError α → σ → Prop) :
    List (Exchange Call Reply) → Program Call Reply α → σ → Prop
  | told, .done result, state => ∀ later, terms.grows state later → promise told result later
  | told, .note _ rest, state => Assures client promise told rest state
  | told, .ask call next, state => ∀ later, terms.grows state later →
      terms.allowed call later ∧
        Assures client promise (told ++ [⟨client, call, (handle call later).reply⟩])
          (next (handle call later).reply) (handle call later).state

def Kept : σ → List (Exchange Call Reply) → Prop
  | _, [] => True
  | state, exchange :: rest =>
    terms.allowed exchange.call state ∧ Kept (handle exchange.call state).state rest

theorem kept_append_iff {state : σ} {before after : List (Exchange Call Reply)} :
    terms.Kept state (before ++ after) ↔
      terms.Kept state before ∧ terms.Kept (stateAfter handle state before) after := by
  induction before generalizing state with
  | nil => exact ⟨fun h => ⟨trivial, h⟩, fun h => h.2⟩
  | cons exchange rest ih =>
    rw [List.cons_append, Kept, Kept, ih, and_assoc]
    rfl

theorem grows_of_kept {state : σ} {talk : List (Exchange Call Reply)} (h : terms.Kept state talk) :
    terms.grows state (stateAfter handle state talk) := by
  induction talk generalizing state with
  | nil => exact terms.refl state
  | cons exchange rest ih => exact terms.trans (terms.grows_of_allowed h.1) (ih h.2)

variable {terms} {client : Nat} {told : List (Exchange Call Reply)} {state later : σ}
  {promise : List (Exchange Call Reply) → Except ProviderError α → σ → Prop}

theorem Assures.of_grows {program : Program Call Reply α}
    (h : terms.Assures client promise told program state) (hgrows : terms.grows state later) :
    terms.Assures client promise told program later := by
  induction program with
  | done result =>
    intro last hlast
    exact h last (terms.trans hgrows hlast)
  | note event rest ih => exact ih h
  | ask call next =>
    intro last hlast
    exact h last (terms.trans hgrows hlast)

theorem Assures.andThen {program : Program Call Reply α}
    {next : Except ProviderError α → Program Call Reply β}
    {promise : List (Exchange Call Reply) → Except ProviderError β → σ → Prop}
    (h : terms.Assures client
      (fun told result state => terms.Assures client promise told (next result) state)
      told program state) :
    terms.Assures client promise told (program.andThen next) state := by
  induction program generalizing told state with
  | done result => exact h state (terms.refl state)
  | note event rest ih => exact ih h
  | ask call rest ih =>
    intro last hlast
    obtain ⟨hallowed, hrest⟩ := h last hlast
    exact ⟨hallowed, ih _ hrest⟩

theorem Assures.mono {program : Program Call Reply α}
    {weaker : List (Exchange Call Reply) → Except ProviderError α → σ → Prop}
    (h : terms.Assures client promise told program state)
    (hweaker : ∀ more result last, terms.grows state last →
      promise (told ++ more) result last → weaker (told ++ more) result last) :
    terms.Assures client weaker told program state := by
  induction program generalizing told state with
  | done result =>
    intro last hlast
    have hpromise := hweaker [] result last hlast
    rw [List.append_nil] at hpromise
    exact hpromise (h last hlast)
  | note event rest ih => exact ih h hweaker
  | ask call next ih =>
    intro last hlast
    obtain ⟨hallowed, hrest⟩ := h last hlast
    refine ⟨hallowed, ih _ hrest ?_⟩
    intro more result end' hend
    have hgrows := terms.trans (terms.trans hlast (terms.grows_of_allowed hallowed)) hend
    rw [List.append_assoc]
    exact hweaker _ result end' hgrows

theorem Assures.bind {program : Program Call Reply α} {next : α → Program Call Reply β}
    {promise : List (Exchange Call Reply) → Except ProviderError β → σ → Prop}
    (h : terms.Assures client
      (fun told result state => ∃ value, result = .ok value ∧
        terms.Assures client promise told (next value) state)
      told program state) :
    terms.Assures client promise told (program >>= next) state := by
  apply Assures.andThen
  apply h.mono
  rintro more result last hgrows ⟨value, rfl, hnext⟩
  exact hnext

theorem Assures.run {program : Program Call Reply α}
    (h : terms.Assures client promise told program state) :
    ∃ more, promise (told ++ more) (program.run handle state).result
      (program.run handle state).state := by
  induction program generalizing told state with
  | done result =>
    refine ⟨[], ?_⟩
    rw [List.append_nil]
    exact h state (terms.refl state)
  | note event rest ih => exact ih h
  | ask call next ih =>
    obtain ⟨_, hnext⟩ := h state (terms.refl state)
    obtain ⟨more, hmore⟩ := ih _ hnext
    rw [List.append_assoc] at hmore
    exact ⟨_, hmore⟩

end Terms

theorem Interleaved.assures {handle : Handler Call Reply σ} {terms : Terms handle}
    {programs current : Nat → Program Call Reply α} {initial state : σ}
    {talk : List (Exchange Call Reply)} {told : Nat → List (Exchange Call Reply)}
    {promise : Nat → List (Exchange Call Reply) → Except ProviderError α → σ → Prop}
    (h : Interleaved handle programs initial talk state current)
    (hprograms : ∀ client,
      terms.Assures client (promise client) (told client) (programs client) initial) :
    terms.Kept initial talk ∧ ∀ client,
      terms.Assures client (promise client) (told client ++ own client talk) (current client)
        state := by
  induction h with
  | start =>
    refine ⟨trivial, fun client => ?_⟩
    rw [own, List.filter_nil, List.append_nil]
    exact hprograms client
  | @report talk state current mover event rest _ hcurrent ih =>
    refine ⟨ih.1, fun client => ?_⟩
    by_cases hmover : client = mover
    · subst hmover
      rw [Function.update_self]
      have hnow := ih.2 client
      rw [hcurrent] at hnow
      exact hnow
    · rw [Function.update_of_ne hmover]
      exact ih.2 client
  | @answer talk state current mover call next hrun hcurrent ih =>
    have hnow := ih.2 mover
    rw [hcurrent] at hnow
    obtain ⟨hallowed, hnext⟩ := hnow state (terms.refl state)
    refine ⟨?_, fun client => ?_⟩
    · rw [terms.kept_append_iff, ← hrun.state_eq]
      exact ⟨ih.1, hallowed, trivial⟩
    · rw [own, List.filter_append, ← List.append_assoc]
      by_cases hmover : client = mover
      · subst hmover
        rw [Function.update_self, List.filter_cons_of_pos (by simp)]
        exact hnext
      · -- The others only see the state grow.
        rw [Function.update_of_ne hmover,
          List.filter_cons_of_neg (by simpa using Ne.symm hmover), List.filter_nil, List.append_nil]
        exact (ih.2 client).of_grows (terms.grows_of_allowed hallowed)

end EtcdFleet.Program
