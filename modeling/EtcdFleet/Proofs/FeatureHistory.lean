import Mathlib.Data.List.Induction
import EtcdFleet.Proofs.FeatureTerms

set_option autoImplicit false

/-!
# What is shared, by what was asked

What the users of features share at any point is told by the questions up to there: the features that are
shared are those whose building succeeded, the connected ones those whose connecting succeeded, and what can
be built is what was registered. So what is replied is told by them as well.
-/

namespace EtcdFleet.Sharing

variable {σ Call : Type} {Reply : Call → Type} {connector : Inspections.Connector σ}
  {backend : Program.Handler Call Reply σ} {state later : Inspections σ} {feature : Feature}

/-! ## What an exchange tells -/

/-- The feature that was asked for and built, or had been built before. -/
def built? : Exchange Reply → Option Feature
  | ⟨_, .use (.build _), .ok feature⟩ => some feature
  | _ => none

/-- The feature that was connected, or had been connected before. -/
def connected? : Exchange Reply → Option Feature
  | ⟨_, .use (.connect feature), .ok ()⟩ => some feature
  | _ => none

def registered? : Exchange Reply → Option String
  | ⟨_, .register slot _, .ok ()⟩ => some slot
  | _ => none

def Built (talk : List (Exchange Reply)) (feature : Feature) : Prop :=
  feature ∈ talk.filterMap built?

def Connected (talk : List (Exchange Reply)) (feature : Feature) : Prop :=
  feature ∈ talk.filterMap connected?

def Registered (initial : Registry) (talk : List (Exchange Reply)) (slot : String) : Prop :=
  initial.features.find? slot ≠ none ∨ slot ∈ talk.filterMap registered?

theorem mem_filterMap_append {ε : Type} (tells : Exchange Reply → Option ε)
    (talk : List (Exchange Reply)) (exchange : Exchange Reply) (told : ε) :
    told ∈ (talk ++ [exchange]).filterMap tells ↔
      told ∈ talk.filterMap tells ∨ tells exchange = some told := by
  rw [List.filterMap_append, List.mem_append]
  simp [List.mem_filterMap]

theorem silent {ε : Type} {tells : Exchange Reply → Option ε} {exchange : Exchange Reply}
    {good : ε → Prop} (h : tells exchange = none) (told : ε) (htold : tells exchange = some told) :
    good told := by
  rw [h] at htold
  cases htold

theorem iff_or_silent {ε : Type} {tells : Exchange Reply → Option ε} {exchange : Exchange Reply}
    {told : ε} {good : Prop} (h : tells exchange = none) :
    good ↔ good ∨ tells exchange = some told := by
  rw [h, or_iff_left (Option.some_ne_none told).symm]

/-! ## What is held tells what was asked -/

def Makes (registry : Registry) : Prop :=
  ∀ slot maker, registry.features.find? slot = some maker → ∃ name, maker = .ok name

structure Ledger (initial : Registry) (talk : List (Exchange Reply)) (state : Inspections σ) :
    Prop where
  built : ∀ feature, state.found? feature.slot = some feature ↔ Built talk feature
  connected : ∀ feature, Held state feature ↔ Connected talk feature
  registered : ∀ slot, state.registry.features.find? slot ≠ none ↔ Registered initial talk slot
  covered : ∀ slot, state.found? slot ≠ none → state.registry.features.find? slot ≠ none
  makes : Makes state.registry

theorem ledger_start {initial : Inspections σ} (hslots : initial.slots = .empty)
    (hmakes : Makes initial.registry) :
    Ledger initial.registry ([] : List (Exchange Reply)) initial := by
  have hnone : ∀ slot, initial.slots.find? slot = none := by
    intro slot
    rw [hslots]
    rfl
  have hfound : ∀ slot, initial.found? slot = none := fun slot =>
    found?_eq_none_iff.2 (hnone slot)
  refine ⟨?_, ?_, ?_, ?_, hmakes⟩
  · intro feature
    simp [hfound, Built]
  · intro feature
    simp [Held, hnone, Connected]
  · intro slot
    simp [Registered]
  · intro slot hsome
    exact absurd (hfound slot) hsome

namespace Ledger

variable {initial : Registry} {talk : List (Exchange Reply)} {exchange : Exchange Reply}

theorem append (h : Ledger initial talk state)
    (hbuilt : ∀ feature, later.found? feature.slot = some feature ↔
      state.found? feature.slot = some feature ∨ built? exchange = some feature)
    (hconnected : ∀ feature, Held later feature ↔
      Held state feature ∨ connected? exchange = some feature)
    (hregistered : ∀ slot, later.registry.features.find? slot ≠ none ↔
      state.registry.features.find? slot ≠ none ∨ registered? exchange = some slot)
    (hcovered : ∀ slot, later.found? slot ≠ none → later.registry.features.find? slot ≠ none)
    (hmakes : Makes later.registry) : Ledger initial (talk ++ [exchange]) later := by
  refine ⟨?_, ?_, ?_, hcovered, hmakes⟩
  · intro feature
    rw [hbuilt, h.built, Built, Built, mem_filterMap_append]
  · intro feature
    rw [hconnected, h.connected, Connected, Connected, mem_filterMap_append]
  · intro slot
    rw [hregistered, h.registered, Registered, Registered, mem_filterMap_append, or_assoc]

/-- From an exchange that changes nothing here and tells nothing new. -/
theorem keep (h : Ledger initial talk state) (hslots : later.slots = state.slots)
    (hregistry : later.registry = state.registry)
    (hbuilt : ∀ feature, built? exchange = some feature →
      state.found? feature.slot = some feature)
    (hconnected : ∀ feature, connected? exchange = some feature → Held state feature)
    (hregistered : ∀ slot, registered? exchange = some slot →
      state.registry.features.find? slot ≠ none) :
    Ledger initial (talk ++ [exchange]) later := by
  have hfound : ∀ slot, later.found? slot = state.found? slot := by
    intro slot
    rw [Inspections.found?, Inspections.found?, hslots]
  refine h.append ?_ ?_ ?_ ?_ ?_
  · intro feature
    rw [hfound, or_iff_left_of_imp (hbuilt feature)]
  · intro feature
    rw [or_iff_left_of_imp (hconnected feature), Held, Held, hslots]
  · intro slot
    rw [hregistry, or_iff_left_of_imp (hregistered slot)]
  · intro slot hsome
    rw [hregistry]
    exact h.covered slot (hfound slot ▸ hsome)
  · rw [hregistry]
    exact h.makes

theorem build (h : Ledger initial talk state) (client : Nat) (slot : String) :
    Ledger initial (talk ++ [⟨client, .use (.build slot), (state.built slot).1⟩])
      (state.built slot).2 := by
  cases hfound : state.found? slot with
  | some feature =>
    rw [built_of_found hfound]
    refine h.keep rfl rfl ?_ (silent rfl) (silent rfl)
    intro other hother
    obtain rfl := Option.some.inj hother
    obtain ⟨rfl, _⟩ := found?_eq_some_iff.1 hfound
    exact hfound
  | none =>
    have hslot := found?_eq_none_iff.1 hfound
    rcases built_of_missing hfound with ⟨name, hmake, hbuilt⟩ | ⟨failure, hmake, hbuilt⟩
    · rw [hbuilt]
      refine h.append ?_ ?_ ?_ ?_ h.makes
      · intro other
        rw [found?_place_iff state ⟨slot, name⟩]
        have hapart : state.found? other.slot = some other → other.slot ≠ slot := by
          rintro hother rfl
          rw [hfound] at hother
          cases hother
        change _ ↔ _ ∨ some _ = some other
        rw [Option.some.injEq, and_iff_right_of_imp hapart, or_comm, @eq_comm _ other]
      · intro other
        rw [held_place_iff state ⟨slot, name⟩]
        have hapart : Held state other → other.slot ≠ slot := by
          rintro hother rfl
          cases hslot.symm.trans hother
        rw [and_iff_right_of_imp hapart]
        exact ⟨fun hor => .inl (hor.resolve_left nofun), fun hor => .inr (hor.resolve_right nofun)⟩
      · intro other
        exact iff_or_silent rfl
      · intro other hother
        by_cases hsame : other = slot
        · subst hsame
          exact find?_of_featureName hmake
        · rw [found?_place_of_ne _ _ _ hsame] at hother
          exact h.covered other hother
    · rw [hbuilt]
      exact h.keep rfl rfl (silent rfl) (silent rfl) (silent rfl)

theorem connect (h : Ledger initial talk state) (client : Nat)
    (hallowed : state.found? feature.slot = some feature) :
    Ledger initial
      (talk ++ [⟨client, .use (.connect feature), (state.connected connector feature).reply⟩])
      (state.connected connector feature).state := by
  obtain ⟨_, connected, hheld⟩ := found?_eq_some_iff.1 hallowed
  cases connected with
  | true =>
    rw [connected_of_held hheld]
    refine h.keep rfl rfl (silent rfl) ?_ (silent rfl)
    intro other hother
    obtain rfl := Option.some.inj hother
    exact hheld
  | false =>
    have hdialled : (dialled connector state).found? feature.slot = some feature := hallowed
    rcases connected_of_unheld connector hheld with
      ⟨_, hreply, hafter⟩ | ⟨failure, _, hreply, hafter⟩
    · rw [hreply, hafter]
      refine h.append ?_ ?_ ?_ ?_ h.makes
      · intro other
        rw [found?_place_of_found hdialled]
        exact iff_or_silent rfl
      · intro other
        rw [held_place_iff]
        have hapart : Held state other → other.slot ≠ feature.slot := by
          intro hother hsame
          rw [Held, hsame, hheld] at hother
          exact Bool.false_ne_true (Slot.mk.inj (Option.some.inj hother)).2
        change _ ∨ (_ ∧ Held state other) ↔ _ ∨ some feature = some other
        rw [and_iff_right_of_imp hapart, and_iff_left rfl, Option.some.injEq, or_comm,
          @eq_comm _ other]
      · intro other
        exact iff_or_silent rfl
      · intro other hother
        rw [found?_place_of_found hdialled] at hother
        exact h.covered other hother
    · rw [hreply, hafter]
      exact h.keep rfl rfl (silent rfl) (silent rfl) (silent rfl)

theorem register (h : Ledger initial talk state) (client : Nat) (slot name : String) :
    Ledger initial (talk ++ [⟨client, .register slot name, (state.enrolled slot name).reply⟩])
      (state.enrolled slot name).state := by
  cases hfree : state.registry.features.find? slot with
  | some maker =>
    rw [enrolled_of_taken hfree]
    exact h.keep rfl rfl (silent rfl) (silent rfl) (silent rfl)
  | none =>
    rw [enrolled_of_free hfree]
    have hself := NameMap.find?_insert_self state.registry.features slot (.ok name)
    have hother : ∀ other, other ≠ slot →
        (state.registry.features.insert slot (.ok name)).find? other =
          state.registry.features.find? other :=
      fun other hne => NameMap.find?_insert_of_ne _ _ hne
    refine h.append ?_ ?_ ?_ ?_ ?_
    · intro feature
      exact iff_or_silent rfl
    · intro feature
      exact iff_or_silent rfl
    · intro other
      change _ ↔ _ ∨ some slot = some other
      by_cases hne : other = slot
      · subst hne
        exact ⟨fun _ => .inr rfl, fun _ => Option.ne_none_iff_exists'.2 ⟨_, hself⟩⟩
      · rw [hother other hne]
        exact (or_iff_left_of_imp fun heq => absurd (Option.some.inj heq).symm hne).symm
    · intro other hsome
      by_cases hne : other = slot
      · subst hne
        exact Option.ne_none_iff_exists'.2 ⟨_, hself⟩
      · rw [hother other hne]
        exact h.covered other hsome
    · intro other maker hmaker
      by_cases hne : other = slot
      · subst hne
        exact ⟨name, Option.some.inj (hmaker.symm.trans hself)⟩
      · exact h.makes other maker ((hother other hne).symm.trans hmaker)

variable (connector) (backend) in
theorem step (h : Ledger initial talk state) (client : Nat) {call : SharedCall Call}
    (hallowed : Allowed call state) :
    Ledger initial
      (talk ++ [⟨client, call, (Inspections.sharedHandler connector backend call state).reply⟩])
      (Inspections.sharedHandler connector backend call state).state := by
  cases call with
  | register slot name => exact h.register client slot name
  | use call =>
    cases call with
    | find slot => exact h.keep rfl rfl (silent rfl) (silent rfl) (silent rfl)
    | build slot => exact h.build client slot
    | connect feature => exact h.connect client hallowed
    | require feature => exact h.keep rfl rfl (silent rfl) (silent rfl) (silent rfl)
    | backend call => exact h.keep rfl rfl (silent rfl) (silent rfl) (silent rfl)

end Ledger

theorem ledger_of_talk {initial : Inspections σ} (hslots : initial.slots = .empty)
    (hmakes : Makes initial.registry) {talk : List (Exchange Reply)}
    (htruth : Program.Truthful (Inspections.sharedHandler connector backend) initial talk)
    (hkept : (terms connector backend).Kept initial talk) :
    Ledger initial.registry talk
      (Program.stateAfter (Inspections.sharedHandler connector backend) initial talk) := by
  induction talk using List.reverseRecOn with
  | nil => exact ledger_start hslots hmakes
  | append_singleton talk exchange ih =>
    obtain ⟨hbefore, hreply, _⟩ := Program.truthful_append_iff.1 htruth
    obtain ⟨hkeptBefore, hallowed, _⟩ := ((terms connector backend).kept_append_iff).1 hkept
    have hledger := (ih hbefore hkeptBefore).step connector backend exchange.client hallowed
    rw [← hreply] at hledger
    rw [Program.stateAfter_append]
    exact hledger

/-! ## How often a feature is made -/

def constructs (slot : String) : SharedCall Call → Inspections σ → Bool
  | .use (.build asked), state =>
    decide (asked = slot) && (state.found? slot).isNone && (state.registry.featureName slot).isOk
  | _, _ => false

def constructions (connector : Inspections.Connector σ) (backend : Program.Handler Call Reply σ)
    (slot : String) : Inspections σ → List (Exchange Reply) → Nat
  | _, [] => 0
  | state, exchange :: rest =>
    (constructs slot exchange.call state).toNat +
      constructions connector backend slot
        (Inspections.sharedHandler connector backend exchange.call state).state rest

def shared (state : Inspections σ) (slot : String) : Nat := (state.found? slot).isSome.toNat

theorem constructs_add_shared_built (state : Inspections σ) (slot asked : String) :
    (constructs slot (.use (.build asked) : SharedCall Call) state).toNat + shared state slot =
      shared (state.built asked).2 slot := by
  rw [constructs, shared, shared]
  cases hfound : state.found? asked with
  | some feature =>
    rw [built_of_found hfound]
    by_cases hasked : asked = slot
    · subst hasked
      rw [hfound]
      simp
    · simp [hasked]
  | none =>
    rcases built_of_missing hfound with ⟨name, hmake, hbuilt⟩ | ⟨failure, hmake, hbuilt⟩
    · rw [hbuilt]
      by_cases hasked : asked = slot
      · subst hasked
        have hplaced : (state.place asked name false).found? asked = some ⟨asked, name⟩ :=
          (found?_place_iff state ⟨asked, name⟩ false).2 (.inl rfl)
        rw [hplaced, hfound, hmake]
        simp [Except.isOk, Except.toBool]
      · rw [found?_place_of_ne _ _ _ (Ne.symm hasked)]
        simp [hasked]
    · rw [hbuilt]
      by_cases hasked : asked = slot
      · subst hasked
        rw [hmake]
        simp [Except.isOk, Except.toBool]
      · simp [hasked]

variable (connector) (backend) in
theorem constructs_add_shared {call : SharedCall Call} (h : Allowed call state) (slot : String) :
    (constructs slot call state).toNat + shared state slot =
      shared (Inspections.sharedHandler connector backend call state).state slot := by
  cases call with
  | register asked name =>
    change 0 + _ = ((state.enrolled asked name).state.found? slot).isSome.toNat
    rw [Inspections.found?, enrolled_slots, Nat.zero_add]
    rfl
  | use call =>
    cases call with
    | find asked => exact Nat.zero_add _
    | build asked => exact constructs_add_shared_built state slot asked
    | connect feature =>
      change 0 + _ = ((state.connected connector feature).state.found? slot).isSome.toNat
      rw [found?_connected h, Nat.zero_add]
      rfl
    | require feature => exact Nat.zero_add _
    | backend call => exact Nat.zero_add _

theorem constructions_add_shared {talk : List (Exchange Reply)}
    (h : (terms connector backend).Kept state talk) (slot : String) :
    constructions connector backend slot state talk + shared state slot =
      shared (Program.stateAfter (Inspections.sharedHandler connector backend) state talk) slot := by
  induction talk generalizing state with
  | nil => exact Nat.zero_add _
  | cons exchange rest ih =>
    have hstep := constructs_add_shared connector backend h.1 slot
    have hrest := ih h.2
    rw [constructions, Nat.add_right_comm, hstep, Nat.add_comm]
    exact hrest

theorem constructions_le_one {talk : List (Exchange Reply)}
    (h : (terms connector backend).Kept state talk) (slot : String) :
    constructions connector backend slot state talk ≤ 1 := by
  have hcount := constructions_add_shared h slot
  have hmost : shared (Program.stateAfter (Inspections.sharedHandler connector backend) state talk)
      slot ≤ 1 := Bool.toNat_le _
  omega

/-! ## What is replied, by what was asked before -/

/-- What an exchange comes to, where `before` was asked before it and the state was the given one. -/
def Explained (connector : Inspections.Connector σ) (initial : Registry)
    (before : List (Exchange Reply)) (state : Inspections σ) : Exchange Reply → Inspections σ → Prop
  | ⟨_, .use (.find slot), reply⟩, after =>
    after = state ∧
      ∀ feature : Feature, reply = some feature ↔ feature.slot = slot ∧ Built before feature
  | ⟨_, .use (.build slot), reply⟩, after =>
    after.outside = state.outside ∧
    (Registered initial before slot →
      ∃ feature : Feature, reply = .ok feature ∧ feature.slot = slot ∧
        ∀ other, other.slot = slot → Built before other → other = feature) ∧
    (¬ Registered initial before slot →
      reply = .error (.providerNotFound .feature slot) ∧ after = state)
  | ⟨_, .use (.connect feature), reply⟩, after =>
    Built before feature ∧
    (Connected before feature → reply = .ok () ∧ after = state) ∧
    (¬ Connected before feature →
      reply = (connector state.outside).reply ∧ after.outside = (connector state.outside).state ∧
      ∀ failure, reply = .error failure →
        after.slots.find? feature.slot = some ⟨feature.name, false⟩)
  | ⟨_, .use (.require feature), reply⟩, after =>
    Built before feature ∧ Connected before feature ∧ reply = .ok () ∧ after = state
  | ⟨_, .use (.backend _), _⟩, after => after.slots = state.slots ∧ after.registry = state.registry
  | ⟨_, .register slot _, reply⟩, after =>
    after.slots = state.slots ∧ after.outside = state.outside ∧
      (reply = .ok () ↔ ¬ Registered initial before slot)

namespace Ledger

variable {initial : Registry} {before : List (Exchange Reply)} (h : Ledger initial before state)

include h

theorem found?_iff (slot : String) (feature : Feature) :
    state.found? slot = some feature ↔ feature.slot = slot ∧ Built before feature := by
  rw [← h.built]
  constructor
  · intro hfound
    obtain ⟨rfl, _⟩ := found?_eq_some_iff.1 hfound
    exact ⟨rfl, hfound⟩
  · rintro ⟨rfl, hfound⟩
    exact hfound

theorem explained_build (client : Nat) (slot : String) :
    Explained connector initial before state
      ⟨client, .use (.build slot), (state.built slot).1⟩ (state.built slot).2 := by
  refine ⟨outside_built state slot, fun hregistered => ?_, fun hunknown => ?_⟩
  · cases hfound : state.found? slot with
    | some feature =>
      rw [built_of_found hfound]
      obtain ⟨rfl, _⟩ := found?_eq_some_iff.1 hfound
      refine ⟨feature, rfl, rfl, ?_⟩
      intro other hslot hother
      rw [← h.built, hslot, hfound] at hother
      exact (Option.some.inj hother).symm
    | none =>
      rcases built_of_missing hfound with ⟨name, _, hbuilt⟩ | ⟨failure, hmake, _⟩
      · rw [hbuilt]
        refine ⟨⟨slot, name⟩, rfl, rfl, ?_⟩
        intro other hslot hother
        rw [← h.built, hslot, hfound] at hother
        cases hother
      · obtain ⟨maker, hmaker⟩ := Option.ne_none_iff_exists'.1 ((h.registered slot).2 hregistered)
        obtain ⟨name, rfl⟩ := h.makes slot maker hmaker
        rw [Registry.featureName, hmaker] at hmake
        cases hmake
  · have hfree : state.registry.features.find? slot = none :=
      not_not.1 fun hsome => hunknown ((h.registered slot).1 hsome)
    have hfound : state.found? slot = none := not_not.1 fun hsome => h.covered slot hsome hfree
    have hmake : state.registry.featureName slot = .error (.providerNotFound .feature slot) := by
      rw [Registry.featureName, hfree]
    rw [Inspections.built, hfound, hmake]
    exact ⟨rfl, rfl⟩

theorem explained_connect (client : Nat) (hallowed : state.found? feature.slot = some feature) :
    Explained connector initial before state
      ⟨client, .use (.connect feature), (state.connected connector feature).reply⟩
      (state.connected connector feature).state := by
  refine ⟨(h.built feature).1 hallowed, fun hconnected => ?_, fun hunconnected => ?_⟩
  · rw [connected_of_held ((h.connected feature).2 hconnected)]
    exact ⟨rfl, rfl⟩
  · obtain ⟨_, connected, hheld⟩ := found?_eq_some_iff.1 hallowed
    cases connected with
    | true => exact absurd ((h.connected feature).1 hheld) hunconnected
    | false =>
      rcases connected_of_unheld connector hheld with
        ⟨hasked, hreply, hafter⟩ | ⟨failure, hasked, hreply, hafter⟩
      · rw [hreply, hafter, hasked]
        exact ⟨rfl, rfl, nofun⟩
      · rw [hreply, hafter, hasked]
        exact ⟨rfl, rfl, fun _ _ => hheld⟩

theorem explained_register (client : Nat) (slot name : String) :
    Explained connector initial before state
      ⟨client, .register slot name, (state.enrolled slot name).reply⟩
      (state.enrolled slot name).state := by
  refine ⟨enrolled_slots state slot name, enrolled_outside state slot name, ?_⟩
  rw [← h.registered]
  cases hfree : state.registry.features.find? slot with
  | some maker =>
    rw [enrolled_of_taken hfree]
    exact ⟨nofun, fun hnone => absurd (Option.some_ne_none maker) hnone⟩
  | none =>
    rw [enrolled_of_free hfree]
    exact ⟨fun _ => not_not.2 rfl, fun _ => rfl⟩

variable (connector) (backend) in
theorem explained (client : Nat) {call : SharedCall Call} (hallowed : Allowed call state) :
    Explained connector initial before state
      ⟨client, call, (Inspections.sharedHandler connector backend call state).reply⟩
      (Inspections.sharedHandler connector backend call state).state := by
  cases call with
  | register slot name => exact h.explained_register client slot name
  | use call =>
    cases call with
    | find slot => exact ⟨rfl, h.found?_iff slot⟩
    | build slot => exact h.explained_build client slot
    | connect feature => exact h.explained_connect client hallowed
    | require feature =>
      have hheld : Held state feature := hallowed
      exact ⟨(h.built feature).1 hheld.found?, (h.connected feature).1 hheld, hheld.required, rfl⟩
    | backend call => exact ⟨rfl, rfl⟩

end Ledger

theorem explained_of_talk {initial : Inspections σ} (hslots : initial.slots = .empty)
    (hmakes : Makes initial.registry) {before after : List (Exchange Reply)}
    {exchange : Exchange Reply}
    (htruth : Program.Truthful (Inspections.sharedHandler connector backend) initial
      (before ++ exchange :: after))
    (hkept : (terms connector backend).Kept initial (before ++ exchange :: after)) :
    Explained connector initial.registry before
      (Program.stateAfter (Inspections.sharedHandler connector backend) initial before) exchange
      (Program.stateAfter (Inspections.sharedHandler connector backend) initial
        (before ++ [exchange])) := by
  obtain ⟨hbefore, hreply, _⟩ := Program.truthful_append_iff.1 htruth
  obtain ⟨hkeptBefore, hallowed, _⟩ := ((terms connector backend).kept_append_iff).1 hkept
  have hledger := ledger_of_talk hslots hmakes hbefore hkeptBefore
  have hexplained := hledger.explained connector backend exchange.client hallowed
  rw [← hreply] at hexplained
  rw [Program.stateAfter_append]
  exact hexplained

end EtcdFleet.Sharing
