import EtcdFleet.Inspection.Manager
import EtcdFleet.Proofs.Assurance

set_option autoImplicit false

/-!
# The terms of sharing features

The users of features share an environment, and in between somebody may register another feature. They connect
only the feature that is shared under its name, and use only one that is connected. On these terms a feature
that is shared stays, and one that is connected stays connected.
-/

namespace EtcdFleet

attribute [ext] Feature

inductive SharedCall (Call : Type)
  | use (call : FeatureCall Call)
  /-- Under that name, the feature of that own name. -/
  | register (slot name : String)

def SharedReply {Call : Type} (Reply : Call → Type) : SharedCall Call → Type
  | .use call => FeatureReply Reply call
  | .register .. => Except ProviderError Unit

namespace Inspections

variable {σ Call : Type} {Reply : Call → Type}

def enrolled (state : Inspections σ) (slot name : String) :
    Program.Answered (Except ProviderError Unit) (Inspections σ) :=
  match state.registry.register slot (.feature (Registry.featureMaker name)) with
  | .ok registry => ⟨.ok (), [Registry.registered slot .feature], { state with registry }⟩
  | .error failure => ⟨.error failure, [], state⟩

def sharedHandler (connector : Connector σ) (backend : Program.Handler Call Reply σ) :
    Program.Handler (SharedCall Call) (SharedReply Reply) (Inspections σ)
  | .use call, state => handler connector backend call state
  | .register slot name, state => state.enrolled slot name

end Inspections

namespace Sharing

variable {σ Call : Type} {Reply : Call → Type}

abbrev Exchange {Call : Type} (Reply : Call → Type) :=
  Program.Exchange (SharedCall Call) (SharedReply Reply)

def Held (state : Inspections σ) (feature : Feature) : Prop :=
  state.slots.find? feature.slot = some ⟨feature.name, true⟩

/-- Only the shared feature is connected, and only a connected one is used. -/
def Allowed : SharedCall Call → Inspections σ → Prop
  | .use (.connect feature), state => state.found? feature.slot = some feature
  | .use (.require feature), state => Held state feature
  | _, _ => True

/-- A feature that is shared stays, and stays connected. -/
def Grows (state later : Inspections σ) : Prop :=
  ∀ slot held, state.slots.find? slot = some held →
    ∃ connected, later.slots.find? slot = some ⟨held.name, connected⟩ ∧
      (held.connected = true → connected = true)

variable {state later : Inspections σ} {feature : Feature} {slot : String}

theorem Grows.refl (state : Inspections σ) : Grows state state :=
  fun _ held hheld => ⟨held.connected, hheld, id⟩

theorem Grows.trans {last : Inspections σ} (h : Grows state later) (hlast : Grows later last) :
    Grows state last := by
  intro slot held hheld
  obtain ⟨middle, hmiddle, hkept⟩ := h slot held hheld
  obtain ⟨final, hfinal, hstill⟩ := hlast slot _ hmiddle
  exact ⟨final, hfinal, fun hconnected => hstill (hkept hconnected)⟩

theorem Grows.held (h : Grows state later) (hheld : Held state feature) : Held later feature := by
  obtain ⟨connected, hlater, hkept⟩ := h _ _ hheld
  rw [Held, hlater, hkept rfl]

theorem found?_eq_some_iff :
    state.found? slot = some feature ↔
      feature.slot = slot ∧ ∃ connected, state.slots.find? slot = some ⟨feature.name, connected⟩ := by
  rw [Inspections.found?, Option.map_eq_some_iff]
  constructor
  · rintro ⟨held, hheld, rfl⟩
    exact ⟨rfl, held.connected, hheld⟩
  · rintro ⟨rfl, connected, hheld⟩
    exact ⟨_, hheld, rfl⟩

theorem Held.found? (h : Held state feature) : state.found? feature.slot = some feature :=
  found?_eq_some_iff.2 ⟨rfl, true, h⟩

theorem Held.connected (h : Held state feature) : (state.slot feature).connected = true := by
  rw [Inspections.slot, h]
  rfl

theorem Held.required (h : Held state feature) : state.required feature = .ok () :=
  if_pos h.connected

theorem Grows.found? (h : Grows state later) (hfound : state.found? slot = some feature) :
    later.found? slot = some feature := by
  obtain ⟨rfl, connected, hheld⟩ := found?_eq_some_iff.1 hfound
  obtain ⟨still, hstill, _⟩ := h _ _ hheld
  exact found?_eq_some_iff.2 ⟨rfl, still, hstill⟩

/-! ### Building -/

theorem built_of_found (h : state.found? slot = some feature) :
    state.built slot = (.ok feature, state) := by
  rw [Inspections.built, h]

theorem built_of_missing (h : state.found? slot = none) :
    (∃ name, state.registry.featureName slot = .ok name ∧
      state.built slot = (.ok ⟨slot, name⟩, state.place slot name false)) ∨
    ∃ failure, state.registry.featureName slot = .error failure ∧
      state.built slot = (.error failure, state) := by
  rw [Inspections.built, h]
  cases state.registry.featureName slot with
  | ok name => exact .inl ⟨name, rfl, rfl⟩
  | error failure => exact .inr ⟨failure, rfl, rfl⟩

theorem found?_eq_none_iff : state.found? slot = none ↔ state.slots.find? slot = none := by
  rw [Inspections.found?, Option.map_eq_none_iff]

theorem find?_place_self (state : Inspections σ) (slot name : String) (connected : Bool) :
    (state.place slot name connected).slots.find? slot = some ⟨name, connected⟩ :=
  NameMap.find?_insert_self ..

theorem find?_place_of_ne (state : Inspections σ) {slot other : String} (name : String)
    (connected : Bool) (h : other ≠ slot) :
    (state.place slot name connected).slots.find? other = state.slots.find? other :=
  NameMap.find?_insert_of_ne _ _ h

theorem found?_place_of_ne (state : Inspections σ) {slot other : String} (name : String)
    (connected : Bool) (h : other ≠ slot) :
    (state.place slot name connected).found? other = state.found? other := by
  rw [Inspections.found?, find?_place_of_ne _ _ _ h, Inspections.found?]

theorem found?_place_of_found {placed : Feature} {connected : Bool}
    (h : state.found? placed.slot = some placed) :
    (state.place placed.slot placed.name connected).found? slot = state.found? slot := by
  by_cases hslot : slot = placed.slot
  · subst hslot
    rw [h]
    exact found?_eq_some_iff.2 ⟨rfl, connected, find?_place_self ..⟩
  · exact found?_place_of_ne _ _ _ hslot

theorem found?_place_iff (state : Inspections σ) (placed : Feature) (connected : Bool) :
    (state.place placed.slot placed.name connected).found? feature.slot = some feature ↔
      feature = placed ∨ (feature.slot ≠ placed.slot ∧ state.found? feature.slot = some feature) := by
  by_cases hslot : feature.slot = placed.slot
  · rw [hslot, found?_eq_some_iff, find?_place_self]
    constructor
    · rintro ⟨_, _, hheld⟩
      have hname := (Slot.mk.inj (Option.some.inj hheld)).1
      exact .inl (Feature.ext hslot hname.symm)
    · rintro (rfl | ⟨hne, _⟩)
      · exact ⟨rfl, connected, rfl⟩
      · exact absurd rfl hne
  · have hne : feature ≠ placed := fun heq => hslot (congrArg Feature.slot heq)
    rw [found?_place_of_ne _ _ _ hslot, or_iff_right hne, and_iff_right hslot]

theorem held_place_iff (state : Inspections σ) (placed : Feature) (connected : Bool) :
    Held (state.place placed.slot placed.name connected) feature ↔
      (feature = placed ∧ connected = true) ∨ (feature.slot ≠ placed.slot ∧ Held state feature) := by
  rw [Held]
  by_cases hslot : feature.slot = placed.slot
  · rw [hslot, find?_place_self]
    constructor
    · intro hheld
      obtain ⟨hname, hconnected⟩ := Slot.mk.inj (Option.some.inj hheld)
      exact .inl ⟨Feature.ext hslot hname.symm, hconnected⟩
    · rintro (⟨rfl, rfl⟩ | ⟨hne, _⟩)
      · rfl
      · exact absurd rfl hne
  · have hne : feature ≠ placed := fun heq => hslot (congrArg Feature.slot heq)
    rw [find?_place_of_ne _ _ _ hslot, or_iff_right fun heq => hne heq.1, and_iff_right hslot, Held]

theorem grows_place (state : Inspections σ) {slot name : String} {connected : Bool}
    (h : ∀ held, state.slots.find? slot = some held →
      held.name = name ∧ (held.connected = true → connected = true)) :
    Grows state (state.place slot name connected) := by
  intro other held hheld
  by_cases hother : other = slot
  · subst hother
    obtain ⟨rfl, hkept⟩ := h held hheld
    exact ⟨connected, find?_place_self .., hkept⟩
  · exact ⟨held.connected, (find?_place_of_ne state name connected hother).trans hheld, id⟩

theorem outside_built (state : Inspections σ) (slot : String) :
    (state.built slot).2.outside = state.outside := by
  cases hfound : state.found? slot with
  | some feature => rw [built_of_found hfound]
  | none =>
    rcases built_of_missing hfound with ⟨name, _, hbuilt⟩ | ⟨failure, _, hbuilt⟩
    · rw [hbuilt]
      rfl
    · rw [hbuilt]

theorem grows_built (state : Inspections σ) (slot : String) : Grows state (state.built slot).2 := by
  cases hfound : state.found? slot with
  | some feature =>
    rw [built_of_found hfound]
    exact .refl state
  | none =>
    rcases built_of_missing hfound with ⟨name, _, hbuilt⟩ | ⟨failure, _, hbuilt⟩
    · rw [hbuilt]
      apply grows_place
      intro held hheld
      rw [found?_eq_none_iff.1 hfound] at hheld
      cases hheld
    · rw [hbuilt]
      exact .refl state

theorem find?_of_featureName {registry : Registry} {name : String}
    (h : registry.featureName slot = .ok name) : registry.features.find? slot ≠ none := by
  intro hnone
  rw [Registry.featureName, hnone] at h
  cases h

theorem found?_built (h : (state.built slot).1 = .ok feature) :
    (state.built slot).2.found? slot = some feature := by
  cases hfound : state.found? slot with
  | some held =>
    rw [built_of_found hfound] at h ⊢
    obtain rfl := Except.ok.inj h
    exact hfound
  | none =>
    rcases built_of_missing hfound with ⟨name, _, hbuilt⟩ | ⟨failure, _, hbuilt⟩
    · rw [hbuilt] at h ⊢
      obtain rfl := Except.ok.inj h
      exact found?_eq_some_iff.2 ⟨rfl, false, find?_place_self ..⟩
    · rw [hbuilt] at h
      cases h

/-! ### Connecting -/

variable {connector : Inspections.Connector σ} {backend : Program.Handler Call Reply σ}

theorem connected_of_held (h : Held state feature) :
    state.connected connector feature = ⟨.ok (), [], state⟩ :=
  if_pos h.connected

def dialled (connector : Inspections.Connector σ) (state : Inspections σ) : Inspections σ :=
  { state with outside := (connector state.outside).state }

variable (connector) in
theorem connected_of_unheld
    (h : state.slots.find? feature.slot = some ⟨feature.name, false⟩) :
    ((connector state.outside).reply = .ok () ∧
      (state.connected connector feature).reply = .ok () ∧
      (state.connected connector feature).state =
        (dialled connector state).place feature.slot feature.name true) ∨
    ∃ failure, (connector state.outside).reply = .error failure ∧
      (state.connected connector feature).reply = .error failure ∧
      (state.connected connector feature).state = dialled connector state := by
  have hslot : ¬ (state.slot feature).connected = true := by
    rw [Inspections.slot, h]
    exact Bool.false_ne_true
  rw [Inspections.connected, if_neg hslot]
  dsimp only
  cases (connector state.outside).reply with
  | ok _ => exact .inl ⟨rfl, rfl, rfl⟩
  | error failure => exact .inr ⟨failure, rfl, rfl, rfl⟩

theorem grows_connected (h : state.found? feature.slot = some feature) :
    Grows state (state.connected connector feature).state := by
  obtain ⟨_, connected, hheld⟩ := found?_eq_some_iff.1 h
  cases connected with
  | true =>
    rw [connected_of_held hheld]
    exact .refl state
  | false =>
    have hdialled : Grows state (dialled connector state) := .refl state
    rcases connected_of_unheld connector hheld with ⟨_, _, hafter⟩ | ⟨_, _, _, hafter⟩
    · rw [hafter]
      refine hdialled.trans (grows_place _ ?_)
      intro held hsame
      obtain rfl := Option.some.inj (hheld.symm.trans hsame)
      exact ⟨rfl, fun _ => rfl⟩
    · rw [hafter]
      exact hdialled

theorem found?_connected (h : state.found? feature.slot = some feature) (slot : String) :
    (state.connected connector feature).state.found? slot = state.found? slot := by
  obtain ⟨_, connected, hheld⟩ := found?_eq_some_iff.1 h
  cases connected with
  | true => rw [connected_of_held hheld]
  | false =>
    have hdialled : (dialled connector state).found? feature.slot = some feature := h
    rcases connected_of_unheld connector hheld with ⟨_, _, hafter⟩ | ⟨_, _, _, hafter⟩
    · rw [hafter, found?_place_of_found hdialled]
      rfl
    · rw [hafter]
      rfl

theorem held_connected (h : state.found? feature.slot = some feature)
    (hreply : (state.connected connector feature).reply = .ok ()) :
    Held (state.connected connector feature).state feature := by
  obtain ⟨_, connected, hheld⟩ := found?_eq_some_iff.1 h
  cases connected with
  | true =>
    rw [connected_of_held hheld]
    exact hheld
  | false =>
    rcases connected_of_unheld connector hheld with
      ⟨_, _, hafter⟩ | ⟨failure, _, hfailed, _⟩
    · rw [hafter]
      exact find?_place_self ..
    · rw [hfailed] at hreply
      cases hreply

/-! ### Registering -/

theorem enrolled_slots (state : Inspections σ) (slot name : String) :
    (state.enrolled slot name).state.slots = state.slots := by
  rw [Inspections.enrolled]
  split <;> rfl

theorem enrolled_outside (state : Inspections σ) (slot name : String) :
    (state.enrolled slot name).state.outside = state.outside := by
  rw [Inspections.enrolled]
  split <;> rfl

theorem enrolled_of_taken {name : String} {maker : FeatureMaker}
    (h : state.registry.features.find? slot = some maker) :
    state.enrolled slot name = ⟨.error (.duplicateProvider .feature slot), [], state⟩ := by
  have hfind : state.registry.find? (Maker.feature (Registry.featureMaker name)).kind slot =
      some (.feature maker) := by
    rw [Maker.kind, Registry.find?, h]
    rfl
  rw [Inspections.enrolled, Registry.register, hfind]
  rfl

theorem enrolled_of_free {name : String} (h : state.registry.features.find? slot = none) :
    state.enrolled slot name = ⟨.ok (), [Registry.registered slot .feature],
      { state with registry :=
        { state.registry with features := state.registry.features.insert slot (.ok name) } }⟩ := by
  have hfind : state.registry.find? (Maker.feature (Registry.featureMaker name)).kind slot =
      none := by
    rw [Maker.kind, Registry.find?, h]
    rfl
  rw [Inspections.enrolled, Registry.register, hfind]
  rfl

theorem grows_of_slots_eq (h : later.slots = state.slots) : Grows state later := by
  intro slot held hheld
  rw [h]
  exact ⟨held.connected, hheld, id⟩

theorem grows_of_allowed {call : SharedCall Call} (h : Allowed call state) :
    Grows state (Inspections.sharedHandler connector backend call state).state := by
  cases call with
  | register slot name => exact grows_of_slots_eq (enrolled_slots state slot name)
  | use call =>
    cases call with
    | find slot => exact .refl state
    | build slot => exact grows_built state slot
    | connect feature => exact grows_connected h
    | require feature => exact .refl state
    | backend call => exact grows_of_slots_eq rfl

def terms (connector : Inspections.Connector σ) (backend : Program.Handler Call Reply σ) :
    Program.Terms (Inspections.sharedHandler connector backend) where
  allowed := Allowed
  grows := Grows
  refl := .refl
  trans := .trans
  grows_of_allowed := grows_of_allowed

end Sharing
end EtcdFleet
