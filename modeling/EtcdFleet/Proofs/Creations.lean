import EtcdFleet.Proofs.OptimisticVersions

set_option autoImplicit false

/-!
# Creations

Nothing is ever taken out of a store, and a creation succeeds only where nothing is. So a conversation with
a store holds one successful creation of a key if the key was free before and is taken after it, and none
otherwise, whoever takes part in it.
-/

namespace EtcdFleet.Store

def created? : Exchange → Option ResourceKey
  | ⟨_, .create kind «namespace» doc, .ok _⟩ => (StoreCall.create kind «namespace» doc).place?
  | _ => none

def creations (key : ResourceKey) (talk : List Exchange) : Nat :=
  talk.countP fun exchange => created? exchange = some key

/-- One for a key that is taken, none for a free one. -/
def held (store : Store) (key : ResourceKey) : Nat := (store.find? key).isSome.toNat

variable {store : Store} {key : ResourceKey} {doc : Document}

theorem held_of_find? (h : store.find? key = some doc) : store.held key = 1 := by
  rw [held, h]
  rfl

theorem held_of_absent (h : store.find? key = none) : store.held key = 0 := by
  rw [held, h]
  rfl

theorem held_le_one (store : Store) (key : ResourceKey) : store.held key ≤ 1 := Bool.toNat_le _

theorem creations_cons (key : ResourceKey) (exchange : Exchange) (rest : List Exchange) :
    creations key (exchange :: rest) = creations key [exchange] + creations key rest := by
  rw [← List.singleton_append]
  exact List.countP_append

theorem held_put (store : Store) (key other : ResourceKey) (doc : Document) :
    (store.put other doc).held key = if key = other then 1 else store.held key := by
  rw [held, find?_put]
  split
  · rfl
  · rfl

theorem creations_of_create {client : Nat} {kind : ResourceKind} {«namespace» name : String}
    {written : Document} (hname : doc.resourceName = .ok name) :
    creations key [⟨client, .create kind «namespace» doc, .ok written⟩] =
      if key = ⟨kind, «namespace», name⟩ then 1 else 0 := by
  rw [creations, List.countP_singleton, created?, (place?_of_resourceName hname).1]
  by_cases hkey : key = ⟨kind, «namespace», name⟩
  · simp [hkey]
  · simp [hkey, Ne.symm hkey]

theorem answer_create (store : Store) (kind : ResourceKind) («namespace» : String) {name : String}
    (hname : doc.resourceName = .ok name) :
    (store.answer (.create kind «namespace» doc) =
        (.error (.alreadyExists kind.kind name «namespace»), store) ∧
      ∃ existing, store.find? ⟨kind, «namespace», name⟩ = some existing) ∨
    ∃ written, store.answer (.create kind «namespace» doc) =
      (.ok written, store.put ⟨kind, «namespace», name⟩ written) := by
  rw [answer]
  cases hexisting : store.find? ⟨kind, «namespace», name⟩ with
  | some existing =>
    rw [create_of_taken hname hexisting]
    exact .inl ⟨rfl, existing, rfl⟩
  | none =>
    obtain ⟨written, hwritten⟩ := Document.exists_withVersion hname 1
    rw [create_eq_ok_iff.2 ⟨name, hname, hexisting, hwritten, rfl⟩]
    exact .inr ⟨written, rfl⟩

theorem creations_add_held_answer {exchange : Exchange}
    (hreply : exchange.reply = (store.answer exchange.call).1) :
    creations key [exchange] + store.held key = (store.answer exchange.call).2.held key := by
  obtain ⟨client, call, reply⟩ := exchange
  obtain rfl : reply = (store.answer call).1 := hreply
  dsimp only
  cases call with
  | get kind «namespace» name => exact Nat.zero_add _
  | create kind «namespace» doc =>
    rw [answer]
    cases hcreate : store.create kind «namespace» doc with
    | error failure => exact Nat.zero_add _
    | ok result =>
      obtain ⟨written, after⟩ := result
      obtain ⟨name, hname, habsent, _, rfl⟩ := create_eq_ok_iff.1 hcreate
      change creations key [⟨client, .create kind «namespace» doc, .ok written⟩] + _ =
        (store.put _ written).held key
      rw [creations_of_create hname, held_put]
      split
      · rename_i hkey
        rw [hkey, held_of_absent habsent]
      · exact Nat.zero_add _
  | update kind «namespace» doc =>
    rw [answer]
    cases hupdate : store.update kind «namespace» doc with
    | error failure => exact Nat.zero_add _
    | ok result =>
      obtain ⟨written, after⟩ := result
      obtain ⟨name, existing, _, _, hexisting, _, _, _, rfl⟩ := update_eq_ok_iff.1 hupdate
      change 0 + store.held key = (store.put _ written).held key
      rw [held_put, Nat.zero_add]
      split
      · rename_i hkey
        rw [hkey, held_of_find? hexisting]
      · rfl

theorem creations_add_held {talk : List Exchange} (h : Program.Truthful handler store talk) :
    creations key talk + store.held key = (Program.stateAfter handler store talk).held key := by
  induction talk generalizing store with
  | nil => exact Nat.zero_add _
  | cons exchange rest ih =>
    obtain ⟨hreply, hrest⟩ := h
    calc creations key (exchange :: rest) + store.held key
        = creations key rest + (creations key [exchange] + store.held key) := by
          rw [creations_cons]
          omega
      _ = creations key rest + (store.answer exchange.call).2.held key := by
          rw [creations_add_held_answer hreply]
      _ = _ := ih hrest

end EtcdFleet.Store
