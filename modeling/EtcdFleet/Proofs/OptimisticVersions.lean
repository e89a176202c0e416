import Mathlib.Data.List.Induction
import EtcdFleet.Proofs.Interleaving
import EtcdFleet.Proofs.StoreWrites

set_option autoImplicit false

/-!
# Versions against lost updates

Clients that share a store which is empty at first, and their gets, creations and updates in any order.
The version of a document is one more than the number of updates that it has seen. So an update that
names the version which its client has read succeeds exactly if nobody has updated the document since.
All of this holds as long as the versions are numbers of 64 bits.
-/

namespace EtcdFleet

def StoreCall.place? : StoreCall → Option ResourceKey
  | .get kind «namespace» name => some ⟨kind, «namespace», name⟩
  | .create kind «namespace» doc => doc.resourceName.toOption.map (⟨kind, «namespace», ·⟩)
  | .update kind «namespace» doc => doc.resourceName.toOption.map (⟨kind, «namespace», ·⟩)

namespace Store

abbrev Exchange := Program.Exchange StoreCall StoreReply

/-- The store that a conversation leaves, which begins with an empty one. -/
def left (talk : List Exchange) : Store := Program.stateAfter handler .empty talk

/-! ## What a conversation does to one key -/

def Commits (key : ResourceKey) (exchange : Exchange) : Prop :=
  exchange.call.place? = some key ∧
    ∃ kind «namespace» doc written,
      exchange.call = .update kind «namespace» doc ∧ exchange.reply = .ok written

def Shows (key : ResourceKey) (version : String) (exchange : Exchange) : Prop :=
  exchange.call.place? = some key ∧
    ∃ doc, exchange.reply = .ok doc ∧ doc.getText? Document.versionPath = .ok (some version)

/-- An update under a version, whatever comes of it. -/
def Attempts (key : ResourceKey) (version : String) (exchange : Exchange) : Prop :=
  exchange.call.place? = some key ∧
    ∃ kind «namespace» doc, exchange.call = .update kind «namespace» doc ∧
      doc.getText? Document.versionPath = .ok (some version)

instance (key : ResourceKey) : DecidablePred (Commits key)
  | ⟨_, .get _ _ _, _⟩ | ⟨_, .create _ _ _, _⟩ => .isFalse (by rintro ⟨_, _, _, _, _, ⟨⟩, _⟩)
  | ⟨_, .update _ _ _, .error _⟩ => .isFalse (by rintro ⟨_, _, _, _, _, _, ⟨⟩⟩)
  | ⟨_, .update kind «namespace» doc, .ok written⟩ =>
    decidable_of_iff ((StoreCall.update kind «namespace» doc).place? = some key)
      ⟨fun h => ⟨h, kind, «namespace», doc, written, rfl, rfl⟩, fun h => h.1⟩

def commits (key : ResourceKey) (talk : List Exchange) : Nat :=
  talk.countP fun exchange => Commits key exchange

theorem commits_append (key : ResourceKey) (before after : List Exchange) :
    commits key (before ++ after) = commits key before + commits key after :=
  List.countP_append

theorem commits_cons_of_commits {key : ResourceKey} {exchange : Exchange}
    (h : Commits key exchange) (rest : List Exchange) :
    commits key (exchange :: rest) = commits key rest + 1 :=
  List.countP_cons_of_pos (by simpa using h)

theorem commits_cons_of_not {key : ResourceKey} {exchange : Exchange}
    (h : ¬ Commits key exchange) (rest : List Exchange) :
    commits key (exchange :: rest) = commits key rest :=
  List.countP_cons_of_neg (by simpa using h)

theorem commits_eq_zero_iff {key : ResourceKey} {talk : List Exchange} :
    commits key talk = 0 ↔ ∀ exchange ∈ talk, ¬ Commits key exchange := by
  simp [commits, List.countP_eq_zero]

/-! ## The version counts the updates -/

/-- A document under its key whose version counts the updates. -/
def Counted (key : ResourceKey) (count : Nat) : Option Document → Prop
  | none => count = 0
  | some doc => doc.resourceName = .ok key.name ∧
      doc.getText? Document.versionPath = .ok (some (Text.decimal (1 + count)))

section Answer

variable {store : Store} {key : ResourceKey} {kind : ResourceKind} {«namespace» : String}
  {doc written : Document}

theorem place?_of_resourceName {name : String} (h : doc.resourceName = .ok name) :
    (StoreCall.create kind «namespace» doc).place? = some ⟨kind, «namespace», name⟩ ∧
      (StoreCall.update kind «namespace» doc).place? = some ⟨kind, «namespace», name⟩ := by
  simp only [StoreCall.place?, h]
  exact ⟨rfl, rfl⟩

theorem resourceName_of_place? (h : (StoreCall.update kind «namespace» doc).place? = some key) :
    doc.resourceName = .ok key.name ∧ key = ⟨kind, «namespace», key.name⟩ := by
  cases hname : doc.resourceName with
  | error failure => simp [StoreCall.place?, hname, Except.toOption] at h
  | ok name =>
    obtain rfl : ⟨kind, «namespace», name⟩ = key :=
      Option.some.inj ((place?_of_resourceName hname).2.symm.trans h)
    exact ⟨rfl, rfl⟩

theorem eq_ok_of_written {result : Except ProviderError (Document × Store)}
    (h : (store.written result).1 = .ok written) : result = .ok (written, (store.written result).2) := by
  cases result with
  | error failure => cases h
  | ok pair =>
    obtain ⟨stored, after⟩ := pair
    obtain rfl := Except.ok.inj h
    rfl

theorem find?_of_answer_ok {call : StoreCall} (hplace : call.place? = some key)
    (h : (store.answer call).1 = .ok doc) : (store.answer call).2.find? key = some doc := by
  cases call with
  | get kind' namespace' name =>
    obtain rfl := Option.some.inj hplace
    exact get_eq_ok_iff.1 h
  | create kind' namespace' sent =>
    obtain ⟨name, hname, _, _, hafter⟩ := create_eq_ok_iff.1 (eq_ok_of_written h)
    obtain rfl := Option.some.inj ((place?_of_resourceName hname).1.symm.trans hplace)
    rw [answer, hafter]
    exact find?_put_self _ _ _
  | update kind' namespace' sent =>
    obtain ⟨name, _, _, hname, _, _, _, _, hafter⟩ := update_eq_ok_iff.1 (eq_ok_of_written h)
    obtain rfl := Option.some.inj ((place?_of_resourceName hname).2.symm.trans hplace)
    rw [answer, hafter]
    exact find?_put_self _ _ _

/-- An update under a version succeeds exactly if that is the version of what is stored. -/
theorem answer_attempt {count : Nat} {version : String} {existing : Document}
    (hplace : (StoreCall.update kind «namespace» doc).place? = some key)
    (hexisting : store.find? key = some existing)
    (hcounted : Counted key count (some existing)) (hfits : 1 + count < UInt64.size)
    (hversion : doc.getText? Document.versionPath = .ok (some version)) :
    (version = Text.decimal (1 + count) → ∃ written,
      store.answer (.update kind «namespace» doc) = (.ok written, store.put key written)) ∧
    (version ≠ Text.decimal (1 + count) →
      store.answer (.update kind «namespace» doc) =
        (.error (staleWrite key version (1 + count)), store)) := by
  obtain ⟨hname, hkey⟩ := resourceName_of_place? hplace
  have hcurrent := Document.storedVersion_of_decimal hcounted.2 hfits
  rw [hkey] at hexisting ⊢
  constructor
  · rintro rfl
    obtain ⟨written, hwritten⟩ := Document.exists_withVersion hname (1 + count + 1)
    refine ⟨written, ?_⟩
    rw [answer, update_of_current hname hexisting hcurrent (.inr hversion) hwritten]
    rfl
  · intro hstale
    rw [answer, update_of_stale hname hexisting hcurrent hversion hstale]
    rfl

theorem find?_answer_of_not_commits {exchange : Exchange}
    (hreply : exchange.reply = (store.answer exchange.call).1)
    (hdoc : store.find? key = some doc) (hidle : ¬ Commits key exchange) :
    (store.answer exchange.call).2.find? key = some doc := by
  obtain ⟨client, call, reply⟩ := exchange
  obtain rfl : reply = (store.answer call).1 := hreply
  dsimp only
  cases call with
  | get kind' namespace' name => exact hdoc
  | create kind' namespace' sent =>
    rw [answer]
    cases hc : store.create kind' namespace' sent with
    | error failure => exact hdoc
    | ok result =>
      obtain ⟨stored, after⟩ := result
      obtain ⟨name, _, habsent, _, rfl⟩ := create_eq_ok_iff.1 hc
      have hne : key ≠ ⟨kind', namespace', name⟩ := by
        rintro rfl
        rw [hdoc] at habsent
        cases habsent
      exact (find?_put_of_ne _ _ hne).trans hdoc
  | update kind' namespace' sent =>
    rw [answer] at hidle ⊢
    cases hu : store.update kind' namespace' sent with
    | error failure => exact hdoc
    | ok result =>
      obtain ⟨stored, after⟩ := result
      obtain ⟨name, _, _, hname, _, _, _, _, rfl⟩ := update_eq_ok_iff.1 hu
      have hne : key ≠ ⟨kind', namespace', name⟩ := by
        rintro rfl
        rw [hu] at hidle
        exact hidle ⟨(place?_of_resourceName hname).2, kind', namespace', sent, stored, rfl, rfl⟩
      exact (find?_put_of_ne _ _ hne).trans hdoc

theorem counted_create {count : Nat} {after : Store}
    (h : Counted key count (store.find? key))
    (hcreate : store.create kind «namespace» doc = .ok (written, after)) :
    Counted key count (after.find? key) := by
  obtain ⟨name, hname, habsent, hwritten, rfl⟩ := create_eq_ok_iff.1 hcreate
  rw [find?_put]
  split
  · rename_i hkey
    subst hkey
    rw [habsent] at h
    obtain rfl : count = 0 := h
    exact ⟨(Document.resourceName_withVersion hwritten).trans hname,
      Document.getText?_withVersion hwritten⟩
  · exact h

theorem counted_update {count : Nat} {after : Store}
    (h : Counted key count (store.find? key)) (hfits : 1 + count < UInt64.size)
    (hplace : (StoreCall.update kind «namespace» doc).place? = some key)
    (hupdate : store.update kind «namespace» doc = .ok (written, after)) :
    Counted key (count + 1) (after.find? key) := by
  obtain ⟨name, existing, current, hname, hexisting, hcurrent, _, hwritten, rfl⟩ :=
    update_eq_ok_iff.1 hupdate
  obtain rfl := Option.some.inj ((place?_of_resourceName hname).2.symm.trans hplace)
  rw [hexisting] at h
  obtain rfl : 1 + count = current :=
    Except.ok.inj ((Document.storedVersion_of_decimal h.2 hfits).symm.trans hcurrent)
  rw [find?_put_self]
  exact ⟨(Document.resourceName_withVersion hwritten).trans hname,
    Document.getText?_withVersion hwritten⟩

theorem Counted.answer {count : Nat} (h : Counted key count (store.find? key))
    (hfits : 1 + count < UInt64.size) {exchange : Exchange}
    (hreply : exchange.reply = (store.answer exchange.call).1) :
    Counted key (count + commits key [exchange])
      ((store.answer exchange.call).2.find? key) := by
  obtain ⟨client, call, reply⟩ := exchange
  obtain rfl : reply = (store.answer call).1 := hreply
  dsimp only
  cases call with
  | get kind' namespace' name => exact h
  | create kind' namespace' sent =>
    rw [Store.answer]
    cases hc : store.create kind' namespace' sent with
    | error failure => exact h
    | ok result => exact counted_create h hc
  | update kind' namespace' sent =>
    rw [Store.answer]
    cases hu : store.update kind' namespace' sent with
    | error failure => exact h
    | ok result =>
      obtain ⟨stored, after⟩ := result
      change Counted key (count + commits key [⟨client, .update kind' namespace' sent, .ok stored⟩])
        (after.find? key)
      by_cases hplace : (StoreCall.update kind' namespace' sent).place? = some key
      · rw [commits_cons_of_commits ⟨hplace, kind', namespace', sent, stored, rfl, rfl⟩]
        exact counted_update h hfits hplace hu
      · rw [commits_cons_of_not fun hcommits => hplace hcommits.1]
        obtain ⟨name, _, _, hname, _, _, _, _, rfl⟩ := update_eq_ok_iff.1 hu
        have hne : key ≠ ⟨kind', namespace', name⟩ := by
          rintro rfl
          exact hplace (place?_of_resourceName hname).2
        rw [find?_put_of_ne _ _ hne]
        exact h

/-- Nothing is ever taken out, and only an update replaces what is there. -/
theorem exists_find?_stateAfter {talk : List Exchange}
    (h : Program.Truthful handler store talk) (hdoc : store.find? key = some doc) :
    ∃ later, (Program.stateAfter handler store talk).find? key = some later ∧
      (commits key talk = 0 → later = doc) := by
  induction talk generalizing store doc with
  | nil => exact ⟨doc, hdoc, fun _ => rfl⟩
  | cons exchange rest ih =>
    obtain ⟨hreply, hrest⟩ := h
    by_cases hcommits : Commits key exchange
    · obtain ⟨hplace, _, _, _, written, _, hwritten⟩ := id hcommits
      have hstored := find?_of_answer_ok hplace (hreply.symm.trans hwritten)
      obtain ⟨later, hlater, _⟩ := ih hrest hstored
      refine ⟨later, hlater, fun hnone => ?_⟩
      rw [commits_cons_of_commits hcommits] at hnone
      omega
    · rw [commits_cons_of_not hcommits]
      exact ih hrest (find?_answer_of_not_commits hreply hdoc hcommits)

end Answer

section Conversation

variable {key : ResourceKey} {version : String} {talk before between after : List Exchange}
  {exchange : Exchange}

theorem left_append_answer :
    left (before ++ [exchange]) = ((left before).answer exchange.call).2 :=
  Program.stateAfter_append

theorem reply_eq_answer (h : Program.Truthful handler .empty (before ++ exchange :: after)) :
    exchange.reply = ((left before).answer exchange.call).1 :=
  h.reply_eq

theorem counted_left (h : Program.Truthful handler .empty talk)
    (hfits : commits key talk + 1 < UInt64.size) :
    Counted key (commits key talk) ((left talk).find? key) := by
  -- From the end: the version is counted from the beginning, so the last step is the one to look at.
  induction talk using List.reverseRecOn with
  | nil => rfl
  | append_singleton past exchange ih =>
    rw [commits_append] at hfits ⊢
    have hpast := ih (Program.truthful_append_iff.1 h).1 (by omega)
    rw [left_append_answer]
    exact hpast.answer (by omega) (reply_eq_answer h)

theorem counted_before (h : Program.Truthful handler .empty (before ++ after))
    (hfits : commits key (before ++ after) + 1 < UInt64.size) :
    Counted key (commits key before) ((left before).find? key) ∧
      1 + commits key before < UInt64.size := by
  rw [commits_append] at hfits
  exact ⟨counted_left (Program.truthful_append_iff.1 h).1 (by omega), by omega⟩

theorem version_of_reply {doc : Document}
    (h : Program.Truthful handler .empty (before ++ exchange :: after))
    (hfits : commits key (before ++ exchange :: after) + 1 < UInt64.size)
    (hplace : exchange.call.place? = some key) (hreply : exchange.reply = .ok doc) :
    (left (before ++ [exchange])).find? key = some doc ∧
      doc.getText? Document.versionPath =
        .ok (some (Text.decimal (1 + commits key (before ++ [exchange])))) := by
  have hdoc : (left (before ++ [exchange])).find? key = some doc := by
    rw [left_append_answer]
    exact find?_of_answer_ok hplace ((reply_eq_answer h).symm.trans hreply)
  rw [List.append_cons] at h hfits
  have hcounted := (counted_before h hfits).1
  rw [hdoc] at hcounted
  exact ⟨hdoc, hcounted.2⟩

theorem version_of_shows (h : Program.Truthful handler .empty (before ++ exchange :: after))
    (hfits : commits key (before ++ exchange :: after) + 1 < UInt64.size)
    (hshows : Shows key version exchange) :
    version = Text.decimal (1 + commits key (before ++ [exchange])) := by
  obtain ⟨hplace, doc, hreply, hversion⟩ := hshows
  have hcounted := (version_of_reply h hfits hplace hreply).2
  exact Option.some.inj (Except.ok.inj (hversion.symm.trans hcounted))

theorem version_of_success {written : Document}
    (h : Program.Truthful handler .empty (before ++ exchange :: after))
    (hfits : commits key (before ++ exchange :: after) + 1 < UInt64.size)
    (hattempts : Attempts key version exchange) (hreply : exchange.reply = .ok written) :
    version = Text.decimal (1 + commits key before) := by
  obtain ⟨hplace, kind, «namespace», doc, hcall, hversion⟩ := hattempts
  obtain ⟨hcounted, hbelow⟩ := counted_before h hfits
  have hanswer := (reply_eq_answer h).symm.trans hreply
  rw [hcall] at hplace hanswer
  obtain ⟨_, existing, current, hname, hexisting, hcurrent, hrequested, _, _⟩ :=
    update_eq_ok_iff.1 (eq_ok_of_written hanswer)
  obtain rfl := Option.some.inj ((place?_of_resourceName hname).2.symm.trans hplace)
  rw [hexisting] at hcounted
  obtain rfl : 1 + commits _ before = current :=
    Except.ok.inj ((Document.storedVersion_of_decimal hcounted.2 hbelow).symm.trans hcurrent)
  rw [hversion] at hrequested
  rcases hrequested with hnone | hsome
  · cases hnone
  · exact Option.some.inj (Except.ok.inj hsome)

end Conversation

end Store
end EtcdFleet
