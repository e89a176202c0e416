import EtcdFleet.Proofs.DocumentEdits
import EtcdFleet.Proofs.StoreRuns

set_option autoImplicit false

/-!
# Which fetched documents can be written back

A document that was fetched carries the version under which it is stored, and edits beside its name and its version
leave both alone. Versions are read leniently and compared by their texts: so it can be put back if it has no version
or one that an update could have written, and no client can ever update it if its version is any other text. Once an
update has succeeded, every later one does, as long as nobody places a document with such a version there and the
64 bit numbers last.
-/

namespace EtcdFleet

def SpareIdentity (edits : List Edit) : Prop :=
  ∀ edit ∈ edits, Path.Apart edit.path Document.namePath ∧ Path.Apart edit.path Document.versionPath

namespace Document

variable {doc stored edited : Document} {name : String} {edits : List Edit}

/-! ## Kinds of versions -/

/-- There is no version, or the plain numeral of a number that has a successor in 64 bits. -/
def Renewable (doc : Document) : Prop :=
  doc.get? versionPath = .ok none ∨ ∃ version < UInt64.size - 1,
    doc.get? versionPath = .ok (some (.text (Text.decimal version)))

def Exhausted (doc : Document) : Prop :=
  doc.get? versionPath = .ok (some (.text (Text.decimal (UInt64.size - 1))))

def Misshapen (doc : Document) : Prop :=
  ∃ found, doc.get? versionPath = .ok (some found) ∧ ∀ text, found ≠ .text text

/-- The version is a text that no update writes. -/
def Foreign (doc : Document) : Prop :=
  ∃ text, doc.get? versionPath = .ok (some (.text text)) ∧
    ∀ version < UInt64.size, text ≠ Text.decimal version

theorem version_cases (hname : doc.resourceName = .ok name) (hlimit : ¬ doc.Exhausted) :
    doc.Renewable ∨ doc.Misshapen ∨ doc.Foreign := by
  obtain ⟨found, hfound⟩ := exists_get?_version hname
  cases found with
  | none => exact .inl (.inl hfound)
  | some value =>
    cases value with
    | text text =>
      by_cases hplain : ∃ version < UInt64.size, text = Text.decimal version
      · obtain ⟨version, hfits, rfl⟩ := hplain
        have hne : version ≠ UInt64.size - 1 := by
          rintro rfl
          exact hlimit hfound
        exact .inl (.inr ⟨version, by omega, hfound⟩)
      · exact .inr (.inr ⟨text, hfound, fun version hfits heq => hplain ⟨version, hfits, heq⟩⟩)
    | _ => exact .inr (.inl ⟨_, hfound, fun text heq => by cases heq⟩)

theorem Renewable.not_exhausted (h : doc.Renewable) : ¬ doc.Exhausted := by
  intro hlast
  rcases h with hnone | ⟨version, hfits, hversion⟩
  · cases hnone.symm.trans hlast
  · have htext := Option.some.inj (Except.ok.inj (hversion.symm.trans hlast))
    exact absurd (Text.decimal_injective (Document.text.inj htext)) (by omega)

theorem Foreign.not_exhausted (h : doc.Foreign) : ¬ doc.Exhausted := by
  obtain ⟨text, htext, hforeign⟩ := h
  intro hlast
  have hsame := Option.some.inj (Except.ok.inj (htext.symm.trans hlast))
  exact hforeign (UInt64.size - 1) (by decide) (Document.text.inj hsame)

/-! ## The version that is counted on -/

/-- Any text is taken for some number, if only for zero. -/
theorem exists_storedVersion_of_text {text : String}
    (h : doc.get? versionPath = .ok (some (.text text))) :
    ∃ current < UInt64.size, doc.storedVersion = .ok current := by
  rw [storedVersion, getText?_of_get? h, ok_bind, Option.bind_some]
  cases hread : Text.unsignedBelow? UInt64.size text.toList with
  | none => exact ⟨0, by decide, rfl⟩
  | some version => exact ⟨version, Text.lt_of_unsignedBelow? hread, rfl⟩

theorem storedVersion_of_misshapen (h : doc.Misshapen) :
    doc.storedVersion = .error (.malformed versionPath "a string") := by
  obtain ⟨found, hfound, hshape⟩ := h
  rw [storedVersion, getText?, getAs?, hfound, ok_bind]
  cases found with
  | text text => exact absurd rfl (hshape text)
  | _ => rfl

theorem Renewable.exists_storedVersion (h : doc.Renewable) :
    ∃ version < UInt64.size - 1, doc.storedVersion = .ok version ∧
      (doc.getText? versionPath = .ok none ∨
        doc.getText? versionPath = .ok (some (Text.decimal version))) := by
  rcases h with hnone | ⟨version, hfits, hversion⟩
  · have htext := getText?_of_none hnone
    exact ⟨0, by decide, storedVersion_of_none htext, .inl htext⟩
  · have htext := getText?_of_get? hversion
    exact ⟨version, hfits, storedVersion_of_decimal htext (by omega), .inr htext⟩

/-! ## What edits leave alone -/

structure Alike (edited stored : Document) : Prop where
  name : edited.resourceName = stored.resourceName
  version : edited.getText? versionPath = stored.getText? versionPath

theorem alike_of_putAll (hspare : SpareIdentity edits) (h : stored.putAll edits = .ok edited) :
    Alike edited stored where
  name := resourceName_congr (get?_putAll_of_apart (fun edit hmem => (hspare edit hmem).1) h)
  version := getAs?_congr (get?_putAll_of_apart (fun edit hmem => (hspare edit hmem).2) h) _ _

end Document

namespace Store

open Document

variable {store : Store} {key : ResourceKey} {stored edited held : Document} {step : Step}
  {steps : List Step}

/-! ## One write back -/

theorem answer_of_renewable (hname : stored.resourceName = .ok key.name)
    (hstored : store.find? key = some stored) (halike : Alike edited stored)
    (hrenewable : stored.Renewable) :
    ∃ version written, version < UInt64.size - 1 ∧ edited.withVersion (version + 1) = .ok written ∧
      store.answer (.update key.kind key.namespace edited) = (.ok written, store.put key written) := by
  obtain ⟨version, hfits, hcurrent, hrequested⟩ := hrenewable.exists_storedVersion
  rw [← halike.version] at hrequested
  have hsent := halike.name.trans hname
  obtain ⟨written, hwritten⟩ := exists_withVersion hsent (version + 1)
  refine ⟨version, written, hfits, hwritten, ?_⟩
  rw [answer, update_of_current hsent hstored hcurrent hrequested hwritten]
  rfl

theorem answer_of_misshapen (hname : stored.resourceName = .ok key.name)
    (hstored : store.find? key = some stored) (halike : Alike edited stored)
    (hmisshapen : stored.Misshapen) :
    store.answer (.update key.kind key.namespace edited) =
      (.error (.malformed versionPath "a string"), store) := by
  have hfails := storedVersion_of_misshapen hmisshapen
  rw [answer, update_of_unversioned (halike.name.trans hname) hstored hfails]
  rfl

/-- The number that the text is taken for has another text. -/
theorem answer_of_foreign (hname : stored.resourceName = .ok key.name)
    (hstored : store.find? key = some stored) (halike : Alike edited stored)
    (hforeign : stored.Foreign) :
    ∃ reason, store.answer (.update key.kind key.namespace edited) =
      (.error (.conflict reason), store) := by
  obtain ⟨text, htext, hother⟩ := hforeign
  obtain ⟨current, hfits, hcurrent⟩ := exists_storedVersion_of_text htext
  have hrequested := halike.version.trans (getText?_of_get? htext)
  have hstale := update_of_stale (halike.name.trans hname) hstored hcurrent hrequested
    (hother current hfits)
  rw [answer, hstale]
  exact ⟨_, rfl⟩

theorem answer_edited_iff (hname : stored.resourceName = .ok key.name)
    (hstored : store.find? key = some stored) (halike : Alike edited stored)
    (hlimit : ¬ stored.Exhausted) :
    let result := (store.answer (.update key.kind key.namespace edited)).1
    ((∃ written, result = .ok written) ↔ stored.Renewable) ∧
    ((∃ path expected, result = .error (.malformed path expected)) ↔ stored.Misshapen) ∧
    ((∃ reason, result = .error (.conflict reason)) ↔ stored.Foreign) := by
  intro result
  -- The three kinds cover all versions and their results exclude each other.
  have hkinds := version_cases hname hlimit
  have hwrites : stored.Renewable → ∃ written, result = .ok written := by
    intro hkind
    obtain ⟨_, written, _, _, hanswer⟩ := answer_of_renewable hname hstored halike hkind
    exact ⟨written, congrArg Prod.fst hanswer⟩
  have hrefuses : stored.Misshapen → ∃ path expected, result = .error (.malformed path expected) :=
    fun hkind => ⟨_, _, congrArg Prod.fst (answer_of_misshapen hname hstored halike hkind)⟩
  have hconflicts : stored.Foreign → ∃ reason, result = .error (.conflict reason) := by
    intro hkind
    obtain ⟨reason, hanswer⟩ := answer_of_foreign hname hstored halike hkind
    exact ⟨reason, congrArg Prod.fst hanswer⟩
  refine ⟨⟨?_, hwrites⟩, ⟨?_, hrefuses⟩, ⟨?_, hconflicts⟩⟩
  · rintro ⟨written, hresult⟩
    rcases hkinds with hkind | hkind | hkind
    · exact hkind
    · obtain ⟨_, _, hother⟩ := hrefuses hkind
      cases hresult.symm.trans hother
    · obtain ⟨_, hother⟩ := hconflicts hkind
      cases hresult.symm.trans hother
  · rintro ⟨path, expected, hresult⟩
    rcases hkinds with hkind | hkind | hkind
    · obtain ⟨_, hother⟩ := hwrites hkind
      cases hresult.symm.trans hother
    · exact hkind
    · obtain ⟨_, hother⟩ := hconflicts hkind
      cases hresult.symm.trans hother
  · rintro ⟨reason, hresult⟩
    rcases hkinds with hkind | hkind | hkind
    · obtain ⟨_, hother⟩ := hwrites hkind
      cases hresult.symm.trans hother
    · obtain ⟨_, _, hother⟩ := hrefuses hkind
      cases hresult.symm.trans hother
    · exact hkind

/-! ## From one write back to the next -/

/-- Whatever the step places at the key can be written back. -/
def Step.Gentle (key : ResourceKey) : Step → Prop
  | insert kind «namespace» doc =>
    (Step.insert kind «namespace» doc).target? = some key → doc.Renewable
  | call _ => True

theorem renewable_of_update {kind : ResourceKind} {«namespace» : String} {doc written : Document}
    {after : Store} (hheld : store.find? key = some held) (hrenewable : held.Renewable)
    (h : store.update kind «namespace» doc = .ok (written, after))
    (hlimit : ∀ left, after.find? key = some left → ¬ left.Exhausted) :
    ∃ left, after.find? key = some left ∧ left.Renewable := by
  obtain ⟨name, existing, current, _, hexisting, hcurrent, _, hwritten, rfl⟩ :=
    update_eq_ok_iff.1 h
  by_cases hkey : key = ⟨kind, «namespace», name⟩
  · subst hkey
    obtain rfl := Option.some.inj (hheld.symm.trans hexisting)
    obtain ⟨version, hfits, hversion, _⟩ := hrenewable.exists_storedVersion
    obtain rfl := Except.ok.inj (hversion.symm.trans hcurrent)
    have hput := store.find?_put_self ⟨kind, «namespace», name⟩ written
    have hread := get?_version_withVersion hwritten
    have hne : version + 1 ≠ UInt64.size - 1 := by
      intro heq
      rw [heq] at hread
      exact hlimit written hput hread
    exact ⟨written, hput, .inr ⟨version + 1, by omega, hread⟩⟩
  · exact ⟨held, (store.find?_put_of_ne written hkey).trans hheld, hrenewable⟩

theorem renewable_perform (hheld : store.find? key = some held) (hrenewable : held.Renewable)
    (hgentle : step.Gentle key)
    (hlimit : ∀ left, (store.perform step).2.find? key = some left → ¬ left.Exhausted) :
    ∃ left, (store.perform step).2.find? key = some left ∧ left.Renewable := by
  cases step with
  | insert kind «namespace» doc =>
    rw [perform]
    cases h : store.insert kind «namespace» doc with
    | error failure => exact ⟨held, hheld, hrenewable⟩
    | ok after =>
      obtain ⟨name, hname, rfl⟩ := insert_eq_ok_iff.1 h
      by_cases hkey : key = ⟨kind, «namespace», name⟩
      · subst hkey
        exact ⟨doc, store.find?_put_self _ doc, hgentle (Step.target?_of_sent rfl hname)⟩
      · exact ⟨held, (store.find?_put_of_ne doc hkey).trans hheld, hrenewable⟩
  | call call =>
    rw [perform] at hlimit ⊢
    cases call with
    | get kind «namespace» name => exact ⟨held, hheld, hrenewable⟩
    | create kind «namespace» doc =>
      rw [answer]
      cases h : store.create kind «namespace» doc with
      | error failure => exact ⟨held, hheld, hrenewable⟩
      | ok result =>
        obtain ⟨written, after⟩ := result
        obtain ⟨name, _, habsent, _, rfl⟩ := create_eq_ok_iff.1 h
        have hkey : key ≠ ⟨kind, «namespace», name⟩ := by
          rintro rfl
          rw [hheld] at habsent
          cases habsent
        exact ⟨held, (store.find?_put_of_ne written hkey).trans hheld, hrenewable⟩
    | update kind «namespace» doc =>
      rw [answer] at hlimit ⊢
      cases h : store.update kind «namespace» doc with
      | error failure => exact ⟨held, hheld, hrenewable⟩
      | ok result =>
        rw [h] at hlimit
        exact renewable_of_update hheld hrenewable h hlimit

theorem renewable_afterSteps (hheld : store.find? key = some held) (hrenewable : held.Renewable)
    (hgentle : ∀ step ∈ steps, step.Gentle key)
    (hlimit : ∀ done left, done <+: steps → (store.afterSteps done).find? key = some left →
      ¬ left.Exhausted) :
    ∃ left, (store.afterSteps steps).find? key = some left ∧ left.Renewable := by
  -- The bound on versions is asked of every prefix, so that each step hands its own to the rest.
  induction steps generalizing store held with
  | nil => exact ⟨held, hheld, hrenewable⟩
  | cons step rest ih =>
    obtain ⟨next, hnext, hrenewed⟩ := renewable_perform hheld hrenewable
      (hgentle step List.mem_cons_self)
      fun left => hlimit [step] left (List.prefix_append [step] rest)
    exact ih hnext hrenewed (fun other hmem => hgentle other (List.mem_cons_of_mem step hmem))
      fun done left hdone => hlimit (step :: done) left (List.cons_prefix_cons.2 ⟨rfl, hdone⟩)

theorem exists_rewritten (hnamed : store.WellNamed) (hheld : store.find? key = some held)
    (hrenewable : held.Renewable) {edits : List Edit} (hspare : SpareIdentity edits)
    (hedited : held.putAll edits = .ok edited) :
    ∃ rewritten, (store.answer (.update key.kind key.namespace edited)).1 = .ok rewritten := by
  obtain ⟨_, written, _, _, hanswer⟩ := answer_of_renewable (hnamed key held hheld) hheld
    (alike_of_putAll hspare hedited) hrenewable
  exact ⟨written, congrArg Prod.fst hanswer⟩

/-- Whether what was fetched can be put back is told by the version under which it is stored, and once it could be, it
can be again after any steps that place nothing there which cannot. -/
theorem update_of_fetched_iff {edits : List Edit} (hreach : store.Reachable)
    (hget : store.get key = .ok stored) (hlimit : ¬ stored.Exhausted)
    (hspare : SpareIdentity edits) (hedited : stored.putAll edits = .ok edited) :
    let outcome := store.answer (.update key.kind key.namespace edited)
    ((∃ written, outcome.1 = .ok written) ↔ stored.Renewable) ∧
    ((∃ path expected, outcome.1 = .error (.malformed path expected)) ↔ stored.Misshapen) ∧
    ((∃ reason, outcome.1 = .error (.conflict reason)) ↔ stored.Foreign) ∧
    (∀ failure, outcome.1 = .error failure → outcome.2 = store) ∧
    (∀ written, outcome.1 = .ok written → outcome.2.get key = .ok written ∧
      (∃ version < UInt64.size,
        written.get? versionPath = .ok (some (.text (Text.decimal version)))) ∧
      ∀ later : List Step, (∀ step ∈ later, step.Gentle key) →
        (∀ done left, done <+: later → (outcome.2.afterSteps done).find? key = some left →
          ¬ left.Exhausted) →
        ∃ fetched, (outcome.2.afterSteps later).get key = .ok fetched ∧
          ∀ edits' edited', SpareIdentity edits' → fetched.putAll edits' = .ok edited' →
            ∃ rewritten, ((outcome.2.afterSteps later).answer
              (.update key.kind key.namespace edited')).1 = .ok rewritten) := by
  intro outcome
  have hstored := get_eq_ok_iff.1 hget
  have hname := hreach.wellNamed key stored hstored
  have halike := alike_of_putAll hspare hedited
  obtain ⟨hok, hmalformed, hconflict⟩ := answer_edited_iff hname hstored halike hlimit
  refine ⟨hok, hmalformed, hconflict, fun failure hfailure => ?_, fun written hsuccess => ?_⟩
  · have hfails : (store.perform (.call (.update key.kind key.namespace edited))).1 =
        .error failure := by
      rw [perform, hfailure]
      rfl
    exact perform_of_error hfails
  · obtain ⟨version, rewritten, hfits, hversioned, hanswer⟩ :=
      answer_of_renewable hname hstored halike (hok.1 ⟨written, hsuccess⟩)
    have houtcome : outcome = (.ok rewritten, store.put key rewritten) := hanswer
    rw [houtcome] at hsuccess ⊢
    obtain rfl := Except.ok.inj hsuccess
    have hput := store.find?_put_self key rewritten
    have hread := get?_version_withVersion hversioned
    refine ⟨get_eq_ok_iff.2 hput, ⟨version + 1, by omega, hread⟩, fun later hgentle hlimits => ?_⟩
    have hnamed : (store.put key rewritten).WellNamed := hreach.wellNamed.put
      ((resourceName_withVersion hversioned).trans (halike.name.trans hname))
    have hrenewable : rewritten.Renewable := by
      refine .inr ⟨version + 1, ?_, hread⟩
      have hne : version + 1 ≠ UInt64.size - 1 := by
        intro heq
        rw [heq] at hread
        exact hlimits [] rewritten List.nil_prefix hput hread
      omega
    obtain ⟨fetched, hfetched, hagain⟩ := renewable_afterSteps hput hrenewable hgentle hlimits
    exact ⟨fetched, get_eq_ok_iff.2 hfetched, fun edits' edited' hspare' hedited' =>
      exists_rewritten (hnamed.afterSteps later) hfetched hagain hspare' hedited'⟩

def placed (version : Document) : Document :=
  .object [("metadata", .object [("name", .text "a"), ("resourceVersion", version)]),
    ("spec", .object [])]

def placedKey : ResourceKey := ⟨.etcdCluster, "ns", "a"⟩

def scaling : List Edit := [⟨["spec", "size"], .integer 3⟩, ⟨["metadata", "labels"], .null⟩]

def scaled (version : Document) : Document :=
  .object [("metadata", .object [("labels", .null), ("name", .text "a"),
    ("resourceVersion", version)]), ("spec", .object [("size", .integer 3)])]

theorem reachable_placed (version : Document) : (empty.put placedKey (placed version)).Reachable := by
  have hinsert : empty.insert placedKey.kind placedKey.namespace (placed version) =
      .ok (empty.put placedKey (placed version)) := rfl
  exact .insert .empty hinsert

theorem spareIdentity_scaling : SpareIdentity scaling := by
  simp only [SpareIdentity, scaling, List.forall_mem_cons]
  decide

theorem signed_ne_decimal (version : Nat) : "+41" ≠ Text.decimal version := by
  intro heq
  have hmem : '+' ∈ (Text.decimal version).toList := heq ▸ (by decide)
  exact absurd (Text.isDigit_of_mem_decimal hmem) (by decide)

/-- A plain numeral is written back, and again after somebody has placed the document without a version; a signed
numeral never is. -/
theorem update_of_fetched_iff_placed :
    let plain := empty.put placedKey (placed (.text "41"))
    let signed := empty.put placedKey (placed (.text "+41"))
    let outcome := plain.answer (.update placedKey.kind placedKey.namespace (scaled (.text "41")))
    let placing := Step.insert placedKey.kind placedKey.namespace (placed .null)
    let replaced := outcome.2.afterSteps [placing]
    (plain.Reachable ∧ signed.Reachable ∧ SpareIdentity scaling ∧ placing.Gentle placedKey) ∧
    outcome.1 = .ok (scaled (.text "42")) ∧
    (∃ rewritten, (replaced.answer
      (.update placedKey.kind placedKey.namespace (scaled .null))).1 = .ok rewritten) ∧
    ∃ reason, (signed.answer
      (.update placedKey.kind placedKey.namespace (scaled (.text "+41")))).1 =
        .error (.conflict reason) := by
  intro plain signed outcome placing replaced
  have hplain : (placed (.text "41")).Renewable := .inr ⟨41, by decide, rfl⟩
  have hsigned : (placed (.text "+41")).Foreign :=
    ⟨"+41", rfl, fun version _ => signed_ne_decimal version⟩
  have hgentle : placing.Gentle placedKey := fun _ => .inl rfl
  have hwritten : outcome.1 = .ok (scaled (.text "42")) := rfl
  have hafter : outcome.2.find? placedKey = some (scaled (.text "42")) := rfl
  have hreplaced : replaced.find? placedKey = some (placed .null) := rfl
  have hlimits : ∀ done left, done <+: [placing] →
      (outcome.2.afterSteps done).find? placedKey = some left → ¬ left.Exhausted := by
    intro done left hdone hleft
    rcases List.prefix_cons_iff.1 hdone with rfl | ⟨rest, rfl, hrest⟩
    · obtain rfl := Option.some.inj (hafter.symm.trans hleft)
      exact Renewable.not_exhausted (.inr ⟨42, by decide, rfl⟩)
    · obtain rfl := List.prefix_nil.1 hrest
      obtain rfl := Option.some.inj (hreplaced.symm.trans hleft)
      exact Renewable.not_exhausted (.inl rfl)
  refine ⟨⟨reachable_placed _, reachable_placed _, spareIdentity_scaling, hgentle⟩, hwritten,
    ?_, ?_⟩
  · obtain ⟨_, _, hlater⟩ := (update_of_fetched_iff (reachable_placed (.text "41"))
      (get_put_self _ placedKey _) hplain.not_exhausted spareIdentity_scaling rfl).2.2.2.2
        _ hwritten
    obtain ⟨fetched, hfetched, hrewrites⟩ :=
      hlater [placing] (List.forall_mem_singleton.2 hgentle) hlimits
    obtain rfl := Option.some.inj (hreplaced.symm.trans (get_eq_ok_iff.1 hfetched))
    exact hrewrites scaling (scaled .null) spareIdentity_scaling rfl
  · exact (update_of_fetched_iff (reachable_placed (.text "+41")) (get_put_self _ placedKey _)
      hsigned.not_exhausted spareIdentity_scaling rfl).2.2.1.2 hsigned

end Store
end EtcdFleet
