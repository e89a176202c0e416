import EtcdFleet.Cluster.Drift
import EtcdFleet.Proofs.DocumentEdits
import EtcdFleet.Proofs.WritesInPlace

set_option autoImplicit false

/-!
# What the comparison of two specs looks at

Each field is read at one path of its own on either side, and the paths lie beside each other. So the comparison
is told by its six readings: it finds the specs in sync if both give the same six, and else it stops at the first
field where they do not, whatever stands at the paths of the later ones. Both sides are read by one rule, which
makes being in sync an equivalence between the specs that can be read.
-/

namespace EtcdFleet

namespace DriftField

variable {field other : DriftField} {doc after desired observed : Document} {path : Path}

/-! ## Fields in the order of their comparison -/

def earlier (field : DriftField) : List DriftField := all.takeWhile (· ≠ field)

def later (field : DriftField) : List DriftField := (all.dropWhile (· ≠ field)).tail

theorem all_eq (field : DriftField) : all = field.earlier ++ field :: field.later := by
  cases field <;> rfl

theorem mem_all (field : DriftField) : field ∈ all := by
  cases field <;> decide

example : cpu.earlier = [size, version, storage] ∧ cpu.later = [memory, env] := by decide

theorem earlier_eq {before rest : List DriftField} (h : all = before ++ field :: rest) :
    field.earlier = before := by
  have hnodup : (before ++ field :: rest).Nodup := h ▸ (by decide : all.Nodup)
  have hbefore : ∀ other ∈ before, decide (other ≠ field) = true := by
    intro other hmem
    rw [decide_eq_true_eq]
    rintro rfl
    exact (List.nodup_append.1 hnodup).2.2 other hmem other List.mem_cons_self rfl
  rw [earlier, h, List.takeWhile_append_of_pos hbefore, List.takeWhile_cons_of_neg (by simp),
    List.append_nil]

theorem ne_of_mem_later (h : other ∈ field.later) : field ≠ other := by
  rintro rfl
  revert h
  cases field <;> decide

theorem ne_of_mem_earlier_of_mem_later {before : DriftField} (hbefore : before ∈ field.earlier)
    (h : other ∈ field.later) : before ≠ other := by
  rintro rfl
  revert hbefore h
  cases field <;> cases before <;> decide

theorem path_apart (h : field ≠ other) : Path.Apart other.path field.path := by
  revert h
  cases field <;> cases other <;> decide

/-! ## Readings -/

theorem read_congr (h : after.get? field.path = doc.get? field.path) :
    field.read after = field.read doc := by
  have hinteger : after.getInteger? field.path = doc.getInteger? field.path :=
    Document.getAs?_congr h _ _
  have htext : after.getText? field.path = doc.getText? field.path := Document.getAs?_congr h _ _
  have hlist : after.getList? field.path = doc.getList? field.path := Document.getAs?_congr h _ _
  cases field with
  | size => rw [read, read, hinteger]
  | env => rw [read, read, readVariables, readVariables, hlist]
  | _ => rw [read, read, readText, readText, htext]

theorem read_putAll {edits : List Edit} (hapart : ∀ edit ∈ edits, Path.Apart edit.path field.path)
    (h : doc.putAll edits = .ok after) : field.read after = field.read doc :=
  read_congr (Document.get?_putAll_of_apart hapart h)

def Same (field : DriftField) (desired observed : Document) : Prop :=
  ∃ reading, field.read desired = .ok reading ∧ field.read observed = .ok reading

theorem differs_eq_ok_iff {found : Bool} :
    field.differs desired observed = .ok found ↔ ∃ wanted seen,
      field.read desired = .ok wanted ∧ field.read observed = .ok seen ∧
        found = decide (wanted ≠ seen) := by
  rw [differs, bind_eq_ok_iff]
  simp only [bind_eq_ok_iff, pure, Except.pure, Except.ok.injEq]
  constructor
  · rintro ⟨wanted, hwanted, seen, hseen, rfl⟩
    exact ⟨wanted, seen, hwanted, hseen, rfl⟩
  · rintro ⟨wanted, seen, hwanted, hseen, rfl⟩
    exact ⟨wanted, hwanted, seen, hseen, rfl⟩

theorem differs_eq_false_iff : field.differs desired observed = .ok false ↔
    field.Same desired observed := by
  rw [differs_eq_ok_iff]
  constructor
  · rintro ⟨wanted, seen, hwanted, hseen, hsame⟩
    obtain rfl : wanted = seen := by simpa using hsame
    exact ⟨wanted, hwanted, hseen⟩
  · rintro ⟨reading, hwanted, hseen⟩
    exact ⟨reading, reading, hwanted, hseen, by simp⟩

theorem Same.symm (h : field.Same desired observed) : field.Same observed desired := by
  obtain ⟨reading, hwanted, hseen⟩ := h
  exact ⟨reading, hseen, hwanted⟩

theorem Same.trans {first second third : Document} (h : field.Same first second)
    (hnext : field.Same second third) : field.Same first third := by
  obtain ⟨reading, hfirst, hsecond⟩ := h
  obtain ⟨again, hagain, hthird⟩ := hnext
  obtain rfl := Except.ok.inj (hsecond.symm.trans hagain)
  exact ⟨reading, hfirst, hthird⟩

/-! ### What a reading is made of -/

/-- Both specs have a text there or neither has one, and what counts of it is the same. -/
def SameText (normalize : List Char → List Char) (path : Path) (desired observed : Document) : Prop :=
  ∃ wanted seen, desired.getText? path = .ok wanted ∧ observed.getText? path = .ok seen ∧
    wanted.map (fun text => normalize text.toList) = seen.map fun text => normalize text.toList

/-- The variables that a spec lists; one without a list has none. -/
def HasVariables (spec : Document) (listed : List EnvVar) : Prop :=
  spec.getList? ["template", "env"] = .ok none ∧ listed = [] ∨
    ∃ items, spec.getList? ["template", "env"] = .ok (some items) ∧
      items.mapM EnvVar.ofDocument? = some listed

theorem readText_eq_ok_iff {normalize : List Char → List Char} {spec : Document}
    {reading : FieldReading} :
    readText normalize path spec = .ok reading ↔ ∃ text, spec.getText? path = .ok text ∧
      reading = .text (text.map fun text => normalize text.toList) := by
  rw [readText, bind_eq_ok_iff]
  simp only [pure, Except.pure, Except.ok.injEq, eq_comm]

theorem sameText_iff {normalize : List Char → List Char} :
    (∃ reading, readText normalize path desired = .ok reading ∧
      readText normalize path observed = .ok reading) ↔
      SameText normalize path desired observed := by
  simp only [readText_eq_ok_iff]
  constructor
  · rintro ⟨_, ⟨wanted, hwanted, rfl⟩, seen, hseen, heq⟩
    exact ⟨wanted, seen, hwanted, hseen, FieldReading.text.inj heq⟩
  · rintro ⟨wanted, seen, hwanted, hseen, heq⟩
    exact ⟨_, ⟨wanted, hwanted, rfl⟩, seen, hseen, by rw [heq]⟩

theorem readVariables_eq_ok_iff {spec : Document} {reading : FieldReading} :
    readVariables ["template", "env"] spec = .ok reading ↔
      ∃ listed, HasVariables spec listed ∧ reading = .variables listed := by
  rw [readVariables]
  cases hlist : spec.getList? ["template", "env"] with
  | error failure => simp [HasVariables, hlist, error_bind]
  | ok found =>
    rw [ok_bind]
    cases found with
    | none => simp [HasVariables, hlist, pure, Except.pure, eq_comm]
    | some items =>
      cases hitems : items.mapM EnvVar.ofDocument? with
      | none => simp [HasVariables, hlist, hitems, throw, throwThe, MonadExceptOf.throw]
      | some listed => simp [HasVariables, hlist, hitems, pure, Except.pure, eq_comm]

theorem same_size_iff : size.Same desired observed ↔
    ∃ count, desired.getInteger? ["size"] = .ok count ∧
      observed.getInteger? ["size"] = .ok count := by
  simp only [Same, read, path, bind_eq_ok_iff, pure, Except.pure, Except.ok.injEq]
  constructor
  · rintro ⟨_, ⟨wanted, hwanted, rfl⟩, seen, hseen, heq⟩
    obtain rfl := FieldReading.integer.inj heq
    exact ⟨seen, hwanted, hseen⟩
  · rintro ⟨count, hwanted, hseen⟩
    exact ⟨_, ⟨count, hwanted, rfl⟩, count, hseen, rfl⟩

theorem same_env_iff : env.Same desired observed ↔
    ∃ listed, HasVariables desired listed ∧ HasVariables observed listed := by
  simp only [Same, read, path, readVariables_eq_ok_iff]
  constructor
  · rintro ⟨_, ⟨wanted, hwanted, rfl⟩, seen, hseen, heq⟩
    obtain rfl := FieldReading.variables.inj heq
    exact ⟨wanted, hwanted, hseen⟩
  · rintro ⟨listed, hwanted, hseen⟩
    exact ⟨_, ⟨listed, hwanted, rfl⟩, listed, hseen, rfl⟩

/-! ### Readings that fail -/

theorem onlyMalformed_readVariables (path : Path) (spec : Document) :
    OnlyMalformed (readVariables path spec) := by
  refine (Document.onlyMalformed_getAs? _ _ spec path).bind fun found => ?_
  cases found with
  | none => exact onlyMalformed_ok _
  | some items =>
    cases hitems : items.mapM EnvVar.ofDocument? with
    | some listed =>
      simp only [hitems]
      exact onlyMalformed_ok _
    | none =>
      simp only [hitems]
      exact onlyMalformed_error _ _

theorem onlyMalformed_read (field : DriftField) (spec : Document) :
    OnlyMalformed (field.read spec) := by
  cases field with
  | env => exact onlyMalformed_readVariables _ spec
  | _ => exact (Document.onlyMalformed_getAs? _ _ spec _).bind fun _ => onlyMalformed_ok _

end DriftField

namespace Drift

open DriftField

variable {field other : DriftField} {desired observed desired' observed' : Document}
  {failure : ProviderError}

/-! ## Where the comparison ends -/

def Reaches (desired observed : Document) (field : DriftField) : Prop :=
  ∀ before ∈ field.earlier, before.Same desired observed

/-- The comparison gets as far as the field and ends with that result there. -/
structure Meets (desired observed : Document) (field : DriftField)
    (result : Except ProviderError Bool) : Prop where
  reached : Reaches desired observed field
  met : field.differs desired observed = result

structure Stops (desired observed : Document) (field : DriftField) : Prop where
  reached : Reaches desired observed field
  unlike : ¬ field.Same desired observed

theorem among_append_of_same {before fields : List DriftField}
    (h : ∀ field ∈ before, field.Same desired observed) :
    among (before ++ fields) desired observed = among fields desired observed := by
  induction before with
  | nil => rfl
  | cons first rest ih =>
    have hfirst := differs_eq_false_iff.2 (h first List.mem_cons_self)
    rw [List.cons_append, among, hfirst, ok_bind]
    exact ih fun other hmem => h other (List.mem_cons_of_mem first hmem)

theorem detect_of_same (h : ∀ field : DriftField, field.Same desired observed) :
    detect desired observed = .ok none := by
  have hall := @among_append_of_same desired observed DriftField.all [] fun field _ => h field
  rwa [List.append_nil] at hall

theorem detect_of_stops (h : Stops desired observed field) :
    detect desired observed = (field.differs desired observed).map fun _ => some field := by
  rw [detect, all_eq field, among_append_of_same h.reached, among]
  cases hdiffers : field.differs desired observed with
  | error failure => rfl
  | ok found =>
    cases found with
    | true => rfl
    | false => exact absurd (differs_eq_false_iff.1 hdiffers) h.unlike

theorem same_or_stops (desired observed : Document) :
    (∀ field : DriftField, field.Same desired observed) ∨
      ∃ field, Stops desired observed field := by
  -- Over any list of fields, so that the induction goes on with those that are left to compare.
  have hsplit : ∀ fields : List DriftField, (∀ field ∈ fields, field.Same desired observed) ∨
      ∃ before field after, fields = before ++ field :: after ∧
        (∀ other ∈ before, other.Same desired observed) ∧ ¬ field.Same desired observed := by
    intro fields
    induction fields with
    | nil => exact .inl fun field hmem => absurd hmem List.not_mem_nil
    | cons first rest ih =>
      by_cases hfirst : first.Same desired observed
      · rcases ih with hrest | ⟨before, field, after, rfl, hbefore, hfield⟩
        · exact .inl (List.forall_mem_cons.2 ⟨hfirst, hrest⟩)
        · exact .inr ⟨first :: before, field, after, rfl,
            List.forall_mem_cons.2 ⟨hfirst, hbefore⟩, hfield⟩
      · exact .inr ⟨[], first, rest, rfl, List.forall_mem_nil _, hfirst⟩
  rcases hsplit DriftField.all with hall | ⟨before, field, after, heq, hbefore, hfield⟩
  · exact .inl fun field => hall field (mem_all field)
  · refine .inr ⟨field, ?_, hfield⟩
    rw [Reaches, earlier_eq heq]
    exact hbefore

theorem Meets.stops {result : Except ProviderError Bool} (h : Meets desired observed field result)
    (hne : result ≠ .ok false) : Stops desired observed field := by
  refine ⟨h.reached, fun hsame => hne ?_⟩
  rw [← h.met, differs_eq_false_iff.2 hsame]

theorem detect_of_meets {found : Except ProviderError Bool} (h : Meets desired observed field found)
    (hne : found ≠ .ok false) : detect desired observed = found.map fun _ => some field := by
  rw [detect_of_stops (h.stops hne), h.met]

theorem detect_cases (desired observed : Document) :
    (∀ field : DriftField, field.Same desired observed) ∧ detect desired observed = .ok none ∨
    (∃ field, Meets desired observed field (.ok true) ∧
      detect desired observed = .ok (some field)) ∨
    ∃ field failure, Meets desired observed field (.error failure) ∧
      detect desired observed = .error failure := by
  rcases same_or_stops desired observed with hsame | ⟨field, hstops⟩
  · exact .inl ⟨hsame, detect_of_same hsame⟩
  · have hdetect := detect_of_stops hstops
    cases hdiffers : field.differs desired observed with
    | error failure =>
      rw [hdiffers] at hdetect
      exact .inr (.inr ⟨field, failure, ⟨hstops.reached, hdiffers⟩, hdetect⟩)
    | ok found =>
      cases found with
      | false => exact absurd (differs_eq_false_iff.1 hdiffers) hstops.unlike
      | true =>
        rw [hdiffers] at hdetect
        exact .inr (.inl ⟨field, ⟨hstops.reached, hdiffers⟩, hdetect⟩)

theorem detect_eq_none_iff : detect desired observed = .ok none ↔
    ∀ field : DriftField, field.Same desired observed := by
  refine ⟨fun h => ?_, detect_of_same⟩
  rcases detect_cases desired observed with ⟨hsame, _⟩ | ⟨_, _, hsome⟩ | ⟨_, _, _, herror⟩
  · exact hsame
  · cases h.symm.trans hsome
  · cases h.symm.trans herror

theorem detect_eq_some_iff : detect desired observed = .ok (some field) ↔
    Meets desired observed field (.ok true) := by
  refine ⟨fun h => ?_, fun h => detect_of_meets h (by simp)⟩
  rcases detect_cases desired observed with ⟨_, hnone⟩ | ⟨other, hmeets, hsome⟩ | ⟨_, _, _, herror⟩
  · cases h.symm.trans hnone
  · obtain rfl := Option.some.inj (Except.ok.inj (hsome.symm.trans h))
    exact hmeets
  · cases h.symm.trans herror

theorem detect_eq_error_iff : detect desired observed = .error failure ↔
    ∃ field, Meets desired observed field (.error failure) := by
  constructor
  · intro h
    rcases detect_cases desired observed with ⟨_, hnone⟩ | ⟨_, _, hsome⟩ | ⟨field, own, hmeets, herror⟩
    · cases h.symm.trans hnone
    · cases h.symm.trans hsome
    · obtain rfl := Except.error.inj (herror.symm.trans h)
      exact ⟨field, hmeets⟩
  · rintro ⟨field, hmeets⟩
    exact detect_of_meets hmeets (by simp)

/-! ## What is not looked at -/

/-- Up to the field at which it stops, a comparison is told by its readings. -/
theorem detect_congr_of_stops (h : Stops desired observed field)
    (hdesired : ∀ other, other ∈ field.earlier ∨ other = field →
      other.read desired' = other.read desired)
    (hobserved : ∀ other, other ∈ field.earlier ∨ other = field →
      other.read observed' = other.read observed) :
    detect desired' observed' = detect desired observed := by
  have hdiffers : field.differs desired' observed' = field.differs desired observed := by
    rw [differs, differs, hdesired field (.inr rfl), hobserved field (.inr rfl)]
  have hstops : Stops desired' observed' field := by
    refine ⟨fun before hbefore => ?_, fun hsame => h.unlike ?_⟩
    · obtain ⟨reading, hwanted, hseen⟩ := h.reached before hbefore
      exact ⟨reading, (hdesired before (.inl hbefore)).trans hwanted,
        (hobserved before (.inl hbefore)).trans hseen⟩
    · rw [← differs_eq_false_iff, ← hdiffers]
      exact differs_eq_false_iff.2 hsame
  rw [detect_of_stops hstops, detect_of_stops h, hdiffers]

theorem detect_congr (hdesired : ∀ field : DriftField, field.read desired' = field.read desired)
    (hobserved : ∀ field : DriftField, field.read observed' = field.read observed) :
    detect desired' observed' = detect desired observed := by
  rcases same_or_stops desired observed with hsame | ⟨field, hstops⟩
  · rw [detect_of_same hsame, detect_of_same]
    intro field
    obtain ⟨reading, hwanted, hseen⟩ := hsame field
    exact ⟨reading, (hdesired field).trans hwanted, (hobserved field).trans hseen⟩
  · exact detect_congr_of_stops hstops (fun other _ => hdesired other) fun other _ => hobserved other

theorem read_of_later_edits {edits : List Edit} {doc after : Document}
    (hlater : ∀ edit ∈ edits, ∃ later ∈ field.later, edit.path = later.path)
    (h : doc.putAll edits = .ok after) (hother : other ∈ field.earlier ∨ other = field) :
    other.read after = other.read doc := by
  refine read_putAll (fun edit hmem => ?_) h
  obtain ⟨later, hlate, hpath⟩ := hlater edit hmem
  rw [hpath]
  refine path_apart ?_
  rcases hother with hearlier | rfl
  · exact ne_of_mem_earlier_of_mem_later hearlier hlate
  · exact ne_of_mem_later hlate

/-- The comparison looks at six paths, in their order, and never past the first field that differs or that cannot be
read. -/
theorem detect_looks_no_further (desired observed : Document) :
    (∀ path value edited, (∀ field : DriftField, Path.Apart path field.path) →
      observed.put path value = .ok edited → detect desired edited = detect desired observed) ∧
    (∀ field, detect desired observed = .ok (some field) ↔
      Meets desired observed field (.ok true)) ∧
    (∀ failure, detect desired observed = .error failure ↔
      ∃ field, Meets desired observed field (.error failure)) ∧
    (∀ field, (detect desired observed = .ok (some field) ∨
        ∃ failure, Meets desired observed field (.error failure)) →
      ∀ edits edits' desired' observed',
        (∀ edit ∈ edits ++ edits', ∃ later ∈ field.later, edit.path = later.path) →
        desired.putAll edits = .ok desired' → observed.putAll edits' = .ok observed' →
        detect desired' observed' = detect desired observed) ∧
    (detect desired observed = .ok none ↔
      (∃ count, desired.getInteger? ["size"] = .ok count ∧
        observed.getInteger? ["size"] = .ok count) ∧
      SameText (fun cs => cs.dropWhile (· == 'v')) ["version"] desired observed ∧
      SameText (fun cs => (cs.reverse.dropWhile fun c => c == 'G' || c == 'i').reverse)
        ["template", "persistentVolumeClaimSpec", "resources", "requests", "storage"]
        desired observed ∧
      SameText id ["template", "resources", "requests", "cpu"] desired observed ∧
      SameText (fun cs => (cs.reverse.dropWhile fun c => c == 'G' || c == 'i').reverse)
        ["template", "resources", "requests", "memory"] desired observed ∧
      ∃ listed, HasVariables desired listed ∧ HasVariables observed listed) := by
  refine ⟨?_, fun field => detect_eq_some_iff, fun failure => detect_eq_error_iff, ?_, ?_⟩
  · intro path value edited hapart hedited
    exact detect_congr (fun _ => rfl) fun field =>
      read_congr (Document.get?_put_of_apart (hapart field) hedited)
  · intro field hends edits edits' desired' observed' hlater hdesired hobserved
    have hstops : Stops desired observed field := by
      rcases hends with hdrifted | ⟨failure, hfails⟩
      · exact (detect_eq_some_iff.1 hdrifted).stops (by simp)
      · exact hfails.stops (by simp)
    refine detect_congr_of_stops hstops (fun other => read_of_later_edits ?_ hdesired)
      fun other => read_of_later_edits ?_ hobserved
    · exact fun edit hmem => hlater edit (List.mem_append_left edits' hmem)
    · exact fun edit hmem => hlater edit (List.mem_append_right edits hmem)
  · rw [detect_eq_none_iff, ← same_size_iff, ← same_env_iff, ← sameText_iff, ← sameText_iff,
      ← sameText_iff, ← sameText_iff]
    constructor
    · intro h
      exact ⟨h size, h version, h storage, h cpu, h memory, h env⟩
    · rintro ⟨hsize, hversion, hstorage, hcpu, hmemory, henv⟩ field
      cases field <;> assumption

/-! ## The two sides -/

theorem differs_comm_of_ok {a b : Document} {found : Bool} (h : field.differs a b = .ok found) :
    field.differs b a = .ok found := by
  obtain ⟨first, second, hfirst, hsecond, rfl⟩ := differs_eq_ok_iff.1 h
  exact differs_eq_ok_iff.2 ⟨second, first, hsecond, hfirst, by simp only [ne_comm]⟩

theorem detect_comm_of_ok {a b : Document} {drift : Drift} (h : detect a b = .ok drift) :
    detect b a = .ok drift := by
  cases drift with
  | none => exact detect_of_same fun field => (detect_eq_none_iff.1 h field).symm
  | some field =>
    obtain ⟨hreached, hdiffers⟩ := detect_eq_some_iff.1 h
    exact detect_eq_some_iff.2
      ⟨fun before hbefore => (hreached before hbefore).symm, differs_comm_of_ok hdiffers⟩

/-- Being in sync is an equivalence between the specs that can be read, and drift has no direction. -/
theorem inSync_equivalence (a b c : Document) :
    (detect a a = .ok none ↔
      ∀ (field : DriftField) path expected, field.read a ≠ .error (.malformed path expected)) ∧
    (detect a b = .ok none ∧ detect b a = .ok none ∨
      (∃ field, detect a b = .ok (some field) ∧ detect b a = .ok (some field)) ∨
      (∃ failure, detect a b = .error failure) ∧ ∃ failure, detect b a = .error failure) ∧
    (detect a b = .ok none → detect b c = .ok none → detect a c = .ok none) := by
  refine ⟨?_, ?_, ?_⟩
  · rw [detect_eq_none_iff]
    constructor
    · intro h field path expected hread
      obtain ⟨reading, hreading, _⟩ := h field
      rw [hread] at hreading
      cases hreading
    · intro h field
      cases hread : field.read a with
      | ok reading => exact ⟨reading, hread, hread⟩
      | error failure =>
        obtain ⟨path, expected, rfl⟩ := onlyMalformed_read field a failure hread
        exact absurd hread (h field path expected)
  · cases hforth : detect a b with
    | ok drift =>
      have hback := detect_comm_of_ok hforth
      cases drift with
      | none => exact .inl ⟨rfl, hback⟩
      | some field => exact .inr (.inl ⟨field, rfl, hback⟩)
    | error failure =>
      cases hback : detect b a with
      | ok drift => cases (detect_comm_of_ok hback).symm.trans hforth
      | error other => exact .inr (.inr ⟨⟨failure, rfl⟩, other, rfl⟩)
  · simp only [detect_eq_none_iff]
    exact fun hab hbc field => (hab field).trans (hbc field)

end Drift
end EtcdFleet
