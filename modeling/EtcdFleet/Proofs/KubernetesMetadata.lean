import EtcdFleet.Kubernetes.Metadata
import EtcdFleet.Proofs.DocumentPaths
import EtcdFleet.Proofs.InstantTexts
import EtcdFleet.Proofs.WrittenFields

set_option autoImplicit false

/-!
# Metadata that has been read

What has been read once reads as itself: nothing more is dropped the second time, and no wrong shape comes up. Every
shape by itself first, then the members of a record, each under its own name.
-/

namespace EtcdFleet.Kubernetes

open Document

/-- What has been read is not nothing, and reads as itself. A null is not read at all. -/
def Settles (read : Document → Option Document) : Prop :=
  ∀ doc found, doc.isNull = false → read doc = some found →
    found.isNull = false ∧ read found = some found

variable {α : Type} {members found : List (String × Document)} {name : String}

theorem eq_integer_of_signed? {doc : Document} {value : Int} (h : doc.signed? = some value) :
    doc = .integer value := by
  cases doc with
  | number number =>
    cases number with
    | integer own =>
      rw [signed?, integerWithin?] at h
      split at h
      · rw [Option.some.inj h]
        rfl
      · cases h
    | float bits => cases h
  | _ => cases h

theorem settles_scalar (shape : ScalarShape) : Settles shape.read? := by
  intro doc found hnull hread
  cases shape with
  | text =>
    obtain ⟨text, htext, rfl⟩ := Option.map_eq_some_iff.1 hread
    exact ⟨rfl, rfl⟩
  | flag =>
    obtain ⟨value, hvalue, rfl⟩ := Option.map_eq_some_iff.1 hread
    exact ⟨rfl, rfl⟩
  | integer =>
    obtain ⟨value, hvalue, rfl⟩ := Option.map_eq_some_iff.1 hread
    obtain rfl := eq_integer_of_signed? hvalue
    exact ⟨rfl, hread⟩
  | time =>
    rw [ScalarShape.read?] at hread
    obtain ⟨instant, hinstant, rfl⟩ := Option.map_eq_some_iff.1 hread
    obtain ⟨text, htext, htime⟩ := Option.bind_eq_some_iff.1 hinstant
    obtain ⟨again, hagain, hsame⟩ := Instant.exists_ofFreeText?_toSecondText htime
    refine ⟨rfl, ?_⟩
    rw [ScalarShape.read?, text?, Option.bind_some, hagain, Option.map_some, hsame]
  | anything =>
    obtain rfl := Option.some.inj hread
    exact ⟨hnull, rfl⟩

/-! ## Members by their names -/

theorem member?_of_none {read : Document → Option α} (h : Entries.find? name members = none) :
    member? members name read = some none := by
  rw [member?, Fields.optional, Fields.orDefault, Fields.item?, h]

theorem member?_of_some {read : Document → Option α} {doc : Document}
    (h : Entries.find? name members = some doc) (hnull : doc.isNull = false) :
    member? members name read = (read doc).map some := by
  rw [member?, Fields.optional, Fields.orDefault, Fields.item?, h]
  cases doc with
  | null => cases hnull
  | _ => rfl

theorem exists_of_member?_eq_some {read : Document → Option α} {value : α}
    (h : member? members name read = some (some value)) :
    ∃ doc, doc.isNull = false ∧ read doc = some value := by
  cases hfound : Entries.find? name members with
  | none =>
    rw [member?_of_none hfound] at h
    cases h
  | some doc =>
    cases hnull : doc.isNull with
    | true =>
      obtain rfl := eq_null_of_isNull hnull
      rw [member?, Fields.optional, Fields.orDefault, Fields.item?, hfound] at h
      cases h
    | false =>
      rw [member?_of_some hfound hnull, Option.map_eq_some_iff] at h
      obtain ⟨found, hread, hvalue⟩ := h
      exact ⟨doc, hnull, by rw [hread, hvalue]⟩

section Members

variable {read : α → Document → Option Document} {shapes : List (String × α)} {shape : α}

theorem readMembers?_cons_eq_some_iff :
    readMembers? read members ((name, shape) :: shapes) = some found ↔
      ∃ value later, member? members name (read shape) = some value ∧
        readMembers? read members shapes = some later ∧
        (value.map (name, ·)).toList ++ later = found := by
  simp [readMembers?, Option.bind_eq_some_iff]

theorem readMembers?_append {others : List (String × α)} {later : List (String × Document)}
    (h : readMembers? read members shapes = some found)
    (hlater : readMembers? read members others = some later) :
    readMembers? read members (shapes ++ others) = some (found ++ later) := by
  induction shapes generalizing found with
  | nil =>
    obtain rfl := Option.some.inj h
    exact hlater
  | cons entry rest ih =>
    obtain ⟨value, kept, hvalue, hkept, rfl⟩ := readMembers?_cons_eq_some_iff.1 h
    exact readMembers?_cons_eq_some_iff.2
      ⟨value, kept ++ later, hvalue, ih hkept, (List.append_assoc _ _ _).symm⟩

theorem names_readMembers? (h : readMembers? read members shapes = some found) :
    (found.map (·.1)).Sublist (shapes.map (·.1)) := by
  induction shapes generalizing found with
  | nil =>
    obtain rfl := Option.some.inj h
    exact .slnil
  | cons entry rest ih =>
    obtain ⟨value, later, _, hlater, rfl⟩ := readMembers?_cons_eq_some_iff.1 h
    cases value with
    | none => exact (ih hlater).cons _
    | some doc => exact (ih hlater).cons_cons _

theorem member?_of_readMembers? (h : readMembers? read members shapes = some found)
    (hnodup : (shapes.map (·.1)).Nodup) (hmem : (name, shape) ∈ shapes) :
    member? members name (read shape) = some (Entries.find? name found) := by
  induction shapes generalizing found with
  | nil => cases hmem
  | cons entry rest ih =>
    obtain ⟨value, later, hvalue, hlater, rfl⟩ := readMembers?_cons_eq_some_iff.1 h
    obtain ⟨hnew, hrest⟩ := List.nodup_cons.1 hnodup
    rw [Entries.find?_append]
    rcases List.mem_cons.1 hmem with rfl | hmem
    · have hnone : Entries.find? name later = none :=
        Entries.find?_eq_none_iff.2 fun hin => hnew ((names_readMembers? hlater).subset hin)
      rw [hvalue, hnone, Option.or_none]
      cases value <;> simp [Entries.find?]
    · have hne : entry.1 ≠ name := by
        rintro rfl
        exact hnew (List.mem_map.2 ⟨_, hmem, rfl⟩)
      rw [ih hlater hrest hmem]
      cases value <;> simp [Entries.find?, hne]

theorem readMembers?_congr {others : List (String × Document)}
    (h : ∀ entry ∈ shapes, member? members entry.1 (read entry.2) =
      member? others entry.1 (read entry.2)) :
    readMembers? read members shapes = readMembers? read others shapes := by
  induction shapes with
  | nil => rfl
  | cons entry rest ih =>
    have hrest := ih fun other hother => h other (List.mem_cons_of_mem _ hother)
    rw [readMembers?, readMembers?, h entry List.mem_cons_self, hrest]

/-- The same members are read wherever those that have been read are found. -/
theorem readMembers?_again {again : List (String × Document)}
    (hread : ∀ entry ∈ shapes, Settles (read entry.2)) (hnodup : (shapes.map (·.1)).Nodup)
    (h : readMembers? read members shapes = some found)
    (hagain : ∀ entry ∈ shapes, Entries.find? entry.1 again = Entries.find? entry.1 found) :
    readMembers? read again shapes = some found := by
  rw [← h]
  refine readMembers?_congr fun entry hentry => ?_
  have hvalue := member?_of_readMembers? h hnodup hentry
  rw [hvalue]
  cases hfound : Entries.find? entry.1 found with
  | none => exact member?_of_none ((hagain entry hentry).trans hfound)
  | some value =>
    rw [hfound] at hvalue
    obtain ⟨doc, hnull, hdoc⟩ := exists_of_member?_eq_some hvalue
    obtain ⟨hkept, hself⟩ := hread entry hentry doc value hnull hdoc
    rw [member?_of_some ((hagain entry hentry).trans hfound) hkept, hself, Option.map_some]

end Members

/-! ## Records -/

theorem readAlways?_cons_eq_some_iff {names : List String} :
    readAlways? members (name :: names) = some found ↔
      ∃ text later, member? members name text? = some text ∧
        readAlways? members names = some later ∧ (name, .text (text.getD "")) :: later = found := by
  simp [readAlways?, List.mapM_cons, Option.bind_eq_some_iff]

theorem names_readAlways? {names : List String} (h : readAlways? members names = some found) :
    found.map (·.1) = names := by
  induction names generalizing found with
  | nil =>
    obtain rfl := Option.some.inj h
    rfl
  | cons name rest ih =>
    obtain ⟨text, later, _, hlater, rfl⟩ := readAlways?_cons_eq_some_iff.1 h
    rw [List.map_cons, ih hlater]

theorem readAlways?_again {names : List String} {again : List (String × Document)}
    (hnodup : names.Nodup) (h : readAlways? members names = some found)
    (hagain : ∀ name ∈ names, Entries.find? name again = Entries.find? name found) :
    readAlways? again names = some found := by
  induction names generalizing found with
  | nil => exact h
  | cons name rest ih =>
    obtain ⟨text, later, _, hlater, rfl⟩ := readAlways?_cons_eq_some_iff.1 h
    obtain ⟨hnew, hrest⟩ := List.nodup_cons.1 hnodup
    have hfirst := hagain name List.mem_cons_self
    rw [Entries.find?, if_pos rfl] at hfirst
    refine readAlways?_cons_eq_some_iff.2 ⟨some (text.getD ""), later, ?_, ?_, rfl⟩
    · rw [member?_of_some hfirst rfl]
      rfl
    · refine ih hrest hlater fun other hother => ?_
      have hne : name ≠ other := fun heq => hnew (heq ▸ hother)
      rw [hagain other (List.mem_cons_of_mem _ hother), Entries.find?, if_neg hne]

theorem settles_record {always : List String} {others : List (String × ScalarShape)}
    (hnodup : (always ++ others.map (·.1)).Nodup) : Settles (readRecord? always others) := by
  intro doc found _ hread
  simp only [readRecord?, Option.bind_eq_bind, Option.bind_eq_some_iff] at hread
  obtain ⟨members, hmembers, required, hrequired, optional, hoptional, hfound⟩ := hread
  obtain rfl := Option.some.inj hfound
  obtain ⟨halways, hothers, hapart⟩ := List.nodup_append.1 hnodup
  have hnames : (required.map (·.1)) = always := names_readAlways? hrequired
  have hsub := names_readMembers? hoptional
  have hentries : ((required ++ optional).map (·.1)).Nodup := by
    rw [List.map_append, hnames]
    exact hnodup.sublist ((List.Sublist.refl _).append hsub)
  have hagain : ∀ name, Entries.find? name (NameMap.ofEntries (required ++ optional)).entries =
      (Entries.find? name required).or (Entries.find? name optional) := by
    intro name
    rw [← Entries.find?_append]
    exact NameMap.find?_ofEntries_of_nodup hentries name
  have hrequired' := readAlways?_again halways hrequired fun name hname => by
    have hnone : Entries.find? name optional = none := Entries.find?_eq_none_iff.2 fun hin =>
      hapart name hname name (hsub.subset hin) rfl
    rw [hagain, hnone, Option.or_none]
  have hoptional' := readMembers?_again (fun entry _ => settles_scalar entry.2) hothers hoptional
    fun entry hentry => by
      have hnone : Entries.find? entry.1 required = none := Entries.find?_eq_none_iff.2 fun hin =>
        hapart entry.1 (hnames ▸ hin) entry.1 (List.mem_map_of_mem hentry) rfl
      rw [hagain, hnone, Option.none_or]
  refine ⟨rfl, ?_⟩
  simp only [readRecord?, object?, Option.bind_eq_bind, Option.bind_some, hrequired', hoptional']
  rfl

/-! ## The members of metadata -/

theorem mapM_self {read : Document → Option Document} (h : Settles read) (hnull : read .null = none)
    {items values : List Document} (hread : items.mapM read = some values) :
    values.mapM read = some values := by
  induction items generalizing values with
  | nil =>
    obtain rfl := Option.some.inj hread
    rfl
  | cons item rest ih =>
    simp only [List.mapM_cons, Option.bind_eq_bind, Option.bind_eq_some_iff] at hread
    obtain ⟨value, hvalue, later, hlater, hcons⟩ := hread
    obtain rfl := Option.some.inj hcons
    have hitem : item.isNull = false := by
      cases item with
      | null =>
        rw [hnull] at hvalue
        cases hvalue
      | _ => rfl
    obtain ⟨_, hself⟩ := h item value hitem hvalue
    simp [List.mapM_cons, hself, ih hlater]

theorem settles_list {read : Document → Option Document} (h : Settles read)
    (hnull : read .null = none) : Settles fun doc => (listOf? read doc).map .list := by
  intro doc found _ hread
  obtain ⟨values, hvalues, rfl⟩ := Option.map_eq_some_iff.1 hread
  refine ⟨rfl, ?_⟩
  cases doc with
  | list items =>
    have hself : listOf? read (.list values) = some values := mapM_self h hnull hvalues
    dsimp only
    rw [hself, Option.map_some]
  | _ => cases hvalues

def MemberShape.Distinct : MemberShape → Prop
  | .records always others => (always ++ others.map (·.1)).Nodup
  | _ => True

theorem settles_member {shape : MemberShape} (h : shape.Distinct) : Settles shape.read? := by
  cases shape with
  | scalar shape => exact settles_scalar shape
  | texts =>
    intro doc found _ hread
    obtain ⟨values, _, rfl⟩ := Option.map_eq_some_iff.1 hread
    refine ⟨rfl, ?_⟩
    have hvalues : listOf? text? (.texts values) = some values :=
      @mapM_map_of_read _ _ Document.text text? (fun _ => rfl) values
    rw [MemberShape.read?, hvalues, Option.map_some]
  | textMap =>
    intro doc found _ hread
    obtain ⟨map, _, rfl⟩ := Option.map_eq_some_iff.1 hread
    refine ⟨rfl, ?_⟩
    rw [MemberShape.read?, stringMap?_ofStringMap, Option.map_some]
  | records always others => exact settles_list (settles_record h) rfl

theorem metadataShapes_ordered : (metadataShapes.map (·.1)).Pairwise (· < ·) := by
  decide

theorem distinct_of_mem_metadataShapes :
    ∀ entry ∈ metadataShapes, MemberShape.Distinct entry.2 := by
  simp [metadataShapes, MemberShape.Distinct]

theorem settles_metadata : Settles readMetadata? := by
  intro doc found _ hread
  simp only [readMetadata?, Option.bind_eq_bind, Option.bind_eq_some_iff] at hread
  obtain ⟨members, hmembers, kept, hkept, hfound⟩ := hread
  obtain rfl := Option.some.inj hfound
  have hagain := readMembers?_again
    (fun entry hentry => settles_member (distinct_of_mem_metadataShapes entry hentry))
    (nodup_of_increasing metadataShapes_ordered) hkept fun _ _ => rfl
  refine ⟨rfl, ?_⟩
  simp only [readMetadata?, object?, Option.bind_eq_bind, Option.bind_some, hagain]
  rfl

end EtcdFleet.Kubernetes
