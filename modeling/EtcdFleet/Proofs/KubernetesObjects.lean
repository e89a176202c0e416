import EtcdFleet.Kubernetes.Object
import EtcdFleet.Proofs.KubernetesMetadata

set_option autoImplicit false

/-!
# Objects that have been read

An object that has been read reads as itself once more, but for its type: where one part of it had to be given up the
other may have stayed behind, and is given up the next time. With both parts, or with neither, nothing is lost.
-/

namespace EtcdFleet.Kubernetes

open Document

variable {members type others : List (String × Document)} {name : String}

theorem isPart_iff : TypeParts.isPart name = true ↔ name = "apiVersion" ∨ name = "kind" := by
  simp [TypeParts.isPart]

theorem splitType_of_part {parts : TypeParts} {value : Document} (h : TypeParts.isPart name = true) :
    splitType parts ((name, value) :: members) =
      match value.text?.bind (parts.add? name) with
      | some more => splitType more members
      | none => ([], members) := by
  rw [splitType]
  exact if_pos h

theorem splitType_of_other {parts : TypeParts} {value : Document} (h : TypeParts.isPart name = false) :
    splitType parts ((name, value) :: members) =
      ((splitType parts members).1, (name, value) :: (splitType parts members).2) := by
  rw [splitType, if_neg (by rw [h]; exact Bool.false_ne_true)]

theorem find?_splitType (parts : TypeParts) (hname : TypeParts.isPart name = false) :
    Entries.find? name (splitType parts members).2 = Entries.find? name members := by
  induction members generalizing parts with
  | nil => rfl
  | cons member rest ih =>
    obtain ⟨key, value⟩ := member
    cases hkey : TypeParts.isPart key with
    | true =>
      have hne : key ≠ name := by
        rintro rfl
        rw [hname] at hkey
        cases hkey
      rw [splitType_of_part hkey, Entries.find?, if_neg hne]
      cases value.text?.bind (parts.add? key) with
      | none => rfl
      | some more => exact ih more
    | false => rw [splitType_of_other hkey, Entries.find?, Entries.find?, ih parts]

theorem names_splitType (parts : TypeParts) (members : List (String × Document)) :
    ((splitType parts members).2.map (·.1)).Sublist (members.map (·.1)) := by
  induction members generalizing parts with
  | nil => exact .slnil
  | cons member rest ih =>
    obtain ⟨key, value⟩ := member
    cases hkey : TypeParts.isPart key with
    | true =>
      rw [splitType_of_part hkey]
      cases value.text?.bind (parts.add? key) with
      | none => exact List.sublist_cons_self _ _
      | some more => exact (ih more).cons _
    | false =>
      rw [splitType_of_other hkey]
      exact (ih parts).cons_cons _

theorem exists_part_taken (parts : TypeParts) (hnodup : (members.map (·.1)).Nodup)
    (hpart : ∃ entry ∈ members, TypeParts.isPart entry.1 = true) :
    ∃ name, TypeParts.isPart name = true ∧ Entries.find? name members ≠ none ∧
      Entries.find? name (splitType parts members).2 = none := by
  induction members generalizing parts with
  | nil => simp at hpart
  | cons member rest ih =>
    obtain ⟨key, value⟩ := member
    obtain ⟨hnew, hrest⟩ := List.nodup_cons.1 hnodup
    cases hkey : TypeParts.isPart key with
    | true =>
      refine ⟨key, hkey, by simp [Entries.find?], Entries.find?_eq_none_iff.2 fun hin => hnew ?_⟩
      rw [splitType_of_part hkey] at hin
      cases hmore : value.text?.bind (parts.add? key) with
      | none =>
        rw [hmore] at hin
        exact hin
      | some more =>
        rw [hmore] at hin
        exact (names_splitType more rest).subset hin
    | false =>
      obtain ⟨entry, hentry, hpart⟩ := hpart
      have hmem : entry ∈ rest := by
        refine (List.mem_cons.1 hentry).resolve_left ?_
        rintro rfl
        rw [hkey] at hpart
        cases hpart
      obtain ⟨name, hname, hthere, htaken⟩ := ih parts hrest ⟨entry, hmem, hpart⟩
      have hne : key ≠ name := by
        rintro rfl
        rw [hkey] at hname
        cases hname
      refine ⟨name, hname, ?_, ?_⟩
      · rwa [Entries.find?, if_neg hne]
      · rwa [splitType_of_other hkey, Entries.find?, if_neg hne]

theorem type_cases (parts : TypeParts) (members : List (String × Document)) :
    (splitType parts members).1 = [] ∨
      ∃ apiVersion kind, (splitType parts members).1 =
        [("apiVersion", .text apiVersion), ("kind", .text kind)] := by
  induction members generalizing parts with
  | nil =>
    obtain ⟨apiVersion, kind⟩ := parts
    cases apiVersion <;> cases kind <;> simp [splitType, TypeParts.members]
  | cons member rest ih =>
    obtain ⟨key, value⟩ := member
    cases hkey : TypeParts.isPart key with
    | true =>
      rw [splitType_of_part hkey]
      cases value.text?.bind (parts.add? key) with
      | none => exact .inl rfl
      | some more => exact ih more
    | false =>
      rw [splitType_of_other hkey]
      exact ih parts

/-! ## A type with both its parts, or with none -/

def textOf? (name : String) (members : List (String × Document)) : Option String :=
  (Entries.find? name members).bind text?

def TypeParts.found (parts : TypeParts) (members : List (String × Document)) : TypeParts :=
  ⟨parts.apiVersion.or (textOf? "apiVersion" members), parts.kind.or (textOf? "kind" members)⟩

/-- Where every part is a text and none has been found before, all of them are found. -/
theorem splitType_of_texts {parts : TypeParts} (hnodup : (members.map (·.1)).Nodup)
    (htexts : ∀ entry ∈ members, TypeParts.isPart entry.1 = true → ∃ text, entry.2 = .text text)
    (hapi : "apiVersion" ∈ members.map (·.1) → parts.apiVersion = none)
    (hkind : "kind" ∈ members.map (·.1) → parts.kind = none) :
    splitType parts members =
      ((parts.found members).members, members.filter fun entry => !TypeParts.isPart entry.1) := by
  -- Each part that comes up is one that has not been found before it, so none is found twice.
  induction members generalizing parts with
  | nil =>
    obtain ⟨apiVersion, kind⟩ := parts
    simp [splitType, TypeParts.found, textOf?, Entries.find?]
  | cons member rest ih =>
    obtain ⟨key, value⟩ := member
    obtain ⟨hnew, hrest⟩ := List.nodup_cons.1 hnodup
    have htail : ∀ entry ∈ rest, TypeParts.isPart entry.1 = true → ∃ text, entry.2 = .text text :=
      fun entry hentry => htexts entry (List.mem_cons_of_mem _ hentry)
    cases hkey : TypeParts.isPart key with
    | true =>
      obtain ⟨text, rfl⟩ : ∃ text, value = .text text := htexts _ List.mem_cons_self hkey
      have hfilter : ((key, Document.text text) :: rest).filter (fun entry => !TypeParts.isPart entry.1) =
          rest.filter fun entry => !TypeParts.isPart entry.1 :=
        List.filter_cons_of_neg (by simpa using hkey)
      rw [splitType_of_part hkey, hfilter]
      rcases isPart_iff.1 hkey with rfl | rfl
      · have hnone := hapi List.mem_cons_self
        have hmore := @ih ⟨some text, parts.kind⟩ hrest htail (fun h => absurd h hnew)
          (fun h => hkind (List.mem_cons_of_mem _ h))
        simpa [TypeParts.add?, text?, hnone, TypeParts.found, textOf?, Entries.find?] using hmore
      · have hnone := hkind List.mem_cons_self
        have hmore := @ih ⟨parts.apiVersion, some text⟩ hrest htail
          (fun h => hapi (List.mem_cons_of_mem _ h)) (fun h => absurd h hnew)
        simpa [TypeParts.add?, text?, hnone, TypeParts.found, textOf?, Entries.find?] using hmore
    | false =>
      rw [splitType_of_other hkey, ih hrest htail (fun h => hapi (List.mem_cons_of_mem _ h))
        (fun h => hkind (List.mem_cons_of_mem _ h)), List.filter_cons_of_pos (by simpa using hkey)]
      have hapart : key ≠ "apiVersion" ∧ key ≠ "kind" := by
        simpa [TypeParts.isPart] using hkey
      simp [TypeParts.found, textOf?, Entries.find?, hapart.1, hapart.2]

/-- Both parts of the type are there and are texts, or none of them is there. -/
def TypeWhole (members : List (String × Document)) : Prop :=
  (∃ apiVersion kind, Entries.find? "apiVersion" members = some (.text apiVersion) ∧
    Entries.find? "kind" members = some (.text kind)) ∨
  Entries.find? "apiVersion" members = none ∧ Entries.find? "kind" members = none

theorem splitType_of_whole (hnodup : (members.map (·.1)).Nodup) (h : TypeWhole members) :
    splitType .none members =
      ((TypeParts.none.found members).members, members.filter fun entry => !TypeParts.isPart entry.1) := by
  refine splitType_of_texts hnodup ?_ (fun _ => rfl) (fun _ => rfl)
  rintro ⟨name, value⟩ hentry hpart
  have hfound := Entries.find?_of_mem hnodup hentry
  rcases isPart_iff.1 hpart with rfl | rfl
  · rcases h with ⟨apiVersion, _, hapi, _⟩ | ⟨hapi, _⟩
    · exact ⟨apiVersion, Option.some.inj (hfound.symm.trans hapi)⟩
    · rw [hapi] at hfound
      cases hfound
  · rcases h with ⟨_, kind, _, hkind⟩ | ⟨_, hkind⟩
    · exact ⟨kind, Option.some.inj (hfound.symm.trans hkind)⟩
    · rw [hkind] at hfound
      cases hfound

theorem find?_type_of_whole (h : TypeWhole members) (hpart : TypeParts.isPart name = true) :
    Entries.find? name (TypeParts.none.found members).members.reverse = Entries.find? name members := by
  rcases h with ⟨apiVersion, kind, hapi, hkind⟩ | ⟨hapi, hkind⟩
  · rcases isPart_iff.1 hpart with rfl | rfl
    · simp [TypeParts.found, TypeParts.none, TypeParts.members, textOf?, hapi, hkind, text?, Entries.find?]
    · simp [TypeParts.found, TypeParts.none, TypeParts.members, textOf?, hapi, hkind, text?, Entries.find?]
  · rcases isPart_iff.1 hpart with rfl | rfl
    · simp [TypeParts.found, TypeParts.none, TypeParts.members, textOf?, hapi, hkind, Entries.find?]
    · simp [TypeParts.found, TypeParts.none, TypeParts.members, textOf?, hapi, hkind, Entries.find?]

/-! ## Objects -/

/-- Members in their order, with metadata that has been read. -/
structure Kept (members : List (String × Document)) : Prop where
  ordered : Entries.Ordered members
  metadata : ∃ metadata, Entries.find? "metadata" members = some metadata ∧
    readMetadata? metadata = some metadata

def metadataOf? (members : List (String × Document)) : Option Document :=
  match members.filter fun member => member.1 == "metadata" with
  | [] => some (.object [])
  | [(_, doc)] => readMetadata? doc
  | _ => none

def withoutMetadata (members : List (String × Document)) : List (String × Document) :=
  members.filter fun member => member.1 != "metadata"

def assembled (members : List (String × Document)) (metadata : Document) : NameMap Document :=
  let split := splitType .none (withoutMetadata members)
  .ofEntries (split.2 ++ split.1 ++ [("metadata", metadata)])

theorem objectOfMembers?_eq (members : List (String × Document)) :
    objectOfMembers? members =
      (metadataOf? members).map fun metadata => .object (assembled members metadata).entries := by
  simp only [objectOfMembers?, metadataOf?, assembled, withoutMetadata]
  generalize splitType .none (members.filter fun member => member.1 != "metadata") = split
  obtain ⟨type, others⟩ := split
  generalize (members.filter fun member => member.1 == "metadata") = own
  rcases own with _ | ⟨⟨name, doc⟩, _ | ⟨second, rest⟩⟩
  · rfl
  · dsimp only
    cases readMetadata? doc <;> rfl
  · rfl

theorem find?_assembled (members : List (String × Document)) (metadata : Document) (name : String) :
    (assembled members metadata).find? name =
      if name = "metadata" then some metadata
      else
        let split := splitType .none (withoutMetadata members)
        (Entries.find? name split.1.reverse).or (Entries.find? name split.2.reverse) := by
  rw [assembled, NameMap.find?_ofEntries, List.reverse_append, List.reverse_append,
    Entries.find?_append, Entries.find?_append]
  by_cases hname : name = "metadata"
  · subst hname
    simp [Entries.find?]
  · simp [Entries.find?, hname, Ne.symm hname]

theorem readMetadata?_of_metadataOf? {metadata : Document} (h : metadataOf? members = some metadata) :
    readMetadata? metadata = some metadata := by
  rw [metadataOf?] at h
  split at h
  · obtain rfl := Option.some.inj h
    rfl
  · rename_i _ doc _
    cases hnull : doc.isNull with
    | true =>
      obtain rfl := eq_null_of_isNull hnull
      cases h
    | false => exact (settles_metadata doc metadata hnull h).2
  · cases h

theorem exists_kept_of_objectOfMembers? {doc : Document} (h : objectOfMembers? members = some doc) :
    ∃ own, doc = .object own ∧ Kept own := by
  rw [objectOfMembers?_eq] at h
  obtain ⟨metadata, hmetadata, rfl⟩ := Option.map_eq_some_iff.1 h
  refine ⟨_, rfl, (assembled members metadata).ordered, metadata, ?_,
    readMetadata?_of_metadataOf? hmetadata⟩
  exact (find?_assembled members metadata "metadata").trans (if_pos rfl)

theorem Kept.metadataOf?_eq (h : Kept members) {metadata : Document}
    (hmetadata : Entries.find? "metadata" members = some metadata)
    (hread : readMetadata? metadata = some metadata) : metadataOf? members = some metadata := by
  rw [metadataOf?, Entries.filter_eq_of_find? h.ordered.nodup hmetadata]
  exact hread

theorem find?_withoutMetadata (members : List (String × Document)) (name : String) :
    Entries.find? name (withoutMetadata members) =
      if name = "metadata" then none else Entries.find? name members := by
  have hfilter := Entries.find?_filter (fun key => key != "metadata") name members
  rw [withoutMetadata, hfilter]
  by_cases hname : name = "metadata" <;> simp [hname]

theorem nodup_withoutMetadata (h : (members.map (·.1)).Nodup) :
    ((withoutMetadata members).map (·.1)).Nodup :=
  h.sublist (List.filter_sublist.map _)

theorem find?_type_eq_none (hother : TypeParts.isPart name = false) :
    Entries.find? name (splitType .none members).1.reverse = none := by
  have hapart : name ≠ "apiVersion" ∧ name ≠ "kind" := by simpa [TypeParts.isPart] using hother
  rcases type_cases .none members with htype | ⟨apiVersion, kind, htype⟩
  · rw [htype]
    rfl
  · simp [htype, Entries.find?, Ne.symm hapart.1, Ne.symm hapart.2]

section Kept

variable {metadata : Document}

theorem Kept.find?_others (h : Kept members) (name : String) :
    Entries.find? name (splitType .none (withoutMetadata members)).2.reverse =
      Entries.find? name (splitType .none (withoutMetadata members)).2 :=
  Entries.find?_reverse ((nodup_withoutMetadata h.ordered.nodup).sublist (names_splitType _ _)) name

/-- Outside of the type nothing is lost the next time. -/
theorem Kept.find?_assembled_of_other (h : Kept members)
    (hmetadata : Entries.find? "metadata" members = some metadata)
    (hother : TypeParts.isPart name = false) :
    (assembled members metadata).find? name = Entries.find? name members := by
  rw [find?_assembled]
  split
  · subst_vars
    exact hmetadata.symm
  · rename_i hname
    dsimp only
    rw [find?_type_eq_none hother, Option.none_or, h.find?_others, find?_splitType _ hother,
      find?_withoutMetadata, if_neg hname]

theorem Kept.find?_assembled_of_part (h : Kept members) (hpart : TypeParts.isPart name = true) :
    (assembled members metadata).find? name =
      (Entries.find? name (splitType .none (withoutMetadata members)).1.reverse).or
        (Entries.find? name (splitType .none (withoutMetadata members)).2) := by
  have hname : name ≠ "metadata" := by
    rintro rfl
    cases hpart
  rw [find?_assembled, if_neg hname]
  dsimp only
  rw [h.find?_others]

theorem typeWhole_withoutMetadata : TypeWhole (withoutMetadata members) ↔ TypeWhole members := by
  simp [TypeWhole, find?_withoutMetadata]

theorem Kept.assembled_of_whole (h : Kept members)
    (hmetadata : Entries.find? "metadata" members = some metadata) (hwhole : TypeWhole members) :
    (assembled members metadata).entries = members := by
  refine (assembled members metadata).ordered.eq_of_find? h.ordered fun name => ?_
  cases hpart : TypeParts.isPart name with
  | false => exact h.find?_assembled_of_other hmetadata hpart
  | true =>
    have hrest := typeWhole_withoutMetadata.2 hwhole
    have hsplit := splitType_of_whole (nodup_withoutMetadata h.ordered.nodup) hrest
    have htaken : Entries.find? name (splitType .none (withoutMetadata members)).2 = none := by
      have hfilter := Entries.find?_filter (fun key => !TypeParts.isPart key) name (withoutMetadata members)
      rw [hsplit, hfilter]
      simp [hpart]
    have hname : name ≠ "metadata" := by
      rintro rfl
      cases hpart
    refine (h.find?_assembled_of_part hpart).trans ?_
    rw [htaken, Option.or_none, hsplit]
    dsimp only
    rw [find?_type_of_whole hrest hpart, find?_withoutMetadata, if_neg hname]

theorem Kept.whole_of_assembled (h : Kept members)
    (hsame : (assembled members metadata).entries = members) : TypeWhole members := by
  have hfind : ∀ name, TypeParts.isPart name = true →
      Entries.find? name members =
        (Entries.find? name (splitType .none (withoutMetadata members)).1.reverse).or
          (Entries.find? name (splitType .none (withoutMetadata members)).2) := by
    intro name hpart
    rw [← h.find?_assembled_of_part hpart, NameMap.find?, hsame]
  rcases type_cases .none (withoutMetadata members) with htype | ⟨apiVersion, kind, htype⟩
  · -- No type was made of the parts, so a part that is there was taken out and is lost.
    have hno : ¬ ∃ entry ∈ withoutMetadata members, TypeParts.isPart entry.1 = true := by
      intro hpart
      obtain ⟨name, hname, hthere, htaken⟩ :=
        exists_part_taken .none (nodup_withoutMetadata h.ordered.nodup) hpart
      have hgone := hfind name hname
      rw [htype, htaken] at hgone
      rw [find?_withoutMetadata] at hthere
      split at hthere
      · exact hthere rfl
      · exact hthere hgone
    have hnone : ∀ name, TypeParts.isPart name = true →
        Entries.find? name (withoutMetadata members) = none := by
      intro name hname
      rw [Entries.find?_eq_none_iff]
      intro hin
      obtain ⟨entry, hentry, rfl⟩ := List.mem_map.1 hin
      exact hno ⟨entry, hentry, hname⟩
    exact typeWhole_withoutMetadata.1 (.inr ⟨hnone _ rfl, hnone _ rfl⟩)
  · refine .inl ⟨apiVersion, kind, ?_, ?_⟩
    · rw [hfind _ rfl, htype]
      simp [Entries.find?]
    · rw [hfind _ rfl, htype]
      simp [Entries.find?]

theorem Kept.assembled_eq_iff (h : Kept members)
    (hmetadata : Entries.find? "metadata" members = some metadata) :
    (assembled members metadata).entries = members ↔ TypeWhole members :=
  ⟨h.whole_of_assembled, h.assembled_of_whole hmetadata⟩

/-- What is kept is read again, with at most its type lost. -/
theorem Kept.exists_objectOfMembers? (h : Kept members) :
    ∃ sent, objectOfMembers? members = some (.object sent) ∧ Kept sent ∧
      (∀ name, name ≠ "apiVersion" → name ≠ "kind" →
        Entries.find? name sent = Entries.find? name members) ∧
      (sent = members ↔ TypeWhole members) := by
  obtain ⟨metadata, hmetadata, hread⟩ := h.metadata
  have hsent : objectOfMembers? members = some (.object (assembled members metadata).entries) := by
    rw [objectOfMembers?_eq, h.metadataOf?_eq hmetadata hread, Option.map_some]
  obtain ⟨own, hown, hkept⟩ := exists_kept_of_objectOfMembers? hsent
  obtain rfl := Document.object.inj hown
  refine ⟨_, hsent, hkept, fun name hapi hkind => ?_, h.assembled_eq_iff hmetadata⟩
  exact h.find?_assembled_of_other hmetadata (by simp [TypeParts.isPart, hapi, hkind])

end Kept
end EtcdFleet.Kubernetes
