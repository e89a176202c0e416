import EtcdFleet.Proofs.EnvVarRoundTrip
import EtcdFleet.Proofs.NameMaps
import EtcdFleet.Settings

set_option autoImplicit false

/-!
# Fields of a written record

A written record is an object, so its fields are found by their names and their positions do not matter. A
field that is always written is there for a reader that requires it and for one that has a default; a field
that is left out when it is absent is read as nothing. Below the fields are texts, numbers of a fixed width,
labels of enumerations, lists and maps, each read back from what it was written as.
-/

namespace EtcdFleet

open Document

variable {α : Type}

namespace Fields

variable {fields : List (String × Option Document)} {name : String} {position : Nat}
  {read : Document → Option α} {doc : Document} {value : α}

theorem item?_presentFields (hdistinct : (fields.map (·.1)).Nodup) :
    (named (presentFields fields)).item? position name = (Entries.find? name fields).join :=
  find?_presentFields name hdistinct

theorem required_presentFields (hdistinct : (fields.map (·.1)).Nodup)
    (hfield : Entries.find? name fields = some (some doc)) (hread : read doc = some value) :
    (named (presentFields fields)).required position name read = some value := by
  rw [required, item?_presentFields hdistinct, hfield]
  exact hread

/-- The default is for those who wrote nothing. -/
theorem orDefault_presentFields {otherwise : α} (hdistinct : (fields.map (·.1)).Nodup)
    (hfield : Entries.find? name fields = some (some doc)) (hread : read doc = some value) :
    (named (presentFields fields)).orDefault position name read otherwise = some value := by
  rw [orDefault, item?_presentFields hdistinct, hfield]
  exact hread

theorem optional_presentFields {value : Option α} (hdistinct : (fields.map (·.1)).Nodup)
    (write : α → Document) (hread : ∀ v, read (write v) = some v)
    (hnull : ∀ v, (write v).isNull = false)
    (hfield : Entries.find? name fields = some (value.map write)) :
    (named (presentFields fields)).optional position name read = some value :=
  member?_presentFields hdistinct write hread hnull hfield

theorem optional_presentFields_text {text : Option String} (hdistinct : (fields.map (·.1)).Nodup)
    (hfield : Entries.find? name fields = some (text.map .text)) :
    (named (presentFields fields)).optional position name text? = some text :=
  optional_presentFields hdistinct .text (fun _ => rfl) (fun _ => rfl) hfield

theorem optional_presentFields_orNull {text : Option String}
    (hdistinct : (fields.map (·.1)).Nodup)
    (hfield : Entries.find? name fields = some (some (TlsFiles.orNull text))) :
    (named (presentFields fields)).optional position name text? = some text := by
  refine orDefault_presentFields hdistinct hfield ?_
  cases text <;> rfl

end Fields

/-! ## Numbers -/

namespace Document

theorem natBelow?_integer {bound n : Nat} (h : n < bound) : natBelow? bound (.integer n) = some n := by
  have hwithin : (0 : Int) ≤ n ∧ (n : Int) ≤ bound - 1 := by omega
  rw [natBelow?, integer, integerWithin?, if_pos hwithin, Option.map_some, Int.toNat_natCast]

theorem word16?_integer (n : UInt16) : word16? (.integer n.toNat) = some n := by
  rw [word16?, natBelow?_integer n.toNat_lt_size, Option.map_some, UInt16.ofNat_toNat]

theorem word32?_integer (n : UInt32) : word32? (.integer n.toNat) = some n := by
  rw [word32?, natBelow?_integer n.toNat_lt_size, Option.map_some, UInt32.ofNat_toNat]

theorem word64?_integer (n : UInt64) : word64? (.integer n.toNat) = some n := by
  rw [word64?, natBelow?_integer n.toNat_lt_size, Option.map_some, UInt64.ofNat_toNat]

theorem signed64?_integer (n : Int64) : signed64? (.integer n.toInt) = some n := by
  rw [signed64?, signed?, integer, integerWithin?, if_pos ⟨n.minValue_le_toInt, n.toInt_le⟩,
    Option.map_some, Int64.ofInt_toInt]

/-! ## Lists and maps -/

theorem listOf?_list {write : α → Document} {read : Document → Option α}
    (hread : ∀ v, read (write v) = some v) (values : List α) :
    listOf? read (.list (values.map write)) = some values :=
  mapM_map_of_read hread values

theorem stringMap?_ofStringMap (map : StringMap) : (ofStringMap map).stringMap? = some map := by
  have hentries := @mapM_map_of_read (String × String) (String × Document)
    (fun entry => (entry.1, .text entry.2)) (fun member => member.2.text?.map (member.1, ·))
    (fun _ => rfl) map.entries
  rw [ofStringMap, stringMap?, hentries, Option.map_some, NameMap.ofEntries_entries]

end Document

/-! ## Enumerations -/

theorem find?_label {label : α → String} {all : List α} {value : α}
    (hdistinct : (all.map label).Nodup) (hmem : value ∈ all) :
    (all.find? fun other => label other == label value) = some value := by
  induction all with
  | nil => cases hmem
  | cons first rest ih =>
    obtain ⟨hnew, hrest⟩ := List.nodup_cons.1 hdistinct
    rcases List.mem_cons.1 hmem with rfl | hmem
    · rw [List.find?_cons_of_pos (by simp)]
    · have hne : label first ≠ label value := fun heq => hnew (heq ▸ List.mem_map_of_mem hmem)
      rw [List.find?_cons_of_neg (by simpa using hne), ih hrest hmem]

theorem labelled?_label {label : α → String} {all : List α} {value : α}
    (hdistinct : (all.map label).Nodup) (hmem : value ∈ all) :
    labelled? label all (.text (label value)) = some value :=
  find?_label hdistinct hmem

theorem ClusterPhase.ofDocument?_label (phase : ClusterPhase) :
    ClusterPhase.ofDocument? (.text phase.label) = some phase :=
  labelled?_label (by decide) (by cases phase <;> decide)

theorem MemberRole.ofDocument?_label (role : MemberRole) :
    MemberRole.ofDocument? (.text role.label) = some role :=
  labelled?_label (by decide) (by cases role <;> decide)

theorem MemberPhase.ofDocument?_label (phase : MemberPhase) :
    MemberPhase.ofDocument? (.text phase.label) = some phase :=
  labelled?_label (by decide) (by cases phase <;> decide)

theorem LogSettings.rotation?_label (style : RecordStyle) (rotation : Rotation) :
    LogSettings.rotation? style (.text rotation.label) = some rotation :=
  find?_label (by decide) (by cases rotation <;> decide)

end EtcdFleet
