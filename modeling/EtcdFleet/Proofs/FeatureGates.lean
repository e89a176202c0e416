import EtcdFleet.Cluster.Gates
import EtcdFleet.Proofs.NameMaps
import EtcdFleet.Proofs.TrimmedTexts

set_option autoImplicit false

/-!
# What a text of gates switches on

A feature is on if one piece of the text says so, whatever the other pieces say. So a text means what its pieces
mean together, in whatever order they stand, and a text written from names is read as these names.
-/

namespace EtcdFleet

/-- The gate says `true` of that name; the first equals sign divides the two. -/
def SwitchesOn (gate name : List Char) : Prop :=
  ∃ before value, gate = before ++ '=' :: value ∧ '=' ∉ before ∧
    Text.trim before = name ∧ name ≠ [] ∧ Text.trim value = "true".toList

structure GateName (name : String) : Prop where
  nonempty : name ≠ ""
  trimmed : Text.Trimmed name.toList
  comma : ',' ∉ name.toList
  equals : '=' ∉ name.toList

def openGate (name : String) : List Char := name.toList ++ '=' :: "true".toList

/-- All the names switched on, in the order in which they are given. -/
def gateText (names : List String) : String :=
  String.ofList (Text.joined [','] (names.map openGate))

variable {gate cs found : List Char} {name : String}

/-! ## One gate -/

theorem enabledName?_eq_some_iff : enabledName? gate = some found ↔ SwitchesOn gate found := by
  rw [enabledName?]
  constructor
  · intro h
    split at h
    · cases h
    · rename_i before value hcut
      obtain ⟨hgate, hbefore⟩ := Text.append_of_cut? hcut
      obtain ⟨⟨hvalue, hne⟩, hfound⟩ := Option.ite_none_right_eq_some.1 h
      obtain rfl := Option.some.inj hfound
      exact ⟨before, value, hgate, hbefore, rfl, hne, hvalue⟩
  · rintro ⟨before, value, rfl, hbefore, rfl, hne, hvalue⟩
    rw [Text.cut?_append hbefore]
    exact if_pos ⟨hvalue, hne⟩

theorem SwitchesOn.gateName (h : SwitchesOn gate found) (hgate : ',' ∉ gate) :
    GateName (String.ofList found) := by
  obtain ⟨before, value, rfl, hbefore, rfl, hne, _⟩ := h
  have htext : (String.ofList (Text.trim before)).toList = Text.trim before := String.toList_ofList
  refine ⟨?_, ?_, ?_, ?_⟩
  · intro hempty
    rw [hempty] at htext
    exact hne htext.symm
  · rw [htext]
    exact Text.trimmed_trim before
  · rw [htext]
    exact fun hcomma => hgate (List.mem_append_left _ (Text.mem_of_mem_trim hcomma))
  · rw [htext]
    exact fun hequals => hbefore (Text.mem_of_mem_trim hequals)

theorem GateName.switchesOn_iff (h : GateName name) :
    SwitchesOn (openGate name) found ↔ found = name.toList := by
  have htrue : Text.trim "true".toList = "true".toList := by decide
  rw [← enabledName?_eq_some_iff, enabledName?, openGate, Text.cut?_append h.equals]
  dsimp only
  rw [h.trimmed.trim_eq, htrue, if_pos, Option.some_inj, eq_comm]
  exact ⟨rfl, fun hempty => h.nonempty (String.toList_eq_nil_iff.1 hempty)⟩

theorem GateName.comma_notMem_openGate (h : GateName name) : ',' ∉ openGate name := by
  rw [openGate, List.mem_append, not_or]
  exact ⟨h.comma, by decide⟩

/-! ## All gates of a text -/

theorem mem_gateNames_iff :
    name ∈ gateNames cs ↔ ∃ gate ∈ Text.pieces ',' cs, SwitchesOn gate name.toList := by
  rw [gateNames, mem_sortedNames_iff, List.mem_map]
  constructor
  · rintro ⟨found, hfound, rfl⟩
    obtain ⟨gate, hgate, henabled⟩ := List.mem_filterMap.1 hfound
    rw [String.toList_ofList]
    exact ⟨gate, hgate, enabledName?_eq_some_iff.1 henabled⟩
  · rintro ⟨gate, hgate, hon⟩
    refine ⟨name.toList, ?_, String.ofList_toList⟩
    exact List.mem_filterMap.2 ⟨gate, hgate, enabledName?_eq_some_iff.2 hon⟩

theorem gateNames_ordered (cs : List Char) : (gateNames cs).Pairwise (· < ·) := sortedNames_ordered _

theorem gateName_of_mem (h : name ∈ gateNames cs) : GateName name := by
  obtain ⟨gate, hgate, hon⟩ := mem_gateNames_iff.1 h
  have hname := hon.gateName (Text.notMem_of_mem_pieces hgate)
  rwa [String.ofList_toList] at hname

theorem mem_gateNames_append (first second : List Char) :
    name ∈ gateNames (first ++ ',' :: second) ↔ name ∈ gateNames first ∨ name ∈ gateNames second := by
  simp only [mem_gateNames_iff, Text.pieces_append_separator, List.mem_append, or_and_right, exists_or]

theorem gateNames_of_perm {first second : List Char}
    (h : (Text.pieces ',' first).Perm (Text.pieces ',' second)) :
    gateNames first = gateNames second := by
  apply names_eq_of_mem (gateNames_ordered first) (gateNames_ordered second)
  intro name
  simp only [mem_gateNames_iff, h.mem_iff]

theorem mem_gateNames_gateText {names : List String} (h : ∀ name ∈ names, GateName name) :
    name ∈ gateNames (gateText names).toList ↔ name ∈ names := by
  have hgates : ∀ gate ∈ names.map openGate, ',' ∉ gate := by
    intro gate hgate
    obtain ⟨written, hwritten, rfl⟩ := List.mem_map.1 hgate
    exact (h written hwritten).comma_notMem_openGate
  cases names with
  | nil =>
    have hnothing : gateNames (gateText []).toList = [] := rfl
    rw [hnothing]
  | cons first rest =>
    have hne : (first :: rest).map openGate ≠ [] := List.cons_ne_nil _ _
    rw [mem_gateNames_iff, gateText, String.toList_ofList, Text.pieces_joined hne hgates]
    constructor
    · rintro ⟨gate, hgate, hon⟩
      obtain ⟨written, hwritten, rfl⟩ := List.mem_map.1 hgate
      rw [(h written hwritten).switchesOn_iff, String.toList_inj] at hon
      rwa [hon]
    · intro hname
      exact ⟨openGate name, List.mem_map_of_mem hname, (h name hname).switchesOn_iff.2 rfl⟩

/-- Whatever else is annotated, the features are those that the pieces of the one text switch on. -/
theorem gates_mean_their_pieces (annotations : StringMap) :
    let gates := fun text : String =>
      featureGates (annotations.insert Annotation.featureGates text)
    (∀ text name, name ∈ gates text ↔
      ∃ gate ∈ Text.pieces ',' text.toList, SwitchesOn gate name.toList) ∧
    (∀ text, (gates text).Pairwise (· < ·)) ∧
    featureGates annotations =
      ((annotations.find? Annotation.featureGates).map gates).getD [] ∧
    (∀ first second name,
      name ∈ gates (first ++ "," ++ second) ↔ name ∈ gates first ∨ name ∈ gates second) ∧
    (∀ first second : String,
      (Text.pieces ',' first.toList).Perm (Text.pieces ',' second.toList) →
        gates first = gates second) ∧
    (∀ text, ∀ name ∈ gates text, GateName name) ∧
    ∀ names : List String, (∀ name ∈ names, GateName name) →
      ∀ name, name ∈ gates (gateText names) ↔ name ∈ names := by
  intro gates
  have hgates : ∀ text, gates text = gateNames text.toList := by
    intro text
    change featureGates _ = _
    rw [featureGates, NameMap.find?_insert_self]
  refine ⟨?_, ?_, ?_, ?_, ?_, ?_, ?_⟩
  · intro text name
    rw [hgates, mem_gateNames_iff]
  · intro text
    rw [hgates]
    exact gateNames_ordered _
  · rw [featureGates]
    cases annotations.find? Annotation.featureGates with
    | none => rfl
    | some text => exact (hgates text).symm
  · intro first second name
    have htext : (first ++ "," ++ second).toList = first.toList ++ ',' :: second.toList := by
      rw [String.toList_append, String.toList_append, List.append_assoc]
      rfl
    rw [hgates, hgates, hgates, htext]
    exact mem_gateNames_append first.toList second.toList
  · intro first second hperm
    rw [hgates, hgates]
    exact gateNames_of_perm hperm
  · intro text name hname
    rw [hgates] at hname
    exact gateName_of_mem hname
  · intro names hnames name
    rw [hgates]
    exact mem_gateNames_gateText hnames

/-- Of two gates for one feature the true one counts, and only white space within a name belongs to it. -/
theorem gates_mean_their_pieces_contradicting :
    let gates := fun text : String =>
      featureGates (NameMap.empty.insert Annotation.featureGates text)
    GateName "disk usage" ∧ GateName "alarm" ∧
      gates "alarm=false, alarm =true,request=yes" =
        gates "request=yes,alarm=false, alarm =true" ∧
      gates "disk usage=true,alarm=true" = ["alarm", "disk usage"] := by
  intro gates
  have husage : GateName "disk usage" := ⟨by decide, by decide, by decide, by decide⟩
  have halarm : GateName "alarm" := ⟨by decide, by decide, by decide, by decide⟩
  obtain ⟨_, hordered, _, _, hperm, _, hread⟩ := gates_mean_their_pieces NameMap.empty
  refine ⟨husage, halarm, hperm _ _ (by decide), ?_⟩
  apply names_eq_of_mem (hordered _) (by decide)
  intro name
  have hnames : ∀ name ∈ ["disk usage", "alarm"], GateName name :=
    List.forall_mem_cons.2 ⟨husage, List.forall_mem_singleton.2 halarm⟩
  refine (hread _ hnames name).trans ?_
  rw [List.mem_pair, List.mem_pair]
  exact or_comm

end EtcdFleet
