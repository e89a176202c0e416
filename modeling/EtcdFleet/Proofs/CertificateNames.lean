import EtcdFleet.Proofs.DesiredSpecs
import EtcdFleet.Proofs.JoinedTexts

set_option autoImplicit false

/-!
# The extra names of a certificate

A text lists the names in its pieces, with white space around them and blank pieces between them as one likes.
Reading gives the one list of names that the text stands for, and that list, joined by plain commas, is a text for
itself.
-/

namespace EtcdFleet

structure ListedName (name : String) : Prop where
  nonempty : name ≠ ""
  trimmed : Text.Trimmed name.toList
  comma : ',' ∉ name.toList

/-- The pieces hold these names in this order, each with nothing but white space around it, and all other pieces
are blank. -/
inductive Lists : List (List Char) → List String → Prop
  | nothing : Lists [] []
  | blank {piece : List Char} {pieces : List (List Char)} {names : List String} :
      Text.Blank piece → Lists pieces names → Lists (piece :: pieces) names
  | name {before after : List Char} {name : String} {pieces : List (List Char)} {names : List String} :
      Text.Blank before → Text.Blank after → Lists pieces names →
        Lists ((before ++ name.toList ++ after) :: pieces) (name :: names)

def filledNames (pieces : List (List Char)) : List String :=
  (pieces.filter (¬ Text.Blank ·)).map fun piece => String.ofList (Text.trim piece)

variable {piece : List Char} {pieces : List (List Char)} {name text : String} {names : List String}

/-! ## One piece -/

theorem Text.Blank.comma_notMem (h : Text.Blank piece) : ',' ∉ piece := fun hcomma =>
  absurd (h ',' hcomma) (by decide)

theorem ListedName.not_blank_around (h : ListedName name) {before after : List Char}
    (hbefore : Text.Blank before) (hafter : Text.Blank after) :
    ¬ Text.Blank (before ++ name.toList ++ after) := by
  rw [← Text.trim_eq_nil_iff, h.trimmed.trim_around hbefore hafter, String.toList_eq_nil_iff]
  exact h.nonempty

theorem listedName_trim (hfilled : ¬ Text.Blank piece) (hcomma : ',' ∉ piece) :
    ListedName (String.ofList (Text.trim piece)) := by
  have htext : (String.ofList (Text.trim piece)).toList = Text.trim piece := String.toList_ofList
  refine ⟨?_, ?_, ?_⟩
  · rw [Ne, ← String.toList_eq_nil_iff, htext, Text.trim_eq_nil_iff]
    exact hfilled
  · rw [htext]
    exact Text.trimmed_trim piece
  · rw [htext]
    exact fun hmem => hcomma (Text.mem_of_mem_trim hmem)

/-! ## All pieces -/

theorem filledNames_cons_of_blank (h : Text.Blank piece) (pieces : List (List Char)) :
    filledNames (piece :: pieces) = filledNames pieces := by
  rw [filledNames, List.filter_cons_of_neg (by simpa using h), filledNames]

theorem filledNames_cons_of_not_blank (h : ¬ Text.Blank piece) (pieces : List (List Char)) :
    filledNames (piece :: pieces) = String.ofList (Text.trim piece) :: filledNames pieces := by
  rw [filledNames, List.filter_cons_of_pos (by simpa using h), List.map_cons, filledNames]

theorem filledNames_ne_nil_iff : filledNames pieces ≠ [] ↔ ∃ piece ∈ pieces, ¬ Text.Blank piece := by
  rw [filledNames, Ne, List.map_eq_nil_iff, List.filter_eq_nil_iff]
  simp

theorem filledNames_append (first second : List (List Char)) :
    filledNames (first ++ second) = filledNames first ++ filledNames second := by
  rw [filledNames, List.filter_append, List.map_append, filledNames, filledNames]

theorem lists_filledNames (pieces : List (List Char)) : Lists pieces (filledNames pieces) := by
  induction pieces with
  | nil => exact .nothing
  | cons piece pieces ih =>
    by_cases hblank : Text.Blank piece
    · rw [filledNames_cons_of_blank hblank]
      exact ih.blank hblank
    · rw [filledNames_cons_of_not_blank hblank]
      obtain ⟨before, after, hbefore, hafter, hpiece⟩ := Text.exists_blank_around piece
      have hlists := @Lists.name _ _ (String.ofList (Text.trim piece)) _ _ hbefore hafter ih
      rwa [String.toList_ofList, ← hpiece] at hlists

theorem listedName_of_mem_filledNames (hcomma : ∀ piece ∈ pieces, ',' ∉ piece)
    (h : name ∈ filledNames pieces) : ListedName name := by
  obtain ⟨piece, hpiece, rfl⟩ := List.mem_map.1 h
  obtain ⟨hmem, hfilled⟩ := List.mem_filter.1 hpiece
  exact listedName_trim (by simpa using hfilled) (hcomma piece hmem)

namespace Lists

theorem eq_filledNames (h : Lists pieces names) (hnames : ∀ name ∈ names, ListedName name) :
    names = filledNames pieces := by
  induction h with
  | nothing => rfl
  | blank hblank _ ih =>
    rw [filledNames_cons_of_blank hblank]
    exact ih hnames
  | name hbefore hafter _ ih =>
    obtain ⟨hname, hrest⟩ := List.forall_mem_cons.1 hnames
    rw [filledNames_cons_of_not_blank (hname.not_blank_around hbefore hafter),
      hname.trimmed.trim_around hbefore hafter, String.ofList_toList, ← ih hrest]

theorem comma_notMem (h : Lists pieces names) (hnames : ∀ name ∈ names, ListedName name) :
    ∀ piece ∈ pieces, ',' ∉ piece := by
  induction h with
  | nothing => exact List.forall_mem_nil _
  | blank hblank _ ih => exact List.forall_mem_cons.2 ⟨hblank.comma_notMem, ih hnames⟩
  | name hbefore hafter _ ih =>
    obtain ⟨hname, hrest⟩ := List.forall_mem_cons.1 hnames
    refine List.forall_mem_cons.2 ⟨?_, ih hrest⟩
    rw [List.mem_append, List.mem_append]
    rintro ((hmem | hmem) | hmem)
    · exact hbefore.comma_notMem hmem
    · exact hname.comma hmem
    · exact hafter.comma_notMem hmem

theorem ne_nil (h : Lists pieces names) (hne : names ≠ []) : pieces ≠ [] := by
  rintro rfl
  cases h
  exact hne rfl

end Lists

theorem lists_map_toList (names : List String) : Lists (names.map String.toList) names := by
  induction names with
  | nil => exact .nothing
  | cons name names ih =>
    have hlists := @Lists.name [] [] name _ _ nofun nofun ih
    rwa [List.nil_append, List.append_nil] at hlists

/-! ## The whole text -/

theorem extraSans?_eq_ite (text : String) :
    extraSans? text =
      if filledNames (Text.pieces ',' text.toList) ≠ [] then
        some (filledNames (Text.pieces ',' text.toList))
      else none :=
  (Cluster.extraSans?_eq text).trans (if_congr filledNames_ne_nil_iff.symm rfl rfl)

theorem getD_extraSans? (text : String) :
    (extraSans? text).getD [] = filledNames (Text.pieces ',' text.toList) := by
  rw [extraSans?_eq_ite]
  split
  · rfl
  · rename_i hnothing
    exact (not_not.1 hnothing).symm

theorem extraSans?_eq_none_iff :
    extraSans? text = none ↔ ∀ piece ∈ Text.pieces ',' text.toList, Text.Blank piece := by
  rw [Cluster.extraSans?_eq]
  simp

theorem extraSans?_eq_some_iff : extraSans? text = some names ↔
    names ≠ [] ∧ (∀ name ∈ names, ListedName name) ∧ Lists (Text.pieces ',' text.toList) names := by
  have hcomma : ∀ piece ∈ Text.pieces ',' text.toList, ',' ∉ piece := fun _ => Text.notMem_of_mem_pieces
  rw [extraSans?_eq_ite]
  constructor
  · intro h
    obtain ⟨hne, hread⟩ := Option.ite_none_right_eq_some.1 h
    obtain rfl := Option.some.inj hread
    exact ⟨hne, fun _ => listedName_of_mem_filledNames hcomma, lists_filledNames _⟩
  · rintro ⟨hne, hnames, hlists⟩
    obtain rfl := hlists.eq_filledNames hnames
    exact if_pos hne

theorem getD_extraSans?_append (first second : String) :
    (extraSans? (first ++ "," ++ second)).getD [] =
      (extraSans? first).getD [] ++ (extraSans? second).getD [] := by
  have htext : (first ++ "," ++ second).toList = first.toList ++ ',' :: second.toList := by
    rw [String.toList_append, String.toList_append, List.append_assoc]
    rfl
  rw [getD_extraSans?, getD_extraSans?, getD_extraSans?, htext, Text.pieces_append_separator,
    filledNames_append]

theorem extraSans?_of_lists (hne : names ≠ []) (hnames : ∀ name ∈ names, ListedName name)
    (h : Lists pieces names) : extraSans? (String.ofList (Text.joined [','] pieces)) = some names := by
  rw [extraSans?_eq_some_iff, String.toList_ofList, Text.pieces_joined (h.ne_nil hne) (h.comma_notMem hnames)]
  exact ⟨hne, hnames, h⟩

theorem extraSans?_intercalate (hne : names ≠ []) (hnames : ∀ name ∈ names, ListedName name) :
    extraSans? (",".intercalate names) = some names := by
  rw [extraSans?_eq_some_iff, Text.pieces_intercalate_comma hne fun name hname => (hnames name hname).comma]
  exact ⟨hne, hnames, lists_map_toList names⟩

/-- A text stands for the one list of names in its pieces, joining texts appends their lists, and a list of names
comes back from every text that lists them. -/
theorem extraSans_normal_form :
    (∀ text, extraSans? text = none ↔ ∀ piece ∈ Text.pieces ',' text.toList, Text.Blank piece) ∧
    (∀ text names, extraSans? text = some names ↔
      names ≠ [] ∧ (∀ name ∈ names, ListedName name) ∧ Lists (Text.pieces ',' text.toList) names) ∧
    (∀ first second, (extraSans? (first ++ "," ++ second)).getD [] =
      (extraSans? first).getD [] ++ (extraSans? second).getD []) ∧
    (∀ names pieces, names ≠ [] → (∀ name ∈ names, ListedName name) → Lists pieces names →
      extraSans? (String.ofList (Text.joined [','] pieces)) = some names) ∧
    ∀ text, extraSans? (",".intercalate ((extraSans? text).getD [])) = extraSans? text := by
  refine ⟨fun text => extraSans?_eq_none_iff, fun text names => extraSans?_eq_some_iff,
    getD_extraSans?_append, fun names pieces => extraSans?_of_lists, ?_⟩
  intro text
  cases htext : extraSans? text with
  | none => rfl
  | some names =>
    obtain ⟨hne, hnames, _⟩ := extraSans?_eq_some_iff.1 htext
    exact extraSans?_intercalate hne hnames

/-- White space of any kind around the names, blank pieces between them and a name that is there twice. -/
theorem extraSans_normal_form_spaced :
    let names := ["a.example", "b c", "a.example"]
    let pieces := [" ".toList, " a.example\t".toList, [], "\u3000b c".toList, "a.example".toList, "\n".toList]
    names ≠ [] ∧ (∀ name ∈ names, ListedName name) ∧ Lists pieces names ∧
      extraSans? " , a.example\t,,\u3000b c,a.example,\n" = some names := by
  intro names pieces
  have hne : names ≠ [] := List.cons_ne_nil _ _
  have hexample : ListedName "a.example" := ⟨by decide, by decide, by decide⟩
  have hnames : ∀ name ∈ names, ListedName name :=
    List.forall_mem_cons.2 ⟨hexample, List.forall_mem_cons.2 ⟨⟨by decide, by decide, by decide⟩,
      List.forall_mem_singleton.2 hexample⟩⟩
  have hlists : Lists pieces names := by
    refine .blank (by decide) ?_
    refine @Lists.name [' '] ['\t'] "a.example" _ _ (by decide) (by decide) ?_
    refine .blank (by decide) ?_
    refine @Lists.name ['\u3000'] [] "b c" _ _ (by decide) (by decide) ?_
    refine @Lists.name [] [] "a.example" _ _ (by decide) (by decide) ?_
    exact .blank (by decide) .nothing
  exact ⟨hne, hnames, hlists, extraSans_normal_form.2.2.2.1 names pieces hne hnames hlists⟩

end EtcdFleet
