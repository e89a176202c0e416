import EtcdFleet.Proofs.ClusterCreation
import EtcdFleet.Proofs.DescriptorDrift
import EtcdFleet.Proofs.TrimmedTexts

set_option autoImplicit false

/-!
# What a desired spec tells of its cluster

Everything that is rendered can be recovered from the desired spec of a cluster, and nothing else is in it. How the
members are secured is decided by the scheme alone, and the names for their certificates are those pieces of
the annotation that are not blank.
-/

namespace EtcdFleet

theorem gibibytes_inj {a b : UInt32} : gibibytes a = gibibytes b ↔ a = b := by
  constructor
  · intro h
    have hdigits := congrArg (fun text => DriftField.withoutUnit text.toList) h
    rw [withoutUnit_gibibytes, withoutUnit_gibibytes] at hdigits
    exact decimal_toNat_toList_inj.1 hdigits
  · rintro rfl
    rfl

theorem Document.ofStringMap_inj {a b : StringMap} (h : ofStringMap a = ofStringMap b) : a = b := by
  have hread : ∀ entries : List (String × String),
      (entries.map fun entry => (entry.1, Document.text entry.2)).map
        (fun entry => (entry.1, entry.2.text?.getD "")) = entries := by
    intro entries
    rw [List.map_map]
    exact List.map_id' _
  have hentries := congrArg (List.map fun entry : String × Document => (entry.1, entry.2.text?.getD ""))
    (Document.object.inj h)
  rw [hread, hread] at hentries
  cases a
  cases b
  rw [NameMap.mk.injEq]
  exact hentries

theorem EnvVar.map_toDocument_inj {a b : List EnvVar}
    (h : a.map EnvVar.toDocument = b.map EnvVar.toDocument) : a = b := by
  have hread := congrArg (List.mapM EnvVar.ofDocument?) h
  rw [mapM_ofDocument?_toDocument, mapM_ofDocument?_toDocument] at hread
  exact Option.some.inj hread

namespace Cluster

def sansPath : Path := ["secure", "tls", "autoTLSCert", "extraServerCertSANs"]

def sansPieces (cluster : Cluster) : List (List Char) :=
  Text.pieces ',' ((cluster.annotation? Annotation.extraSans).getD "").toList

variable {a b cluster : Cluster}

/-- What stands at one place of both templates is the same. -/
theorem template_eq_of_desiredSpec_eq (h : a.desiredSpec = b.desiredSpec) {path : Path}
    {found other : Document} (ha : a.templateDocument.lookup? path = .ok (some found))
    (hb : b.templateDocument.lookup? path = .ok (some other)) : found = other := by
  have hfound := get?_desiredSpec_template a ha
  rw [h, get?_desiredSpec_template b hb] at hfound
  exact (Option.some.inj (Except.ok.inj hfound)).symm

theorem desiredSpec_eq_iff : a.desiredSpec = b.desiredSpec ↔
    a.spec.size = b.spec.size ∧ a.spec.version = b.spec.version ∧
    a.spec.diskSize = b.spec.diskSize ∧ a.spec.totalCpu = b.spec.totalCpu ∧
    a.spec.totalMem = b.spec.totalMem ∧ a.spec.env = b.spec.env ∧
    a.metadata.labels = b.metadata.labels ∧ a.metadata.annotations = b.metadata.annotations := by
  constructor
  · intro h
    have hsize := get?_desiredSpec_size a
    rw [h, get?_desiredSpec_size b] at hsize
    have hversion := get?_desiredSpec_version a
    rw [h, get?_desiredSpec_version b] at hversion
    have htemplate := @template_eq_of_desiredSpec_eq a b h
    have hstorage := @htemplate
      ["persistentVolumeClaimSpec", "resources", "requests", "storage"] _ _ rfl rfl
    have hcpu := @htemplate ["resources", "requests", "cpu"] _ _ rfl rfl
    have hmemory := @htemplate ["resources", "requests", "memory"] _ _ rfl rfl
    have henv := @htemplate ["env"] _ _ rfl rfl
    have hlabels := @htemplate ["labels"] _ _ rfl rfl
    have hannotations := @htemplate ["annotations"] _ _ rfl rfl
    refine ⟨?_, ?_, ?_, ?_, ?_, ?_, ?_, ?_⟩
    · have hnumber : (b.spec.size.toNat : Int) = a.spec.size.toNat := by
        simpa [Document.integer] using hsize
      exact UInt32.toNat_inj.1 (by omega)
    · simpa using hversion.symm
    · exact gibibytes_inj.1 (Document.text.inj hstorage)
    · exact decimal_toNat_toList_inj.1 (congrArg String.toList (Document.text.inj hcpu))
    · exact gibibytes_inj.1 (Document.text.inj hmemory)
    · exact EnvVar.map_toDocument_inj (Document.list.inj henv)
    · exact Document.ofStringMap_inj hlabels
    · exact Document.ofStringMap_inj hannotations
  · obtain ⟨⟨_, _, _, labels, annotations⟩, ⟨_, size, version, disk, cpu, memory, env⟩, _⟩ := a
    obtain ⟨⟨_, _, _, labels', annotations'⟩, ⟨_, size', version', disk', cpu', memory', env'⟩, _⟩ := b
    rintro ⟨rfl, rfl, rfl, rfl, rfl, rfl, rfl, rfl⟩
    rfl

/-! ## Security -/

theorem get?_desiredSpec_of_plain (h : cluster.securityMode = .plain) (path : Path) :
    cluster.desiredSpec.get? ("secure" :: path) = .ok none := by
  unfold desiredSpec
  rw [h]
  rfl

theorem get?_desiredSpec_of_tls (h : cluster.securityMode = .tls) :
    cluster.desiredSpec.get? ["secure"] = .ok (some cluster.secureDocument) ∧
    cluster.desiredSpec.get? sansPath =
      .ok ((extraSans? ((cluster.annotation? Annotation.extraSans).getD "")).map .texts) := by
  unfold desiredSpec
  rw [h]
  refine ⟨rfl, ?_⟩
  unfold secureDocument
  cases extraSans? ((cluster.annotation? Annotation.extraSans).getD "") <;> rfl

theorem filledPieces_eq (cs : List Char) :
    filledPieces cs = ((Text.pieces ',' cs).filter (¬ Text.Blank ·)).map Text.trim := by
  rw [filledPieces, List.filter_map]
  congr 2
  funext piece
  rw [Function.comp_apply, Bool.eq_iff_iff]
  simp [Text.trim_eq_nil_iff]

theorem extraSans?_eq (text : String) :
    extraSans? text =
      if ∃ piece ∈ Text.pieces ',' text.toList, ¬ Text.Blank piece then
        some (((Text.pieces ',' text.toList).filter (¬ Text.Blank ·)).map
          fun piece => String.ofList (Text.trim piece))
      else none := by
  have hempty : ((Text.pieces ',' text.toList).filter (¬ Text.Blank ·)) = [] ↔
      ¬ ∃ piece ∈ Text.pieces ',' text.toList, ¬ Text.Blank piece := by
    simp [List.filter_eq_nil_iff]
  rw [extraSans?, filledPieces_eq, List.map_map]
  by_cases hpiece : ∃ piece ∈ Text.pieces ',' text.toList, ¬ Text.Blank piece
  · rw [if_pos hpiece, if_neg]
    · rfl
    · rw [List.isEmpty_iff, List.map_eq_nil_iff, hempty]
      exact not_not_intro hpiece
  · rw [if_neg hpiece, if_pos]
    rw [List.isEmpty_iff, List.map_eq_nil_iff, hempty]
    exact hpiece

theorem exists_secure_iff :
    (∃ found, cluster.desiredSpec.get? ["secure"] = .ok (some found)) ↔
      cluster.annotation? Annotation.scheme = some "https" := by
  rw [← securityMode_eq_tls_iff]
  cases hmode : cluster.securityMode with
  | plain => simp [get?_desiredSpec_of_plain hmode]
  | tls => simp [(get?_desiredSpec_of_tls hmode).1]

theorem mem_extraArguments_iff :
    "client-cert-auth=true" ∈ extraArguments cluster.securityMode ↔
      cluster.annotation? Annotation.scheme = some "https" := by
  rw [← securityMode_eq_tls_iff]
  cases cluster.securityMode <;> decide

theorem get?_desiredSpec_sansPath (cluster : Cluster) :
    cluster.desiredSpec.get? sansPath =
      .ok (if cluster.annotation? Annotation.scheme = some "https" ∧
          ∃ piece ∈ cluster.sansPieces, ¬ Text.Blank piece then
        some (.texts ((cluster.sansPieces.filter (¬ Text.Blank ·)).map
          fun piece => String.ofList (Text.trim piece)))
      else none) := by
  have hscheme := @securityMode_eq_tls_iff cluster
  cases hmode : cluster.securityMode with
  | plain =>
    rw [hmode] at hscheme
    rw [if_neg fun h => nomatch hscheme.2 h.1]
    exact get?_desiredSpec_of_plain hmode _
  | tls =>
    rw [(get?_desiredSpec_of_tls hmode).2, extraSans?_eq, ← sansPieces]
    by_cases hpiece : ∃ piece ∈ cluster.sansPieces, ¬ Text.Blank piece
    · rw [if_pos hpiece, if_pos ⟨hscheme.1 hmode, hpiece⟩]
      rfl
    · rw [if_neg hpiece, if_neg fun h => hpiece h.2]
      rfl

/-- What a desired spec has of its cluster, and what it has because of the scheme. -/
theorem desiredSpec_tells_what_is_rendered :
    (∀ a b : Cluster, a.desiredSpec = b.desiredSpec ↔
      a.spec.size = b.spec.size ∧ a.spec.version = b.spec.version ∧
      a.spec.diskSize = b.spec.diskSize ∧ a.spec.totalCpu = b.spec.totalCpu ∧
      a.spec.totalMem = b.spec.totalMem ∧ a.spec.env = b.spec.env ∧
      a.metadata.labels = b.metadata.labels ∧
      a.metadata.annotations = b.metadata.annotations) ∧
    (∀ (cluster : Cluster) (name «namespace» clusterType : String) (uid : Option String)
      (status : ClusterStatus),
      desiredSpec ⟨{ cluster.metadata with name, «namespace», uid },
        { cluster.spec with clusterType }, status⟩ = cluster.desiredSpec) ∧
    ∀ cluster : Cluster,
      ((∃ found, cluster.desiredSpec.get? ["secure"] = .ok (some found)) ↔
        cluster.annotation? Annotation.scheme = some "https") ∧
      (∃ arguments,
        cluster.desiredSpec.get? ["template", "extraArgs"] = .ok (some (.texts arguments)) ∧
        ("client-cert-auth=true" ∈ arguments ↔
          cluster.annotation? Annotation.scheme = some "https")) ∧
      cluster.desiredSpec.get? sansPath =
        .ok (if cluster.annotation? Annotation.scheme = some "https" ∧
            ∃ piece ∈ cluster.sansPieces, ¬ Text.Blank piece then
          some (.texts ((cluster.sansPieces.filter (¬ Text.Blank ·)).map
            fun piece => String.ofList (Text.trim piece)))
        else none) := by
  refine ⟨fun a b => desiredSpec_eq_iff, ?_, ?_⟩
  · intro cluster name «namespace» clusterType uid status
    exact desiredSpec_eq_iff.2 ⟨rfl, rfl, rfl, rfl, rfl, rfl, rfl, rfl⟩
  · intro cluster
    have harguments : cluster.desiredSpec.get? ["template", "extraArgs"] =
        .ok (some (.texts (extraArguments cluster.securityMode))) :=
      get?_desiredSpec_template cluster rfl
    exact ⟨exists_secure_iff, ⟨_, harguments, mem_extraArguments_iff⟩,
      get?_desiredSpec_sansPath cluster⟩

end Cluster
end EtcdFleet
