import EtcdFleet.Cluster.Drift
import EtcdFleet.Cluster.Spec
import EtcdFleet.Proofs.DocumentPaths
import EtcdFleet.Proofs.EnvVarRoundTrip

set_option autoImplicit false

/-!
# Drift between two descriptors

Each of the compared fields stands in the desired `spec` of a descriptor at the path where it is looked
for, in a form from which it can be recovered. So the comparison of two desired specs never fails, and
what it finds is the first field in which the descriptors themselves differ. Whatever else a descriptor
says is not looked at.
-/

namespace EtcdFleet

/-! ## Quantities are recovered from their texts -/

def isUnitLetter (c : Char) : Bool := c == 'G' || c == 'i'

theorem isUnitLetter_of_isDigit {c : Char} (h : c.isDigit = true) : isUnitLetter c = false := by
  have hG : c ≠ 'G' := by
    rintro rfl
    exact absurd h (by decide)
  have hi : c ≠ 'i' := by
    rintro rfl
    exact absurd h (by decide)
  simp [isUnitLetter, hG, hi]

theorem dropWhile_isUnitLetter_of_digits {cs : List Char} (h : ∀ c ∈ cs, c.isDigit = true) :
    cs.dropWhile isUnitLetter = cs := by
  cases cs with
  | nil => rfl
  | cons c rest =>
    rw [List.dropWhile_cons, isUnitLetter_of_isDigit (h c List.mem_cons_self)]
    rfl

theorem withoutUnit_gibibytes (count : UInt32) :
    DriftField.withoutUnit (gibibytes count).toList = (Text.decimal count.toNat).toList := by
  have hdigits : ∀ c ∈ (Text.decimal count.toNat).toList.reverse, c.isDigit = true := by
    intro c hc
    rw [List.mem_reverse, Text.decimal_toList] at hc
    exact Nat.isDigit_of_mem_toDigits (by decide) (by decide) hc
  have htext : (gibibytes count).toList.reverse =
      'i' :: 'G' :: (Text.decimal count.toNat).toList.reverse := by
    rw [gibibytes, String.toList_append, List.reverse_append]
    rfl
  change ((gibibytes count).toList.reverse.dropWhile isUnitLetter).reverse = _
  rw [htext, List.dropWhile_cons, if_pos (by decide), List.dropWhile_cons, if_pos (by decide),
    dropWhile_isUnitLetter_of_digits hdigits, List.reverse_reverse]

theorem decimal_toNat_toList_inj {a b : UInt32} :
    (Text.decimal a.toNat).toList = (Text.decimal b.toNat).toList ↔ a = b := by
  constructor
  · intro h
    exact UInt32.toNat_inj.1 (Text.decimal_injective (String.toList_inj.1 h))
  · rintro rfl
    rfl

/-! ## What is read from a desired spec -/

namespace Cluster

theorem get?_desiredSpec_template (cluster : Cluster) {path : Path} {found : Document}
    (h : cluster.templateDocument.lookup? path = .ok (some found)) :
    cluster.desiredSpec.get? ("template" :: path) = .ok (some found) := by
  have htemplate : cluster.desiredSpec.lookup? ("template" :: path) =
      (cluster.templateDocument.lookup? path).mapError ("template" :: ·) := by
    unfold desiredSpec
    cases cluster.securityMode <;> rfl
  rw [Document.get?_eq_ok_iff, htemplate, h]
  rfl

theorem get?_desiredSpec_size (cluster : Cluster) :
    cluster.desiredSpec.get? ["size"] = .ok (some (.integer cluster.spec.size.toNat)) := by
  unfold desiredSpec
  cases cluster.securityMode <;> rfl

theorem get?_desiredSpec_version (cluster : Cluster) :
    cluster.desiredSpec.get? ["version"] = .ok (some (.text cluster.spec.version)) := by
  unfold desiredSpec
  cases cluster.securityMode <;> rfl

end Cluster

namespace DriftField

/-- What the comparison is meant to read of a specification. -/
def wanted (spec : ClusterSpec) : DriftField → FieldReading
  | size => .integer (some spec.size.toNat)
  | version => .text (some (spec.version.toList.dropWhile (· == 'v')))
  | storage => .text (some (Text.decimal spec.diskSize.toNat).toList)
  | cpu => .text (some (Text.decimal spec.totalCpu.toNat).toList)
  | memory => .text (some (Text.decimal spec.totalMem.toNat).toList)
  | env => .variables spec.env

theorem readText_of_get? (normalize : List Char → List Char) {path : Path} {doc : Document}
    {text : String} (h : doc.get? path = .ok (some (.text text))) :
    readText normalize path doc = .ok (.text (some (normalize text.toList))) := by
  rw [readText, Document.getText?_of_get? h]
  rfl

theorem read_desiredSpec (field : DriftField) (cluster : Cluster) :
    field.read cluster.desiredSpec = .ok (field.wanted cluster.spec) := by
  cases field with
  | size =>
    have hfits : (cluster.spec.size.toNat : Int) ≤ Int64.maxValue.toInt := by
      have hlt := cluster.spec.size.toNat_lt
      have hmax : Int64.maxValue.toInt = 9223372036854775807 := by decide
      omega
    have hread : cluster.desiredSpec.getInteger? ["size"] = .ok (some cluster.spec.size.toNat) := by
      refine Document.getAs?_of_view Document.signed? _ (Cluster.get?_desiredSpec_size cluster) ?_
      simp [Document.integer, Document.signed?, Document.integerWithin?, hfits]
    rw [read, path, hread]
    rfl
  | version => exact readText_of_get? _ (Cluster.get?_desiredSpec_version cluster)
  | storage =>
    rw [wanted, ← withoutUnit_gibibytes]
    exact readText_of_get? _ (Cluster.get?_desiredSpec_template cluster rfl)
  | cpu => exact readText_of_get? id (Cluster.get?_desiredSpec_template cluster rfl)
  | memory =>
    rw [wanted, ← withoutUnit_gibibytes]
    exact readText_of_get? _ (Cluster.get?_desiredSpec_template cluster rfl)
  | env =>
    have hread : cluster.desiredSpec.getList? ["template", "env"] =
        .ok (some (cluster.spec.env.map EnvVar.toDocument)) :=
      Document.getAs?_of_view Document.list? _ (Cluster.get?_desiredSpec_template cluster rfl) rfl
    rw [read, path, readVariables, hread, ok_bind]
    simp only [EnvVar.mapM_ofDocument?_toDocument]
    rfl

/-! ## Descriptors that agree in a field -/

def Agrees (a b : ClusterSpec) : DriftField → Prop
  | size => a.size = b.size
  | version => a.version.toList.dropWhile (· == 'v') = b.version.toList.dropWhile (· == 'v')
  | storage => a.diskSize = b.diskSize
  | cpu => a.totalCpu = b.totalCpu
  | memory => a.totalMem = b.totalMem
  | env => a.env = b.env

instance (a b : ClusterSpec) : (field : DriftField) → Decidable (field.Agrees a b)
  | size => inferInstanceAs (Decidable (a.size = b.size))
  | version => inferInstanceAs (Decidable
      (a.version.toList.dropWhile (· == 'v') = b.version.toList.dropWhile (· == 'v')))
  | storage => inferInstanceAs (Decidable (a.diskSize = b.diskSize))
  | cpu => inferInstanceAs (Decidable (a.totalCpu = b.totalCpu))
  | memory => inferInstanceAs (Decidable (a.totalMem = b.totalMem))
  | env => inferInstanceAs (Decidable (a.env = b.env))

theorem wanted_eq_iff {field : DriftField} {a b : ClusterSpec} :
    field.wanted a = field.wanted b ↔ field.Agrees a b := by
  cases field with
  | size =>
    simp only [wanted, Agrees, ← UInt32.toNat_inj, FieldReading.integer.injEq, Option.some.injEq]
    omega
  | storage | cpu | memory => simp [wanted, Agrees, decimal_toNat_toList_inj]
  | version | env => simp [wanted, Agrees]

theorem differs_desiredSpec (field : DriftField) (a b : Cluster) :
    field.differs a.desiredSpec b.desiredSpec = .ok (decide ¬ field.Agrees a.spec b.spec) := by
  rw [differs, read_desiredSpec, ok_bind, read_desiredSpec, ok_bind]
  simp only [ne_eq, wanted_eq_iff]
  rfl

end DriftField

/-- The first field, in the order of comparison, in which two specifications differ. -/
def firstDifference (a b : ClusterSpec) : Drift :=
  DriftField.all.find? fun field => ¬ field.Agrees a b

theorem firstDifference_eq_none_iff {a b : ClusterSpec} :
    firstDifference a b = none ↔ ∀ field : DriftField, field.Agrees a b := by
  rw [firstDifference, List.find?_eq_none]
  constructor
  · intro h field
    have hmem : field ∈ DriftField.all := by cases field <;> decide
    simpa using h field hmem
  · intro h field _
    simpa using h field

theorem firstDifference_eq_some_iff {a b : ClusterSpec} {field : DriftField} :
    firstDifference a b = some field ↔ ¬ field.Agrees a b ∧
      ∃ before after, DriftField.all = before ++ field :: after ∧
        ∀ earlier ∈ before, earlier.Agrees a b := by
  rw [firstDifference, List.find?_eq_some_iff_append]
  simp

theorem firstDifference_self (a : ClusterSpec) : firstDifference a a = none :=
  firstDifference_eq_none_iff.2 fun field => by cases field <;> rfl

namespace Drift

theorem among_of_differs {desired observed : Document} {found : DriftField → Bool}
    {fields : List DriftField} (h : ∀ field ∈ fields,
      field.differs desired observed = .ok (found field)) :
    among fields desired observed = .ok (fields.find? found) := by
  induction fields with
  | nil => rfl
  | cons field rest ih =>
    have hrest := ih fun other hmem => h other (List.mem_cons_of_mem field hmem)
    rw [among, h field List.mem_cons_self, ok_bind, List.find?_cons]
    cases found field with
    | true => rfl
    | false => exact hrest

theorem detect_desiredSpec (a b : Cluster) :
    detect a.desiredSpec b.desiredSpec = .ok (firstDifference a.spec b.spec) :=
  among_of_differs fun field _ => field.differs_desiredSpec a b

/-- The comparison of two desired specs is sound and complete for the descriptors behind them. -/
theorem detect_between_descriptors (a b : Cluster) :
    (∃ drift, detect a.desiredSpec b.desiredSpec = .ok drift) ∧
    (detect a.desiredSpec b.desiredSpec = .ok none ↔
      a.spec.size = b.spec.size ∧
      a.spec.version.toList.dropWhile (· == 'v') = b.spec.version.toList.dropWhile (· == 'v') ∧
      a.spec.diskSize = b.spec.diskSize ∧ a.spec.totalCpu = b.spec.totalCpu ∧
      a.spec.totalMem = b.spec.totalMem ∧ a.spec.env = b.spec.env) ∧
    (∀ field, detect a.desiredSpec b.desiredSpec = .ok (some field) ↔
      ¬ field.Agrees a.spec b.spec ∧ ∃ before after,
        [.size, .version, .storage, .cpu, .memory, .env] = before ++ field :: after ∧
          ∀ earlier ∈ before, earlier.Agrees a.spec b.spec) ∧
    (∀ (metadata metadata' : ClusterMeta) (status status' : ClusterStatus)
      (clusterType clusterType' : String),
      detect (Cluster.desiredSpec ⟨metadata, { a.spec with clusterType }, status⟩)
          (Cluster.desiredSpec ⟨metadata', { b.spec with clusterType := clusterType' }, status'⟩) =
        detect a.desiredSpec b.desiredSpec) := by
  refine ⟨⟨_, detect_desiredSpec a b⟩, ?_, ?_, ?_⟩
  · rw [detect_desiredSpec, Except.ok.injEq, firstDifference_eq_none_iff]
    constructor
    · intro h
      exact ⟨h .size, h .version, h .storage, h .cpu, h .memory, h .env⟩
    · rintro ⟨hsize, hversion, hstorage, hcpu, hmemory, henv⟩ field
      cases field <;> assumption
  · intro field
    rw [detect_desiredSpec, Except.ok.injEq]
    exact firstDifference_eq_some_iff
  · intro metadata metadata' status status' clusterType clusterType'
    rw [detect_desiredSpec, detect_desiredSpec]
    have hsame : ∀ field : DriftField,
        field.Agrees { a.spec with clusterType } { b.spec with clusterType := clusterType' } ↔
          field.Agrees a.spec b.spec := by
      intro field
      cases field <;> rfl
    simp only [firstDifference, hsame]

end Drift
end EtcdFleet
