import Mathlib.Data.List.Nodup
import EtcdFleet.Cluster.Address
import EtcdFleet.Proofs.JoinedTexts

set_option autoImplicit false

/-!
# Member addresses are read back from their text

The text that says where the members are reached holds one pair of addresses for each member, in the order of the
members: the commas and the arrows that were put into it are the only ones there. The numbers of the members keep
all addresses apart.
-/

namespace EtcdFleet.Cluster

/-- Neither the mark between two pairs nor the tip of the arrow within a pair is in the text. -/
structure Unmarked (text : String) : Prop where
  comma : ',' ∉ text.toList
  arrow : '>' ∉ text.toList

instance (text : String) : Decidable (Unmarked text) :=
  decidable_of_iff (',' ∉ text.toList ∧ '>' ∉ text.toList)
    ⟨fun h => ⟨h.1, h.2⟩, fun h => ⟨h.comma, h.arrow⟩⟩

def sides? (piece : List Char) : Option (String × String) :=
  match Text.piecesAt "->".toList piece with
  | [left, right] => some (String.ofList left, String.ofList right)
  | _ => none

/-- The pairs of a text, if every piece of it is one. -/
def addressPairs? (text : String) : Option (List (String × String)) :=
  (Text.pieces ',' text.toList).mapM sides?

variable {cluster : Cluster} {endpoints : EndpointSettings} {left right : String}

/-! ## One pair -/

theorem unmarked_append_iff : Unmarked (left ++ right) ↔ Unmarked left ∧ Unmarked right := by
  constructor
  · rintro ⟨hcomma, harrow⟩
    rw [String.toList_append, List.mem_append, not_or] at hcomma harrow
    exact ⟨⟨hcomma.1, harrow.1⟩, ⟨hcomma.2, harrow.2⟩⟩
  · rintro ⟨hleft, hright⟩
    constructor
    · rw [String.toList_append, List.mem_append, not_or]
      exact ⟨hleft.comma, hright.comma⟩
    · rw [String.toList_append, List.mem_append, not_or]
      exact ⟨hleft.arrow, hright.arrow⟩

theorem unmarked_decimal (n : Nat) : Unmarked (Text.decimal n) where
  comma h := absurd (Text.isDigit_of_mem_decimal h) (by decide)
  arrow h := absurd (Text.isDigit_of_mem_decimal h) (by decide)

theorem unmarked_memberHost (h : Unmarked cluster.name) (index : Nat) :
    Unmarked (cluster.memberHost index) := by
  simp only [memberHost, unmarked_append_iff, and_assoc]
  exact ⟨h, by decide, unmarked_decimal index⟩

theorem unmarked_memberAddress (h : Unmarked cluster.name) (endpoints : EndpointSettings) (index : Nat) :
    Unmarked (cluster.memberAddress endpoints index) := by
  simp only [memberAddress, unmarked_append_iff, and_assoc]
  exact ⟨unmarked_memberHost h index, by decide, unmarked_decimal _⟩

theorem unmarked_memberServiceAddress (hname : Unmarked cluster.name)
    (hnamespace : Unmarked cluster.namespace) (hdomain : Unmarked endpoints.clusterDomain) (index : Nat) :
    Unmarked (cluster.memberServiceAddress endpoints index) := by
  simp only [memberServiceAddress, unmarked_append_iff, and_assoc]
  exact ⟨unmarked_memberHost hname index, by decide, hname, by decide, hnamespace, by decide, hdomain,
    by decide, unmarked_decimal _⟩

theorem sides?_arrow (hleft : Unmarked left) (hright : Unmarked right) :
    sides? (left ++ "->" ++ right).toList = some (left, right) := by
  have hpieces : Text.piecesAt "->".toList (left ++ "->" ++ right).toList =
      [left.toList, right.toList] := by
    rw [String.toList_append, String.toList_append]
    have hcut := Text.piecesAt_append (show '>' ∉ ['-'] by decide) hleft.arrow right.toList
    rw [Text.piecesAt_of_notMem (by decide) hright.arrow] at hcut
    exact hcut
  rw [sides?, hpieces]
  exact congrArg some (congrArg₂ Prod.mk String.ofList_toList String.ofList_toList)

theorem comma_notMem_arrow (hleft : Unmarked left) (hright : Unmarked right) :
    ',' ∉ (left ++ "->" ++ right).toList := by
  rw [String.toList_append, String.toList_append, List.mem_append, List.mem_append]
  rintro ((hmem | hmem) | hmem)
  · exact hleft.comma hmem
  · exact absurd hmem (by decide)
  · exact hright.comma hmem

/-! ## All pairs -/

theorem addressPairs?_extensionClientUrls (hname : Unmarked cluster.name)
    (hnamespace : Unmarked cluster.namespace) (hdomain : Unmarked endpoints.clusterDomain)
    (hsize : cluster.spec.size ≠ 0) :
    addressPairs? (cluster.extensionClientUrls endpoints) =
      some ((List.range cluster.spec.size.toNat).map fun index =>
        (cluster.memberAddress endpoints index, cluster.memberServiceAddress endpoints index)) := by
  have haddress := unmarked_memberAddress hname endpoints
  have hservice := unmarked_memberServiceAddress hname hnamespace hdomain
  have hsides : ∀ index, sides? (cluster.memberMapping endpoints index).toList =
      some (cluster.memberAddress endpoints index, cluster.memberServiceAddress endpoints index) :=
    fun index => sides?_arrow (haddress index) (hservice index)
  have hne : (List.range cluster.spec.size.toNat).map (cluster.memberMapping endpoints) ≠ [] := by
    rw [Ne, List.map_eq_nil_iff, List.range_eq_nil]
    exact fun hzero => hsize (UInt32.toNat_inj.1 hzero)
  have hcomma : ∀ mapping ∈ (List.range cluster.spec.size.toNat).map (cluster.memberMapping endpoints),
      ',' ∉ mapping.toList :=
    List.forall_mem_map.2 fun index _ => comma_notMem_arrow (haddress index) (hservice index)
  rw [addressPairs?, extensionClientUrls, Text.pieces_intercalate_comma hne hcomma, List.mapM_map,
    List.mapM_map]
  exact (congrArg (List.mapM · _) (funext hsides)).trans List.mapM_pure

theorem memberAddress_inj {first second : Nat} :
    cluster.memberAddress endpoints first = cluster.memberAddress endpoints second ↔ first = second := by
  simp only [memberAddress, memberHost, String.append_left_inj, String.append_right_inj]
  exact ⟨Text.decimal_injective, congrArg Text.decimal⟩

theorem memberServiceAddress_inj {first second : Nat} :
    cluster.memberServiceAddress endpoints first = cluster.memberServiceAddress endpoints second ↔
      first = second := by
  simp only [memberServiceAddress, memberHost, String.append_left_inj, String.append_right_inj]
  exact ⟨Text.decimal_injective, congrArg Text.decimal⟩

/-- A pair for each member, in their order, and no address is that of two members. -/
theorem extensionClientUrls_read_back (cluster : Cluster) (endpoints : EndpointSettings)
    (hname : Unmarked cluster.name) (hnamespace : Unmarked cluster.namespace)
    (hdomain : Unmarked endpoints.clusterDomain) (hsize : 1 ≤ cluster.spec.size) :
    let port := Text.decimal endpoints.clientPort.toNat
    ∃ pairs, addressPairs? (cluster.extensionClientUrls endpoints) = some pairs ∧
      pairs.length = cluster.spec.size.toNat ∧
      (∀ index < cluster.spec.size.toNat,
        let host := cluster.name ++ "-etcd-" ++ Text.decimal index
        pairs[index]? = some (host ++ ":" ++ port,
          host ++ "." ++ cluster.name ++ "-etcd-headless." ++ cluster.namespace ++ ".svc." ++
            endpoints.clusterDomain ++ ":" ++ port)) ∧
      (pairs.map Prod.fst).Nodup ∧ (pairs.map Prod.snd).Nodup := by
  intro port
  have hne : cluster.spec.size ≠ 0 := by
    intro hzero
    rw [hzero] at hsize
    exact absurd hsize (by decide)
  refine ⟨_, addressPairs?_extensionClientUrls hname hnamespace hdomain hne, ?_, ?_, ?_, ?_⟩
  · rw [List.length_map, List.length_range]
  · intro index hindex host
    rw [List.getElem?_map, List.getElem?_range hindex]
    rfl
  · rw [List.map_map]
    exact List.Nodup.map (fun _ _ => memberAddress_inj.1) List.nodup_range
  · rw [List.map_map]
    exact List.Nodup.map (fun _ _ => memberServiceAddress_inj.1) List.nodup_range

/-- Names that look like parts of an address, and members with more than one digit. -/
def hyphenatedCluster : Cluster :=
  ⟨⟨"etcd-1", "etcd-headless", none, .empty, .empty⟩,
    ⟨"kstone-etcd-operator", 12, "3.5.7", 10, 2, 4, []⟩, .initial⟩

theorem extensionClientUrls_read_back_hyphenated :
    Unmarked hyphenatedCluster.name ∧ Unmarked hyphenatedCluster.namespace ∧
      Unmarked EndpointSettings.initial.clusterDomain ∧ 1 ≤ hyphenatedCluster.spec.size ∧
      ∃ pairs, addressPairs? (hyphenatedCluster.extensionClientUrls .initial) = some pairs ∧
        pairs.length = 12 ∧
        pairs[11]? = some ("etcd-1-etcd-11:2379",
          "etcd-1-etcd-11.etcd-1-etcd-headless.etcd-headless.svc.cluster.local:2379") ∧
        (pairs.map Prod.fst).Nodup ∧ (pairs.map Prod.snd).Nodup := by
  have hname : Unmarked hyphenatedCluster.name := by decide
  have hnamespace : Unmarked hyphenatedCluster.namespace := by decide
  have hdomain : Unmarked EndpointSettings.initial.clusterDomain := by decide
  have hsize : 1 ≤ hyphenatedCluster.spec.size := by decide
  obtain ⟨pairs, hread, hlength, hpairs, hleft, hright⟩ :=
    extensionClientUrls_read_back hyphenatedCluster .initial hname hnamespace hdomain hsize
  exact ⟨hname, hnamespace, hdomain, hsize, pairs, hread, hlength, hpairs 11 (by decide), hleft, hright⟩

end EtcdFleet.Cluster
