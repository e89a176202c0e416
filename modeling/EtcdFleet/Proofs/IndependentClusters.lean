import Mathlib.Data.List.Nodup
import EtcdFleet.Proofs.Confinement
import EtcdFleet.Proofs.LostUpdates

set_option autoImplicit false

/-!
# Independent clusters

Two parties work on operated clusters in one store, each on a cluster of its own, with any creations,
updates, comparisons and deletions. Each is answered as if it were alone, however the steps of the two
interleave, and the store that they leave is the one that either order of the two leaves.
-/

namespace EtcdFleet

namespace Store

/-- The stores hold the same documents under the same keys, in whatever order they came. -/
def Same (store other : Store) : Prop := store.entries.Perm other.entries

theorem find?_eq_some_iff {store : Store} {key : ResourceKey} {doc : Document} :
    store.find? key = some doc ↔ (key, doc) ∈ store.entries := by
  obtain ⟨entries, hdistinct⟩ := store
  change lookup key entries = some doc ↔ (key, doc) ∈ entries
  induction entries with
  | nil => simp [lookup]
  | cons entry rest ih =>
    obtain ⟨first, held⟩ := entry
    obtain ⟨hfirst, hrest⟩ := List.nodup_cons.1 hdistinct
    by_cases hkey : first = key
    · subst hkey
      have habsent : (first, doc) ∉ rest := fun hmem => hfirst (List.mem_map.2 ⟨_, hmem, rfl⟩)
      simp [lookup, habsent, eq_comm]
    · simp [lookup, hkey, Ne.symm hkey, ih hrest]

theorem same_of_find? {store other : Store} (h : ∀ key, store.find? key = other.find? key) :
    store.Same other := by
  have hstore : store.entries.Nodup := List.Nodup.of_map _ store.distinct
  have hother : other.entries.Nodup := List.Nodup.of_map _ other.distinct
  apply (List.perm_ext_iff_of_nodup hstore hother).2
  rintro ⟨key, doc⟩
  rw [← find?_eq_some_iff, ← find?_eq_some_iff, h key]

end Store

namespace Operated

open Remote (exec Confined)

/-! ## What a party does -/

inductive Service
  | create
  | update
  | inSync
  | delete

structure Receipt where
  result : Except ProviderError (Option Bool)
  cluster : Cluster

/-- A party decides on its next call by what its earlier ones came to. -/
abbrev Party := List (List Receipt → Service × Cluster)

variable {settings : Settings} {cluster : Cluster} {place : ResourceKey}

/-- Only a creation leaves another descriptor than it was given. -/
def Service.program (settings : Settings) (cluster : Cluster) : Service → Remote Receipt
  | create =>
    ((Strategy.operated settings).createCluster cluster).andThen fun
      | .ok left => pure ⟨.ok none, left⟩
      | .error failure => pure ⟨.error failure, cluster⟩
  | update =>
    ((Strategy.operated settings).updateCluster cluster).andThen fun result =>
      pure ⟨result.map some, cluster⟩
  | inSync =>
    ((Strategy.operated settings).inSync cluster).andThen fun result =>
      pure ⟨result.map some, cluster⟩
  | delete =>
    ((Strategy.operated settings).deleteCluster cluster).andThen fun result =>
      pure ⟨result.map fun _ => none, cluster⟩

def Party.goOn (settings : Settings) (past : List Receipt) : Party → Remote (List Receipt)
  | [] => pure past
  | step :: rest => do
    let (service, cluster) := step past
    let receipt ← service.program settings cluster
    goOn settings (past ++ [receipt]) rest

def Party.program (settings : Settings) (party : Party) : Remote (List Receipt) :=
  party.goOn settings []

def Party.WorksAt (settings : Settings) (place : ResourceKey) (party : Party) : Prop :=
  ∀ step ∈ party, ∀ past, key settings (step past).2 = place

/-! ## A party is confined to its cluster -/

theorem confined_create (settings : Settings) (cluster : Cluster) (hname : cluster.name ≠ "") :
    Confined (· = key settings cluster) (create settings cluster) := by
  have hresource := resourceName_resource cluster settings.clusterResource hname
  refine ⟨fun place hplace => ?_, fun reply _ => ?_⟩
  · exact Option.some.inj (hplace.symm.trans (Store.place?_of_resourceName hresource).1)
  · cases reply with
    | ok doc => trivial
    | error failure =>
      change Confined _ (if failure.isAlreadyExists then Program.report (alreadyThere cluster)
        else Program.fail failure)
      split <;> trivial

theorem confined_update (settings : Settings) (cluster : Cluster) :
    Confined (· = key settings cluster) (update settings cluster) := by
  rw [update_eq_ask]
  refine ⟨fun place hplace => (Option.some.inj hplace).symm, fun reply hreply => ?_⟩
  cases reply with
  | error failure => trivial
  | ok seen =>
    dsimp only
    cases hdoc : respecified cluster seen with
    | error failure => trivial
    | ok doc =>
      -- What was fetched is put back under the name that it carries.
      have hname : doc.resourceName = .ok cluster.name :=
        (resourceName_put_spec (respecified_eq_ok_iff.1 hdoc).2).trans (hreply _ seen rfl rfl)
      refine ⟨fun place hplace => ?_, fun reply _ => ?_⟩
      · exact Option.some.inj (hplace.symm.trans (Store.place?_of_resourceName hname).2)
      · cases reply <;> trivial

theorem confined_ofExcept {α : Type} {keys : ResourceKey → Prop} (result : Except ProviderError α) :
    Confined keys (Program.ofExcept result) := trivial

theorem confined_inSync (settings : Settings) (cluster : Cluster) :
    Confined (· = key settings cluster) (inSync settings cluster) := by
  refine ⟨fun place hplace => (Option.some.inj hplace).symm, fun reply _ => ?_⟩
  cases reply with
  | error failure => trivial
  | ok stored =>
    apply (confined_ofExcept (storedSpec stored)).bind
    intro spec
    apply (confined_ofExcept (Drift.detect cluster.desiredSpec spec)).bind
    intro drift
    cases drift <;> trivial

theorem confined_createCluster (settings : Settings) (cluster : Cluster) :
    Confined (· = key settings cluster) ((Strategy.operated settings).createCluster cluster) := by
  change Confined _ (Program.ofExcept cluster.validate >>= fun _ =>
    create settings cluster >>= fun _ => pure (cluster.withAddresses settings.endpoints))
  cases hvalid : cluster.validate with
  | error failure => trivial
  | ok checked =>
    apply (confined_ofExcept (.ok checked)).bind
    intro _
    apply (confined_create settings cluster (name_ne_empty_of_validate hvalid)).bind
    intro _
    trivial

theorem confined_updateCluster (settings : Settings) (cluster : Cluster) :
    Confined (· = key settings cluster) ((Strategy.operated settings).updateCluster cluster) := by
  apply (confined_inSync settings cluster).bind
  intro same
  cases same with
  | true => trivial
  | false =>
    change Confined _ (Program.ofExcept cluster.validate >>= fun _ =>
      update settings cluster >>= fun _ => Strategy.idle cluster >>= fun _ => pure true)
    apply (confined_ofExcept cluster.validate).bind
    intro _
    apply (confined_update settings cluster).bind
    intro _
    trivial

theorem Service.confined (service : Service) (settings : Settings) (cluster : Cluster) :
    Confined (· = key settings cluster) (service.program settings cluster) := by
  cases service with
  | create =>
    apply (confined_createCluster settings cluster).andThen
    intro result
    cases result <;> trivial
  | update => exact (confined_updateCluster settings cluster).andThen fun _ => trivial
  | inSync => exact (confined_inSync settings cluster).andThen fun _ => trivial
  | delete => trivial

theorem Party.confined {party : Party} (h : party.WorksAt settings place) :
    Confined (· = place) (party.program settings) := by
  have hgoOn : ∀ past, Confined (· = place) (party.goOn settings past) := by
    induction party with
    | nil => exact fun _ => trivial
    | cons step rest ih =>
      intro past
      have hstep := (step past).1.confined settings (step past).2
      rw [h step List.mem_cons_self past] at hstep
      apply hstep.bind
      intro receipt
      exact ih (fun later hlater => h later (List.mem_cons_of_mem step hlater)) _
  exact hgoOn []

/-! ## Two parties -/

def both {α : Type} (first second : Remote (List α)) : Nat → Remote (List α)
  | 0 => first
  | 1 => second
  | _ => pure []

def share (place other : ResourceKey) : Nat → ResourceKey → Prop
  | 0 => (· = place)
  | 1 => (· = other)
  | _ => fun _ => False

section Parties

variable {other : ResourceKey} {first second : Party} {start store : Store}

theorem confined_both (hfirst : first.WorksAt settings place)
    (hsecond : second.WorksAt settings other) (client : Nat) :
    Confined (share place other client)
      (both (first.program settings) (second.program settings) client) :=
  match client with
  | 0 => Party.confined hfirst
  | 1 => Party.confined hsecond
  | _ + 2 => trivial

theorem share_apart (hplaces : place ≠ other) {client another : Nat} {key : ResourceKey}
    (hne : another ≠ client) (hkey : share place other another key) :
    ¬ share place other client key := by
  match client, another with
  | 0, 0 => exact absurd rfl hne
  | 0, 1 => exact fun hplace => hplaces (hplace.symm.trans hkey)
  | 1, 0 => exact fun hother => hplaces (hkey.symm.trans hother)
  | 1, 1 => exact absurd rfl hne
  | _, _ + 2 => exact absurd hkey id
  | _ + 2, _ => exact id

theorem find?_exec_after (hnamed : start.WellNamed) (hplaces : place ≠ other)
    (hfirst : first.WorksAt settings place) (hsecond : second.WorksAt settings other)
    (key : ResourceKey) :
    let before := (exec (first.program settings) start).2
    let after := (exec (second.program settings) before).2
    (key = place → after.find? key = before.find? key) ∧
    (key = other → after.find? key = (exec (second.program settings) start).2.find? key) ∧
    (key ≠ place → key ≠ other → after.find? key = start.find? key) := by
  intro before after
  have hbefore : before.WellNamed := Remote.wellNamed_exec hnamed _
  have hfirst' := Party.confined hfirst
  have hsecond' := Party.confined hsecond
  refine ⟨?_, ?_, ?_⟩
  · rintro rfl
    exact hsecond'.find?_exec_of_not hbefore hplaces
  · intro hkey
    have hagree : Store.Agree (· = other) before start := by
      rintro _ rfl
      exact hfirst'.find?_exec_of_not hnamed (Ne.symm hplaces)
    exact (hsecond'.exec_congr hbefore hagree).2 key hkey
  · intro hplace hother
    exact (hsecond'.find?_exec_of_not hbefore hother).trans
      (hfirst'.find?_exec_of_not hnamed hplace)

theorem independent_clusters_commute (hreach : start.Reachable) (hplaces : place ≠ other)
    (hfirst : first.WorksAt settings place) (hsecond : second.WorksAt settings other)
    {talk : List Store.Exchange} {current : Nat → Remote (List Receipt)}
    (hrun : Program.Interleaved Store.handler
      (both (first.program settings) (second.program settings)) start talk store current)
    {firstReceipts secondReceipts : Except ProviderError (List Receipt)}
    (hdone : current 0 = .done firstReceipts) (hdone' : current 1 = .done secondReceipts) :
    let firstAlone := exec (first.program settings) start
    let secondAlone := exec (second.program settings) start
    firstReceipts = firstAlone.1 ∧ secondReceipts = secondAlone.1 ∧
    store.Same (exec (second.program settings) firstAlone.2).2 ∧
    store.Same (exec (first.program settings) secondAlone.2).2 := by
  intro firstAlone secondAlone
  have hnamed := hreach.wellNamed
  have hshares := confined_both hfirst hsecond
  have hapart : ∀ client another key, another ≠ client → share place other another key →
      ¬ share place other client key := fun _ _ _ hne hkey => share_apart hplaces hne hkey
  obtain ⟨hfirstResult, hfirstLeft⟩ :=
    hrun.result_eq_alone hnamed hshares 0 (hapart 0) hdone
  obtain ⟨hsecondResult, hsecondLeft⟩ :=
    hrun.result_eq_alone hnamed hshares 1 (hapart 1) hdone'
  have helsewhere : ∀ key, key ≠ place → key ≠ other → store.find? key = start.find? key := by
    intro key hplace hother
    refine hrun.find?_of_not_shared hnamed hshares fun client => ?_
    match client with
    | 0 => exact hplace
    | 1 => exact hother
    | _ + 2 => exact id
  refine ⟨hfirstResult, hsecondResult, ?_, ?_⟩
  · apply Store.same_of_find?
    intro key
    obtain ⟨hat, hat', hoff⟩ := find?_exec_after hnamed hplaces hfirst hsecond key
    by_cases hplace : key = place
    · exact (hfirstLeft key hplace).trans (hat hplace).symm
    · by_cases hother : key = other
      · exact (hsecondLeft key hother).trans (hat' hother).symm
      · exact (helsewhere key hplace hother).trans (hoff hplace hother).symm
  · apply Store.same_of_find?
    intro key
    obtain ⟨hat, hat', hoff⟩ := find?_exec_after hnamed (Ne.symm hplaces) hsecond hfirst key
    by_cases hother : key = other
    · exact (hsecondLeft key hother).trans (hat hother).symm
    · by_cases hplace : key = place
      · exact (hfirstLeft key hplace).trans (hat' hplace).symm
      · exact (helsewhere key hplace hother).trans (hoff hother hplace).symm

end Parties

def neighbour : Cluster :=
  { smallCluster with metadata := { smallCluster.metadata with name := "b" } }

def resizing : Party := [fun _ => (.create, smallCluster), fun _ => (.update, wideCluster)]

def watching : Party := [fun _ => (.create, neighbour), fun _ => (.inSync, neighbour)]

theorem worksAt_resizing : resizing.WorksAt .initial (key .initial smallCluster) := by
  intro step hstep past
  rcases List.mem_cons.1 hstep with rfl | hstep
  · rfl
  · obtain rfl := List.mem_singleton.1 hstep
    rfl

theorem worksAt_watching : watching.WorksAt .initial (key .initial neighbour) := by
  intro step hstep past
  rcases List.mem_cons.1 hstep with rfl | hstep
  · rfl
  · obtain rfl := List.mem_singleton.1 hstep
    rfl

/-- The second party does all it has to do between the creation and the update of the first. -/
theorem independent_clusters_commute_between :
    ∃ talk store current,
      Program.Interleaved Store.handler
        (both (resizing.program .initial) (watching.program .initial)) .empty talk store current ∧
      current 0 = .done (.ok
        [⟨.ok none, smallCluster.withAddresses Settings.initial.endpoints⟩,
          ⟨.ok (some true), wideCluster⟩]) ∧
      store.Same (exec (watching.program .initial)
        (exec (resizing.program .initial) .empty).2).2 := by
  have hstart : Program.Interleaved Store.handler
      (both (resizing.program .initial) (watching.program .initial)) .empty [] .empty _ := .start
  have hbegan := hstart.report 0 rfl
  have hcreated := hbegan.answer 0 rfl
  obtain ⟨_, hwatched⟩ := hcreated.finish 1
  obtain ⟨_, hresized⟩ := hwatched.finish 0
  have hplaces : key .initial smallCluster ≠ key .initial neighbour := by decide
  have h := independent_clusters_commute .empty hplaces worksAt_resizing worksAt_watching hresized
    rfl rfl
  exact ⟨_, _, _, hresized, rfl, h.2.2.1⟩

end Operated
end EtcdFleet
