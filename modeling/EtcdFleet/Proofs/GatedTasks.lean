import EtcdFleet.Proofs.BuiltinFeatures
import EtcdFleet.Proofs.ByteOrder
import EtcdFleet.Proofs.FeatureGates
import EtcdFleet.Proofs.ReconcilesInTurn

set_option autoImplicit false

/-!
# Tasks of the features that are switched on

A manager over a store takes the features that a cluster has switched on. Those that are registered and have no
task get one, which is added to the store; those that are not registered are passed over. Then everything is there,
and a second time nothing happens.
-/

namespace EtcdFleet

attribute [ext] Store Inspections

def Cluster.SwitchedOn (cluster : Cluster) (feature : String) : Prop :=
  ∃ text, cluster.metadata.annotations.find? Annotation.featureGates = some text ∧
    ∃ gate ∈ Text.pieces ',' text.toList, SwitchesOn gate feature.toList

theorem Cluster.mem_enabledFeatures_iff {cluster : Cluster} {feature : String} :
    feature ∈ cluster.enabledFeatures ↔ cluster.SwitchedOn feature := by
  rw [enabledFeatures, featureGates, SwitchedOn]
  cases cluster.metadata.annotations.find? Annotation.featureGates with
  | none => simp
  | some text => simp [mem_gateNames_iff]

theorem Cluster.enabledFeatures_ordered (cluster : Cluster) :
    cluster.enabledFeatures.Pairwise (· < ·) := by
  rw [enabledFeatures, featureGates]
  split
  · exact List.Pairwise.nil
  · exact gateNames_ordered _

theorem Task.nameFor_right_inj {clusterName feature other : String} :
    nameFor clusterName feature = nameFor clusterName other ↔ feature = other := by
  rw [← String.toList_inj, nameFor_toList, nameFor_toList, List.append_cancel_left_eq,
    List.cons.injEq, eq_self_iff_true, true_and, String.toList_inj]

namespace Scheduling

open Program (exec)
open Sharing (turn afterTurns told toldBy Passes AllPass FirstFailure allPass_nil allPass_cons)

variable {connector : Inspections.Connector Store} {collector : Task → Except ProviderError Unit}
  {kind : ResourceKind} {cluster : Cluster} {state next after : Inspections Store} {slot : String}
  {slots more : List String} {written : String → Document}

/-- Of the features those that can get a task and have none. -/
def fresh (kind : ResourceKind) (cluster : Cluster) (state : Inspections Store)
    (slots : List String) : List String :=
  slots.filter fun slot => decide (slot ∈ state.registry.names .feature) &&
    (state.outside.find? (Errand.own kind cluster slot).task).isNone

def entryOf (kind : ResourceKind) (cluster : Cluster) (written : String → Document) (slot : String) :
    ResourceKey × Document :=
  ((Errand.own kind cluster slot).task, written slot)

/-- The features have been dealt with: those that can be built are connected, and their tasks are there. -/
structure Worked (kind : ResourceKind) (cluster : Cluster) (written : String → Document)
    (slots : List String) (state after : Inspections Store) : Prop where
  ownNamed : OwnNamed after
  registry : after.registry = state.registry
  entries : after.outside.entries =
    state.outside.entries ++ (fresh kind cluster state slots).map (entryOf kind cluster written)
  slots : ∀ slot, after.slots.find? slot =
    if slot ∈ slots ∧ slot ∈ state.registry.names .feature then some ⟨slot, true⟩
    else state.slots.find? slot

theorem own_task_inj {other : String} :
    (Errand.own kind cluster slot).task = (Errand.own kind cluster other).task ↔ slot = other := by
  constructor
  · intro h
    exact Task.nameFor_right_inj.1 (ResourceKey.mk.inj h).2.2
  · rintro rfl
    rfl

theorem mem_fresh_iff :
    slot ∈ fresh kind cluster state slots ↔
      slot ∈ slots ∧ slot ∈ state.registry.names .feature ∧
        state.outside.find? (Errand.own kind cluster slot).task = none := by
  simp [fresh]

theorem fresh_append (slots more : List String) :
    fresh kind cluster state (slots ++ more) =
      fresh kind cluster state slots ++ fresh kind cluster state more :=
  List.filter_append ..

namespace Worked

theorem mem_keys_iff (h : Worked kind cluster written slots state after) {key : ResourceKey} :
    key ∈ after.outside.keys ↔ key ∈ state.outside.keys ∨
      ∃ slot ∈ fresh kind cluster state slots, (Errand.own kind cluster slot).task = key := by
  have hkeys : ((fresh kind cluster state slots).map (entryOf kind cluster written)).map (·.1) =
      (fresh kind cluster state slots).map fun slot => (Errand.own kind cluster slot).task :=
    List.map_map
  rw [Store.keys, Store.keys, h.entries, List.map_append, hkeys, List.mem_append]
  exact or_congr_right List.mem_map

theorem fresh_eq (h : Worked kind cluster written slots state next)
    (hmore : ∀ slot ∈ more, slot ∉ slots) :
    fresh kind cluster next more = fresh kind cluster state more := by
  apply List.filter_congr
  intro slot hslot
  have hkey : next.outside.find? (Errand.own kind cluster slot).task = none ↔
      state.outside.find? (Errand.own kind cluster slot).task = none := by
    rw [← not_iff_not, ← Ne, ← Ne, ← Store.mem_keys_iff, ← Store.mem_keys_iff, h.mem_keys_iff,
      or_iff_left]
    rintro ⟨other, hother, htask⟩
    obtain rfl := own_task_inj.1 htask
    exact hmore other hslot (mem_fresh_iff.1 hother).1
  rw [h.registry, Bool.eq_iff_iff, Bool.and_eq_true, Bool.and_eq_true, Option.isNone_iff_eq_none,
    Option.isNone_iff_eq_none, hkey]

theorem refl (h : OwnNamed state) : Worked kind cluster written [] state state where
  ownNamed := h
  registry := rfl
  entries := (List.append_nil _).symm
  slots := fun _ => (if_neg fun hmem => List.not_mem_nil hmem.1).symm

theorem append (h : Worked kind cluster written slots state next)
    (hmore : Worked kind cluster written more next after) (hnew : ∀ slot ∈ more, slot ∉ slots) :
    Worked kind cluster written (slots ++ more) state after where
  ownNamed := hmore.ownNamed
  registry := hmore.registry.trans h.registry
  entries := by
    rw [hmore.entries, h.entries, h.fresh_eq hnew, List.append_assoc, ← List.map_append, fresh_append]
  slots := by
    intro slot
    rw [hmore.slots, h.registry, h.slots]
    grind

theorem fresh_after (h : Worked kind cluster written slots state after) :
    fresh kind cluster after slots = [] := by
  rw [List.eq_nil_iff_forall_not_mem]
  intro slot hslot
  obtain ⟨hmem, hregistered, habsent⟩ := mem_fresh_iff.1 hslot
  rw [h.registry] at hregistered
  refine Store.mem_keys_iff.1 (h.mem_keys_iff.2 ?_) habsent
  rw [Store.mem_keys_iff, or_iff_not_imp_left, not_not]
  exact fun hfind => ⟨slot, mem_fresh_iff.2 ⟨hmem, hregistered, hfind⟩, rfl⟩

theorem eq_of_again {last : Inspections Store} (h : Worked kind cluster written slots state after)
    (hagain : Worked kind cluster written slots after last) : last = after := by
  have hslots : last.slots = after.slots := by
    apply NameMap.ext_find?
    intro slot
    rw [hagain.slots, h.registry, h.slots]
    split <;> rfl
  have hentries : last.outside.entries = after.outside.entries := by
    rw [hagain.entries, h.fresh_after, List.map_nil, List.append_nil]
  exact Inspections.ext hagain.registry hslots (Store.ext hentries)

end Worked

/-! ## One feature -/

theorem fresh_singleton (slot : String) :
    fresh kind cluster state [slot] =
      if slot ∈ state.registry.names .feature ∧
        state.outside.find? (Errand.own kind cluster slot).task = none then [slot] else [] := by
  simp [fresh, List.filter_cons]

theorem entries_ordered_of_absent {errand : Errand} {store : Store} {doc : Document}
    (h : store.find? errand.task = none) (hdoc : errand.document.withVersion 1 = .ok doc) :
    (errand.ordered store).entries = store.entries ++ [(errand.task, doc)] := by
  obtain ⟨found, hfound, hanswer⟩ := Errand.exists_answer_order h
  obtain rfl := Except.ok.inj (hfound.symm.trans hdoc)
  rw [Errand.ordered, hanswer]
  exact Store.entries_put_of_absent h found

variable (connector) (collector)

theorem exists_turn (h : OwnNamed state) (hconnector : Connects connector)
    (hwritten : ∀ slot, (Errand.own kind cluster slot).document.withVersion 1 = .ok (written slot))
    (slot : String) :
    ∃ result next,
      turn connector (Backend.overStore collector) (.ofStore kind) cluster slot state =
        (result, next) ∧ Passes result ∧ toldBy slot result = fresh kind cluster state [slot] ∧
      Worked kind cluster written [slot] state next := by
  by_cases hslot : slot ∈ state.registry.names .feature
  · refine ⟨_, _, h.exec_reconcile connector collector hconnector kind cluster hslot, nofun, ?_, ?_⟩
    · rw [fresh_singleton]
      cases state.outside.find? (Errand.own kind cluster slot).task <;> simp [toldBy, hslot]
    · have hslots : ∀ other, (state.place slot slot true).slots.find? other =
          if other ∈ [slot] ∧ other ∈ state.registry.names .feature then some ⟨other, true⟩
          else state.slots.find? other := by
        intro other
        by_cases hsame : other = slot
        · rw [hsame, Sharing.find?_place_self, if_pos ⟨List.mem_singleton_self slot, hslot⟩]
        · rw [Sharing.find?_place_of_ne _ _ _ hsame,
            if_neg fun hmem => hsame (List.mem_singleton.1 hmem.1)]
      refine ⟨(h.place hslot true).settled _, rfl, ?_, hslots⟩
      change ((Errand.own kind cluster slot).ordered state.outside).entries = _
      rw [fresh_singleton]
      cases hfound : state.outside.find? (Errand.own kind cluster slot).task with
      | some held =>
        rw [Errand.ordered_of_taken hfound, if_neg (by simp), List.map_nil, List.append_nil]
      | none =>
        rw [entries_ordered_of_absent hfound (hwritten slot), if_pos ⟨hslot, rfl⟩]
        rfl
  · refine ⟨_, _, h.exec_reconcile_of_notMem connector collector kind cluster hslot, ?_, ?_, ?_⟩
    · rintro _ ⟨⟩
      exact ⟨_, _, rfl⟩
    · rw [fresh_singleton, if_neg fun hfresh => hslot hfresh.1]
      rfl
    · refine ⟨h, rfl, ?_, fun other => (if_neg ?_).symm⟩
      · rw [fresh_singleton, if_neg fun hfresh => hslot hfresh.1, List.map_nil, List.append_nil]
      · rintro ⟨hmem, hother⟩
        exact hslot (List.mem_singleton.1 hmem ▸ hother)

/-! ## All features -/

theorem exists_exec_reconcileEach (h : OwnNamed state) (hconnector : Connects connector)
    (hwritten : ∀ slot, (Errand.own kind cluster slot).document.withVersion 1 = .ok (written slot))
    (hslots : slots.Nodup) :
    ∃ after, exec (handler connector collector)
        (Manager.reconcileEach (.ofStore kind) cluster slots) state =
          (.ok (fresh kind cluster state slots), after) ∧
      Worked kind cluster written slots state after := by
  induction slots generalizing state with
  | nil => exact ⟨state, rfl, .refl h⟩
  | cons slot rest ih =>
    obtain ⟨hnew, hrest⟩ := List.nodup_cons.1 hslots
    obtain ⟨result, next, hturn, hpasses, htold, hfirst⟩ :=
      exists_turn connector collector h hconnector hwritten slot
    obtain ⟨after, hrun, hworked⟩ := ih hfirst.ownNamed hrest
    -- The tasks of two features of one cluster differ, so the first leaves the rest as it was.
    have happart : ∀ other ∈ rest, other ∉ [slot] := by
      intro other hother hsame
      exact hnew (List.mem_singleton.1 hsame ▸ hother)
    refine ⟨after, ?_, hfirst.append hworked happart⟩
    rw [Sharing.exec_reconcileEach_cons_of_passes hturn hpasses, hrun, htold, hfirst.fresh_eq happart]
    exact congrArg (fun names => (Except.ok names, after)) (fresh_append [slot] rest).symm

theorem exec_reconcileEach_again (h : Worked kind cluster written slots state after)
    (hconnector : Connects connector)
    (hwritten : ∀ slot, (Errand.own kind cluster slot).document.withVersion 1 = .ok (written slot))
    (hslots : slots.Nodup) :
    exec (handler connector collector) (Manager.reconcileEach (.ofStore kind) cluster slots) after =
      (.ok [], after) := by
  obtain ⟨last, hrun, hagain⟩ :=
    exists_exec_reconcileEach connector collector h.ownNamed hconnector hwritten hslots
  rw [hrun, h.fresh_after, h.eq_of_again hagain]

/-- Over a store, the features that are switched on, registered and without a task get one each. Whatever the
features work on, the first failure that is not passed over ends the call where it occurs. -/
theorem switched_on_features_in_turn (kind : ResourceKind)
    (connector : Inspections.Connector Store) (collector : Task → Except ProviderError Unit)
    (cluster : Cluster) (state : Inspections Store) (hconnector : Connects connector)
    (hnames : OwnNamed state) :
    let run := exec (handler connector collector)
      (Manager.reconcileEnabled (.ofStore kind) cluster)
    let key := fun slot : String =>
      (⟨kind, cluster.namespace, Task.nameFor cluster.name slot⟩ : ResourceKey)
    let document := fun slot => (Task.ofCluster cluster slot).resource kind cluster
    (∃ scheduled after, ∃ written : String → Document, run state = (.ok scheduled, after) ∧
      scheduled.Pairwise (fun first second => bytesOf first < bytesOf second) ∧
      (∀ slot, slot ∈ scheduled ↔ cluster.SwitchedOn slot ∧ slot ∈ state.registry.names .feature ∧
        state.outside.find? (key slot) = none) ∧
      (∀ slot, (document slot).withVersion 1 = .ok (written slot)) ∧
      after.outside.entries =
        state.outside.entries ++ scheduled.map (fun slot => (key slot, written slot)) ∧
      run after = (.ok [], after)) ∧
    (∀ slot, slot ∈ cluster.enabledFeatures ↔ cluster.SwitchedOn slot) ∧
    cluster.enabledFeatures.Pairwise (fun first second => bytesOf first < bytesOf second) ∧
    ∀ {σ Call : Type} {Reply : Call → Type} (connector : Inspections.Connector σ)
      (handle : Program.Handler Call Reply σ) (backend : Backend Call Reply) (start : Inspections σ),
      let enabled := cluster.enabledFeatures
      let run := exec (Inspections.handler connector handle)
        (Manager.reconcileEnabled backend cluster) start
      let left := fun slots => afterTurns connector handle backend cluster slots start
      (∀ before slot rest failure,
        FirstFailure connector handle backend cluster enabled start before slot rest failure →
          run = (.error failure, left (before ++ [slot])) ∧
          ∀ other ∈ rest, (left (before ++ [slot])).slots.find? other = start.slots.find? other) ∧
      (AllPass connector handle backend cluster enabled start →
        run = (.ok (told connector handle backend cluster enabled start), left enabled)) ∧
      (AllPass connector handle backend cluster enabled start ∨ ∃ before slot rest failure,
        FirstFailure connector handle backend cluster enabled start before slot rest failure) := by
  have hordered := cluster.enabledFeatures_ordered
  have hnodup := nodup_of_increasing hordered
  refine ⟨?_, fun slot => Cluster.mem_enabledFeatures_iff, hordered.imp bytesOf_lt, ?_⟩
  · obtain ⟨written, hwritten⟩ := Classical.axiomOfChoice fun slot =>
      Document.exists_withVersion (Errand.own kind cluster slot).resourceName_document 1
    obtain ⟨after, hrun, hworked⟩ :=
      exists_exec_reconcileEach connector collector hnames hconnector hwritten hnodup
    refine ⟨_, after, written, hrun, ?_, ?_, hwritten, hworked.entries,
      exec_reconcileEach_again connector collector hworked hconnector hwritten hnodup⟩
    · exact (hordered.filter _).imp bytesOf_lt
    · intro slot
      rw [mem_fresh_iff, Cluster.mem_enabledFeatures_iff]
      rfl
  · intro σ Call Reply connector handle backend start enabled run left
    refine ⟨?_, Sharing.exec_reconcileEach_of_allPass, Sharing.allPass_or_firstFailure enabled start⟩
    intro before slot rest failure hfailure
    have hsplit : ((before ++ [slot]) ++ rest).Nodup := by
      rw [List.append_assoc, List.singleton_append, ← hfailure.order]
      exact hnodup
    refine ⟨hfailure.exec_reconcileEach, fun other hother => ?_⟩
    exact Sharing.find?_afterTurns_of_notMem fun hdone =>
      List.disjoint_of_nodup_append hsplit hdone hother

/-! ## A cluster with gates -/

def gatedCluster : Cluster :=
  { Operated.smallCluster with
    metadata := { Operated.smallCluster.metadata with
      annotations := NameMap.empty.insert Annotation.featureGates
        "request=true, alarm = true,abacus=true,healthy=false" } }

def brokenConnector : Inspections.Connector Store := fun store => ⟨.error (.internal "down"), [], store⟩

theorem enabledFeatures_gatedCluster :
    gatedCluster.enabledFeatures = ["abacus", "alarm", "request"] := by decide

theorem firstFailure_of_broken (collector : Task → Except ProviderError Unit) :
    FirstFailure brokenConnector (Backend.overStore collector) (.ofStore .etcdInspection) gatedCluster
      gatedCluster.enabledFeatures ⟨.builtin, .empty, .empty⟩ ["abacus"] "alarm" ["request"]
      (.internal "down") where
  order := enabledFeatures_gatedCluster
  earlier := allPass_cons.2 ⟨fun _ h => ⟨.feature, "abacus", (Except.error.inj h).symm⟩, allPass_nil⟩
  failed := rfl
  real := by
    rintro ⟨_, _, ⟨⟩⟩

/-- A new manager schedules what it can, and with a broken connector fails at the first feature that it has. -/
theorem switched_on_features_in_turn_builtin :
    let kind := ResourceKind.etcdInspection
    let collector : Task → Except ProviderError Unit := fun _ => .ok ()
    let start : Inspections Store := ⟨.builtin, .empty, .empty⟩
    let run := exec (handler (storeConnector kind) collector)
      (Manager.reconcileEnabled (.ofStore kind) gatedCluster)
    Connects (storeConnector kind) ∧ OwnNamed start ∧
      (∃ scheduled after, run start = (.ok scheduled, after) ∧
        (∀ slot, slot ∈ scheduled ↔ slot = "alarm" ∨ slot = "request") ∧
        run after = (.ok [], after)) ∧
      (exec (handler brokenConnector collector)
        (Manager.reconcileEnabled (.ofStore kind) gatedCluster) start).1 =
          .error (.internal "down") := by
  intro kind collector start run
  have hconnects : Connects (storeConnector kind) := connects_storeConnector kind
  have hbooked : Booked kind [] start := booked_start
  have hnames : OwnNamed start := hbooked.toShares.ownNamed
  obtain ⟨hscheduled, _, _, hany⟩ := switched_on_features_in_turn kind (storeConnector kind) collector
    gatedCluster start hconnects hnames
  refine ⟨hconnects, hnames, ?_, ?_⟩
  · obtain ⟨scheduled, after, _, hrun, _, hmem, _, _, hagain⟩ := hscheduled
    refine ⟨scheduled, after, hrun, fun slot => (hmem slot).trans ?_, hagain⟩
    have hregistered : slot ∈ start.registry.names .feature ↔ slot ∈ Registry.builtinFeatures :=
      Registry.mem_names_builtin
    rw [← Cluster.mem_enabledFeatures_iff, enabledFeatures_gatedCluster, hregistered]
    constructor
    · rintro ⟨hslot, hbuiltin, _⟩
      simp only [List.mem_cons, List.not_mem_nil, or_false] at hslot
      exact hslot.resolve_left fun heq => absurd (heq ▸ hbuiltin) (by decide)
    · rintro (rfl | rfl)
      · exact ⟨by decide, by decide, rfl⟩
      · exact ⟨by decide, by decide, rfl⟩
  · obtain ⟨hfails, _⟩ := hany brokenConnector (Backend.overStore collector) (.ofStore kind) start
    rw [(hfails _ _ _ _ (firstFailure_of_broken collector)).1]

end Scheduling
end EtcdFleet
