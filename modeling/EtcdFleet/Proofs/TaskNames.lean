import EtcdFleet.Proofs.InspectionRuns

set_option autoImplicit false

/-!
# Which pairs share a task

A task is named by a cluster and a feature with a hyphen between them, and hyphens may stand in either. So
two pairs share a name where one cluster name goes on into what the other feature name begins with. Then a
call for the one pair takes the task of the other; of any two pairs that do not share a name, neither is
touched by calls for the other.
-/

namespace EtcdFleet

namespace Task

/-- The part of the feature before the other feature is the part of the other cluster after the cluster. -/
def Overlaps (clusterName feature otherCluster otherFeature : String) : Prop :=
  ∃ middle, otherCluster = nameFor clusterName middle ∧ feature = nameFor middle otherFeature

theorem nameFor_toList (clusterName feature : String) :
    (nameFor clusterName feature).toList = clusterName.toList ++ '-' :: feature.toList := by
  simp [nameFor]

theorem nameFor_nameFor (first middle last : String) :
    nameFor (nameFor first middle) last = nameFor first (nameFor middle last) := by
  simp [nameFor, String.append_assoc]

theorem eq_or_overlaps_of_append {clusterName feature otherCluster otherFeature : String}
    {rest : List Char} (hcluster : otherCluster.toList = clusterName.toList ++ rest)
    (hfeature : '-' :: feature.toList = rest ++ '-' :: otherFeature.toList) :
    (clusterName = otherCluster ∧ feature = otherFeature) ∨
      Overlaps clusterName feature otherCluster otherFeature := by
  cases rest with
  | nil =>
    rw [List.append_nil] at hcluster
    exact .inl ⟨String.toList_inj.1 hcluster.symm, String.toList_inj.1 (List.cons.inj hfeature).2⟩
  | cons c middle =>
    obtain ⟨rfl, htail⟩ := List.cons.inj hfeature
    refine .inr ⟨String.ofList middle, ?_, ?_⟩
    · apply String.toList_inj.1
      rw [nameFor_toList, String.toList_ofList]
      exact hcluster
    · apply String.toList_inj.1
      rw [nameFor_toList, String.toList_ofList]
      exact htail

theorem nameFor_eq_iff {clusterName feature otherCluster otherFeature : String} :
    nameFor clusterName feature = nameFor otherCluster otherFeature ↔
      (clusterName = otherCluster ∧ feature = otherFeature) ∨
      Overlaps clusterName feature otherCluster otherFeature ∨
      Overlaps otherCluster otherFeature clusterName feature := by
  constructor
  · intro h
    have hchars := congrArg String.toList h
    rw [nameFor_toList, nameFor_toList] at hchars
    rcases List.append_eq_append_iff.1 hchars with ⟨rest, hcluster, hfeature⟩ |
      ⟨rest, hcluster, hfeature⟩
    · rcases eq_or_overlaps_of_append hcluster hfeature with heq | hoverlaps
      · exact .inl heq
      · exact .inr (.inl hoverlaps)
    · rcases eq_or_overlaps_of_append hcluster hfeature with heq | hoverlaps
      · exact .inl ⟨heq.1.symm, heq.2.symm⟩
      · exact .inr (.inr hoverlaps)
  · rintro (⟨rfl, rfl⟩ | ⟨middle, rfl, rfl⟩ | ⟨middle, rfl, rfl⟩)
    · rfl
    · exact (nameFor_nameFor ..).symm
    · exact nameFor_nameFor ..

theorem not_overlaps_of_plain {clusterName feature otherCluster otherFeature : String}
    (h : '-' ∉ feature.toList) : ¬ Overlaps clusterName feature otherCluster otherFeature := by
  rintro ⟨middle, _, rfl⟩
  rw [nameFor_toList] at h
  exact h (List.mem_append_right _ List.mem_cons_self)

theorem nameFor_inj_of_plain {clusterName feature otherCluster otherFeature : String}
    (h : '-' ∉ feature.toList) (hother : '-' ∉ otherFeature.toList) :
    nameFor clusterName feature = nameFor otherCluster otherFeature ↔
      clusterName = otherCluster ∧ feature = otherFeature := by
  rw [nameFor_eq_iff]
  constructor
  · rintro (heq | hoverlaps | hoverlaps)
    · exact heq
    · exact absurd hoverlaps (not_overlaps_of_plain h)
    · exact absurd hoverlaps (not_overlaps_of_plain hother)
  · exact .inl

end Task

namespace Scheduling

open Program (exec)

variable {first second : Errand} {state : Inspections Store}

theorem Errand.task_eq_iff : first.task = second.task ↔
    first.kind = second.kind ∧ first.cluster.namespace = second.cluster.namespace ∧
      ((first.cluster.name = second.cluster.name ∧ first.feature.name = second.feature.name) ∨
        Task.Overlaps first.cluster.name first.feature.name second.cluster.name
          second.feature.name ∨
        Task.Overlaps second.cluster.name second.feature.name first.cluster.name
          first.feature.name) := by
  rw [Errand.task, Errand.task, ResourceKey.mk.injEq, Task.nameFor_eq_iff]

/-- What the feature of the second errand finds, and what its manager says, after the first. -/
theorem tasks_shared_iff (connector : Inspections.Connector Store)
    (collector : Task → Except ProviderError Unit) (hfirst : first.Ready state)
    (hsecond : second.Ready state) :
    let after := (exec (handler connector collector) first.program state).2
    let detect := fun state => (exec (handler connector collector)
      (second.feature.detect second.backend second.cluster) state).1
    let reconcile := fun state => (exec (handler connector collector)
      (Manager.reconcile second.backend second.cluster second.feature.slot) state).1
    (first.task = second.task ↔
      first.kind = second.kind ∧ first.cluster.namespace = second.cluster.namespace ∧
        ((first.cluster.name = second.cluster.name ∧ first.feature.name = second.feature.name) ∨
          Task.Overlaps first.cluster.name first.feature.name second.cluster.name
            second.feature.name ∨
          Task.Overlaps second.cluster.name second.feature.name first.cluster.name
            first.feature.name)) ∧
    (first.task ≠ second.task → detect after = detect state ∧ reconcile after = reconcile state) ∧
    (first.task = second.task → detect after = .ok false ∧ reconcile after = .ok false) := by
  intro after detect reconcile
  have hafter : after = first.settled state := by
    change (exec _ first.program state).2 = _
    rw [exec_program hfirst]
  have hdetect : ∀ state : Inspections Store, second.Ready state →
      detect state = .ok (state.outside.find? second.task).isNone := by
    intro state hready
    change (exec _ (second.feature.detect _ _) state).1 = _
    rw [exec_detect hready]
  have hreconcile : ∀ state : Inspections Store, second.Ready state →
      reconcile state = .ok (state.outside.find? second.task).isNone := by
    intro state hready
    change (exec _ (Manager.reconcile _ _ _) state).1 = _
    rw [exec_reconcile hready]
  rw [hafter, hdetect _ hsecond, hdetect _ hsecond.settled, hreconcile _ hsecond,
    hreconcile _ hsecond.settled]
  refine ⟨Errand.task_eq_iff, fun hne => ?_, fun heq => ?_⟩
  · have hfound : (first.settled state).outside.find? second.task =
        state.outside.find? second.task :=
      first.find?_ordered_of_ne _ (Ne.symm hne)
    rw [hfound]
    exact ⟨rfl, rfl⟩
  · have hfound : ((first.settled state).outside.find? second.task).isSome = true := by
      rw [← heq]
      exact first.isSome_find?_ordered _
    rw [Option.isNone_eq_false_iff.2 hfound]
    exact ⟨rfl, rfl⟩

/-! ## Two pairs -/

def clusterNamed (name : String) : Cluster :=
  { Operated.smallCluster with metadata := { Operated.smallCluster.metadata with name } }

def usage : Errand := ⟨.etcdInspection, ⟨"usage", "usage"⟩, clusterNamed "etcd-disk", true⟩

def diskUsage : Errand := ⟨.etcdInspection, ⟨"disk-usage", "disk-usage"⟩, clusterNamed "etcd", true⟩

def usageRegistry : Registry :=
  ["usage", "disk-usage"].foldl
    (fun registry name => registry.put name (.feature (Registry.featureMaker name))) .builtin

def usageStart : Inspections Store :=
  ⟨usageRegistry, .ofEntries [("usage", ⟨"usage", true⟩), ("request", ⟨"request", true⟩)], .empty⟩

/-- A task of the one pair leaves the other pair its own. -/
theorem tasks_shared_iff_plain :
    rival.Ready usageStart ∧ usage.Ready usageStart ∧ rival.task ≠ usage.task ∧
      (exec (handler (fun store => ⟨.ok (), [], store⟩) (fun _ => .ok ()))
        (Manager.reconcile usage.backend usage.cluster usage.feature.slot)
        (exec (handler (fun store => ⟨.ok (), [], store⟩) (fun _ => .ok ())) rival.program
          usageStart).2).1 = .ok true := by
  have hrival : rival.Ready usageStart := rfl
  have husage : usage.Ready usageStart := rfl
  have hne : rival.task ≠ usage.task := by decide
  obtain ⟨_, happart, _⟩ :=
    tasks_shared_iff (fun store => ⟨.ok (), [], store⟩) (fun _ => .ok ()) hrival husage
  exact ⟨hrival, husage, hne, (happart hne).2⟩

/-- Both features are registered and the pairs differ, but the first takes the task of the second. -/
theorem exists_pairs_sharing_a_task :
    let manage := fun (errand : Errand) => exec
      (handler (fun store => ⟨.ok (), [], store⟩) (fun _ => .ok ()))
      (Manager.reconcile errand.backend errand.cluster errand.feature.slot)
    let start : Inspections Store := ⟨usageRegistry, .empty, .empty⟩
    Registry.builtin.registerAll
        [("usage", .feature (Registry.featureMaker "usage")),
          ("disk-usage", .feature (Registry.featureMaker "disk-usage"))] = .ok usageRegistry ∧
      diskUsage.cluster.namespace = usage.cluster.namespace ∧
      (diskUsage.cluster.name, diskUsage.feature.name) ≠
        (usage.cluster.name, usage.feature.name) ∧
      Task.nameFor diskUsage.cluster.name diskUsage.feature.name =
        Task.nameFor usage.cluster.name usage.feature.name ∧
      (manage usage start).1 = .ok true ∧
      (manage usage (manage diskUsage start).2).1 = .ok false :=
  ⟨rfl, rfl, by decide, rfl, rfl, rfl⟩

end Scheduling
end EtcdFleet
