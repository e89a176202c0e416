import EtcdFleet.Proofs.Scheduling

set_option autoImplicit false

/-!
# How many calls say that they have scheduled a task

The manager says that a task was scheduled when its first look has found none, and not when its own
order was the one that counted. Of the calls for one task at most one creates it, but every call that
has looked before the creation says that it was scheduled.
-/

namespace EtcdFleet.Scheduling

def saysScheduled : Work → Bool
  | .done (.ok (some true)) => true
  | _ => false

def saidScheduled (errands : List Errand) (current : Nat → Work) : Nat :=
  (List.range errands.length).countP fun client => saysScheduled (current client)

/-- How many calls have looked before there was a task. -/
def earlyLooks (errands : List Errand) (talk : List Exchange) : Nat :=
  (List.range errands.length).countP fun client =>
    foundNothing (storeTalk (Program.own client talk))

structure Contest (connector : Inspections.Connector Store)
    (collector : Task → Except ProviderError Unit) (errands : List Errand) (key : ResourceKey)
    (initial : Inspections Store) (talk : List Exchange) (state : Inspections Store)
    (current : Nat → Work) : Prop
    extends Run connector collector errands initial talk state current where
  managed : ∀ errand ∈ errands, errand.managed = true
  task : ∀ errand ∈ errands, errand.task = key
  done : ∀ client < errands.length, ∃ result, current client = .done result

variable {connector : Inspections.Connector Store} {collector : Task → Except ProviderError Unit}
  {errands : List Errand} {key : ResourceKey} {initial state : Inspections Store}
  {talk : List Exchange} {current : Nat → Work}

theorem exists_own_of_mem_storeTalk {exchange : Store.Exchange} (h : exchange ∈ storeTalk talk) :
    exchange ∈ storeTalk (Program.own exchange.client talk) := by
  obtain ⟨whole, hwhole, hpart⟩ := List.mem_filterMap.1 h
  refine List.mem_filterMap.2 ⟨whole, List.mem_filter.2 ⟨hwhole, ?_⟩, hpart⟩
  obtain ⟨client, call, reply⟩ := whole
  cases call with
  | backend call =>
    cases call with
    | store call =>
      obtain rfl := Option.some.inj hpart
      exact decide_eq_true rfl
    | collect task => cases hpart
  | find slot => cases hpart
  | build slot => cases hpart
  | connect feature => cases hpart
  | require feature => cases hpart

theorem Run.own_eq_nil (h : Run connector collector errands initial talk state current)
    {client : Nat} (hclient : errands[client]? = none) : Program.own client talk = [] := by
  have hpath := h.interleaved.follows client
  rw [calls, hclient] at hpath
  generalize Program.own client talk = asked at hpath
  generalize current client = last at hpath
  cases hpath
  rfl

namespace Contest

variable (h : Contest connector collector errands key initial talk state current)

include h

theorem settled {client : Nat} (hclient : client < errands.length) :
    saysScheduled (current client) = foundNothing (storeTalk (Program.own client talk)) ∧
      Settled key initial (storeTalk (Program.own client talk)) state := by
  obtain ⟨result, hdone⟩ := h.done client hclient
  obtain ⟨answer, rfl, hended⟩ := h.ended hdone
  have hmem := List.getElem_mem hclient
  obtain ⟨hanswer, hsettled⟩ := hended _ (List.getElem?_eq_getElem hclient)
  rw [h.task _ hmem] at hsettled
  refine ⟨?_, hsettled⟩
  rw [hdone, hanswer (h.managed _ hmem)]
  cases foundNothing (storeTalk (Program.own client talk)) with
  | true => rfl
  | false => rfl

theorem saidScheduled_eq : saidScheduled errands current = earlyLooks errands talk := by
  apply List.countP_congr
  intro client hclient
  rw [(h.settled (List.mem_range.1 hclient)).1]

theorem earlyLooks_pos (hcreations : 0 < Store.creations key (storeTalk talk)) :
    0 < earlyLooks errands talk := by
  obtain ⟨exchange, hmem, hcreated⟩ := List.countP_pos_iff.1 hcreations
  have hown := exists_own_of_mem_storeTalk hmem
  cases herrand : errands[exchange.client]? with
  | none =>
    rw [h.own_eq_nil herrand] at hown
    cases hown
  | some errand =>
    obtain ⟨hclient, _⟩ := List.getElem?_eq_some_iff.1 herrand
    refine List.countP_pos_iff.2 ⟨exchange.client, List.mem_range.2 hclient, ?_⟩
    by_contra hfound
    have hidle := (h.settled hclient).2.idle (Bool.eq_false_iff.2 hfound)
    exact List.countP_eq_zero.1 hidle exchange hown hcreated

theorem creations_add_held_eq_one (herrands : errands ≠ []) :
    Store.creations key (storeTalk talk) + initial.outside.held key = 1 := by
  obtain ⟨doc, hdoc⟩ := (h.settled (List.length_pos_iff.2 herrands)).2.present
  rw [h.creations_add_held, Store.held_of_find? hdoc]

theorem creations_of_earlyLooks (hearly : 0 < earlyLooks errands talk) :
    Store.creations key (storeTalk talk) = 1 := by
  obtain ⟨client, hclient, hfound⟩ := List.countP_pos_iff.1 hearly
  have hlength := List.mem_range.1 hclient
  have habsent := (h.settled hlength).2.absent hfound
  have hone := h.creations_add_held_eq_one
    (List.ne_nil_of_length_pos (Nat.zero_lt_of_lt hlength))
  rw [Store.held_of_absent habsent] at hone
  exact hone

end Contest

/-- The word of the calls counts the early looks, and so it is right where there is at most one. -/
theorem saidScheduled_eq_creations_iff
    (h : Contest connector collector errands key initial talk state current) :
    (errands ≠ [] → Store.creations key (storeTalk talk) + initial.outside.held key = 1) ∧
    saidScheduled errands current = earlyLooks errands talk ∧
    Store.creations key (storeTalk talk) ≤ saidScheduled errands current ∧
    (saidScheduled errands current = Store.creations key (storeTalk talk) ↔
      earlyLooks errands talk ≤ 1) := by
  have hmost := h.creations_le_one key
  have hcreator := h.earlyLooks_pos
  have hearly := h.creations_of_earlyLooks
  rw [h.saidScheduled_eq]
  refine ⟨h.creations_add_held_eq_one, rfl, ?_, ?_⟩
  · omega
  · omega

theorem rivals_contest {current : Nat → Work} {first second : Bool}
    (hrun : RivalRun talk state current) (hfirst : current 0 = .done (.ok (some first)))
    (hsecond : current 1 = .done (.ok (some second))) :
    Contest (fun store => ⟨.ok (), [], store⟩) (fun _ => .ok ()) rivals rival.task rivalStart talk
      state current ∧
    saidScheduled rivals current = first.toNat + second.toNat := by
  refine ⟨⟨hrun, ?_, ?_, ?_⟩, ?_⟩
  · intro errand herrand
    rw [List.eq_of_mem_replicate herrand]
    rfl
  · intro errand herrand
    rw [List.eq_of_mem_replicate herrand]
  · intro client hclient
    match client, hclient with
    | 0, _ => exact ⟨_, hfirst⟩
    | 1, _ => exact ⟨_, hsecond⟩
  · have hclients : List.range rivals.length = [0, 1] := rfl
    rw [saidScheduled, hclients, List.countP_cons, List.countP_singleton, hfirst, hsecond]
    cases first <;> cases second <;> rfl

theorem exists_turns :
    ∃ talk state current, RivalRun talk state current ∧
      current 0 = .done (.ok (some true)) ∧ current 1 = .done (.ok (some false)) := by
  obtain ⟨first, hfirst⟩ := rivals_start.interleaved.finish 0
  obtain ⟨second, hsecond⟩ := hfirst.finish 1
  exact ⟨_, _, _, ⟨rivals_start.ready, hsecond⟩, rfl, rfl⟩

/-- One after the other, the rivals say what is so. -/
theorem saidScheduled_eq_creations_in_turn :
    ∃ talk state current,
      Contest (fun store => ⟨.ok (), [], store⟩) (fun _ => .ok ()) rivals rival.task rivalStart talk
        state current ∧
      saidScheduled rivals current = 1 ∧ Store.creations rival.task (storeTalk talk) = 1 := by
  obtain ⟨talk, state, current, hrun, hfirst, hsecond⟩ := exists_turns
  obtain ⟨hcontest, hsaid⟩ := rivals_contest hrun hfirst hsecond
  obtain ⟨_, hearly, _, hexact⟩ := saidScheduled_eq_creations_iff hcontest
  have hone : saidScheduled rivals current = 1 := hsaid
  rw [← hearly, hone] at hexact
  exact ⟨talk, state, current, hcontest, hone, (hexact.2 (Nat.le_refl 1)).symm⟩

/-- Both rivals say that they have scheduled the one task that there is. -/
theorem exists_saidScheduled_twice :
    ∃ talk state current,
      Contest (fun store => ⟨.ok (), [], store⟩) (fun _ => .ok ()) rivals rival.task rivalStart talk
        state current ∧
      saidScheduled rivals current = 2 ∧ Store.creations rival.task (storeTalk talk) = 1 := by
  obtain ⟨talk, state, current, hrun, hfirst, hsecond⟩ := exists_race
  obtain ⟨hcontest, hsaid⟩ := rivals_contest hrun hfirst hsecond
  have hone := hcontest.creations_add_held_eq_one (List.cons_ne_nil _ _)
  exact ⟨talk, state, current, hcontest, hsaid, hone⟩

end EtcdFleet.Scheduling
