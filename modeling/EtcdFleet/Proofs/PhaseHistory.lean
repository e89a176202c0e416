import Mathlib.Data.List.Induction
import EtcdFleet.Cluster.Health

set_option autoImplicit false

/-!
# Phases over time

Status passes one after the other, each over the status that the one before has reported. The rest of
the descriptor, the discovered endpoints, the certificates and the answers may be others in every pass.
Whatever they are, the phase takes one of four turns in a pass. An unknown phase therefore always goes
back to a running one, and the members that a running phase was found with are enough to ask again.
-/

namespace EtcdFleet

namespace Program

theorem run_forM_report {Call : Type} {Reply : Call → Type} {α σ : Type}
    (handle : Handler Call Reply σ) (events : List Event) (value : α) (state : σ) :
    (do events.forM report; return value : Program Call Reply α).run handle state =
      ⟨.ok value, events, state⟩ := by
  induction events with
  | nil => rfl
  | cons event rest ih =>
    change (note event (do rest.forM report; return value : Program Call Reply α)).run
      handle state = _
    rw [run, ih]

end Program

/-- What one pass meets. The status in the descriptor gives way to the one last reported. -/
structure StatusPass where
  cluster : Cluster
  discover : Cluster → List String
  tls : Option TlsFiles
  probe : ProbeRequest → Except ProviderError (List MemberHealth)

namespace StatusPass

def subject (pass : StatusPass) (status : ClusterStatus) : Cluster := { pass.cluster with status }

def discovered (pass : StatusPass) (status : ClusterStatus) : List String :=
  pass.discover (pass.subject status)

def prober (pass : StatusPass) : Program.Handler ProbeRequest ProbeReply Unit := fun request _ =>
  ⟨pass.probe request, [], ()⟩

def report (pass : StatusPass) (status : ClusterStatus) : Except ProviderError StatusReport :=
  (((pass.subject status).statusPass (pass.discovered status) pass.tls).run pass.prober ()).result

def request (pass : StatusPass) (status : ClusterStatus) : ProbeRequest :=
  ⟨(pass.subject status).probeEndpoints (pass.discovered status),
    pass.cluster.annotation? Annotation.extensionClientUrls, pass.tls⟩

section Pass

variable {pass : StatusPass} {status : ClusterStatus} {report : StatusReport}

theorem report_of_no_endpoint
    (h : (pass.subject status).probeEndpoints (pass.discovered status) = []) :
    pass.report status = .ok ⟨{ status with phase := some .creating }, none⟩ := by
  rw [StatusPass.report, Cluster.statusPass, h]
  rfl

theorem report_of_endpoints
    (h : (pass.subject status).probeEndpoints (pass.discovered status) ≠ []) :
    pass.report status =
      .ok ((pass.subject status).afterProbe
        ((pass.subject status).statusToProbe (pass.discovered status))
        (pass.probe (pass.request status))) := by
  obtain ⟨first, rest, hendpoints⟩ := List.exists_cons_of_ne_nil h
  have hrequest : pass.request status =
      ⟨first :: rest, pass.cluster.annotation? Annotation.extensionClientUrls, pass.tls⟩ := by
    rw [request, hendpoints]
  rw [hrequest, StatusPass.report, Cluster.statusPass, hendpoints]
  exact congrArg Program.Outcome.result (Program.run_forM_report pass.prober _ _ ())

theorem probeEndpoints_eq_nil
    (h : (pass.subject status).probeEndpoints (pass.discovered status) = []) :
    pass.discovered status = [] ∧ pass.cluster.annotation? Annotation.importedAddress = none := by
  rw [Cluster.probeEndpoints] at h
  split at h
  · rename_i hempty
    have hnone : (pass.subject status).annotation? Annotation.importedAddress = none := by
      simpa using h
    exact ⟨List.isEmpty_iff.1 hempty, hnone⟩
  · rename_i hempty
    exact absurd (List.isEmpty_iff.2 h) hempty

theorem phase_statusToProbe (pass : StatusPass) (status : ClusterStatus)
    (discovered : List String) :
    ((pass.subject status).statusToProbe discovered).phase = status.phase := by
  unfold Cluster.statusToProbe
  split <;> rfl

end Pass

inductive Turn (pass : StatusPass) (before after : ClusterStatus) : Prop
  | nothingToAsk : pass.discovered before = [] →
      pass.cluster.annotation? Annotation.importedAddress = none →
      after.phase = some .creating → Turn pass before after
  | confirmed {members : List MemberHealth} : pass.probe (pass.request before) = .ok members →
      ClusterPhase.ofMembers members = .running →
      after.members = members.map MemberHealth.toStatus → after.phase = some .running →
      Turn pass before after
  | lost : before.phase = some .running → after.phase = some .unknown → Turn pass before after
  | kept : before.phase ≠ some .running → after.phase = before.phase → Turn pass before after

section Turns

variable {pass : StatusPass} {before after : ClusterStatus}

theorem turn_of_degraded (h : after.phase = ClusterPhase.degrade before.phase) :
    pass.Turn before after := by
  by_cases hrunning : before.phase = some .running
  · rw [hrunning] at h
    exact .lost hrunning h
  · refine .kept hrunning (h.trans ?_)
    unfold ClusterPhase.degrade
    split
    · rename_i heq
      exact absurd heq hrunning
    · rfl

theorem turn_of_complete {members : List MemberHealth}
    (hanswer : pass.probe (pass.request before) = .ok members)
    (hmembers : after.members = members.map MemberHealth.toStatus)
    (hphase : after.phase =
      ClusterPhase.resolve before.phase (ClusterPhase.ofMembers members)) :
    pass.Turn before after := by
  have htwo : ClusterPhase.ofMembers members = .running ∨
      ClusterPhase.ofMembers members = .unknown := by
    unfold ClusterPhase.ofMembers
    split
    · exact .inl rfl
    · exact .inr rfl
  rcases htwo with hrunning | hunknown
  · rw [hrunning, ClusterPhase.resolve, if_pos (.inr (by decide))] at hphase
    exact .confirmed hanswer hrunning hmembers hphase
  · rw [hunknown] at hphase
    by_cases hbefore : before.phase = some .running
    · rw [hbefore] at hphase
      exact .lost hbefore hphase
    · refine .kept hbefore (hphase.trans ?_)
      rw [ClusterPhase.resolve, if_neg]
      rintro (h | h)
      · exact hbefore h
      · exact h rfl

theorem turn_of_report {report : StatusReport} (h : pass.report before = .ok report) :
    pass.Turn before report.status := by
  by_cases hnone : (pass.subject before).probeEndpoints (pass.discovered before) = []
  · obtain ⟨hdiscovered, hannotation⟩ := probeEndpoints_eq_nil hnone
    rw [report_of_no_endpoint hnone] at h
    obtain rfl := Except.ok.inj h
    exact .nothingToAsk hdiscovered hannotation rfl
  · rw [report_of_endpoints hnone] at h
    obtain rfl := Except.ok.inj h
    have hphase := phase_statusToProbe pass before (pass.discovered before)
    cases hanswer : pass.probe (pass.request before) with
    | error failure =>
      apply turn_of_degraded
      rw [← hphase]
      rfl
    | ok members =>
      rw [Cluster.afterProbe]
      split
      · apply turn_of_complete hanswer rfl
        rw [← hphase]
      · apply turn_of_degraded
        rw [← hphase]

end Turns

end StatusPass

/-! ## Passes one after the other -/

structure StatusEntry where
  pass : StatusPass
  before : ClusterStatus
  report : StatusReport

def StatusEntry.phase (entry : StatusEntry) : Option ClusterPhase := entry.report.status.phase

/-- Every pass starts from the status that the pass before it has reported. -/
def statusLog (start : ClusterStatus) : List StatusPass → Except ProviderError (List StatusEntry)
  | [] => .ok []
  | pass :: rest => do
    let report ← pass.report start
    return ⟨pass, start, report⟩ :: (← statusLog report.status rest)

def reached (start : ClusterStatus) (log : List StatusEntry) : ClusterStatus :=
  log.foldl (fun _ entry => entry.report.status) start

theorem reached_concat (start : ClusterStatus) (log : List StatusEntry) (entry : StatusEntry) :
    reached start (log ++ [entry]) = entry.report.status := by
  rw [reached, List.foldl_append]
  rfl

section Log

variable {start : ClusterStatus} {passes : List StatusPass} {log earlier later : List StatusEntry}
  {entry : StatusEntry}

theorem StatusPass.exists_report (pass : StatusPass) (status : ClusterStatus) :
    ∃ report, pass.report status = .ok report := by
  by_cases hnone : (pass.subject status).probeEndpoints (pass.discovered status) = []
  · exact ⟨_, StatusPass.report_of_no_endpoint hnone⟩
  · exact ⟨_, StatusPass.report_of_endpoints hnone⟩

theorem statusLog_cons {pass : StatusPass} {rest : List StatusPass} {report : StatusReport}
    (hreport : pass.report start = .ok report) (hrest : statusLog report.status rest = .ok log) :
    statusLog start (pass :: rest) = .ok (⟨pass, start, report⟩ :: log) := by
  rw [statusLog, hreport]
  change (statusLog report.status rest >>= fun tail => _) = _
  rw [hrest]
  rfl

theorem exists_statusLog (start : ClusterStatus) (passes : List StatusPass) :
    ∃ log, statusLog start passes = .ok log ∧ log.map (·.pass) = passes := by
  induction passes generalizing start with
  | nil => exact ⟨[], rfl, rfl⟩
  | cons pass rest ih =>
    obtain ⟨report, hreport⟩ := pass.exists_report start
    obtain ⟨log, hlog, hpasses⟩ := ih report.status
    refine ⟨⟨pass, start, report⟩ :: log, statusLog_cons hreport hlog, ?_⟩
    rw [List.map_cons, hpasses]

theorem entry_of_statusLog (h : statusLog start passes = .ok (earlier ++ entry :: later)) :
    entry.before = reached start earlier ∧ entry.pass.report entry.before = .ok entry.report := by
  induction passes generalizing start earlier with
  | nil =>
    have hnil : [] = earlier ++ entry :: later := Except.ok.inj h
    simp at hnil
  | cons pass rest ih =>
    obtain ⟨report, hreport⟩ := pass.exists_report start
    obtain ⟨tail, htail, _⟩ := exists_statusLog report.status rest
    rw [statusLog_cons hreport htail] at h
    have hsplit : ⟨pass, start, report⟩ :: tail = earlier ++ entry :: later := Except.ok.inj h
    cases earlier with
    | nil =>
      obtain ⟨rfl, rfl⟩ := List.cons.inj hsplit
      exact ⟨rfl, hreport⟩
    | cons first more =>
      obtain ⟨rfl, rfl⟩ := List.cons.inj hsplit
      change entry.before = reached report.status more ∧ _
      exact ih htail

theorem turn_of_statusLog (h : statusLog start passes = .ok (earlier ++ entry :: later)) :
    entry.pass.Turn (reached start earlier) entry.report.status := by
  obtain ⟨hbefore, hreport⟩ := entry_of_statusLog h
  rw [hbefore] at hreport
  exact StatusPass.turn_of_report hreport

/-! ## Where a phase comes from -/

/-- What the earlier phases say about one that was reported after them. -/
structure PhaseExplained (earlier : List StatusEntry) (phase : Option ClusterPhase) : Prop where
  known : phase ∈ [none, some .creating, some .running, some .unknown]
  firm : phase = none → ∀ past ∈ earlier, past.phase = none
  fallen : phase = some .unknown → ∃ before running between,
    earlier = before ++ running :: between ∧ running.phase = some .running ∧
      ∀ past ∈ between, past.phase = some .unknown

theorem explained_of_definite {phase : ClusterPhase} (h : phase = .creating ∨ phase = .running) :
    PhaseExplained earlier (some phase) := by
  refine ⟨?_, ?_, ?_⟩
  · rcases h with rfl | rfl <;> decide
  · intro hnone
    cases hnone
  · intro hunknown
    rcases h with rfl | rfl <;> cases hunknown

theorem explained_after_running (hentry : entry.phase = some .running) :
    PhaseExplained (earlier ++ [entry]) (some .unknown) := by
  refine ⟨by decide, ?_, ?_⟩
  · intro hnone
    cases hnone
  · intro _
    exact ⟨earlier, entry, [], rfl, hentry, fun past hpast => absurd hpast List.not_mem_nil⟩

theorem PhaseExplained.concat (h : PhaseExplained earlier entry.phase)
    (hentry : entry.phase ≠ some .running) :
    PhaseExplained (earlier ++ [entry]) entry.phase := by
  refine ⟨h.known, ?_, ?_⟩
  · intro hnone past hpast
    rcases List.mem_append.1 hpast with hold | hnew
    · exact h.firm hnone past hold
    · obtain rfl := List.mem_singleton.1 hnew
      exact hnone
  · intro hunknown
    obtain ⟨before, running, between, rfl, hrunning, hbetween⟩ := h.fallen hunknown
    refine ⟨before, running, between ++ [entry], by simp, hrunning, ?_⟩
    intro past hpast
    rcases List.mem_append.1 hpast with hold | hnew
    · exact hbetween past hold
    · obtain rfl := List.mem_singleton.1 hnew
      exact hunknown

theorem explained_of_turn {pass : StatusPass} {before after : ClusterStatus}
    (hturn : pass.Turn before after)
    (hlost : before.phase = some .running → PhaseExplained earlier (some .unknown))
    (hkept : before.phase ≠ some .running → PhaseExplained earlier before.phase) :
    PhaseExplained earlier after.phase := by
  cases hturn with
  | nothingToAsk _ _ hphase =>
    rw [hphase]
    exact explained_of_definite (.inl rfl)
  | confirmed _ _ _ hphase =>
    rw [hphase]
    exact explained_of_definite (.inr rfl)
  | lost hrunning hphase =>
    rw [hphase]
    exact hlost hrunning
  | kept hrunning hphase =>
    rw [hphase]
    exact hkept hrunning

theorem explained_of_statusLog
    (h : statusLog .initial passes = .ok (earlier ++ entry :: later)) :
    PhaseExplained earlier entry.phase := by
  have hturn := turn_of_statusLog h
  -- Induction on what came before: a phase that was kept is that of the last earlier entry.
  induction earlier using List.reverseRecOn generalizing entry later with
  | nil =>
    apply explained_of_turn hturn
    · intro hrunning
      cases hrunning
    · intro _
      refine ⟨by decide, fun _ past hpast => absurd hpast List.not_mem_nil, ?_⟩
      intro hunknown
      cases hunknown
  | append_singleton earlier last ih =>
    have hlast : PhaseExplained earlier last.phase := by
      rw [List.append_assoc] at h
      exact ih h (turn_of_statusLog h)
    rw [reached_concat] at hturn
    exact explained_of_turn hturn explained_after_running hlast.concat

theorem nothing_to_ask_of_created
    (h : statusLog start passes = .ok (earlier ++ entry :: later))
    (hbefore : entry.before.phase ≠ some .creating) (hphase : entry.phase = some .creating) :
    entry.pass.discovered entry.before = [] ∧
      entry.pass.cluster.annotation? Annotation.importedAddress = none := by
  have hturn := turn_of_statusLog h
  rw [← (entry_of_statusLog h).1] at hturn
  cases hturn with
  | nothingToAsk hdiscovered hannotation _ => exact ⟨hdiscovered, hannotation⟩
  | confirmed _ _ _ hrunning =>
    rw [StatusEntry.phase, hrunning] at hphase
    cases hphase
  | lost _ hunknown =>
    rw [StatusEntry.phase, hunknown] at hphase
    cases hphase
  | kept _ hkept => exact absurd (hkept.symm.trans hphase) hbefore

end Log

theorem phase_history (passes : List StatusPass) :
    ∃ log, statusLog .initial passes = .ok log ∧ log.map (·.pass) = passes ∧
      ∀ earlier entry later, log = earlier ++ entry :: later →
        entry.phase ∈ [none, some .creating, some .running, some .unknown] ∧
        (entry.phase = none → ∀ past ∈ earlier, past.phase = none) ∧
        (entry.phase = some .unknown → ∃ before running between,
          earlier = before ++ running :: between ∧ running.phase = some .running ∧
            ∀ past ∈ between, past.phase = some .unknown) ∧
        (entry.before.phase ≠ some .creating → entry.phase = some .creating →
          entry.pass.discovered entry.before = [] ∧
            entry.pass.cluster.annotation? Annotation.importedAddress = none) := by
  obtain ⟨log, hlog, hpasses⟩ := exists_statusLog .initial passes
  refine ⟨log, hlog, hpasses, ?_⟩
  intro earlier entry later hsplit
  rw [hsplit] at hlog
  have hexplained := explained_of_statusLog hlog
  exact ⟨hexplained.known, hexplained.firm, hexplained.fallen, nothing_to_ask_of_created hlog⟩

/-! ## A running cluster can always be asked again -/

namespace MemberHealth

def Addressed (member : MemberHealth) : Prop :=
  member.endpoint ≠ "" ∨ ∃ url, member.extensionClientUrl = some url ∧ url ≠ ""

theorem exists_memberEndpoint? {member : MemberHealth} (h : member.Addressed) :
    ∃ endpoint, Cluster.memberEndpoint? member.toStatus = some endpoint := by
  by_cases hurl : member.toStatus.extensionClientUrl = ""
  · have hendpoint : member.toStatus.endpoint ≠ "" := by
      rcases h with hendpoint | ⟨url, hsome, hne⟩
      · exact hendpoint
      · refine absurd ?_ hne
        rw [toStatus, hsome] at hurl
        exact hurl
    exact ⟨member.toStatus.endpoint, by simp [Cluster.memberEndpoint?, hurl, hendpoint]⟩
  · exact ⟨member.toStatus.extensionClientUrl, by simp [Cluster.memberEndpoint?, hurl]⟩

end MemberHealth

/-- Members that make a running cluster are not all learners. -/
theorem exists_voter_of_running {members : List MemberHealth}
    (h : ClusterPhase.ofMembers members = .running) :
    ∃ member ∈ members, member.role ≠ some .learner := by
  unfold ClusterPhase.ofMembers at h
  split at h
  · rename_i hcondition
    simp only [Bool.and_eq_true, Bool.or_eq_true] at hcondition
    obtain ⟨⟨hsome, _⟩, hroles⟩ := hcondition
    rcases hroles with hnone | hleader
    · cases members with
      | nil => cases hsome
      | cons first rest =>
        have hfirst : first.role = none := by
          simpa using List.all_eq_true.1 hnone first List.mem_cons_self
        exact ⟨first, List.mem_cons_self, by rw [hfirst]; nofun⟩
    · obtain ⟨leader, hmem, hleads⟩ := List.any_eq_true.1 hleader
      have hrole : leader.role = some .leader := by
        simpa using (Bool.and_eq_true_iff.1 hleads).2
      exact ⟨leader, hmem, by rw [hrole]; nofun⟩
  · cases h

theorem recordedEndpoints_ne_nil {cluster : Cluster} {members : List MemberHealth}
    (hrunning : ClusterPhase.ofMembers members = .running)
    (haddressed : ∀ member ∈ members, member.Addressed)
    (hrecorded : cluster.status.members = members.map MemberHealth.toStatus) :
    cluster.recordedEndpoints ≠ [] := by
  obtain ⟨member, hmem, hrole⟩ := exists_voter_of_running hrunning
  obtain ⟨endpoint, hendpoint⟩ := MemberHealth.exists_memberEndpoint? (haddressed member hmem)
  have hvoter : member.toStatus ∈
      cluster.status.members.filter fun recorded => recorded.role != some .learner := by
    rw [List.mem_filter, hrecorded]
    exact ⟨List.mem_map_of_mem hmem, by simpa [MemberHealth.toStatus] using hrole⟩
  exact List.ne_nil_of_mem (List.mem_filterMap.2 ⟨member.toStatus, hvoter, hendpoint⟩)

namespace StatusPass

/-- Endpoints are those of the recorded members, and every answer says how to reach its members. -/
structure Recording (pass : StatusPass) : Prop where
  discover_eq : pass.discover = Cluster.recordedEndpoints
  addressed : ∀ request members, pass.probe request = .ok members →
    ∀ member ∈ members, member.Addressed

theorem recordedEndpoints_of_running {pass : StatusPass} {before after : ClusterStatus}
    (hrecording : pass.Recording) (hturn : pass.Turn before after)
    (hphase : after.phase = some .running) (next : StatusPass) :
    (next.subject after).recordedEndpoints ≠ [] := by
  cases hturn with
  | nothingToAsk _ _ hcreating =>
    rw [hcreating] at hphase
    cases hphase
  | confirmed hanswer hrunning hrecorded _ =>
    exact recordedEndpoints_ne_nil hrunning (hrecording.addressed _ _ hanswer) hrecorded
  | lost _ hunknown =>
    rw [hunknown] at hphase
    cases hphase
  | kept hrunning hkept => exact absurd (hkept.symm.trans hphase) hrunning

theorem phase_ne_creating_of_running {pass : StatusPass} {before after : ClusterStatus}
    (hturn : pass.Turn before after) (hbefore : before.phase = some .running)
    (hdiscovered : pass.discovered before ≠ []) : after.phase ≠ some .creating := by
  cases hturn with
  | nothingToAsk hnone _ _ => exact absurd hnone hdiscovered
  | confirmed _ _ _ hrunning => rw [hrunning]; nofun
  | lost _ hunknown => rw [hunknown]; nofun
  | kept hrunning _ => exact absurd hbefore hrunning

end StatusPass

theorem running_never_falls_back {start : ClusterStatus} {passes : List StatusPass}
    (hstart : start.phase ≠ some .running) (hpasses : ∀ pass ∈ passes, pass.Recording) :
    ∃ log, statusLog start passes = .ok log ∧ log.map (·.pass) = passes ∧
      ∀ entry ∈ log, entry.before.phase = some .running →
        (entry.pass.subject entry.before).recordedEndpoints ≠ [] ∧
          entry.phase ≠ some .creating := by
  obtain ⟨log, hlog, hmap⟩ := exists_statusLog start passes
  refine ⟨log, hlog, hmap, ?_⟩
  intro entry hentry hbefore
  have hrecording : ∀ made ∈ log, made.pass.Recording := by
    intro made hmade
    refine hpasses made.pass ?_
    rw [← hmap]
    exact List.mem_map_of_mem hmade
  obtain ⟨earlier, later, rfl⟩ := List.append_of_mem hentry
  have hturn := turn_of_statusLog hlog
  rw [← (entry_of_statusLog hlog).1] at hturn
  have hendpoints : (entry.pass.subject entry.before).recordedEndpoints ≠ [] := by
    rw [(entry_of_statusLog hlog).1] at hbefore ⊢
    rcases List.eq_nil_or_concat earlier with rfl | ⟨past, last, hpast⟩
    · exact absurd hbefore hstart
    · obtain rfl : earlier = past ++ [last] := by rw [hpast, List.concat_eq_append]
      rw [reached_concat] at hbefore ⊢
      rw [List.append_assoc] at hlog
      exact StatusPass.recordedEndpoints_of_running (hrecording last (by simp))
        (turn_of_statusLog hlog) hbefore entry.pass
  refine ⟨hendpoints, StatusPass.phase_ne_creating_of_running hturn hbefore ?_⟩
  rw [StatusPass.discovered, (hrecording entry hentry).discover_eq]
  exact hendpoints

def loneLeader : MemberHealth where
  name := "etcd-a-0"
  memberId := 1
  endpoint := "http://etcd-a-0:2379"
  extensionClientUrl := none
  version := none
  role := some .leader
  reachable := true
  revision := none
  raftTerm := none
  error := none

def loneStatus (phase : ClusterPhase) : ClusterStatus := ⟨some phase, "", [loneLeader.toStatus]⟩

def steadyPass : StatusPass where
  cluster := { Cluster.blank with spec.size := 1 }
  discover := Cluster.recordedEndpoints
  tls := none
  probe _ := .ok [loneLeader]

theorem steadyPass_recording : steadyPass.Recording := by
  refine ⟨rfl, ?_⟩
  intro request members hanswer member hmember
  obtain rfl := Except.ok.inj hanswer
  obtain rfl := List.mem_singleton.1 hmember
  exact .inl (by decide)

/-- A cluster is found running, and asked again without any imported address. -/
theorem running_never_falls_back_steady :
    (loneStatus .creating).phase ≠ some .running ∧
      (∀ pass ∈ [steadyPass, steadyPass], pass.Recording) ∧
      ∃ first second,
        statusLog (loneStatus .creating) [steadyPass, steadyPass] = .ok [first, second] ∧
        second.before.phase = some .running ∧ second.phase ≠ some .creating := by
  have hstart : (loneStatus .creating).phase ≠ some .running := by decide
  have hpasses : ∀ pass ∈ [steadyPass, steadyPass], pass.Recording := by
    intro pass hpass
    obtain rfl : pass = steadyPass := by simpa using hpass
    exact steadyPass_recording
  have hlog : statusLog (loneStatus .creating) [steadyPass, steadyPass] =
      .ok [⟨steadyPass, loneStatus .creating, ⟨loneStatus .running, none⟩⟩,
        ⟨steadyPass, loneStatus .running, ⟨loneStatus .running, none⟩⟩] := rfl
  obtain ⟨log, hsame, _, hentries⟩ := running_never_falls_back hstart hpasses
  obtain rfl := Except.ok.inj (hlog.symm.trans hsame)
  exact ⟨hstart, hpasses, _, _, hlog, rfl, (hentries _ (by simp) rfl).2⟩

end EtcdFleet
