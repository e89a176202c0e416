import Mathlib.Data.List.Forall2
import EtcdFleet.Proofs.PhaseHistory

set_option autoImplicit false

/-!
# What one status pass reports

A pass with nobody to ask reports a cluster that is being created, and changes nothing else. Any other pass
asks once. Its answer counts if it is about exactly as many members as there are meant to be: then it becomes
the view of the members, and it speaks for a running cluster if all of them are reachable and, where roles
are told, one leads. Whatever does not speak for a running cluster only takes away that it runs.
-/

namespace EtcdFleet

/-! ## Hexadecimal numerals -/

namespace Text

/-- Lower case digits without a leading zero that are read as the number. -/
structure IsHexadecimal (n : Nat) (text : String) : Prop where
  digits : ∀ c ∈ text.toList, c.isDigit = true ∨ ('a' ≤ c ∧ c ≤ 'f')
  nonempty : text ≠ ""
  leading : text.toList.head? = some '0' → text = "0"
  value : hexNumber? text.toList = some n

theorem hexDigit?_digitChar : ∀ d < 16, hexDigit? (Nat.digitChar d) = some d := by decide

theorem digitChar_lower : ∀ d < 16,
    (Nat.digitChar d).isDigit = true ∨ ('a' ≤ Nat.digitChar d ∧ Nat.digitChar d ≤ 'f') := by decide

theorem eq_zero_of_digitChar : ∀ d < 16, Nat.digitChar d = '0' → d = 0 := by decide

theorem hexNumber?_concat (cs : List Char) (c : Char) :
    hexNumber? (cs ++ [c]) =
      (hexNumber? cs).bind fun value => (hexDigit? c).map (value * 16 + ·) := by
  rw [hexNumber?, List.foldlM_append]
  change ((hexNumber? cs).bind fun value => _) = _
  cases hexNumber? cs <;> simp

/-- A numeral is a single digit, or the numeral of a number and one digit more. -/
theorem hexDigits_induction {motive : Nat → List Char → Prop}
    (single : ∀ d < 16, motive d [Nat.digitChar d])
    (concat : ∀ n d, 0 < n → d < 16 → motive n (Nat.toDigits 16 n) →
      motive (16 * n + d) (Nat.toDigits 16 n ++ [Nat.digitChar d])) (n : Nat) :
    motive n (Nat.toDigits 16 n) := by
  induction n using Nat.strongRecOn with
  | ind n ih =>
    by_cases hsmall : n < 16
    · rw [Nat.toDigits_of_lt_base hsmall]
      exact single n hsmall
    · have hmore := concat (n / 16) (n % 16) (by omega) (Nat.mod_lt n (by decide))
        (ih (n / 16) (by omega))
      rw [Nat.toDigits_of_base_le (by decide) (by omega)]
      rwa [Nat.div_add_mod] at hmore

theorem hexNumber?_toDigits (n : Nat) : hexNumber? (Nat.toDigits 16 n) = some n := by
  refine hexDigits_induction (motive := fun n cs => hexNumber? cs = some n) ?_ ?_ n
  · intro d hd
    rw [← List.nil_append [d.digitChar], hexNumber?_concat, hexDigit?_digitChar d hd]
    simp [hexNumber?]
  · intro n d _ hd ih
    rw [hexNumber?_concat, ih, hexDigit?_digitChar d hd, Option.bind_some, Option.map_some,
      Nat.mul_comm]

theorem lower_of_mem_toDigits (n : Nat) :
    ∀ c ∈ Nat.toDigits 16 n, c.isDigit = true ∨ ('a' ≤ c ∧ c ≤ 'f') := by
  refine hexDigits_induction
    (motive := fun _ cs => ∀ c ∈ cs, c.isDigit = true ∨ ('a' ≤ c ∧ c ≤ 'f')) ?_ ?_ n
  · intro d hd c hc
    rw [List.mem_singleton.1 hc]
    exact digitChar_lower d hd
  · intro n d _ hd ih c hc
    rcases List.mem_append.1 hc with hearlier | hlast
    · exact ih c hearlier
    · rw [List.mem_singleton.1 hlast]
      exact digitChar_lower d hd

theorem eq_zero_of_head?_toDigits (n : Nat) :
    (Nat.toDigits 16 n).head? = some '0' → n = 0 := by
  refine hexDigits_induction (motive := fun n cs => cs.head? = some '0' → n = 0) ?_ ?_ n
  · intro d hd hhead
    exact eq_zero_of_digitChar d hd (Option.some.inj hhead)
  · intro n d hpos _ ih hhead
    rw [List.head?_append_of_ne_nil _ Nat.toDigits_ne_nil] at hhead
    exact absurd (ih hhead) (Nat.ne_of_gt hpos)

theorem isHexadecimal_hexadecimal (n : Nat) : IsHexadecimal n (hexadecimal n) := by
  have htext : (hexadecimal n).toList = Nat.toDigits 16 n := String.toList_ofList
  refine ⟨?_, ?_, ?_, ?_⟩
  · intro c hc
    rw [htext] at hc
    exact lower_of_mem_toDigits n c hc
  · intro hempty
    rw [hempty] at htext
    exact Nat.toDigits_ne_nil htext.symm
  · intro hhead
    rw [htext] at hhead
    rw [eq_zero_of_head?_toDigits n hhead]
    rfl
  · rw [htext, hexNumber?_toDigits]

end Text

/-! ## What a complete answer says -/

namespace MemberHealth

structure RecordedAs (member : MemberHealth) (entry : MemberStatus) : Prop where
  name : entry.name = member.name
  endpoint : entry.endpoint = member.endpoint
  role : entry.role = member.role
  extensionClientUrl : entry.extensionClientUrl = member.extensionClientUrl.getD ""
  version : entry.version = member.version.getD ""
  running_iff : entry.phase = .running ↔ member.reachable = true
  memberId : Text.IsHexadecimal member.memberId.toNat entry.memberId

theorem recordedAs_toStatus (member : MemberHealth) : member.RecordedAs member.toStatus where
  name := rfl
  endpoint := rfl
  role := rfl
  extensionClientUrl := rfl
  version := rfl
  running_iff := by
    rw [toStatus]
    cases member.reachable <;> simp
  memberId := Text.isHexadecimal_hexadecimal member.memberId.toNat

theorem forall₂_recordedAs (members : List MemberHealth) :
    List.Forall₂ RecordedAs members (members.map toStatus) := by
  rw [List.forall₂_map_right_iff, List.forall₂_same]
  exact fun member _ => recordedAs_toStatus member

end MemberHealth

/-- Every member is reachable and, where any of them has a role, one leads. -/
def Healthy (members : List MemberHealth) : Prop :=
  (∀ member ∈ members, member.reachable = true) ∧
    ((∃ member ∈ members, member.role ≠ none) → ∃ member ∈ members, member.role = some .leader)

namespace ClusterPhase

variable {members : List MemberHealth}

theorem leads_of_roles (hreachable : ∀ member ∈ members, member.reachable = true) :
    (members.all (·.role.isNone) || members.any (·.leads)) = true ↔
      ((∃ member ∈ members, member.role ≠ none) → ∃ member ∈ members, member.role = some .leader) := by
  have hleads : members.any (·.leads) = true ↔ ∃ member ∈ members, member.role = some .leader := by
    rw [List.any_eq_true]
    refine exists_congr fun member => and_congr_right fun hmem => ?_
    rw [MemberHealth.leads, hreachable member hmem]
    simp
  have hnone : members.all (·.role.isNone) = true ↔ ¬ ∃ member ∈ members, member.role ≠ none := by
    simp
  rw [Bool.or_eq_true, hleads, hnone, imp_iff_not_or]

theorem ofMembers_eq_running_iff :
    ofMembers members = .running ↔ members ≠ [] ∧ Healthy members := by
  have hrunning : ofMembers members = .running ↔
      (!members.isEmpty && members.all (·.reachable) &&
        (members.all (·.role.isNone) || members.any (·.leads))) = true := by
    rw [ofMembers]
    split <;> simp [*]
  rw [hrunning, Bool.and_eq_true, Bool.and_eq_true, Healthy, and_assoc]
  refine and_congr (by simp) ?_
  rw [List.all_eq_true]
  exact and_congr_right fun hreachable => leads_of_roles hreachable

theorem ofMembers_cases (members : List MemberHealth) :
    ofMembers members = .running ∨ ofMembers members = .unknown := by
  rw [ofMembers]
  split
  · exact .inl rfl
  · exact .inr rfl

theorem degrade_eq (previous : Option ClusterPhase) :
    degrade previous = if previous = some .running then some .unknown else previous := by
  by_cases hrunning : previous = some .running
  · rw [hrunning]
    rfl
  · rw [if_neg hrunning]
    unfold degrade
    split
    · exact absurd rfl hrunning
    · rfl

theorem resolve_of_running (previous : Option ClusterPhase) : resolve previous .running = some .running := by
  rw [resolve, if_pos (.inr (by decide))]

theorem resolve_of_unknown (previous : Option ClusterPhase) :
    resolve previous .unknown = degrade previous := by
  rw [degrade_eq, resolve]
  simp

end ClusterPhase

/-! ## One pass -/

theorem Program.run_request_bind {Call : Type} {Reply : Call → Type} {α σ : Type}
    (handle : Handler Call Reply σ) (call : Call) (next : Reply call → Program Call Reply α)
    (state : σ) :
    (request call >>= next).run handle state =
      { (next (handle call state).reply).run handle (handle call state).state with
        events := (handle call state).events ++
          ((next (handle call state).reply).run handle (handle call state).state).events } := rfl

namespace Cluster

variable {cluster : Cluster} {discovered : List String} {tls : Option TlsFiles}
  {members : List MemberHealth} {answer : Except ProviderError (List MemberHealth)}

/-- The answer is about exactly the members that there are meant to be. -/
def Complete (cluster : Cluster) (members : List MemberHealth) : Prop :=
  members ≠ [] ∧ members.length = cluster.spec.size.toNat

theorem isComplete_iff : cluster.isComplete members = true ↔ cluster.Complete members := by
  rw [isComplete, Complete, Bool.and_eq_true, beq_iff_eq]
  simp

def Confirms (cluster : Cluster) (answer : Except ProviderError (List MemberHealth)) : Prop :=
  ∃ members, answer = .ok members ∧ cluster.Complete members ∧ Healthy members

theorem confirms_ok_iff :
    cluster.Confirms (.ok members) ↔ cluster.Complete members ∧ Healthy members := by
  constructor
  · rintro ⟨_, heq, h⟩
    obtain rfl := Except.ok.inj heq
    exact h
  · exact fun h => ⟨members, rfl, h⟩

theorem probeEndpoints_eq (cluster : Cluster) (discovered : List String) :
    cluster.probeEndpoints discovered =
      if discovered = [] then (cluster.annotation? Annotation.importedAddress).toList
      else discovered := by
  cases discovered <;> rfl

theorem run_statusPass_of_no_endpoint {σ : Type} (handle : Program.Handler ProbeRequest ProbeReply σ)
    (state : σ) (tls : Option TlsFiles) (h : cluster.probeEndpoints discovered = []) :
    (cluster.statusPass discovered tls).run handle state =
      ⟨.ok ⟨{ cluster.status with phase := some .creating }, none⟩, [], state⟩ := by
  rw [statusPass, h]
  rfl

/-- Any other pass asks a prober once, and what it reports depends on the answer only. -/
theorem run_statusPass_of_endpoints {σ : Type} (handle : Program.Handler ProbeRequest ProbeReply σ)
    (state : σ) (tls : Option TlsFiles) (h : cluster.probeEndpoints discovered ≠ []) :
    let answered := handle ⟨cluster.probeEndpoints discovered,
      cluster.annotation? Annotation.extensionClientUrls, tls⟩ state
    (cluster.statusPass discovered tls).run handle state =
      ⟨.ok (cluster.afterProbe (cluster.statusToProbe discovered) answered.reply),
        answered.events ++ cluster.probeEvents answered.reply, answered.state⟩ := by
  intro answered
  obtain ⟨first, rest, hendpoints⟩ := List.exists_cons_of_ne_nil h
  have hanswered : answered = handle ⟨first :: rest,
      cluster.annotation? Annotation.extensionClientUrls, tls⟩ state := by
    rw [← hendpoints]
  rw [statusPass, hendpoints, hanswered]
  refine (Program.run_request_bind handle _ _ state).trans ?_
  rw [Program.run_forM_report]

/-- What the report of a pass says after an answer. -/
structure Reported (cluster : Cluster) (discovered : List String)
    (answer : Except ProviderError (List MemberHealth)) (report : StatusReport) : Prop where
  fallback : discovered = [] →
    cluster.annotation? Annotation.importedAddress = some report.status.serviceName
  direct : discovered ≠ [] → report.status.serviceName = cluster.status.serviceName
  running_iff : report.status.phase = some .running ↔ cluster.Confirms answer
  damped : ¬ cluster.Confirms answer → report.status.phase =
    if cluster.status.phase = some .running then some .unknown else cluster.status.phase
  members : ∀ members, answer = .ok members → cluster.Complete members →
    List.Forall₂ MemberHealth.RecordedAs members report.status.members
  unseen : (∀ members, answer = .ok members → ¬ cluster.Complete members) →
    report.status.members = cluster.status.members
  failure_iff : ∀ failure, report.failure = some failure ↔ answer = .error failure
  toExcept_eq : report.toExcept = answer.map fun _ => report.status

theorem statusToProbe_fields (cluster : Cluster) (discovered : List String) :
    (cluster.statusToProbe discovered).phase = cluster.status.phase ∧
      (cluster.statusToProbe discovered).members = cluster.status.members := by
  unfold statusToProbe
  split <;> exact ⟨rfl, rfl⟩

theorem phase_afterProbe_of_confirms (status : ClusterStatus) (h : cluster.Confirms answer) :
    (cluster.afterProbe status answer).status.phase = some .running := by
  obtain ⟨members, rfl, hcomplete, hhealthy⟩ := h
  have hrunning : ClusterPhase.ofMembers members = .running :=
    ClusterPhase.ofMembers_eq_running_iff.2 ⟨hcomplete.1, hhealthy⟩
  rw [afterProbe, if_pos (isComplete_iff.2 hcomplete)]
  dsimp only
  rw [hrunning, ClusterPhase.resolve_of_running]

theorem phase_afterProbe_of_not_confirms (status : ClusterStatus) (h : ¬ cluster.Confirms answer) :
    (cluster.afterProbe status answer).status.phase = ClusterPhase.degrade status.phase := by
  cases answer with
  | error failure => rfl
  | ok members =>
    rw [confirms_ok_iff] at h
    rw [afterProbe]
    by_cases hcomplete : cluster.isComplete members = true
    · have hunknown : ClusterPhase.ofMembers members = .unknown := by
        have hnot : ClusterPhase.ofMembers members ≠ .running := fun hrunning =>
          h ⟨isComplete_iff.1 hcomplete, (ClusterPhase.ofMembers_eq_running_iff.1 hrunning).2⟩
        exact (ClusterPhase.ofMembers_cases members).resolve_left hnot
      rw [if_pos hcomplete]
      dsimp only
      rw [hunknown, ClusterPhase.resolve_of_unknown]
    · rw [if_neg hcomplete]

theorem serviceName_afterProbe (status : ClusterStatus)
    (answer : Except ProviderError (List MemberHealth)) :
    (cluster.afterProbe status answer).status.serviceName = status.serviceName := by
  cases answer with
  | error failure => rfl
  | ok members =>
    rw [afterProbe]
    split <;> rfl

theorem members_afterProbe (status : ClusterStatus) (h : cluster.Complete members) :
    (cluster.afterProbe status (.ok members)).status.members = members.map MemberHealth.toStatus := by
  rw [afterProbe, if_pos (isComplete_iff.2 h)]

theorem members_afterProbe_of_not (status : ClusterStatus)
    (h : ∀ members, answer = .ok members → ¬ cluster.Complete members) :
    (cluster.afterProbe status answer).status.members = status.members := by
  cases answer with
  | error failure => rfl
  | ok members =>
    rw [afterProbe, if_neg fun hcomplete => h members rfl (isComplete_iff.1 hcomplete)]

theorem failure_afterProbe (status : ClusterStatus) (failure : ProviderError) :
    (cluster.afterProbe status answer).failure = some failure ↔ answer = .error failure := by
  cases answer with
  | error found => simp [afterProbe]
  | ok members =>
    rw [afterProbe]
    split <;> simp

theorem toExcept_afterProbe (status : ClusterStatus)
    (answer : Except ProviderError (List MemberHealth)) :
    (cluster.afterProbe status answer).toExcept =
      answer.map fun _ => (cluster.afterProbe status answer).status := by
  cases answer with
  | error failure => rfl
  | ok members =>
    rw [afterProbe]
    split <;> rfl

theorem serviceName_statusToProbe (address : String)
    (h : cluster.annotation? Annotation.importedAddress = some address) :
    (cluster.statusToProbe []).serviceName = address := by
  simp only [statusToProbe, h]

theorem statusToProbe_of_discovered (h : discovered ≠ []) :
    cluster.statusToProbe discovered = cluster.status := by
  obtain ⟨first, rest, rfl⟩ := List.exists_cons_of_ne_nil h
  rfl

theorem reported_afterProbe (h : cluster.probeEndpoints discovered ≠ [])
    (answer : Except ProviderError (List MemberHealth)) :
    cluster.Reported discovered answer
      (cluster.afterProbe (cluster.statusToProbe discovered) answer) := by
  obtain ⟨hphase, hmembers⟩ := statusToProbe_fields cluster discovered
  have hdamped : ¬ cluster.Confirms answer →
      (cluster.afterProbe (cluster.statusToProbe discovered) answer).status.phase =
        if cluster.status.phase = some .running then some .unknown else cluster.status.phase := by
    intro hnot
    rw [phase_afterProbe_of_not_confirms _ hnot, hphase, ClusterPhase.degrade_eq]
  refine ⟨?_, ?_, ⟨?_, phase_afterProbe_of_confirms _⟩, hdamped, ?_, ?_,
    failure_afterProbe _, toExcept_afterProbe _ answer⟩
  · rintro rfl
    obtain ⟨address, haddress⟩ : ∃ address,
        cluster.annotation? Annotation.importedAddress = some address := by
      rw [probeEndpoints_eq, if_pos rfl] at h
      cases himported : cluster.annotation? Annotation.importedAddress with
      | none => exact absurd (by rw [himported]; rfl) h
      | some address => exact ⟨address, rfl⟩
    rw [serviceName_afterProbe, serviceName_statusToProbe address haddress, haddress]
  · intro hdiscovered
    rw [serviceName_afterProbe, statusToProbe_of_discovered hdiscovered]
  · intro hrunning
    refine Classical.byContradiction fun hnot => ?_
    rw [hdamped hnot] at hrunning
    split at hrunning
    · cases hrunning
    · exact absurd hrunning ‹_›
  · rintro members rfl hcomplete
    rw [members_afterProbe _ hcomplete]
    exact MemberHealth.forall₂_recordedAs members
  · intro hnone
    rw [members_afterProbe_of_not _ hnone, hmembers]

def watched (probe : ProbeRequest → Except ProviderError (List MemberHealth)) :
    Program.Handler ProbeRequest ProbeReply (List ProbeRequest) := fun request asked =>
  ⟨probe request, [], asked ++ [request]⟩

/-- Whom a pass asks, and what it reports. -/
theorem statusPass_asks_once (cluster : Cluster) (discovered : List String) (tls : Option TlsFiles)
    (probe : ProbeRequest → Except ProviderError (List MemberHealth)) :
    let endpoints :=
      if discovered = [] then (cluster.annotation? Annotation.importedAddress).toList else discovered
    let request : ProbeRequest :=
      ⟨endpoints, cluster.annotation? Annotation.extensionClientUrls, tls⟩
    let pass := (cluster.statusPass discovered tls).run (watched probe) []
    ∃ report, pass.result = .ok report ∧
      (endpoints = [] → pass.state = [] ∧
        report = ⟨{ cluster.status with phase := some .creating }, none⟩) ∧
      (endpoints ≠ [] → pass.state = [request] ∧
        cluster.Reported discovered (probe request) report) := by
  intro endpoints request pass
  have hendpoints : cluster.probeEndpoints discovered = endpoints :=
    probeEndpoints_eq cluster discovered
  by_cases hnone : endpoints = []
  · have hpass := run_statusPass_of_no_endpoint (watched probe) [] tls (hendpoints.trans hnone)
    refine ⟨_, congrArg Program.Outcome.result hpass, fun _ => ⟨congrArg Program.Outcome.state hpass, rfl⟩,
      fun hsome => absurd hnone hsome⟩
  · have hasked : cluster.probeEndpoints discovered ≠ [] := by rwa [hendpoints]
    have hpass := run_statusPass_of_endpoints (watched probe) [] tls hasked
    rw [hendpoints] at hpass
    refine ⟨_, congrArg Program.Outcome.result hpass, fun hsome => absurd hsome hnone,
      fun _ => ⟨congrArg Program.Outcome.state hpass, ?_⟩⟩
    exact reported_afterProbe hasked (probe request)

end Cluster
end EtcdFleet
