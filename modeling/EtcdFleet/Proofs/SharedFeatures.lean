import EtcdFleet.Proofs.BuiltinFeatures
import EtcdFleet.Proofs.FeatureCalls
import EtcdFleet.Proofs.FeatureHistory
import EtcdFleet.Rehearsal.Inspection

set_option autoImplicit false

/-!
# One shared feature for each name

Any number of calls of one manager, in any interleaving, while features are registered and connections fail
or succeed. The registry makes a feature once at most, the connector is asked until it first succeeds, and a
call that meets a failure of either returns it; only the call for all features that are switched on passes over
what is not registered.
-/

namespace EtcdFleet.Sharing

variable {σ Call : Type} {Reply : Call → Type} {backend : Backend Call Reply}

inductive Job
  | manage (call : ManagerCall)
  | register (slot name : String)

abbrev Work {Call : Type} (Reply : Call → Type) :=
  Program (SharedCall Call) (SharedReply Reply) Answer

def Job.program (backend : Backend Call Reply) : Job → Work Reply
  | manage call => onShared (call.work backend)
  | register slot name =>
    Program.ask (.register slot name) fun reply => Program.done (reply.map fun () => .done)

/-- Jobs at any point of their work, where nothing was shared at first. -/
structure Run (connector : Inspections.Connector σ) (handle : Program.Handler Call Reply σ)
    (backend : Backend Call Reply) (jobs : Nat → Job) (initial : Inspections σ)
    (talk : List (Exchange Reply)) (state : Inspections σ) (current : Nat → Work Reply) : Prop where
  slots : initial.slots = .empty
  makes : Makes initial.registry
  interleaved :
    Program.Interleaved (Inspections.sharedHandler connector handle)
      (fun client => (jobs client).program backend) initial talk state current

section Runs

variable {connector : Inspections.Connector σ} {handle : Program.Handler Call Reply σ}
  {jobs : Nat → Job} {initial state : Inspections σ} {talk : List (Exchange Reply)}
  {current : Nat → Work Reply}

def Ended (backend : Backend Call Reply) (job : Job) (told : List (Exchange Reply))
    (result : Except ProviderError Answer) (later : Inspections σ) : Prop :=
  ∀ call, job = .manage call →
    Reckoned backend call.Passes call.slots told result ∧ call.Good result later

theorem assures_job (client : Nat) (job : Job) (state : Inspections σ) :
    (terms connector handle).Assures client (Ended backend job) [] (job.program backend) state := by
  cases job with
  | register slot name =>
    intro later _
    exact ⟨trivial, fun _ _ => nofun⟩
  | manage call =>
    apply (ends_work call state []).mono
    rintro _ result later _ ⟨asked, hasked, hended⟩
    rintro _ ⟨⟩
    rw [hasked]
    exact hended

/-- The failure is what the connector has replied to somebody. -/
def ConnectorFailed (connector : Inspections.Connector σ) (handle : Program.Handler Call Reply σ)
    (initial : Inspections σ) (asked talk : List (Exchange Reply)) (failure : ProviderError) : Prop :=
  ∃ before exchange after, talk = before ++ exchange :: after ∧ exchange ∈ asked ∧
    refusal? exchange = some failure ∧
    (connector (Program.stateAfter (Inspections.sharedHandler connector handle) initial
      before).outside).reply = .error failure

namespace Run

variable (h : Run connector handle backend jobs initial talk state current)

include h

theorem assured : (terms connector handle).Kept initial talk ∧ ∀ client,
    (terms connector handle).Assures client (Ended backend (jobs client))
      (Program.own client talk) (current client) state :=
  h.interleaved.assures fun client => assures_job client (jobs client) initial

theorem ended {client : Nat} {result : Except ProviderError Answer}
    (hdone : current client = .done result) :
    Ended backend (jobs client) (Program.own client talk) result state := by
  have hassured := h.assured.2 client
  rw [hdone] at hassured
  exact hassured state (.refl state)

theorem explained {before after : List (Exchange Reply)} {exchange : Exchange Reply}
    (htalk : talk = before ++ exchange :: after) :
    Explained connector initial.registry before
      (Program.stateAfter (Inspections.sharedHandler connector handle) initial before) exchange
      (Program.stateAfter (Inspections.sharedHandler connector handle) initial
        (before ++ [exchange])) := by
  have htruth := h.interleaved.truthful
  have hkept := h.assured.1
  rw [htalk] at htruth hkept
  exact explained_of_talk h.slots h.makes htruth hkept

theorem ledger : Ledger initial.registry talk state := by
  rw [h.interleaved.state_eq]
  exact ledger_of_talk h.slots h.makes h.interleaved.truthful h.assured.1

theorem refused {exchange : Exchange Reply} {failure : ProviderError}
    (hexchange : exchange ∈ talk) (hrefusal : refusal? exchange = some failure) :
    Unknown failure ∨ ∃ before after, talk = before ++ exchange :: after ∧
      (connector (Program.stateAfter (Inspections.sharedHandler connector handle) initial
        before).outside).reply = .error failure := by
  obtain ⟨before, after, htalk⟩ := List.append_of_mem hexchange
  have hexplained := h.explained htalk
  obtain ⟨asker, call, reply⟩ := exchange
  cases call with
  | register slot name => cases hrefusal
  | use call =>
    cases call with
    | find slot => cases hrefusal
    | require feature => cases hrefusal
    | backend call => cases hrefusal
    | build slot =>
      obtain ⟨_, hregistered, hunknown⟩ := hexplained
      have hreply : reply = .error failure := eq_error_of_refusal_build hrefusal
      by_cases hslot : Registered initial.registry before slot
      · obtain ⟨feature, hok, _⟩ := hregistered hslot
        cases hok.symm.trans hreply
      · obtain ⟨herror, _⟩ := hunknown hslot
        exact .inl ⟨_, _, (Except.error.inj (herror.symm.trans hreply)).symm⟩
    | connect feature =>
      obtain ⟨_, hconnected, hunconnected⟩ := hexplained
      have hreply : reply = .error failure := eq_error_of_refusal_connect hrefusal
      by_cases hfeature : Connected before feature
      · cases (hconnected hfeature).1.symm.trans hreply
      · exact .inr ⟨before, after, htalk, (hunconnected hfeature).1.symm.trans hreply⟩

theorem fails_uninitialized {client : Nat} {call : ManagerCall} {name : String}
    (hcall : jobs client = .manage call)
    (hdone : current client = .done (.error (.featureNotInitialized name))) :
    ConnectorFailed connector handle initial (Program.own client talk) talk
        (.featureNotInitialized name) ∨
      FailedIn backend (Program.own client talk) (.featureNotInitialized name) := by
  obtain ⟨⟨tried, rest, _, haccounted, _⟩, _⟩ := h.ended hdone call hcall
  rcases haccounted.failures _ rfl with hrefusal | hfailed
  · obtain ⟨exchange, hexchange, htells⟩ := List.mem_filterMap.1 hrefusal
    rcases h.refused ((List.mem_filter.1 hexchange).1) htells with
      ⟨_, _, hunknown⟩ | ⟨before, after, htalk, hreply⟩
    · cases hunknown
    · exact .inl ⟨before, exchange, after, htalk, hexchange, htells, hreply⟩
  · exact .inr hfailed

end Run

/-- Each name has one feature, made once at most and connected once; what the manager's calls come to. -/
theorem one_shared_feature_per_name
    (h : Run connector handle backend jobs initial talk state current) :
    (∀ slot, constructions connector handle slot initial talk ≤ 1) ∧
    (∀ before exchange after, talk = before ++ exchange :: after →
      Explained connector initial.registry before
        (Program.stateAfter (Inspections.sharedHandler connector handle) initial before) exchange
        (Program.stateAfter (Inspections.sharedHandler connector handle) initial
          (before ++ [exchange]))) ∧
    (∀ client call, jobs client = .manage call →
      (∃ more later final result,
        Program.Interleaved (Inspections.sharedHandler connector handle) current state more later
          final ∧ final client = .done result) ∧
      ∀ result, current client = .done result →
        Reckoned backend call.Passes call.slots (Program.own client talk) result ∧
        (∀ feature, result = .ok (.provided feature) →
          feature.slot ∈ call.slots ∧ Connected talk feature) ∧
        ∀ name, result = .error (.featureNotInitialized name) →
          ConnectorFailed connector handle initial (Program.own client talk) talk
              (.featureNotInitialized name) ∨
            FailedIn backend (Program.own client talk) (.featureNotInitialized name)) := by
  refine ⟨constructions_le_one h.assured.1, fun _ _ _ => h.explained, ?_⟩
  intro client call hcall
  constructor
  · have hstart : Program.Interleaved (Inspections.sharedHandler connector handle) current state []
        state current := .start
    obtain ⟨more, hmore⟩ := hstart.finish client
    exact ⟨more, _, _, _, hmore, Function.update_self ..⟩
  · intro result hdone
    obtain ⟨hreckoned, hgood⟩ := h.ended hdone call hcall
    refine ⟨hreckoned, ?_, ?_⟩
    · intro feature hfeature
      obtain ⟨hslot, hheld⟩ := hgood feature hfeature
      exact ⟨hslot, (h.ledger.connected feature).1 hheld⟩
    · rintro name rfl
      exact h.fails_uninitialized hcall hdone

end Runs

/-! ## A failed connection -/

theorem makes_builtin : Makes .builtin :=
  fun slot _ hmaker => ⟨slot, Registry.eq_featureMaker_of_builtin hmaker⟩

def benchStart (connectionFailures : List ProviderError) : Inspections InspectionBench :=
  ⟨.builtin, .empty, .start connectionFailures⟩

abbrev BenchRun (jobs : Nat → Job) (connectionFailures : List ProviderError)
    (talk : List (Exchange TaskReply)) (state : Inspections InspectionBench)
    (current : Nat → Work TaskReply) : Prop :=
  Run (InspectionBench.connector .etcdInspection) InspectionBench.handler
    (.ofStore .etcdInspection) jobs (benchStart connectionFailures) talk state current

theorem benchRun_start (jobs : Nat → Job) (connectionFailures : List ProviderError) :
    BenchRun jobs connectionFailures [] (benchStart connectionFailures)
      fun client => (jobs client).program (.ofStore .etcdInspection) :=
  ⟨rfl, makes_builtin, .start⟩

/-- Two clients want one feature, two another that is registered between them. -/
def latecomers : Nat → Job
  | 0 | 1 => .manage (.provide "request")
  | 2 => .manage (.provide "usage")
  | 3 => .register "usage" "usage"
  | _ => .manage (.provide "usage")

/-- The first two race for the feature, and only the second is connected. -/
theorem one_shared_feature_per_name_latecomers :
    ∃ talk state current, BenchRun latecomers [.probe "down"] talk state current ∧
      current 0 = .done (.error (.probe "down")) ∧
      current 1 = .done (.ok (.provided ⟨"request", "request"⟩)) ∧
      current 2 = .done (.error (.providerNotFound .feature "usage")) ∧
      current 4 = .done (.ok (.provided ⟨"usage", "usage"⟩)) ∧
      constructions (InspectionBench.connector .etcdInspection) InspectionBench.handler "request"
        (benchStart [.probe "down"]) talk ≤ 1 ∧
      Connected talk ⟨"usage", "usage"⟩ := by
  have hstart := benchRun_start latecomers [.probe "down"]
  have hlooked := hstart.interleaved.answer 1 rfl
  obtain ⟨_, hfailed⟩ := hlooked.finish 0
  obtain ⟨_, hconnected⟩ := hfailed.finish 1
  obtain ⟨_, hunknown⟩ := hconnected.finish 2
  obtain ⟨_, hregistered⟩ := hunknown.finish 3
  obtain ⟨_, hprovided⟩ := hregistered.finish 4
  have hrun : BenchRun latecomers [.probe "down"] _ _ _ := ⟨rfl, makes_builtin, hprovided⟩
  obtain ⟨hmade, _, hcalls⟩ := one_shared_feature_per_name hrun
  obtain ⟨_, hended⟩ := hcalls 4 (.provide "usage") rfl
  obtain ⟨_, hfeature, _⟩ := hended _ rfl
  exact ⟨_, _, _, hrun, rfl, rfl, rfl, rfl, hmade "request", (hfeature ⟨"usage", "usage"⟩ rfl).2⟩

def gatedCluster : Cluster :=
  Operated.smallCluster.annotate Annotation.featureGates "request=true"

/-- The connection fails as if nothing were registered, and the call ends well. -/
theorem exists_swallowed_connection_failure :
    ∃ talk state current,
      BenchRun (fun _ => .manage (.reconcileEnabled gatedCluster))
        [.providerNotFound .feature "request"] talk state current ∧
      (⟨0, .use (.connect ⟨"request", "request"⟩), .error (.providerNotFound .feature "request")⟩ :
        Exchange TaskReply) ∈ Program.own 0 talk ∧
      current 0 = .done (.ok (.enabled [])) := by
  have hstart := benchRun_start (fun _ => .manage (.reconcileEnabled gatedCluster))
    [.providerNotFound .feature "request"]
  have hlooked := hstart.interleaved.answer 0 rfl
  have hbuilt := hlooked.answer 0 rfl
  have hfailed := hbuilt.answer 0 rfl
  obtain ⟨more, hdone⟩ := hfailed.finish 0
  refine ⟨_, _, _, ⟨rfl, makes_builtin, hdone⟩, ?_, rfl⟩
  rw [Program.own, List.filter_append]
  exact List.mem_append_left _ (List.mem_cons_of_mem _ (List.mem_cons_of_mem _ List.mem_cons_self))

end EtcdFleet.Sharing
