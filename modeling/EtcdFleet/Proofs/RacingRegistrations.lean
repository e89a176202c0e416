import EtcdFleet.Proofs.Assurance
import EtcdFleet.Proofs.MakerTable

set_option autoImplicit false

/-!
# Registrations that race

Many clerks, each with one registration, and their registrations in any order. Every registration is made once, so
what is registered in the end does not depend on the order. Of clerks for one kind and name one succeeds, and the
others are told of a duplicate.
-/

namespace EtcdFleet.Registry

abbrev RegistrationReply (_ : Registration) : Type := Except ProviderError Unit

abbrev Clerk := Program Registration RegistrationReply Unit

/-- Whoever has nothing to register is done at once. -/
def clerk (entries : List Registration) (client : Nat) : Clerk :=
  match entries[client]? with
  | some entry => .ask entry .done
  | none => .done (.ok ())

structure Race (registry : Registry) (entries : List Registration)
    (talk : List (Program.Exchange Registration RegistrationReply)) (state : Registry)
    (current : Nat → Clerk) : Prop where
  interleaved : Program.Interleaved handler (clerk entries) registry talk state current
  done : ∀ client < entries.length, ∃ result, current client = .done result

/-- One clerk succeeded, and the others were told of a duplicate. -/
def OneWinner (kind : ProviderKind) (name : String) (entries : List Registration)
    (current : Nat → Clerk) : Prop :=
  ∃ winner < entries.length, current winner = .done (.ok ()) ∧
    ∀ other < entries.length, other ≠ winner →
      current other = .done (.error (.duplicateProvider kind name))

variable {registry state : Registry} {entries : List Registration}
  {talk : List (Program.Exchange Registration RegistrationReply)} {current : Nat → Clerk}
  {kind : ProviderKind} {name : String}

theorem exists_race (registry : Registry) (entries : List Registration) :
    ∃ talk state current, Race registry entries talk state current := by
  obtain ⟨talk, state, current, hrun, hdone⟩ :=
    Program.exists_finished handler (clerk entries) registry entries.length
  exact ⟨talk, state, current, hrun, hdone⟩

theorem eq_nil_of_follows_done {result : Except ProviderError Unit} {final : Clerk}
    (h : Program.Follows (.done result) talk final) : talk = [] := by
  cases h
  rfl

theorem Race.own (h : Race registry entries talk state current) {client : Nat}
    (hclient : client < entries.length) :
    ∃ reply, Program.own client talk = [⟨client, entries[client], reply⟩] ∧
      current client = .done reply := by
  have hfollows := h.interleaved.follows client
  obtain ⟨result, hresult⟩ := h.done client hclient
  rw [clerk, List.getElem?_eq_getElem hclient, hresult] at hfollows
  generalize hown : Program.own client talk = own at hfollows
  -- A clerk that has ended has asked, and after the reply there is nothing left to ask.
  cases hfollows with
  | @answer mover _ reply _ _ rest hrest =>
    obtain rfl := eq_nil_of_follows_done hrest
    cases hrest
    have hmem : (⟨mover, entries[client], result⟩ : Program.Exchange _ _) ∈ Program.own client talk := by
      rw [hown]
      exact List.mem_cons_self
    obtain rfl : mover = client := by simpa using (List.mem_filter.1 hmem).2
    exact ⟨result, rfl, hresult⟩

theorem Race.client_lt (h : Race registry entries talk state current)
    {exchange : Program.Exchange Registration RegistrationReply} (hmem : exchange ∈ talk) :
    exchange.client < entries.length := by
  refine Decidable.byContradiction fun hge => ?_
  have hfollows := h.interleaved.follows exchange.client
  rw [clerk, List.getElem?_eq_none (Nat.le_of_not_lt hge)] at hfollows
  have hnil := eq_nil_of_follows_done hfollows
  have hown : exchange ∈ Program.own exchange.client talk :=
    List.mem_filter.2 ⟨hmem, decide_eq_true rfl⟩
  rw [hnil] at hown
  cases hown

theorem Race.of_mem (h : Race registry entries talk state current)
    {exchange : Program.Exchange Registration RegistrationReply} (hmem : exchange ∈ talk) :
    Program.own exchange.client talk = [exchange] ∧ exchange.call ∈ entries ∧
      current exchange.client = .done exchange.reply := by
  have hclient := h.client_lt hmem
  obtain ⟨reply, hown, hcurrent⟩ := h.own hclient
  have hself : exchange ∈ Program.own exchange.client talk :=
    List.mem_filter.2 ⟨hmem, decide_eq_true rfl⟩
  rw [hown, List.mem_singleton] at hself
  rw [hown, hcurrent]
  refine ⟨by rw [← hself], ?_, ?_⟩
  · rw [hself]
    exact List.getElem_mem hclient
  · rw [hself]

theorem Race.mem_calls_iff (h : Race registry entries talk state current) {entry : Registration} :
    entry ∈ talk.map (·.call) ↔ entry ∈ entries := by
  constructor
  · intro hmem
    obtain ⟨exchange, hexchange, rfl⟩ := List.mem_map.1 hmem
    exact (h.of_mem hexchange).2.1
  · intro hmem
    obtain ⟨client, hclient, rfl⟩ := List.mem_iff_getElem.1 hmem
    obtain ⟨reply, hown, _⟩ := h.own hclient
    have hexchange : (⟨client, entries[client], reply⟩ : Program.Exchange _ _) ∈
        Program.own client talk := by
      rw [hown]
      exact List.mem_cons_self
    exact List.mem_map.2 ⟨_, (List.mem_filter.1 hexchange).1, rfl⟩

theorem stateAfter_eq_after :
    Program.stateAfter handler registry talk = registry.after (talk.map (·.call)) := by
  rw [Program.stateAfter, after, List.foldl_map]

/-- The names in the end are those of the registrations in the order of the clerks. -/
theorem Race.names_eq (h : Race registry entries talk state current) (kind : ProviderKind) :
    state.names kind = (registry.after entries).names kind := by
  refine names_eq_of_mem (names_increasing _ _) (names_increasing _ _) fun name => ?_
  have henrolled : Enrolled kind name (talk.map (·.call)) ↔ Enrolled kind name entries :=
    exists_congr fun entry => and_congr_left fun _ => h.mem_calls_iff
  rw [mem_names_iff, mem_names_iff, h.interleaved.state_eq, stateAfter_eq_after, find?_after,
    find?_after, Ne, Ne, Option.or_eq_none_iff, Option.or_eq_none_iff, firstMaker?_eq_none_iff,
    firstMaker?_eq_none_iff, henrolled]

theorem reply_of_later {first later : Program.Exchange Registration RegistrationReply}
    {rest : List (Program.Exchange Registration RegistrationReply)}
    (htruthful : Program.Truthful handler registry (first :: rest)) (hlater : later ∈ rest)
    (hfirst : first.call.Of kind name) (hof : later.call.Of kind name) :
    later.reply = .error (.duplicateProvider kind name) := by
  obtain ⟨before, behind, rfl⟩ := List.append_of_mem hlater
  have henrolled : Enrolled kind name ((first :: before).map (·.call)) :=
    ⟨first.call, List.mem_cons_self, hfirst⟩
  obtain ⟨held, htaken⟩ : ∃ held,
      (registry.after ((first :: before).map (·.call))).find? kind name = some held := by
    rw [← Option.ne_none_iff_exists', find?_after, Ne, Option.or_eq_none_iff, firstMaker?_eq_none_iff]
    exact fun h => h.2 henrolled
  have hreply : later.reply =
      (handler later.call (Program.stateAfter handler registry (first :: before))).reply :=
    Program.Truthful.reply_eq htruthful
  obtain ⟨hname, hkind⟩ := hof
  rw [stateAfter_eq_after, handler_of_taken (by rw [hname, hkind]; exact htaken), hname, hkind]
    at hreply
  exact hreply

/-- The first registration of a free name succeeds, and every later one is refused. -/
theorem Race.oneWinner (h : Race registry entries talk state current) (hne : entries ≠ [])
    (hall : ∀ entry ∈ entries, entry.Of kind name) (hfree : registry.find? kind name = none) :
    OneWinner kind name entries current := by
  have htruthful := h.interleaved.truthful
  cases htalk : talk with
  | nil =>
    obtain ⟨entry, hentry⟩ := List.exists_mem_of_ne_nil entries hne
    have hcall := h.mem_calls_iff.2 hentry
    rw [htalk] at hcall
    cases hcall
  | cons first rest =>
    have hfirst : first ∈ talk := htalk ▸ List.mem_cons_self
    obtain ⟨_, hcall, hcurrent⟩ := h.of_mem hfirst
    have hfirstOf := hall _ hcall
    rw [htalk] at htruthful
    -- Whoever is served first finds the name free, and all others come later.
    have hwon : first.reply = .ok () := by
      rw [htruthful.1, handler_of_free (by rw [hfirstOf.1, hfirstOf.2]; exact hfree)]
    refine ⟨first.client, h.client_lt hfirst, by rw [hcurrent, hwon], fun other hother hdiffers => ?_⟩
    obtain ⟨reply, hown, hotherCurrent⟩ := h.own hother
    have hmem : (⟨other, entries[other], reply⟩ : Program.Exchange _ _) ∈ Program.own other talk :=
      hown ▸ List.mem_cons_self
    have hlater : (⟨other, entries[other], reply⟩ : Program.Exchange _ _) ∈ rest := by
      have hin := (List.mem_filter.1 hmem).1
      rw [htalk] at hin
      exact (List.mem_cons.1 hin).resolve_left fun heq =>
        hdiffers (congrArg Program.Exchange.client heq)
    rw [hotherCurrent]
    exact congrArg Program.done
      (reply_of_later htruthful hlater hfirstOf (hall _ (List.getElem_mem hother)))

/-! ## Whole runs -/

theorem registrations_first_come (start : Start) (entries : List Registration) :
    let past := start.past ++ entries
    let registry := start.opened.after entries
    let table := MakerTable.after [] past
    Registry.empty.registerAll start.past = .ok start.opened ∧
    (∀ name maker, (∀ failure, registry.register name maker = .error failure ↔
        Enrolled maker.kind name past ∧ failure = .duplicateProvider maker.kind name) ∧
      ((handler (name, maker) registry).reply ≠ .ok () →
        (handler (name, maker) registry).state = registry)) ∧
    (∀ kind name, (registry.lookup kind name = match firstMaker? kind name past with
        | some maker => .ok maker
        | none => .error (.providerNotFound kind name)) ∧
      (registry.lookup kind name = .error (.providerNotFound kind name) ↔ ¬ Enrolled kind name past) ∧
      registry.lookup kind name = (Registry.empty.after (ofKind kind past)).lookup kind name) ∧
    (∀ kind, (registry.names kind).Pairwise (fun first second => bytesOf first < bytesOf second) ∧
      (∀ name, name ∈ registry.names kind ↔ Enrolled kind name past) ∧
      registry.names kind = (Registry.empty.after (ofKind kind past)).names kind) ∧
    (table.KindsKept ∧
      (∀ kind name, table.lookup kind name = registry.lookup kind name) ∧
      (∀ kind, table.names kind = registry.names kind) ∧
      (∀ settings cluster, table.strategyFor settings cluster = registry.strategyFor settings cluster) ∧
      ∀ name, table.featureName name = registry.featureName name) ∧
    (∀ settings cluster, registry.strategyFor settings cluster =
      match firstMaker? .cluster cluster.spec.clusterType past with
      | some (.cluster make) => make settings cluster
      | _ => .error (.providerNotFound .cluster cluster.spec.clusterType)) ∧
    ∀ clerks, (∃ talk state current, Race registry clerks talk state current) ∧
      ∀ talk state current, Race registry clerks talk state current →
        (∀ kind, state.names kind = (registry.after clerks).names kind) ∧
        ∀ kind name, clerks ≠ [] → (∀ clerk ∈ clerks, clerk.Of kind name) →
          ¬ Enrolled kind name past → OneWinner kind name clerks current := by
  intro past registry table
  have hregistry : registry = Registry.empty.after past := start.after_eq entries
  have hmirrors : table.Mirrors registry := hregistry ▸ MakerTable.mirrors_empty.after past
  have hkept : table.KindsKept := MakerTable.kindsKept_nil.after past
  refine ⟨start.registerAll_past, fun name maker => ⟨fun failure => ?_, fun hrefused => ?_⟩,
    fun kind name => ⟨?_, ?_, ?_⟩, fun kind => ⟨names_increasing_bytes _ _, fun name => ?_, ?_⟩,
    ⟨hkept, MakerTable.lookup_eq hmirrors, MakerTable.names_eq hmirrors,
      fun settings cluster => MakerTable.strategy_eq hkept hmirrors _ settings cluster,
      MakerTable.featureName_eq hkept hmirrors⟩, fun settings cluster => ?_,
    fun clerks => ⟨exists_race registry clerks, fun talk state current hrace =>
      ⟨hrace.names_eq, fun kind name hne hall hnew => ?_⟩⟩⟩
  · rw [register_eq_error_iff, hregistry, Ne, find?_eq_none_iff_enrolled, not_not]
  · cases hfree : registry.find? maker.kind name with
    | none => exact absurd (by rw [handler_of_free hfree]) hrefused
    | some held => rw [handler_of_taken hfree]
  · rw [hregistry]
    exact lookup_after past kind name
  · rw [hregistry, lookup_eq_error_iff, and_iff_left rfl]
  · rw [hregistry, lookup_ofKind]
  · rw [hregistry, mem_names_after_iff]
  · rw [hregistry, names_ofKind]
  · rw [hregistry]
    exact strategyFor_after past settings cluster
  · refine hrace.oneWinner hne hall ?_
    rw [hregistry, find?_eq_none_iff_enrolled]
    exact hnew

end EtcdFleet.Registry
