import EtcdFleet.Proofs.OperatedRuns
import EtcdFleet.Proofs.OptimisticVersions

set_option autoImplicit false

/-!
# No update is lost

Between the read of a version and a successful update under it nobody else has updated the document. An
update of an operated cluster reads, replaces the spec in what it has read, and writes that back under the
version that it came with; so it never takes back what somebody else has put beside the spec.
-/

namespace EtcdFleet

namespace Store

section Conversation

variable {key : ResourceKey} {version : String} {before between after : List Exchange}
  {read write : Exchange}

theorem find?_after_read {seen : Document}
    (h : Program.Truthful handler .empty (before ++ read :: between))
    (hplace : read.call.place? = some key) (hseen : read.reply = .ok seen) :
    ∃ existing, (left (before ++ read :: between)).find? key = some existing ∧
      (commits key between = 0 → existing = seen) := by
  have hstored : (left (before ++ [read])).find? key = some seen := by
    rw [left_append_answer]
    exact find?_of_answer_ok hplace ((reply_eq_answer h).symm.trans hseen)
  rw [List.append_cons] at h ⊢
  obtain ⟨existing, hexisting, hsame⟩ :=
    exists_find?_stateAfter (Program.truthful_append_iff.1 h).2 hstored
  refine ⟨existing, ?_, hsame⟩
  rw [left, Program.stateAfter_append]
  exact hexisting

theorem attempt_after_read
    (h : Program.Truthful handler .empty (before ++ read :: between ++ write :: after))
    (hfits : commits key (before ++ read :: between ++ write :: after) + 1 < UInt64.size)
    (hshows : Shows key version read) (hattempts : Attempts key version write) :
    ((∃ written, write.reply = .ok written) ↔ ∀ exchange ∈ between, ¬ Commits key exchange) ∧
      (∀ failure, write.reply = .error failure → (∃ text, failure = .conflict text) ∧
        left (before ++ read :: between ++ [write]) = left (before ++ read :: between)) := by
  obtain ⟨hcounted, hbelow⟩ := counted_before h hfits
  have hanswer := reply_eq_answer h
  have hshown : version = Text.decimal (1 + commits key (before ++ [read])) := by
    rw [List.append_assoc, List.cons_append] at h hfits
    exact version_of_shows h hfits hshows
  obtain ⟨hplace, seen, hseen, _⟩ := hshows
  obtain ⟨existing, hexisting, _⟩ :=
    find?_after_read (Program.truthful_append_iff.1 h).1 hplace hseen
  have hcount : commits key (before ++ read :: between) =
      commits key (before ++ [read]) + commits key between := by
    rw [List.append_cons, commits_append]
  rw [hexisting] at hcounted
  obtain ⟨hwrite, kind, «namespace», doc, hcall, hversion⟩ := hattempts
  rw [hcall] at hwrite hanswer
  obtain ⟨hcurrent, hstale⟩ := answer_attempt hwrite hexisting hcounted hbelow hversion
  rw [left_append_answer, hcall, ← commits_eq_zero_iff]
  -- The version that was read and the one now stored differ by the updates in between.
  by_cases hnone : commits key between = 0
  · obtain ⟨written, hupdate⟩ := hcurrent (by rw [hshown, hcount, hnone, Nat.add_zero])
    rw [hupdate] at hanswer
    refine ⟨⟨fun _ => hnone, fun _ => ⟨written, hanswer⟩⟩, fun failure hfailure => ?_⟩
    rw [hanswer] at hfailure
    cases hfailure
  · have hne : version ≠ Text.decimal (1 + commits key (before ++ read :: between)) := by
      rw [hshown]
      intro heq
      have hcounts := Text.decimal_injective heq
      omega
    have hupdate := hstale hne
    rw [hupdate] at hanswer ⊢
    refine ⟨⟨?_, fun hzero => absurd hzero hnone⟩, fun failure hfailure => ?_⟩
    · rintro ⟨written, hok⟩
      rw [hanswer] at hok
      cases hok
    · obtain rfl := Except.error.inj (hanswer.symm.trans hfailure)
      exact ⟨⟨_, rfl⟩, rfl⟩

theorem commits_of_success {written : Document} (hattempts : Attempts key version write)
    (hreply : write.reply = .ok written) : Commits key write := by
  obtain ⟨hplace, kind, «namespace», doc, hcall, _⟩ := hattempts
  exact ⟨hplace, kind, «namespace», doc, written, hcall, hreply⟩

theorem commits_of_creation {kind : ResourceKind} {«namespace» : String} {sent doc : Document}
    (h : Program.Truthful handler .empty (before ++ write :: after))
    (hfits : commits key (before ++ write :: after) + 1 < UInt64.size)
    (hplace : write.call.place? = some key) (hcall : write.call = .create kind «namespace» sent)
    (hreply : write.reply = .ok doc) : commits key (before ++ [write]) = 0 := by
  have hidle : ¬ Commits key write := by
    rintro ⟨_, _, _, _, _, hupdate, _⟩
    rw [hcall] at hupdate
    cases hupdate
  have hanswer := (reply_eq_answer h).symm.trans hreply
  have hcounted := (counted_before h hfits).1
  rw [hcall] at hplace hanswer
  obtain ⟨name, hname, habsent, _, _⟩ := create_eq_ok_iff.1 (eq_ok_of_written hanswer)
  obtain rfl := Option.some.inj ((place?_of_resourceName hname).1.symm.trans hplace)
  rw [habsent] at hcounted
  rw [commits_append, commits_cons_of_not hidle, hcounted]
  rfl

/-- Under one version at most one update succeeds. -/
theorem attempt_after_success {written : Document}
    (h : Program.Truthful handler .empty (before ++ read :: between ++ write :: after))
    (hfits : commits key (before ++ read :: between ++ write :: after) + 1 < UInt64.size)
    (hfirst : Attempts key version read) (hsuccess : read.reply = .ok written)
    (hsecond : Attempts key version write) : ∀ later, write.reply ≠ .ok later := by
  intro later hlater
  have hcurrent := version_of_success h hfits hsecond hlater
  have hearlier : version = Text.decimal (1 + commits key before) := by
    rw [List.append_assoc, List.cons_append] at h hfits
    exact version_of_success h hfits hfirst hsuccess
  have hcounts := Text.decimal_injective (hearlier.symm.trans hcurrent)
  rw [commits_append, commits_cons_of_commits (commits_of_success hfirst hsuccess)] at hcounts
  omega

/-- A version that was shown is never shown again by an update. -/
theorem version_of_later_update
    (h : Program.Truthful handler .empty (before ++ read :: between ++ write :: after))
    (hfits : commits key (before ++ read :: between ++ write :: after) + 1 < UInt64.size)
    (hshows : Shows key version read) (hcommits : Commits key write) :
    ¬ Shows key version write := by
  intro hagain
  have hlater := version_of_shows h hfits hagain
  have hearlier : version = Text.decimal (1 + commits key (before ++ [read])) := by
    rw [List.append_assoc, List.cons_append] at h hfits
    exact version_of_shows h hfits hshows
  have hcounts := Text.decimal_injective (hearlier.symm.trans hlater)
  have hone : commits key [write] = 1 := commits_cons_of_commits hcommits []
  rw [commits_append _ (before ++ read :: between), hone, List.append_cons before read between,
    commits_append _ (before ++ [read])] at hcounts
  omega

end Conversation

end Store

namespace Operated

open Store (Exchange Commits commits left handler)

variable {settings : Settings} {cluster : Cluster} {talk : List Exchange}

theorem update_eq_ask (settings : Settings) (cluster : Cluster) :
    update settings cluster =
      .ask (.get settings.clusterResource cluster.namespace cluster.name) fun
        | .error failure => .done (.error failure)
        | .ok seen => match respecified cluster seen with
          | .error failure => .done (.error failure)
          | .ok doc => .ask (.update settings.clusterResource cluster.namespace doc) fun
            | .ok _ => .done (.ok ())
            | .error failure => .note (updateFailed cluster failure) (.done (.error failure)) := by
  unfold update observed Remote.call
  simp only [bind, Program.bind, Program.andThen, Program.ofExcept, Program.attempt]
  congr 1
  funext reply
  cases reply with
  | error failure => rfl
  | ok seen =>
    dsimp only
    cases respecified cluster seen with
    | error failure => rfl
    | ok doc =>
      dsimp only
      congr 1
      funext reply
      cases reply <;> rfl

theorem exchanges_of_update
    (h : Program.Follows (update settings cluster) talk (.done (.ok ()))) :
    ∃ read write seen doc written, talk = [read, write] ∧
      read.call = .get settings.clusterResource cluster.namespace cluster.name ∧
      read.reply = .ok seen ∧ respecified cluster seen = .ok doc ∧
      write.call = .update settings.clusterResource cluster.namespace doc ∧
      write.reply = .ok written := by
  rw [update_eq_ask] at h
  cases h with
  | @answer reader _ reply _ _ rest hrest =>
    cases reply with
    | error failure => cases hrest
    | ok seen =>
      dsimp only at hrest
      cases hr : respecified cluster seen with
      | error failure =>
        rw [hr] at hrest
        cases hrest
      | ok doc =>
        rw [hr] at hrest
        cases hrest with
        | @answer writer _ reply _ _ last hlast =>
          cases reply with
          | error failure =>
            cases hlast with
            | report hdone => cases hdone
          | ok written =>
            cases hlast
            exact ⟨⟨reader, _, .ok seen⟩, ⟨writer, _, .ok written⟩, seen, doc, written, rfl, rfl,
              rfl, hr, rfl, rfl⟩

theorem update_of_seen {client : Nat} {read write : Exchange} {seen doc written : Document}
    (h : Program.Truthful handler .empty talk)
    (hfits : commits (key settings cluster) talk + 1 < UInt64.size)
    (hown : Program.own client talk = [read, write])
    (hread : read.call = .get settings.clusterResource cluster.namespace cluster.name)
    (hseen : read.reply = .ok seen) (hdoc : respecified cluster seen = .ok doc)
    (hwrite : write.call = .update settings.clusterResource cluster.namespace doc)
    (hwritten : write.reply = .ok written) :
    ∃ before between after version, talk = before ++ read :: between ++ write :: after ∧
      write.call.place? = some (key settings cluster) ∧
      (∀ exchange ∈ between, ¬ Commits (key settings cluster) exchange) ∧
      (left (before ++ read :: between)).find? (key settings cluster) = some seen ∧
      revised cluster version seen = .ok written := by
  obtain ⟨before, rest, htalk, _, _, hrest⟩ := List.filter_eq_cons_iff.1 hown
  obtain ⟨between, after, hbetween, _, _, _⟩ := List.filter_eq_cons_iff.1 hrest
  subst hbetween
  have hplace : read.call.place? = some (key settings cluster) := by
    rw [hread]
    rfl
  have hput := (respecified_eq_ok_iff.1 hdoc).2
  have hcounted : Store.Counted (key settings cluster)
      (commits (key settings cluster) (before ++ [read])) (some seen) := by
    rw [htalk] at h hfits
    rw [← (Store.version_of_reply h hfits hplace hseen).1]
    rw [List.append_cons] at h hfits
    exact (Store.counted_before h hfits).1
  have hname : doc.resourceName = .ok cluster.name :=
    (resourceName_put_spec hput).trans hcounted.1
  rw [← List.cons_append, ← List.append_assoc] at htalk
  rw [htalk] at h hfits
  have hplace' : write.call.place? = some (key settings cluster) := by
    rw [hwrite]
    exact (Store.place?_of_resourceName hname).2
  have hattempts : Store.Attempts (key settings cluster) _ write :=
    ⟨hplace', _, _, doc, hwrite, (versionText_put_spec hput).trans hcounted.2⟩
  have hidle := (Store.attempt_after_read h hfits ⟨hplace, seen, hseen, hcounted.2⟩
    hattempts).1.1 ⟨written, hwritten⟩
  obtain ⟨existing, hexisting, hsame⟩ :=
    Store.find?_after_read (Program.truthful_append_iff.1 h).1 hplace hseen
  rw [hsame (Store.commits_eq_zero_iff.2 hidle)] at hexisting
  have hanswer := (Store.reply_eq_answer h).symm.trans hwritten
  rw [hwrite] at hanswer
  obtain ⟨_, _, current, _, _, _, _, hlast, _⟩ :=
    Store.update_eq_ok_iff.1 (Store.eq_ok_of_written hanswer)
  exact ⟨before, between, after, current + 1, htalk, hplace', hidle, hexisting,
    bind_eq_ok_iff.2 ⟨doc, hput, hlast⟩⟩

theorem updates_are_never_lost {programs current : Nat → Remote Unit} {store : Store}
    (hrun : Program.Interleaved handler programs .empty talk store current) (place : ResourceKey)
    (hfits : commits place talk + 1 < UInt64.size) :
    store = left talk ∧
    (∀ before after, talk = before ++ after →
      Store.Counted place (commits place before) ((left before).find? place)) ∧
    (∀ before exchange after doc, talk = before ++ exchange :: after →
      exchange.call.place? = some place → exchange.reply = .ok doc →
      (left (before ++ [exchange])).find? place = some doc ∧
        doc.getText? Document.versionPath =
          .ok (some (Text.decimal (1 + commits place (before ++ [exchange])))) ∧
        ∀ kind «namespace» sent, exchange.call = .create kind «namespace» sent →
          commits place (before ++ [exchange]) = 0) ∧
    (∀ before read between write after version, talk = before ++ read :: between ++ write :: after →
      Store.Shows place version read →
      (Commits place write → ¬ Store.Shows place version write) ∧
      (Store.Attempts place version write →
        ((∃ written, write.reply = .ok written) ↔ ∀ exchange ∈ between, ¬ Commits place exchange) ∧
        ∀ failure, write.reply = .error failure → (∃ text, failure = .conflict text) ∧
          left (before ++ read :: between ++ [write]) = left (before ++ read :: between))) ∧
    (∀ before first between second after version written,
      talk = before ++ first :: between ++ second :: after →
      Store.Attempts place version first → first.reply = .ok written →
      Store.Attempts place version second → ∀ later, second.reply ≠ .ok later) ∧
    (∀ client settings cluster, key settings cluster = place →
      programs client = update settings cluster → current client = .done (.ok ()) →
      ∃ before read between write after seen written,
        talk = before ++ read :: between ++ write :: after ∧
        Program.own client talk = [read, write] ∧
        read.reply = .ok seen ∧ write.reply = .ok written ∧
        (∀ exchange ∈ between, ¬ Commits place exchange) ∧
        (left (before ++ read :: between)).find? place = some seen ∧
        (left (before ++ read :: between ++ [write])).find? place = some written ∧
        written.get? specPath = .ok (some cluster.desiredSpec) ∧
        ∀ path, Path.Apart specPath path → Path.Apart Document.versionPath path →
          written.get? path = seen.get? path) := by
  have htruth := hrun.truthful
  refine ⟨hrun.state_eq, ?_, ?_, ?_, ?_, ?_⟩
  · rintro before after rfl
    exact (Store.counted_before htruth hfits).1
  · rintro before exchange after doc rfl hplace hreply
    obtain ⟨hstored, hversion⟩ := Store.version_of_reply htruth hfits hplace hreply
    exact ⟨hstored, hversion, fun _ _ _ hcall =>
      Store.commits_of_creation htruth hfits hplace hcall hreply⟩
  · rintro before read between write after version rfl hshows
    exact ⟨Store.version_of_later_update htruth hfits hshows,
      Store.attempt_after_read htruth hfits hshows⟩
  · rintro before first between second after version written rfl hfirst hsuccess hsecond
    exact Store.attempt_after_success htruth hfits hfirst hsuccess hsecond
  · rintro client settings cluster rfl hprogram hdone
    have hpath := hrun.follows client
    rw [hprogram, hdone] at hpath
    obtain ⟨read, write, seen, doc, written, hown, hread, hseen, hdoc, hwrite, hwritten⟩ :=
      exchanges_of_update hpath
    obtain ⟨before, between, after, version, htalk, hplace, hidle, hstored, hrevised⟩ :=
      update_of_seen htruth hfits hown hread hseen hdoc hwrite hwritten
    refine ⟨before, read, between, write, after, seen, written, htalk, hown, hseen, hwritten, hidle,
      hstored, ?_, get?_revised_spec hrevised, fun path => get?_revised_of_apart hrevised⟩
    rw [htalk] at htruth hfits
    exact (Store.version_of_reply htruth hfits hplace hwritten).1

def racing : Nat → Remote Unit
  | 0 => create .initial smallCluster
  | 1 => update .initial wideCluster
  | 2 => update .initial wideCluster
  | _ => .done (.ok ())

/-- Both read before either writes. -/
theorem exists_race :
    ∃ created first second won lost store current,
      Program.Interleaved handler racing .empty [created, first, second, won, lost] store current ∧
      Store.Shows (key .initial smallCluster) "1" second ∧
      Commits (key .initial smallCluster) won ∧
      Store.Attempts (key .initial smallCluster) "1" lost := by
  have hstart : Program.Interleaved handler racing .empty [] .empty racing := .start
  have hcreate := Program.Interleaved.answer 0 hstart rfl
  have hfirst := Program.Interleaved.answer 1 hcreate rfl
  have hsecond := Program.Interleaved.answer 2 hfirst rfl
  have hwon := Program.Interleaved.answer 1 hsecond rfl
  have hlost := Program.Interleaved.answer 2 hwon rfl
  exact ⟨_, _, _, _, _, _, _, hlost, ⟨rfl, _, rfl, rfl⟩, ⟨rfl, _, _, _, _, rfl, rfl⟩,
    ⟨rfl, _, _, _, rfl, rfl⟩⟩

theorem updates_are_never_lost_racing :
    ∃ created first second won lost store current,
      Program.Interleaved handler racing .empty [created, first, second, won, lost] store current ∧
      commits (key .initial smallCluster) [created, first, second, won, lost] + 1 < UInt64.size ∧
      ∃ text, lost.reply = .error (.conflict text) := by
  obtain ⟨created, first, second, won, lost, store, current, hrun, hshows, hcommits, hattempts⟩ :=
    exists_race
  have hfits :
      commits (key .initial smallCluster) [created, first, second, won, lost] + 1 < UInt64.size :=
    Nat.lt_of_le_of_lt (Nat.succ_le_succ List.countP_le_length) (by decide : 5 + 1 < UInt64.size)
  obtain ⟨_, _, _, hlaw, _⟩ := updates_are_never_lost hrun (key .initial smallCluster) hfits
  obtain ⟨hsuccess, hfailure⟩ :=
    (hlaw [created, first] second [won] lost [] "1" rfl hshows).2 hattempts
  refine ⟨created, first, second, won, lost, store, current, hrun, hfits, ?_⟩
  cases hreply : lost.reply with
  | ok written => exact absurd hcommits (hsuccess.1 ⟨written, hreply⟩ won List.mem_cons_self)
  | error failure =>
    obtain ⟨⟨text, rfl⟩, _⟩ := hfailure failure hreply
    exact ⟨text, rfl⟩

end Operated
end EtcdFleet
