import Mathlib.Logic.Function.Basic
import EtcdFleet.Program

set_option autoImplicit false

/-!
# Programs that share an environment

Any number of clients, each at some point of a program of its own, and one environment. In each step one
client reports an event or has one question answered; which client is next is open. Two things are true
of all that was asked and answered: the environment gave every reply in the state that the earlier
questions had left, and what one client asked is a path through its program.
-/

namespace EtcdFleet.Program

variable {Call : Type} {Reply : Call → Type} {α σ : Type}

structure Exchange (Call : Type) (Reply : Call → Type) where
  client : Nat
  call : Call
  reply : Reply call

inductive Interleaved (handle : Handler Call Reply σ) (programs : Nat → Program Call Reply α)
    (initial : σ) : List (Exchange Call Reply) → σ → (Nat → Program Call Reply α) → Prop
  | start : Interleaved handle programs initial [] initial programs
  | report {talk : List (Exchange Call Reply)} {state : σ} {current : Nat → Program Call Reply α}
      (client : Nat) {event : Event} {rest : Program Call Reply α} :
      Interleaved handle programs initial talk state current →
      current client = .note event rest →
      Interleaved handle programs initial talk state (Function.update current client rest)
  | answer {talk : List (Exchange Call Reply)} {state : σ} {current : Nat → Program Call Reply α}
      (client : Nat) {call : Call} {next : Reply call → Program Call Reply α} :
      Interleaved handle programs initial talk state current →
      current client = .ask call next →
      Interleaved handle programs initial (talk ++ [⟨client, call, (handle call state).reply⟩])
        (handle call state).state
        (Function.update current client (next (handle call state).reply))

/-! ## The environment's side -/

def stateAfter (handle : Handler Call Reply σ) (initial : σ)
    (talk : List (Exchange Call Reply)) : σ :=
  talk.foldl (fun state exchange => (handle exchange.call state).state) initial

/-- Every reply is the one that the environment gives at that point. -/
def Truthful (handle : Handler Call Reply σ) : σ → List (Exchange Call Reply) → Prop
  | _, [] => True
  | state, exchange :: rest =>
    exchange.reply = (handle exchange.call state).reply ∧
      Truthful handle (handle exchange.call state).state rest

section Environment

variable {handle : Handler Call Reply σ} {initial : σ} {before after : List (Exchange Call Reply)}

theorem stateAfter_append :
    stateAfter handle initial (before ++ after) =
      stateAfter handle (stateAfter handle initial before) after :=
  List.foldl_append

theorem truthful_append_iff :
    Truthful handle initial (before ++ after) ↔
      Truthful handle initial before ∧ Truthful handle (stateAfter handle initial before) after := by
  induction before generalizing initial with
  | nil => exact ⟨fun h => ⟨trivial, h⟩, fun h => h.2⟩
  | cons exchange rest ih =>
    rw [List.cons_append, Truthful, Truthful, ih, and_assoc]
    rfl

theorem Truthful.reply_eq {exchange : Exchange Call Reply}
    (h : Truthful handle initial (before ++ exchange :: after)) :
    exchange.reply = (handle exchange.call (stateAfter handle initial before)).reply :=
  (truthful_append_iff.1 h).2.1

variable {programs current : Nat → Program Call Reply α} {talk : List (Exchange Call Reply)}
  {state : σ}

theorem Interleaved.state_eq (h : Interleaved handle programs initial talk state current) :
    state = stateAfter handle initial talk := by
  induction h with
  | start => rfl
  | report _ _ _ ih => exact ih
  | answer _ _ _ ih =>
    rw [stateAfter_append, ← ih]
    rfl

theorem Interleaved.truthful (h : Interleaved handle programs initial talk state current) :
    Truthful handle initial talk := by
  induction h with
  | start => trivial
  | report _ _ _ ih => exact ih
  | answer _ hrun _ ih =>
    rw [truthful_append_iff, ← hrun.state_eq]
    exact ⟨ih, rfl, trivial⟩

end Environment

/-! ## The side of one client -/

inductive Follows : Program Call Reply α → List (Exchange Call Reply) →
    Program Call Reply α → Prop
  | rest {program : Program Call Reply α} : Follows program [] program
  | report {event : Event} {program final : Program Call Reply α}
      {talk : List (Exchange Call Reply)} :
      Follows program talk final → Follows (.note event program) talk final
  | answer {client : Nat} {call : Call} {reply : Reply call}
      {next : Reply call → Program Call Reply α} {final : Program Call Reply α}
      {talk : List (Exchange Call Reply)} :
      Follows (next reply) talk final → Follows (.ask call next) (⟨client, call, reply⟩ :: talk) final

theorem Follows.append {first second third : Program Call Reply α}
    {talk more : List (Exchange Call Reply)} (h : Follows first talk second)
    (hmore : Follows second more third) : Follows first (talk ++ more) third := by
  induction h with
  | rest => exact hmore
  | report _ ih => exact .report (ih hmore)
  | answer _ ih => exact .answer (ih hmore)

def own (client : Nat) (talk : List (Exchange Call Reply)) : List (Exchange Call Reply) :=
  talk.filter fun exchange => exchange.client = client

theorem Interleaved.follows {handle : Handler Call Reply σ} {initial state : σ}
    {programs current : Nat → Program Call Reply α} {talk : List (Exchange Call Reply)}
    (h : Interleaved handle programs initial talk state current) (client : Nat) :
    Follows (programs client) (own client talk) (current client) := by
  induction h with
  | start => exact .rest
  | @report talk state current mover event rest _ hcurrent ih =>
    by_cases hmover : client = mover
    · subst hmover
      rw [Function.update_self, ← List.append_nil (own client talk)]
      rw [hcurrent] at ih
      exact ih.append (.report .rest)
    · rw [Function.update_of_ne hmover]
      exact ih
  | @answer talk state current mover call next _ hcurrent ih =>
    rw [own, List.filter_append]
    by_cases hmover : client = mover
    · subst hmover
      rw [Function.update_self, List.filter_cons_of_pos (by simp)]
      rw [hcurrent] at ih
      exact ih.append (.answer .rest)
    · rw [Function.update_of_ne hmover,
        List.filter_cons_of_neg (by simpa using Ne.symm hmover), List.filter_nil, List.append_nil]
      exact ih

end EtcdFleet.Program
