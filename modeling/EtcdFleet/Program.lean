import EtcdFleet.Failure
import EtcdFleet.Journal

set_option autoImplicit false

/-!
# Programs over an environment

A program reports events and asks its environment one question at a time; how it goes on depends on
the reply. It ends with a result or with a failure, and a failure ends everything that was to follow
it. Each question is one atomic step, so programs that share an environment interleave between their
questions and nowhere else.
-/

namespace EtcdFleet

inductive Program (Call : Type) (Reply : Call → Type) (α : Type)
  | done (result : Except ProviderError α)
  | note (event : Event) (rest : Program Call Reply α)
  | ask (call : Call) (next : Reply call → Program Call Reply α)

namespace Program

variable {Call : Type} {Reply : Call → Type} {α β : Type}

def andThen (program : Program Call Reply α) (next : Except ProviderError α → Program Call Reply β) :
    Program Call Reply β :=
  match program with
  | done result => next result
  | note event rest => note event (rest.andThen next)
  | ask call rest => ask call fun reply => (rest reply).andThen next

def ofExcept (result : Except ProviderError α) : Program Call Reply α := done result

def bind (program : Program Call Reply α) (next : α → Program Call Reply β) :
    Program Call Reply β :=
  program.andThen fun
    | .ok value => next value
    | .error failure => done (.error failure)

instance : Monad (Program Call Reply) where
  pure value := done (.ok value)
  bind := bind

def fail (failure : ProviderError) : Program Call Reply α := done (.error failure)

def report (event : Event) : Program Call Reply Unit := note event (pure ())

def request (call : Call) : Program Call Reply (Reply call) := ask call pure

def attempt (program : Program Call Reply α) : Program Call Reply (Except ProviderError α) :=
  program.andThen pure

/-- Relays every question to a program over another environment. -/
def relay {Other : Type} {Answer : Other → Type}
    (answer : (call : Call) → Program Other Answer (Reply call)) :
    Program Call Reply α → Program Other Answer α
  | done result => done result
  | note event rest => note event (rest.relay answer)
  | ask call next => (answer call).bind fun reply => (next reply).relay answer

/-- What an environment makes of a question: the reply, what it reports, and its next state. -/
structure Answered (reply σ : Type) where
  reply : reply
  events : List Event
  state : σ

abbrev Handler (Call : Type) (Reply : Call → Type) (σ : Type) :=
  (call : Call) → σ → Answered (Reply call) σ

structure Outcome (α σ : Type) where
  result : Except ProviderError α
  events : List Event
  state : σ

def run {σ : Type} (handle : Handler Call Reply σ) : Program Call Reply α → σ → Outcome α σ
  | done result, state => ⟨result, [], state⟩
  | note event rest, state =>
    let outcome := rest.run handle state
    { outcome with events := event :: outcome.events }
  | ask call next, state =>
    let answered := handle call state
    let outcome := (next answered.reply).run handle answered.state
    { outcome with events := answered.events ++ outcome.events }

theorem andThen_assoc {γ : Type} (program : Program Call Reply α)
    (next : Except ProviderError α → Program Call Reply β)
    (last : Except ProviderError β → Program Call Reply γ) :
    (program.andThen next).andThen last = program.andThen fun r => (next r).andThen last := by
  induction program with
  | done result => rfl
  | note event rest ih => simp [andThen, ih]
  | ask call rest ih => simp [andThen, ih]

/-- Running a program and then what follows it is running the two one after the other. -/
theorem run_andThen {σ : Type} (handle : Handler Call Reply σ) (program : Program Call Reply α)
    (next : Except ProviderError α → Program Call Reply β) (state : σ) :
    (program.andThen next).run handle state =
      let first := program.run handle state
      let second := (next first.result).run handle first.state
      ⟨second.result, first.events ++ second.events, second.state⟩ := by
  induction program generalizing state with
  | done result => rfl
  | note event rest ih => simp [andThen, run, ih]
  | ask call rest ih => simp [andThen, run, ih]

end Program
end EtcdFleet
