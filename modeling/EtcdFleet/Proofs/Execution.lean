import EtcdFleet.Program

set_option autoImplicit false

/-!
# Programs run alone

What a program comes to on an environment that nobody else uses, without what it reports: its result, and the
state that it leaves. One law for each way of putting programs together.
-/

namespace EtcdFleet.Program

variable {Call : Type} {Reply : Call → Type} {α β σ : Type} {handle : Handler Call Reply σ}
  {program : Program Call Reply α} {state after : σ}

/-- The result and the state that is left, without the events. -/
def exec (handle : Handler Call Reply σ) (program : Program Call Reply α) (state : σ) :
    Except ProviderError α × σ :=
  ((program.run handle state).result, (program.run handle state).state)

theorem exec_ofExcept (handle : Handler Call Reply σ) (result : Except ProviderError α) (state : σ) :
    exec handle (ofExcept result) state = (result, state) := rfl

theorem exec_ask (handle : Handler Call Reply σ) (call : Call)
    (next : Reply call → Program Call Reply α) (state : σ) :
    exec handle (.ask call next) state =
      exec handle (next (handle call state).reply) (handle call state).state := rfl

theorem exec_andThen (handle : Handler Call Reply σ) (program : Program Call Reply α)
    (next : Except ProviderError α → Program Call Reply β) (state : σ) :
    exec handle (program.andThen next) state =
      exec handle (next (exec handle program state).1) (exec handle program state).2 := by
  simp only [exec, run_andThen]

theorem exec_attempt (handle : Handler Call Reply σ) (program : Program Call Reply α) (state : σ) :
    exec handle (attempt program) state =
      (.ok (exec handle program state).1, (exec handle program state).2) :=
  exec_andThen handle program _ state

theorem exec_bind_of_ok {value : α} (h : exec handle program state = (.ok value, after))
    (next : α → Program Call Reply β) :
    exec handle (program >>= next) state = exec handle (next value) after := by
  change exec handle (program.andThen _) state = _
  rw [exec_andThen, h]

theorem exec_bind_of_error {failure : ProviderError}
    (h : exec handle program state = (.error failure, after)) (next : α → Program Call Reply β) :
    exec handle (program >>= next) state = (.error failure, after) := by
  change exec handle (program.andThen _) state = _
  rw [exec_andThen, h]
  rfl

theorem exec_ofExcept_bind (handle : Handler Call Reply σ) (result : Except ProviderError α)
    (next : α → Program Call Reply β) (state : σ) :
    exec handle (ofExcept result >>= next) state =
      match result with
      | .ok value => exec handle (next value) state
      | .error failure => (.error failure, state) := by
  cases result with
  | ok value => exact exec_bind_of_ok (exec_ofExcept handle (.ok value) state) next
  | error failure => exact exec_bind_of_error (exec_ofExcept handle (.error failure) state) next

theorem exec_attempt_bind (handle : Handler Call Reply σ) (program : Program Call Reply α)
    (next : Except ProviderError α → Program Call Reply β) (state : σ) :
    exec handle (attempt program >>= next) state =
      exec handle (next (exec handle program state).1) (exec handle program state).2 :=
  exec_bind_of_ok (exec_attempt handle program state) next

theorem exec_bind_pure (handle : Handler Call Reply σ) (program : Program Call Reply α) (f : α → β)
    (state : σ) :
    exec handle (program >>= fun value => pure (f value)) state =
      ((exec handle program state).1.map f, (exec handle program state).2) := by
  change exec handle (program.andThen _) state = _
  rw [exec_andThen]
  cases (exec handle program state).1 <;> rfl

theorem exec_report_bind (handle : Handler Call Reply σ) (event : Event)
    (next : Unit → Program Call Reply β) (state : σ) :
    exec handle (report event >>= next) state = exec handle (next ()) state := rfl

end EtcdFleet.Program
