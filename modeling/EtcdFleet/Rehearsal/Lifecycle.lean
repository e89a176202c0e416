import EtcdFleet.Cluster.Strategy

set_option autoImplicit false

/-!
# A recorded life

A strategy that does nothing but ask for each of its steps by name, and an environment that writes the
steps down and fails the chosen one.
-/

namespace EtcdFleet

inductive Hook
  | beforeCreate
  | create
  | afterCreate
  | beforeUpdate
  | update
  | afterUpdate
  | beforeDelete
  | delete
  | afterDelete
  | equal
  deriving DecidableEq

namespace Hook

def label : Hook → String
  | beforeCreate => "before_create"
  | create => "create"
  | afterCreate => "after_create"
  | beforeUpdate => "before_update"
  | update => "update"
  | afterUpdate => "after_update"
  | beforeDelete => "before_delete"
  | delete => "delete"
  | afterDelete => "after_delete"
  | equal => "equal"

end Hook

abbrev HookReply (_ : Hook) : Type := Except ProviderError Unit

namespace Strategy

def hook (step : Hook) : Program Hook HookReply Unit := Program.ask step Program.done

def recorded (inSync : Bool) : Strategy Hook HookReply where
  name := "recorder"
  beforeCreate _ := hook .beforeCreate
  create _ := hook .create
  afterCreate cluster := do hook .afterCreate; return cluster
  beforeUpdate _ := hook .beforeUpdate
  update _ := hook .update
  afterUpdate _ := hook .afterUpdate
  beforeDelete _ := hook .beforeDelete
  delete _ := hook .delete
  afterDelete _ := hook .afterDelete
  inSync _ := do hook .equal; return inSync
  status cluster _ _ := pure ⟨cluster.status, none⟩

/-- The steps so far, each by its name; the step of the failing name fails. -/
def recorder (failing : Option String) : Program.Handler Hook HookReply (List Hook) :=
  fun step steps =>
    ⟨if failing = some step.label then .error (.internal step.label) else .ok (), [],
      steps ++ [step]⟩

end Strategy
end EtcdFleet
