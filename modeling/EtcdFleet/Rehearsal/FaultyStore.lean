import EtcdFleet.Resource.Call

set_option autoImplicit false

/-!
# A store that fails on demand

A store with a queue of faults. The first fault that is meant for an operation answers the next call
of that operation, which then does not reach the store.
-/

namespace EtcdFleet

inductive StoreOperation
  | get
  | create
  | update
  deriving DecidableEq

namespace StoreOperation

def label : StoreOperation → String
  | get => "get"
  | create => "create"
  | update => "update"

def all : List StoreOperation := [get, create, update]

def ofCall : StoreCall → StoreOperation
  | .get .. => get
  | .create .. => create
  | .update .. => update

end StoreOperation

structure Fault where
  operation : StoreOperation
  failure : ProviderError

/-- The first fault for the operation, and the faults without it. -/
def takeFault? (operation : StoreOperation) : List Fault → Option (ProviderError × List Fault)
  | [] => none
  | fault :: rest =>
    if fault.operation = operation then some (fault.failure, rest)
    else (takeFault? operation rest).map fun (failure, others) => (failure, fault :: others)

structure FaultyStore where
  store : Store
  faults : List Fault

namespace FaultyStore

def empty : FaultyStore := ⟨.empty, []⟩

def addFault (state : FaultyStore) (fault : Fault) : FaultyStore :=
  { state with faults := state.faults ++ [fault] }

def handler : Program.Handler StoreCall StoreReply FaultyStore := fun call state =>
  match takeFault? (.ofCall call) state.faults with
  | some (failure, faults) => ⟨.error failure, [], { state with faults }⟩
  | none =>
    let (reply, store) := state.store.answer call
    ⟨reply, [], { state with store }⟩

end FaultyStore
end EtcdFleet
