import EtcdFleet.Program
import EtcdFleet.Resource.Store

set_option autoImplicit false

/-!
# Calls on a document store

What providers ask of a store, wherever it is kept. Every call is answered by a document or by a
failure, in one step.
-/

namespace EtcdFleet

inductive StoreCall
  | get (kind : ResourceKind) («namespace» name : String)
  | create (kind : ResourceKind) («namespace» : String) (doc : Document)
  | update (kind : ResourceKind) («namespace» : String) (doc : Document)

abbrev StoreReply (_ : StoreCall) : Type := Except ProviderError Document

abbrev Remote := Program StoreCall StoreReply

namespace Remote

def call (call : StoreCall) : Remote Document := Program.ask call Program.done

end Remote

namespace Store

/-- The written document and the store after it; a failed write leaves the store as it was. -/
def written (store : Store) :
    Except ProviderError (Document × Store) → Except ProviderError Document × Store
  | .ok (doc, after) => (.ok doc, after)
  | .error failure => (.error failure, store)

def answer (store : Store) : StoreCall → Except ProviderError Document × Store
  | .get kind «namespace» name => (store.get ⟨kind, «namespace», name⟩, store)
  | .create kind «namespace» doc => store.written (store.create kind «namespace» doc)
  | .update kind «namespace» doc => store.written (store.update kind «namespace» doc)

def edit (store : Store) (key : ResourceKey) (path : Path) (value : Document) :
    Except ProviderError Document × Store :=
  match store.get key >>= fun doc => doc.put path value with
  | .ok doc => store.answer (.update key.kind key.namespace doc)
  | .error failure => (.error failure, store)

def handler : Program.Handler StoreCall StoreReply Store := fun call store =>
  ⟨(store.answer call).1, [], (store.answer call).2⟩

end Store
end EtcdFleet
