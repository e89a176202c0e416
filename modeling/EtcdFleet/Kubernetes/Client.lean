import EtcdFleet.Kubernetes.Answer
import EtcdFleet.Kubernetes.Request
import EtcdFleet.Resource.Call

set_option autoImplicit false

/-!
# A store kept by Kubernetes

Every call on the store is at most one request. What a caller writes must have a name and must be an
object; both are found out before anything is sent.
-/

namespace EtcdFleet.Kubernetes

abbrev RequestReply (_ : Request) : Type := Answer

abbrev Exchange := Program Request RequestReply

def send (path : Option String) (method : Method) (body : Option Document) : Exchange Answer :=
  match path with
  | none => Program.fail .kubernetes
  | some path => Program.request ⟨method, path, body⟩

def wrote (message : String) (kind : ResourceKind) («namespace» name : String) : Event :=
  ⟨.debug, message, [("kind", kind.kind), ("name", name), ("namespace", «namespace»)]⟩

def objectToSend (doc : Document) : Except ProviderError Document :=
  match objectOfDocument? doc with
  | some object => .ok object
  | none => .error .serialization

def get (kind : ResourceKind) («namespace» name : String) : Exchange Document := do
  let answer ← send (resourcePath? .get kind «namespace» name) .get none
  Program.ofExcept (answer.toExcept kind.kind «namespace» name)

def create (kind : ResourceKind) («namespace» : String) (doc : Document) : Exchange Document := do
  let name ← Program.ofExcept doc.resourceName
  let object ← Program.ofExcept (objectToSend doc)
  let answer ← send (collectionPath? kind «namespace») .post (some object)
  let created ← Program.ofExcept (answer.toExcept kind.kind «namespace» name)
  Program.report (wrote "Created resource" kind «namespace» name)
  return created

def update (kind : ResourceKind) («namespace» : String) (doc : Document) : Exchange Document := do
  let name ← Program.ofExcept doc.resourceName
  let object ← Program.ofExcept (objectToSend doc)
  let answer ← send (resourcePath? .put kind «namespace» name) .put (some object)
  let replaced ← Program.ofExcept (answer.toExcept kind.kind «namespace» name)
  Program.report (wrote "Replaced resource" kind «namespace» name)
  return replaced

def ofStoreCall : StoreCall → Exchange Document
  | .get kind «namespace» name => get kind «namespace» name
  | .create kind «namespace» doc => create kind «namespace» doc
  | .update kind «namespace» doc => update kind «namespace» doc

end EtcdFleet.Kubernetes
