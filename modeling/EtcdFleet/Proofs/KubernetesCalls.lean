import EtcdFleet.Kubernetes.Client
import EtcdFleet.Proofs.Execution
import EtcdFleet.Proofs.KubernetesObjects
import EtcdFleet.Proofs.OptimisticVersions

set_option autoImplicit false

/-!
# Store calls over the Kubernetes interface

A server that answers as it likes, each request after those before it, and what every store call comes to with it:
the failure that it ends with before anything is sent, or one request, whose answer decides the rest.
-/

namespace EtcdFleet.Kubernetes

open Document

/-- The answer to a request after those before it. -/
abbrev Server := List Request → Request → Answer

namespace Server

variable {α β : Type} {server : Server} {program : Exchange α} {sent after : List Request}

/-- The requests are kept in the order in which they are sent. -/
def handler (server : Server) : Program.Handler Request RequestReply (List Request) :=
  fun request sent => ⟨server sent request, [], sent ++ [request]⟩

def exec (server : Server) (program : Exchange α) (sent : List Request) :
    Except ProviderError α × List Request :=
  Program.exec server.handler program sent

theorem exec_ofExcept_bind (result : Except ProviderError α) (next : α → Exchange β) :
    server.exec (Program.ofExcept result >>= next) sent =
      match result with
      | .ok value => server.exec (next value) sent
      | .error failure => (.error failure, sent) :=
  Program.exec_ofExcept_bind server.handler result next sent

end Server

/-! ## What a call sends -/

def target (method : Method) (path : Option String) (body : Option Document) :
    Except ProviderError Request :=
  match path with
  | some path => .ok ⟨method, path, body⟩
  | none => .error .kubernetes

/-- The name and the document are looked at before the path is. -/
def requestOf : StoreCall → Except ProviderError Request
  | .get kind «namespace» name => target .get (resourcePath? .get kind «namespace» name) none
  | .create kind «namespace» doc => do
    let _ ← doc.resourceName
    target .post (collectionPath? kind «namespace») (some (← objectToSend doc))
  | .update kind «namespace» doc => do
    let name ← doc.resourceName
    let object ← objectToSend doc
    target .put (resourcePath? .put kind «namespace» name) (some object)

variable {server : Server} {call : StoreCall} {request : Request} {sent : List Request}

theorem exec_send_bind {α : Type} (path : Option String) (method : Method) (body : Option Document)
    (next : Answer → Exchange α) :
    server.exec (send path method body >>= next) sent =
      match target method path body with
      | .ok request => server.exec (next (server sent request)) (sent ++ [request])
      | .error failure => (.error failure, sent) := by
  cases path with
  | none => rfl
  | some path => rfl

def concluded (key : ResourceKey) (answer : Answer) : Except ProviderError Document :=
  answer.toExcept key.kind.kind key.namespace key.name

def asked (server : Server) (key : ResourceKey) (request : Except ProviderError Request)
    (sent : List Request) : Except ProviderError Document × List Request :=
  match request with
  | .ok request => (concluded key (server sent request), sent ++ [request])
  | .error failure => (.error failure, sent)

theorem exec_get (server : Server) (kind : ResourceKind) («namespace» name : String)
    (sent : List Request) :
    server.exec (get kind «namespace» name) sent =
      asked server ⟨kind, «namespace», name⟩ (requestOf (.get kind «namespace» name)) sent := by
  rw [get, exec_send_bind, requestOf]
  cases target .get (resourcePath? .get kind «namespace» name) none <;> rfl

def written (method : Method) (path : Option String) (message : String) (key : ResourceKey)
    (object : Document) : Exchange Document := do
  let answer ← send path method (some object)
  let doc ← Program.ofExcept (concluded key answer)
  Program.report (wrote message key.kind key.namespace key.name)
  return doc

theorem exec_written (method : Method) (path : Option String) (message : String) (key : ResourceKey)
    (object : Document) :
    server.exec (written method path message key object) sent =
      asked server key (target method path (some object)) sent := by
  rw [written, exec_send_bind]
  cases target method path (some object) with
  | error failure => rfl
  | ok request =>
    change server.exec (Program.ofExcept _ >>= _) _ = _
    rw [Server.exec_ofExcept_bind]
    dsimp only [asked]
    cases concluded key (server sent request) <;> rfl

theorem exec_create (server : Server) (kind : ResourceKind) («namespace» : String) (doc : Document)
    (sent : List Request) :
    server.exec (create kind «namespace» doc) sent =
      match doc.resourceName with
      | .ok name =>
        asked server ⟨kind, «namespace», name⟩ (requestOf (.create kind «namespace» doc)) sent
      | .error failure => (.error failure, sent) := by
  rw [create, Server.exec_ofExcept_bind, requestOf]
  cases doc.resourceName with
  | error failure => rfl
  | ok name =>
    dsimp only
    rw [Server.exec_ofExcept_bind]
    cases objectToSend doc with
    | error failure => rfl
    | ok object => exact exec_written .post _ "Created resource" ⟨kind, «namespace», name⟩ object

theorem exec_update (server : Server) (kind : ResourceKind) («namespace» : String) (doc : Document)
    (sent : List Request) :
    server.exec (update kind «namespace» doc) sent =
      match doc.resourceName with
      | .ok name =>
        asked server ⟨kind, «namespace», name⟩ (requestOf (.update kind «namespace» doc)) sent
      | .error failure => (.error failure, sent) := by
  rw [update, Server.exec_ofExcept_bind, requestOf]
  cases doc.resourceName with
  | error failure => rfl
  | ok name =>
    dsimp only
    rw [Server.exec_ofExcept_bind]
    cases objectToSend doc with
    | error failure => rfl
    | ok object => exact exec_written .put _ "Replaced resource" ⟨kind, «namespace», name⟩ object

theorem eq_ok_of_toOption {α : Type} {result : Except ProviderError α} {value : α}
    (h : result.toOption = some value) : result = .ok value := by
  cases result with
  | ok found =>
    obtain rfl := Option.some.inj h
    rfl
  | error failure => cases h

theorem exec_of_place {key : ResourceKey} (h : call.place? = some key) :
    server.exec (ofStoreCall call) sent = asked server key (requestOf call) sent := by
  cases call with
  | get kind «namespace» name =>
    obtain rfl := Option.some.inj h
    exact exec_get server kind «namespace» name sent
  | create kind «namespace» doc =>
    obtain ⟨name, hname, rfl⟩ := Option.map_eq_some_iff.1 h
    rw [ofStoreCall, exec_create, eq_ok_of_toOption hname]
  | update kind «namespace» doc =>
    obtain ⟨name, hname, rfl⟩ := Option.map_eq_some_iff.1 h
    rw [ofStoreCall, exec_update, eq_ok_of_toOption hname]

/-! ## Programs over the interface -/

/-- Every store call is made over the interface, and its failure is its reply. -/
def relayed {α : Type} (program : Remote α) : Exchange α :=
  program.relay fun call => Program.attempt (ofStoreCall call)

def Server.storeHandler (server : Server) : Program.Handler StoreCall StoreReply (List Request) :=
  fun call sent =>
    let outcome := server.exec (ofStoreCall call) sent
    ⟨outcome.1, [], outcome.2⟩

theorem exec_relayed {α : Type} (server : Server) (program : Remote α) (sent : List Request) :
    server.exec (relayed program) sent = Program.exec server.storeHandler program sent := by
  induction program generalizing sent with
  | done result => rfl
  | note event rest ih => exact ih sent
  | ask call next ih =>
    have hcall : Program.exec server.handler (Program.attempt (ofStoreCall call)) sent =
        (.ok (server.exec (ofStoreCall call) sent).1, (server.exec (ofStoreCall call) sent).2) :=
      Program.exec_attempt _ _ _
    exact (Program.exec_bind_of_ok hcall _).trans (ih _ _)

end EtcdFleet.Kubernetes
