import EtcdFleet.Document.Fields

set_option autoImplicit false

/-!
# The status of a cluster

What was last observed of a cluster and of its members. The phase is absent until a first one has been
found.
-/

namespace EtcdFleet

/-- Null is the only content that a case of an enumeration may be given. -/
def labelled? {α : Type} (label : α → String) (all : List α) (doc : Document) : Option α := do
  let name ← doc.caseName? Document.isNull
  all.find? fun value => label value == name

inductive ClusterPhase
  | creating
  | running
  | updating
  | unknown
  | error
  deriving DecidableEq

namespace ClusterPhase

def label : ClusterPhase → String
  | creating => "Creating"
  | running => "Running"
  | updating => "Updating"
  | unknown => "Unknown"
  | error => "Error"

def all : List ClusterPhase := [creating, running, updating, unknown, error]

def ofDocument? : Document → Option ClusterPhase := labelled? label all

end ClusterPhase

inductive MemberRole
  | leader
  | follower
  | learner
  deriving DecidableEq

namespace MemberRole

def label : MemberRole → String
  | leader => "Leader"
  | follower => "Follower"
  | learner => "Learner"

def ofDocument? : Document → Option MemberRole := labelled? label [leader, follower, learner]

end MemberRole

inductive MemberPhase
  | running
  | unhealthy
  deriving DecidableEq

namespace MemberPhase

def label : MemberPhase → String
  | running => "Running"
  | unhealthy => "Unhealthy"

def ofDocument? : Document → Option MemberPhase := labelled? label [running, unhealthy]

end MemberPhase

structure MemberStatus where
  name : String
  /-- The member's number in hexadecimal. -/
  memberId : String
  endpoint : String
  extensionClientUrl : String
  version : String
  phase : MemberPhase
  role : Option MemberRole
  deriving DecidableEq

namespace MemberStatus

def toDocument (member : MemberStatus) : Document :=
  .record [("endpoint", some (.text member.endpoint)),
    ("extensionClientUrl", some (.text member.extensionClientUrl)),
    ("memberId", some (.text member.memberId)),
    ("name", some (.text member.name)),
    ("role", member.role.map fun role => .text role.label),
    ("status", some (.text member.phase.label)),
    ("version", some (.text member.version))]

def ofFields? (fields : Fields) : Option MemberStatus := do
  let name ← fields.required 0 "name" Document.text?
  let memberId ← fields.required 1 "memberId" Document.text?
  let endpoint ← fields.required 2 "endpoint" Document.text?
  let extensionClientUrl ← fields.orDefault 3 "extensionClientUrl" Document.text? ""
  let version ← fields.orDefault 4 "version" Document.text? ""
  let phase ← fields.required 5 "status" MemberPhase.ofDocument?
  let role ← fields.optional 6 "role" MemberRole.ofDocument?
  return ⟨name, memberId, endpoint, extensionClientUrl, version, phase, role⟩

def ofDocument? (doc : Document) : Option MemberStatus := (Fields.strict? 7 doc).bind ofFields?

end MemberStatus

structure ClusterStatus where
  phase : Option ClusterPhase
  serviceName : String
  members : List MemberStatus
  deriving DecidableEq

namespace ClusterStatus

def initial : ClusterStatus := ⟨none, "", []⟩

instance : Inhabited ClusterStatus := ⟨initial⟩

def toDocument (status : ClusterStatus) : Document :=
  .record [("members", some (.list (status.members.map MemberStatus.toDocument))),
    ("phase", status.phase.map fun phase => .text phase.label),
    ("serviceName", some (.text status.serviceName))]

def ofFields? (fields : Fields) : Option ClusterStatus := do
  let phase ← fields.optional 0 "phase" ClusterPhase.ofDocument?
  let serviceName ← fields.orDefault 1 "serviceName" Document.text? ""
  let members ← fields.orDefault 2 "members" (Document.listOf? MemberStatus.ofDocument?) []
  return ⟨phase, serviceName, members⟩

def ofDocument? (doc : Document) : Option ClusterStatus := (Fields.strict? 3 doc).bind ofFields?

end ClusterStatus
end EtcdFleet
