import EtcdFleet.Cluster.Status
import EtcdFleet.Text.Numeral

set_option autoImplicit false

/-!
# Member health

What a probe finds out about the members of a cluster, the client certificates it uses, and the view
of all members together. A role is optional: only where some member reports one can a leader be
missing.
-/

namespace EtcdFleet

structure TlsFiles where
  caFile : Option String
  certFile : Option String
  keyFile : Option String
  deriving DecidableEq

namespace TlsFiles

def isEmpty (files : TlsFiles) : Bool :=
  files.caFile.isNone && files.certFile.isNone && files.keyFile.isNone

def orNull (text : Option String) : Document := (text.map Document.text).getD .null

/-- What is missing is written as null. -/
def toDocument (files : TlsFiles) : Document :=
  .object [("ca_file", orNull files.caFile), ("cert_file", orNull files.certFile),
    ("key_file", orNull files.keyFile)]

def ofFields? (fields : Fields) : Option TlsFiles := do
  let caFile ← fields.nullable 0 "ca_file" Document.text?
  let certFile ← fields.nullable 1 "cert_file" Document.text?
  let keyFile ← fields.nullable 2 "key_file" Document.text?
  return ⟨caFile, certFile, keyFile⟩

def ofDocument? (doc : Document) : Option TlsFiles := (Fields.strict? 3 doc).bind ofFields?

end TlsFiles

structure MemberHealth where
  name : String
  memberId : UInt64
  endpoint : String
  extensionClientUrl : Option String
  version : Option String
  role : Option MemberRole
  reachable : Bool
  revision : Option Int64
  raftTerm : Option UInt64
  error : Option String
  deriving DecidableEq

namespace MemberHealth

def toDocument (member : MemberHealth) : Document :=
  .record [("endpoint", some (.text member.endpoint)),
    ("error", member.error.map .text),
    ("extensionClientUrl", member.extensionClientUrl.map .text),
    ("memberId", some (.integer member.memberId.toNat)),
    ("name", some (.text member.name)),
    ("raftTerm", member.raftTerm.map fun term => .integer term.toNat),
    ("reachable", some (.bool member.reachable)),
    ("revision", member.revision.map fun revision => .integer revision.toInt),
    ("role", member.role.map fun role => .text role.label),
    ("version", member.version.map .text)]

def ofFields? (fields : Fields) : Option MemberHealth := do
  let name ← fields.required 0 "name" Document.text?
  let memberId ← fields.required 1 "memberId" Document.word64?
  let endpoint ← fields.required 2 "endpoint" Document.text?
  let extensionClientUrl ← fields.optional 3 "extensionClientUrl" Document.text?
  let version ← fields.optional 4 "version" Document.text?
  let role ← fields.optional 5 "role" MemberRole.ofDocument?
  let reachable ← fields.required 6 "reachable" Document.bool?
  let revision ← fields.optional 7 "revision" Document.signed64?
  let raftTerm ← fields.optional 8 "raftTerm" Document.word64?
  let error ← fields.optional 9 "error" Document.text?
  return ⟨name, memberId, endpoint, extensionClientUrl, version, role, reachable, revision,
    raftTerm, error⟩

def ofDocument? (doc : Document) : Option MemberHealth := (Fields.strict? 10 doc).bind ofFields?

def toStatus (member : MemberHealth) : MemberStatus where
  name := member.name
  memberId := Text.hexadecimal member.memberId.toNat
  endpoint := member.endpoint
  extensionClientUrl := member.extensionClientUrl.getD ""
  version := member.version.getD ""
  phase := if member.reachable then .running else .unhealthy
  role := member.role

def leads (member : MemberHealth) : Bool := member.reachable && member.role == some .leader

end MemberHealth

namespace ClusterPhase

def ofMembers (members : List MemberHealth) : ClusterPhase :=
  if !members.isEmpty && members.all (·.reachable) &&
      (members.all (·.role.isNone) || members.any (·.leads)) then running
  else unknown

/-- After a complete probe: an unknown candidate replaces no phase but Running. -/
def resolve (previous : Option ClusterPhase) (candidate : ClusterPhase) : Option ClusterPhase :=
  if previous = some running ∨ candidate ≠ unknown then some candidate else previous

/-- After a probe that failed or was incomplete: only a running cluster becomes unknown. -/
def degrade : Option ClusterPhase → Option ClusterPhase
  | some running => some unknown
  | other => other

end ClusterPhase
end EtcdFleet
