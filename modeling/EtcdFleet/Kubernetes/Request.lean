import EtcdFleet.Resource.Kind

set_option autoImplicit false

/-!
# Requests to the Kubernetes interface

The path of a namespaced resource, and what of a text can be sent as one: the part before a question
mark or a number sign, where every character may stand in it.
-/

namespace EtcdFleet.Kubernetes

inductive Method
  | get
  | post
  | put
  deriving DecidableEq

def Method.label : Method → String
  | .get => "GET"
  | .post => "POST"
  | .put => "PUT"

structure Request where
  method : Method
  path : String
  body : Option Document

/-- The core group has a root of its own. -/
def collectionText (kind : ResourceKind) («namespace» : String) : String :=
  (if kind.group.isEmpty then "/api/" ++ kind.version
    else "/apis/" ++ kind.group ++ "/" ++ kind.version) ++
  "/namespaces/" ++ «namespace» ++ "/" ++ kind.plural

def within (ranges : List (Nat × Nat)) (c : Char) : Bool :=
  ranges.any fun (first, last) => first ≤ c.toNat && c.toNat ≤ last

def isPathChar : Char → Bool :=
  within [(0x21, 0x22), (0x24, 0x3B), (0x3D, 0x3D), (0x40, 0x5F), (0x61, 0x7E),
    (0x80, 0x10FFFF)]

def isQueryChar : Char → Bool :=
  within [(0x21, 0x21), (0x24, 0x3B), (0x3D, 0x3D), (0x3F, 0x7E), (0x80, 0x10FFFF)]

/-- What a fragment may hold is not looked at. -/
def isQuery (cs : List Char) : Bool := (cs.takeWhile (· != '#')).all isQueryChar

def longestTarget : Nat := 65534

/-- What is written is sent with a query, which may be empty. -/
def Method.queryMark : Method → String
  | .get => ""
  | _ => "?"

def pathOf? (method : Method) (target : String) : Option String :=
  let cs := target.toList
  let path := cs.takeWhile fun c => c != '?' && c != '#'
  let query :=
    match cs.drop path.length with
    | '?' :: rest => rest
    | _ => []
  if (target ++ method.queryMark).utf8ByteSize ≤ longestTarget ∧ path.all isPathChar ∧
      isQuery query then
    some (String.ofList path)
  else none

def collectionPath? (kind : ResourceKind) («namespace» : String) : Option String :=
  pathOf? .post (collectionText kind «namespace»)

def resourcePath? (method : Method) (kind : ResourceKind) («namespace» name : String) :
    Option String :=
  if name.isEmpty then none
  else pathOf? method (collectionText kind «namespace» ++ "/" ++ name)

end EtcdFleet.Kubernetes
