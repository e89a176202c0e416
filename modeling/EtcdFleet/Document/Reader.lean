import EtcdFleet.Document.Token
import EtcdFleet.Document.Written

set_option autoImplicit false

/-!
# Reading a written document

Tokens are taken one after the other against a stack of the lists and objects that are open. Members
are kept as they are written; the document of a text is the one that its written value stands for.
-/

namespace EtcdFleet

namespace Written

/-- An open list or object whose next value is being read: what it holds so far, last first, and the
name under which an object will hold the value. -/
inductive Frame
  | list (done : List Written)
  | object (done : List (Option String × Written)) (name : Option String)

inductive Expecting
  /-- A value; directly after the opening of a list, its end as well. -/
  | value (mayClose : Bool)
  /-- A member name of an object that holds `done`; directly after its opening, its end as well. -/
  | member (done : List (Option String × Written)) (mayClose : Bool)
  | colon (done : List (Option String × Written)) (name : Option String)
  | after (last : Written)

structure Reading where
  stack : List Frame
  expecting : Expecting

namespace Reading

def finished (stack : List Frame) (value : Written) : Reading := ⟨stack, .after value⟩

def takeValue? (reading : Reading) (mayClose : Bool) : Token → Option Reading
  | .null => some (finished reading.stack .null)
  | .bool value => some (finished reading.stack (.bool value))
  | .number value => some (finished reading.stack (.number value))
  | .text value => some (finished reading.stack (.text value))
  | .openList => some ⟨.list [] :: reading.stack, .value true⟩
  | .openObject => some ⟨reading.stack, .member [] true⟩
  | .closeList =>
    match mayClose, reading.stack with
    | true, .list _ :: below => some (finished below (.list []))
    | _, _ => none
  | _ => none

def takeMember? (reading : Reading) (done : List (Option String × Written)) (mayClose : Bool) :
    Token → Option Reading
  | .text name => some ⟨reading.stack, .colon done name⟩
  | .closeObject => if mayClose then some (finished reading.stack (.object [])) else none
  | _ => none

def takeColon? (reading : Reading) (done : List (Option String × Written)) (name : Option String) :
    Token → Option Reading
  | .colon => some ⟨.object done name :: reading.stack, .value false⟩
  | _ => none

def takeAfter? (reading : Reading) (last : Written) (token : Token) : Option Reading :=
  match token, reading.stack with
  | .comma, .list done :: below => some ⟨.list (last :: done) :: below, .value false⟩
  | .closeList, .list done :: below => some (finished below (.list (last :: done).reverse))
  | .comma, .object done name :: below => some ⟨below, .member ((name, last) :: done) false⟩
  | .closeObject, .object done name :: below =>
    some (finished below (.object ((name, last) :: done).reverse))
  | _, _ => none

def take? (reading : Reading) (token : Token) : Option Reading :=
  match reading.expecting with
  | .value mayClose => reading.takeValue? mayClose token
  | .member done mayClose => reading.takeMember? done mayClose token
  | .colon done name => reading.takeColon? done name token
  | .after last => reading.takeAfter? last token

def start : Reading := ⟨[], .value false⟩

def result? : Reading → Option Written
  | ⟨[], .after value⟩ => some value
  | _ => none

end Reading

def ofTokens? (tokens : List Token) : Option Written :=
  (tokens.foldlM Reading.take? .start).bind Reading.result?

def ofText? (text : String) : Option Written := (Token.scan text.toList).bind ofTokens?

end Written

def Document.ofText? (text : String) : Option Document :=
  (Written.ofText? text).bind (Written.toDocument? Written.depthLimit)

end EtcdFleet
