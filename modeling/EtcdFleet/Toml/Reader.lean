import EtcdFleet.Toml.Scalar
import EtcdFleet.Toml.Table

set_option autoImplicit false

/-!
# Reading TOML

The statements of a text, line by line, and the document that they build. Arrays and inline tables
may hold each other, and keys may be dotted, up to a common bound. Every step takes a character off the
text, so the length of the text bounds the steps.
-/

namespace EtcdFleet.Toml

open Text Scanner

def isBareKeyChar (c : Char) : Bool := c.isAlphanum || c == '_' || c == '-'

def simpleKey : Scanner String := do
  match ← peek with
  | some '"' | some '\'' => return String.ofList (← shortText)
  | _ =>
    let chars ← takeWhile isBareKeyChar
    guard (!chars.isEmpty)
    return String.ofList chars

/-- The dots between the parts of a key may have spaces around them. -/
def keyParts : Nat → Scanner (List String)
  | 0 => failure
  | steps + 1 => do
    spaces
    let part ← simpleKey
    spaces
    if ← optionally ['.'] then return part :: (← keyParts steps)
    return [part]

/-- A key has fewer parts than this, and a value lies in fewer arrays and inline tables. -/
def nestingBound : Nat := 80

def key (steps : Nat) : Scanner (List String × String) := do
  let parts ← keyParts steps
  guard (parts.length < nestingBound)
  match parts.getLast? with
  | some name => return (parts.dropLast, name)
  | none => failure

def hasRoom (room : Nat) : Scanner Unit := guard (0 < room)

mutual

/-- A value in which at most `room` more arrays and inline tables may be opened. -/
def value (room : Nat) : Nat → Scanner Document
  | 0 => failure
  | steps + 1 => do
    match ← peek with
    | some '"' | some '\'' => return .text (String.ofList (← text))
    | some '[' =>
      exactly ['[']
      hasRoom room
      return .list (← elements (room - 1) steps)
    | some '{' =>
      exactly ['{']
      hasRoom room
      spaces
      if ← optionally ['}'] then return .object []
      match ofStatements? (← entries (room - 1) steps) with
      | some table => return table
      | none => failure
    | _ => scalar

def elements (room : Nat) : Nat → Scanner (List Document)
  | 0 => failure
  | steps + 1 => do
    blank
    if ← optionally [']'] then return []
    let first ← value room steps
    blank
    if ← optionally [','] then return first :: (← elements room steps)
    exactly [']']
    return [first]

def entries (room : Nat) : Nat → Scanner (List Statement)
  | 0 => failure
  | steps + 1 => do
    let first ← entry room steps
    spaces
    if ← optionally [','] then return first :: (← entries room steps)
    exactly ['}']
    return [first]

def entry (room : Nat) : Nat → Scanner Statement
  | 0 => failure
  | steps + 1 => do
    let (path, name) ← key steps
    exactly ['=']
    spaces
    return .entry path name (← value room steps)

end

def header (steps : Nat) : Scanner Statement := do
  exactly ['[']
  if ← optionally ['['] then
    let (path, name) ← key steps
    exactly [']', ']']
    return .arrayTable path name
  else
    let (path, name) ← key steps
    exactly [']']
    return .table path name

def line (steps : Nat) : Scanner (Option Statement) := do
  spaces
  match ← peek with
  | none | some '#' | some '\n' | some '\r' => return none
  | some '[' => return some (← header steps)
  | _ => return some (← entry (nestingBound - 1) steps)

def statements : Nat → Scanner (List Statement)
  | 0 => failure
  | steps + 1 => do
    let first ← line steps
    lineEnd
    match ← peek with
    | none => return first.toList
    | some _ => return first.toList ++ (← statements steps)

/-- A byte order mark in front is no part of the text. -/
def withoutMark : List Char → List Char
  | '\ufeff' :: cs => cs
  | cs => cs

def ofText? (text : String) : Option Document :=
  let cs := withoutMark text.toList
  match (statements (2 * cs.length + 3)).run? cs with
  | some (found, []) => ofStatements? found
  | _ => none

end EtcdFleet.Toml
