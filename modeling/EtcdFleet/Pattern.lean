import EtcdFleet.Pattern.Bracket
import EtcdFleet.Text.Letters

set_option autoImplicit false

/-!
# Patterns

Which texts are patterns: alternatives of sequences of characters, sets, positions, groups and
repetitions. A pattern stands between braces, so it has no closing brace and nothing that needs one:
repetitions are not counted, and sets and characters have no names in braces. The groups, repetitions,
alternatives and sequences around a part are levels, of which a pattern has a bounded number.
-/

namespace EtcdFleet.Pattern

open Text Scanner

/-- A group that is open: how its parts are read, the depths of the parts of the sequence that is being
read, where a change of mode is a part without one, and the depths of the alternatives before it. -/
structure Group where
  mode : Mode
  parts : List (Option Nat)
  alternatives : List Nat

namespace Group

def sequenceDepth (group : Group) : Nat := listDepth (group.parts.map (·.getD 0))

def depth (group : Group) : Nat := listDepth (group.sequenceDepth :: group.alternatives)

def add (group : Group) (depth : Nat) : Group := { group with parts := some depth :: group.parts }

def alternative (group : Group) : Group :=
  { group with parts := [], alternatives := group.sequenceDepth :: group.alternatives }

def inMode (group : Group) (mode : Mode) : Group :=
  { group with mode, parts := none :: group.parts }

def repeated? (group : Group) : Option Group :=
  match group.parts with
  | some depth :: rest => some { group with parts := some (depth + 1) :: rest }
  | _ => none

end Group

/-- Each flag once, and one hyphen at most, which is not the last. -/
def areFlags (flags : List Char) : Bool :=
  flags.all (['i', 'm', 's', 'U', 'u', 'R', 'x', '-'].contains ·) && decide flags.Nodup &&
    flags.getLast? != some '-'

def switched (flags : List Char) (flag : Char) (value : Bool) : Bool :=
  if (flags.takeWhile (· != '-')).contains flag then true
  else value && !flags.contains flag

def Mode.switch (mode : Mode) (flags : List Char) : Mode :=
  ⟨switched flags 'u' mode.allScripts, switched flags 'x' mode.spaced⟩

def isGroupName : List Char → Bool
  | [] => false
  | c :: cs =>
    (c == '_' || isLetter c) &&
      cs.all fun c => ['_', '.', '[', ']'].contains c || isLetterOrNumeral c

inductive Opening
  | group (mode : Mode) (name : Option (List Char))
  | switch (mode : Mode)

def groupName : Scanner (List Char) := do
  let name ← takeWhile (· != '>')
  exactly ['>']
  guard (isGroupName name)
  return name

/-- What follows an opening parenthesis. A change of mode names a flag at least. -/
def opening (mode : Mode) : Scanner Opening := do
  skip mode
  if ← optionally ['?', 'P', '<'] then return .group mode (some (← groupName))
  if ← optionally ['?', '<'] then return .group mode (some (← groupName))
  if ← optionally ['?'] then
    let flags ← takeWhile fun c => c != ':' && c != ')'
    let last ← next
    guard (areFlags flags)
    if last = ':' then return .group (mode.switch flags) none
    guard (!flags.isEmpty)
    return .switch (mode.switch flags)
  return .group mode none

def part (mode : Mode) (first : Char) : Scanner Nat :=
  match first with
  | '[' => bracketed mode
  | '\\' => do
    discard (escape mode)
    return 0
  | '.' => do
    guard mode.allScripts
    return 0
  | '\x7b' => failure
  | _ => return 0

/-- The rest of a pattern inside open groups; its depth. No two groups have one name. -/
def rest : Nat → Group → List Group → List (List Char) → Scanner Nat
  | 0, _, _, _ => failure
  | steps + 1, group, around, names => do
    skip group.mode
    match ← peek with
    | none =>
      guard around.isEmpty
      return group.depth
    | some c =>
      exactly [c]
      match c with
      | '(' =>
        match ← opening group.mode with
        | .switch mode => rest steps (group.inMode mode) around names
        | .group mode name =>
          guard (name.all fun name => !names.contains name)
          rest steps ⟨mode, [], []⟩ (group :: around) (name.toList ++ names)
      | ')' =>
        match around with
        | [] => failure
        | outer :: around => rest steps (outer.add (group.depth + 1)) around names
      | '|' => rest steps group.alternative around names
      | '?' | '*' | '+' =>
        match group.repeated? with
        | none => failure
        | some group =>
          discard (optionally ['?'])
          rest steps group around names
      | c => rest steps (group.add (← part group.mode c)) around names

def depthLimit : Nat := 250

/-- Every step takes a character off the text, so its length bounds the steps. -/
def isPattern (text : List Char) : Bool :=
  match (rest (text.length + 1) ⟨Mode.initial, [], []⟩ [] []).run? text with
  | some (depth, []) => depth ≤ depthLimit
  | _ => false

end EtcdFleet.Pattern
