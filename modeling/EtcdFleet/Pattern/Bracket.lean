import EtcdFleet.Pattern.Escape

set_option autoImplicit false

/-!
# Sets in brackets

A set in brackets joins characters, ranges, named sets and other sets in brackets, and two such sets
may be cut, subtracted or compared. The depth of a set counts the brackets, the operators and the
lists of parts around its innermost part.
-/

namespace EtcdFleet.Pattern

open Text Scanner

/-- A list of two parts at least is a level of its own. -/
def listDepth : List Nat → Nat
  | [] => 0
  | [depth] => depth
  | depths => depths.foldl max 0 + 1

/-- A set whose bracket is open: the depths of the parts since the last operator, and that of the left
operand. -/
structure OpenSet where
  parts : List Nat
  left : Option Nat

namespace OpenSet

def depth (set : OpenSet) : Nat :=
  match set.left with
  | none => listDepth set.parts
  | some left => max left (listDepth set.parts) + 1

def add (set : OpenSet) (depth : Nat) : OpenSet := { set with parts := depth :: set.parts }

def operand (set : OpenSet) : OpenSet := ⟨[], some set.depth⟩

end OpenSet

def setNames : List String :=
  ["alnum", "alpha", "ascii", "blank", "cntrl", "digit", "graph", "lower", "print", "punct",
    "space", "upper", "word", "xdigit"]

def namedSet? : List Char → Option (Bool × List Char)
  | ':' :: cs =>
    let negated := cs.head? == some '^'
    let cs := if negated then cs.tail else cs
    let name := cs.takeWhile (· != ':')
    match cs.drop name.length with
    | ':' :: ']' :: rest =>
      if setNames.contains (String.ofList name) then some (negated, rest) else none
    | _ => none
  | _ => none

def hyphens (mode : Mode) : Nat → Scanner (List Nat)
  | 0 => return []
  | steps + 1 => do
    if ← optionally ['-'] then
      skip mode
      return 0 :: (← hyphens mode steps)
    return []

def ahead : Scanner (List Char) := ofFunction fun cs => some (cs, cs)

/-- The parts that only the front of a set can hold: hyphens, or a closing bracket. -/
def openSet (mode : Mode) : Scanner OpenSet := do
  skip mode
  if ← optionally ['^'] then
    guard mode.allScripts
    skip mode
  match ← hyphens mode (← ahead).length with
  | [] =>
    if ← optionally [']'] then
      skip mode
      return ⟨[0], none⟩
    return ⟨[], none⟩
  | parts => return ⟨parts, none⟩

def setPart (mode : Mode) : Scanner Escape := do
  let c ← next
  if c = '\\' then escape mode else return .char c

def setChar (mode : Mode) : Escape → Scanner Char
  | .char c => do
    guard (mode.names c)
    return c
  | _ => failure

/-- The character after a hyphen; in spaced patterns white space and the start of a comment are
passed over, unless nothing follows them. -/
def afterHyphen? (mode : Mode) (cs : List Char) : Option Char :=
  let rest := cs.dropWhile isBlank
  let rest := if rest.head? = some '#' then rest.tail.dropWhile isBlank else rest
  if mode.spaced && !rest.isEmpty then rest.head? else cs.head?

/-- A part, or a range of characters in order. A hyphen before another one or before the end of the set
makes no range. -/
def setRange (mode : Mode) : Scanner Unit := do
  let first ← setPart mode
  skip mode
  match ← ahead with
  | '-' :: cs =>
    let after := afterHyphen? mode cs
    if after = some ']' ∨ after = some '-' then single first
    else
      exactly ['-']
      skip mode
      let last ← setPart mode
      guard ((← setChar mode first) ≤ (← setChar mode last))
  | _ => single first
where
  single : Escape → Scanner Unit
    | .set => return
    | .position => failure
    | part => discard (setChar mode part)

def setRest (mode : Mode) : Nat → OpenSet → List OpenSet → Scanner Nat
  | 0, _, _ => failure
  | steps + 1, set, around => do
    skip mode
    match ← ahead with
    | [] => failure
    | ']' :: _ =>
      exactly [']']
      match around with
      | [] => return set.depth + 1
      | outer :: around => setRest mode steps (outer.add (set.depth + 1)) around
    | '[' :: cs =>
      exactly ['[']
      match namedSet? cs with
      | some (negated, rest) =>
        guard (!negated || mode.allScripts)
        StateT.set rest
        setRest mode steps (set.add 0) around
      | none => setRest mode steps (← openSet mode) (set :: around)
    | '&' :: '&' :: _ =>
      exactly ['&', '&']
      setRest mode steps set.operand around
    | '-' :: '-' :: _ =>
      exactly ['-', '-']
      setRest mode steps set.operand around
    | '~' :: '~' :: _ =>
      exactly ['~', '~']
      setRest mode steps set.operand around
    | _ =>
      setRange mode
      setRest mode steps (set.add 0) around

def bracketed (mode : Mode) : Scanner Nat := do
  let set ← openSet mode
  setRest mode ((← ahead).length + 1) set []

end EtcdFleet.Pattern
