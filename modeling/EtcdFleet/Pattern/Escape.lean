import EtcdFleet.Text.Blank
import EtcdFleet.Text.Numeral
import EtcdFleet.Text.Scanner

set_option autoImplicit false

/-!
# Escapes in patterns

What a backslash stands for: a character, a set of characters, or a position between two characters.
Patterns match whole characters, one after the other. So without regard to other scripts neither a
set with characters beyond ASCII nor a single byte beyond it can be matched, and with regard to them
no boundary of a word can.
-/

namespace EtcdFleet.Pattern

open Text Scanner

structure Mode where
  /-- Sets and boundaries take all scripts into account. -/
  allScripts : Bool
  spaced : Bool

namespace Mode

def initial : Mode := ⟨true, false⟩

def names (mode : Mode) (c : Char) : Bool := mode.allScripts || c.toNat < 0x80

end Mode

/-- What is left after white space and comments; the flag says that a comment is open. -/
def afterSpace : Bool → List Char → List Char
  | _, [] => []
  | true, c :: cs => afterSpace (c != '\n') cs
  | false, c :: cs =>
    if c = '#' then afterSpace true cs
    else if isBlank c then afterSpace false cs
    else c :: cs

def skip (mode : Mode) : Scanner Unit := ofFunction fun cs =>
  some ((), if mode.spaced then afterSpace false cs else cs)

def next : Scanner Char := ofFunction fun
  | [] => none
  | c :: cs => some (c, cs)

inductive Escape
  | char (c : Char)
  | set
  | position

def hexDigits (mode : Mode) : Nat → Scanner (List Char)
  | 0 => return []
  | count + 1 => do
    skip mode
    let digit ← next
    return digit :: (← hexDigits mode count)

def numberedChar (mode : Mode) (count : Nat) : Scanner Char := do
  let digits ← hexDigits mode count
  skip mode
  match (hexNumber? digits).bind charOf? with
  | some c => return c
  | none => failure

def categories : List Char := ['c', 'l', 'm', 'n', 'p', 's', 'z']

def escape (mode : Mode) : Scanner Escape := do
  let c ← next
  match c with
  | 'x' =>
    let c ← numberedChar mode 2
    guard (mode.names c)
    return .char c
  | 'u' => return .char (← numberedChar mode 4)
  | 'U' => return .char (← numberedChar mode 8)
  | 'p' | 'P' =>
    guard mode.allScripts
    skip mode
    guard (categories.contains (← next).toLower)
    skip mode
    return .set
  | 'd' | 's' | 'w' => return .set
  | 'D' | 'S' | 'W' =>
    guard mode.allScripts
    return .set
  | 'b' | 'B' | '<' | '>' =>
    guard (!mode.allScripts)
    return .position
  | 'A' | 'z' => return .position
  | 'a' => return .char '\x07'
  | 'f' => return .char '\x0c'
  | 'n' => return .char '\n'
  | 'r' => return .char '\r'
  | 't' => return .char '\t'
  | 'v' => return .char '\x0b'
  | c =>
    guard (c.toNat < 0x80 && !c.isAlphanum)
    return .char c

end EtcdFleet.Pattern
