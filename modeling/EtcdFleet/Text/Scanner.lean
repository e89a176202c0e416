set_option autoImplicit false

/-!
# Scanning text

Steps that take characters off the front of a text or fail. A step that fails leaves the text to the
alternative after it.
-/

namespace EtcdFleet.Text

/-- A step on the text that is left. -/
abbrev Scanner := StateT (List Char) Option

namespace Scanner

def run? {α : Type} (step : Scanner α) (cs : List Char) : Option (α × List Char) := step cs

def ofFunction {α : Type} (step : List Char → Option (α × List Char)) : Scanner α := step

def peek : Scanner (Option Char) := ofFunction fun cs => some (cs.head?, cs)

def exactly (text : List Char) : Scanner Unit := ofFunction fun cs =>
  if text.isPrefixOf cs then some ((), cs.drop text.length) else none

def optionally (text : List Char) : Scanner Bool := ofFunction fun cs =>
  if text.isPrefixOf cs then some (true, cs.drop text.length) else some (false, cs)

def takeWhile (p : Char → Bool) : Scanner (List Char) := ofFunction fun cs =>
  some (cs.takeWhile p, cs.dropWhile p)

def take (count : Nat) : Scanner (List Char) := ofFunction fun cs =>
  if count ≤ cs.length then some (cs.take count, cs.drop count) else none

def atEnd : Scanner Unit := ofFunction fun cs => if cs.isEmpty then some ((), []) else none

end Scanner

end EtcdFleet.Text
