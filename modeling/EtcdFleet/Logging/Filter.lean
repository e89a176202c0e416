import EtcdFleet.Pattern
import EtcdFleet.Text.Blank
import EtcdFleet.Text.Letters
import EtcdFleet.Text.Numeral
import EtcdFleet.Text.Pieces

set_option autoImplicit false

/-!
# Log filters

A filter is a comma separated list of directives, each a level for everything, or for the targets that
start with a name, or for what happens inside a span. Of the directives that concern an event the most
specific one decides: the longest target, then the most fields, and of two equal ones the later. A
filter without directives lets errors pass.
-/

namespace EtcdFleet

inductive LogLevel
  | off
  | error
  | warn
  | info
  | debug
  | trace
  deriving DecidableEq

namespace LogLevel

def rank : LogLevel → Nat
  | off => 0
  | error => 1
  | warn => 2
  | info => 3
  | debug => 4
  | trace => 5

def label : LogLevel → String
  | off => "off"
  | error => "error"
  | warn => "warn"
  | info => "info"
  | debug => "debug"
  | trace => "trace"

def all : List LogLevel := [off, error, warn, info, debug, trace]

def ofChars? (cs : List Char) : Option LogLevel :=
  match Text.unsigned? cs with
  | some number => all.find? fun level => level.rank == number
  | none => all.find? fun level => level.label.toList == cs.map Char.toLower

end LogLevel

structure LogDirective where
  target : Option (List Char)
  span : Option (List Char)
  fields : List (List Char × Bool)
  level : LogLevel
  deriving DecidableEq

inductive LogDirectiveError
  | malformed
  /-- A part would begin or end inside a character: nothing can be read on. -/
  | torn
  deriving DecidableEq

/-- The text of a number: a sign, and a word or digits with at most one point among them, with an
exponent. -/
def isNumberText (text : List Char) : Bool :=
  let size :=
    match text with
    | '+' :: cs | '-' :: cs => cs
    | cs => cs
  let (whole, afterWhole) := (size.takeWhile Char.isDigit, size.dropWhile Char.isDigit)
  let fraction := if afterWhole.head? = some '.' then afterWhole.tail else []
  let afterPoint :=
    if afterWhole.head? = some '.' then fraction.dropWhile Char.isDigit else afterWhole
  let exponent :=
    match afterPoint with
    | [] => true
    | c :: cs => c.toLower == 'e' && (Text.digits? (withoutSign cs)).isSome
  ["inf", "infinity", "nan"].contains (String.ofList (size.map Char.toLower)) ||
    ((!whole.isEmpty || fraction.head?.any Char.isDigit) && exponent)
where
  withoutSign : List Char → List Char
    | '+' :: cs | '-' :: cs => cs
    | cs => cs

namespace LogDirective

inductive Stage
  | start
  | levelOrTarget (start : Nat)
  | span (start : Nat)
  | field (start : Nat)
  | afterFields
  | afterSpan
  | level (start : Nat)

structure Parsing where
  stage : Stage
  found : LogDirective

abbrev Result := Except LogDirectiveError

def malformed {α : Type} : Result α := .error .malformed

def rest (text : List Char) (start : Nat) : Result (List Char) :=
  match Text.cutBytes? start text with
  | some (_, after) => .ok after
  | none => .error .torn

def part (text : List Char) (start stop : Nat) : Result (List Char) := do
  match Text.cutBytes? (stop - start) (← rest text start) with
  | some (before, _) => .ok before
  | none => .error .torn

def mayStart (c : Char) : Bool :=
  c == '-' || c == ':' || c == '_' || Text.isLetterOrNumeral c

/-- A field may be given with a value: a number, or else a pattern. Truth values are patterns, too. -/
def fieldOf (cs : List Char) : Result (List Char × Bool) :=
  match Text.cut? '=' cs with
  | none => .ok (cs, false)
  | some (name, value) =>
    let value := value.takeWhile (· != '=')
    if isNumberText value || Pattern.isPattern value then .ok (name, true) else malformed

/-- One character of the trimmed text; parts are cut from the whole text. -/
def step (text : List Char) (parsing : Parsing) (position : Nat) (c : Char) : Result Parsing :=
  let found := parsing.found
  match parsing.stage, c with
  | .start, '[' => .ok ⟨.span (position + 1), found⟩
  | .start, c => if mayStart c then .ok ⟨.levelOrTarget position, found⟩ else malformed
  | .levelOrTarget start, '=' => do
    return ⟨.level (position + 1), { found with target := some (← part text start position) }⟩
  | .levelOrTarget start, '[' => do
    return ⟨.span (position + 1), { found with target := some (← part text start position) }⟩
  | .levelOrTarget start, _ => .ok ⟨.levelOrTarget start, found⟩
  | .span start, ']' => do
    return ⟨.afterSpan, { found with span := some (← part text start position) }⟩
  | .span start, '\x7b' => do
    let span ← part text start position
    return ⟨.field (position + 1), { found with span := if span.isEmpty then none else some span }⟩
  | .span start, _ => .ok ⟨.span start, found⟩
  | .field start, '\x7d' => do
    let field ← part text start position
    if field.isEmpty then malformed
    else return ⟨.afterFields, { found with fields := found.fields ++ [← fieldOf field] }⟩
  | .field start, _ => .ok ⟨.field start, found⟩
  | .afterFields, ']' => .ok ⟨.afterSpan, found⟩
  | .afterSpan, '=' => .ok ⟨.level (position + 1), found⟩
  | .level start, _ => .ok ⟨.level start, found⟩
  | _, _ => malformed

def steps (text : List Char) (parsing : Parsing) (position : Nat) : List Char → Result Parsing
  | [] => .ok parsing
  | c :: cs => do steps text (← step text parsing position c) (position + c.utf8Size) cs

/-- Without a level everything passes. -/
def finish (text : List Char) (parsing : Parsing) : Result LogDirective :=
  let found := parsing.found
  match parsing.stage with
  | .levelOrTarget start => do
    let rest ← rest text start
    match LogLevel.ofChars? rest with
    | some level => return { found with level }
    | none => return { found with target := some rest }
  | .level start => do
    let rest ← rest text start
    if rest.isEmpty then return found
    match LogLevel.ofChars? rest with
    | some level => return { found with level }
    | none => malformed
  | .afterSpan => .ok found
  | _ => malformed

def ofChars (text : List Char) : Result LogDirective := do
  finish text (← steps text ⟨.start, ⟨none, none, [], .trace⟩⟩ 0 (Text.trim text))

def isStatic (directive : LogDirective) : Bool :=
  directive.span.isNone && directive.fields.all fun field => !field.2

def concerns (directive : LogDirective) (target : List Char) (fields : List (List Char)) : Bool :=
  (directive.target.all fun name => name.isPrefixOf target) &&
    directive.fields.all fun field => fields.contains field.1

def targetSize (directive : LogDirective) : Nat :=
  match directive.target with
  | none => 0
  | some name => name.length + 1

def isAtLeastAsSpecific (a b : LogDirective) : Bool :=
  b.targetSize < a.targetSize ||
    (b.targetSize == a.targetSize && b.fields.length ≤ a.fields.length)

end LogDirective

abbrev LogFilter := List LogDirective

namespace LogFilter

def directiveTexts (text : String) : List (List Char) :=
  (Text.pieces ',' text.toList).filter fun piece => !piece.isEmpty

def ofText (text : String) : LogDirective.Result LogFilter :=
  (directiveTexts text).mapM LogDirective.ofChars

/-- Malformed directives are left out. -/
def ofTextLeniently (text : String) : LogDirective.Result LogFilter :=
  (directiveTexts text).foldrM (fun piece filter =>
      match LogDirective.ofChars piece with
      | .ok directive => .ok (directive :: filter)
      | .error .malformed => .ok filter
      | .error .torn => .error .torn)
    []

def decisive? (filter : LogFilter) (target : List Char) (fields : List (List Char)) :
    Option LogDirective :=
  (filter.filter fun directive => directive.isStatic && directive.concerns target fields).foldl
    (fun best directive =>
      match best with
      | none => some directive
      | some best => if directive.isAtLeastAsSpecific best then some directive else some best)
    none

def passes (filter : LogFilter) (target : List Char) (fields : List (List Char))
    (level : LogLevel) : Bool :=
  match filter with
  | [] => level.rank ≤ LogLevel.error.rank
  | filter => (filter.decisive? target fields).any fun directive => level.rank ≤ directive.level.rank

end LogFilter
end EtcdFleet
