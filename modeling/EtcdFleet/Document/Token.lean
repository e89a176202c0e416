import EtcdFleet.Document.Numeral

set_option autoImplicit false

/-!
# Tokens of written documents

Punctuation, the three words, numbers and quoted texts. Only space, tab, line feed and carriage
return may stand between them. Control characters inside a quoted text are escaped. A numeral that is
too large to be held, and a quoted text in which half a surrogate pair stands alone, are well formed
but have no value.
-/

namespace EtcdFleet

inductive Token
  | openList
  | closeList
  | openObject
  | closeObject
  | comma
  | colon
  | null
  | bool (value : Bool)
  | number (value : Option Number)
  | text (value : Option String)
  deriving DecidableEq

namespace Token

/-- A part of a quoted text: a character, or an escaped 16 bit unit. -/
inductive Part
  | char (c : Char)
  | unit (value : Nat)

def escaped? : Char → Option Char
  | '"' => some '"'
  | '\\' => some '\\'
  | '/' => some '/'
  | 'b' => some '\x08'
  | 'f' => some '\x0c'
  | 'n' => some '\n'
  | 'r' => some '\r'
  | 't' => some '\t'
  | _ => none

def parts? : List Char → Option (List Part × List Char)
  | [] => none
  | '"' :: rest => some ([], rest)
  | '\\' :: 'u' :: a :: b :: c :: d :: rest => do
    let value ← Text.hexNumber? [a, b, c, d]
    let (later, after) ← parts? rest
    return (.unit value :: later, after)
  | '\\' :: c :: rest => do
    let plain ← escaped? c
    let (later, after) ← parts? rest
    return (.char plain :: later, after)
  | c :: rest => do
    guard (0x20 ≤ c.toNat ∧ c ≠ '\\')
    let (later, after) ← parts? rest
    return (.char c :: later, after)

def isLeading (value : Nat) : Bool := 0xD800 ≤ value && value < 0xDC00

def isTrailing (value : Nat) : Bool := 0xDC00 ≤ value && value < 0xE000

/-- Joins the two units of each surrogate pair; a half that stands alone is no character. -/
def chars? : List Part → Option (List Char)
  | [] => some []
  | .char c :: rest => (chars? rest).map (c :: ·)
  | .unit high :: .unit low :: rest =>
    if isLeading high then
      if isTrailing low then
        (chars? rest).map (Char.ofNat (0x10000 + (high - 0xD800) * 0x400 + (low - 0xDC00)) :: ·)
      else none
    else if isTrailing high then none
    else (chars? (.unit low :: rest)).map (Char.ofNat high :: ·)
  | .unit value :: rest =>
    if isLeading value || isTrailing value then none
    else (chars? rest).map (Char.ofNat value :: ·)

def quoted? (cs : List Char) : Option (Option String × List Char) :=
  (parts? cs).map fun (parts, rest) => ((chars? parts).map String.ofList, rest)

def isSpace (c : Char) : Bool := c == ' ' || c == '\t' || c == '\n' || c == '\r'

def punctuation? : Char → Option Token
  | '[' => some openList
  | ']' => some closeList
  | '{' => some openObject
  | '}' => some closeObject
  | ',' => some comma
  | ':' => some colon
  | _ => none

def words : List (List Char × Token) :=
  [("null".toList, null), ("true".toList, bool true), ("false".toList, bool false)]

def word? (cs : List Char) : Option (Token × List Char) :=
  words.findSome? fun (word, token) =>
    if word.isPrefixOf cs then some (token, cs.drop word.length) else none

def first? : List Char → Option (Token × List Char)
  | [] => none
  | c :: cs =>
    match punctuation? c with
    | some token => some (token, cs)
    | none =>
      if c = '"' then (quoted? cs).map fun (value, rest) => (text value, rest)
      else
        match word? (c :: cs) with
        | some found => some found
        | none => do
          let (numeral, rest) ← Numeral.scan? (c :: cs)
          return (number numeral.toNumber?, rest)

/-- Every token takes a character at least, so as many steps as there are characters suffice. -/
def scanWithin : Nat → List Char → Option (List Token)
  | 0, cs => if (cs.dropWhile isSpace).isEmpty then some [] else none
  | steps + 1, cs =>
    match cs.dropWhile isSpace with
    | [] => some []
    | cs => do
      let (token, rest) ← first? cs
      let later ← scanWithin steps rest
      return token :: later

def scan (cs : List Char) : Option (List Token) := scanWithin cs.length cs

end Token
end EtcdFleet
