import EtcdFleet.Document
import EtcdFleet.Document.Shortest

set_option autoImplicit false

/-!
# Writing a document

The compact text: no space, members in the order in which they are held, and in quoted texts only the
quote, the backslash and control characters escaped.
-/

namespace EtcdFleet

namespace Number

def zeros (count : Nat) : List Char := List.replicate count '0'

/-- A float keeps a point where it is written without an exponent, which it is from `1e-5` on and
below `1e16`. -/
def floatChars (bits : UInt64) : List Char :=
  let sign := if bits.toNat < 1 <<< 63 then [] else ['-']
  if bits.toNat % (1 <<< 63) = 0 then sign ++ ['0', '.', '0']
  else
    let (significand, power) := (Binary64.ofBits bits).shortest
    let digits := Nat.toDigits 10 significand
    let point : Int := digits.length + power
    let size :=
      if 0 ≤ power ∧ point ≤ 16 then digits ++ zeros power.toNat ++ ['.', '0']
      else if 0 < point ∧ point ≤ 16 then
        digits.take point.toNat ++ ['.'] ++ digits.drop point.toNat
      else if -5 < point ∧ point ≤ 0 then ['0', '.'] ++ zeros (-point).toNat ++ digits
      else
        let exponent := 'e' :: (toString (point - 1)).toList
        match digits with
        | [digit] => digit :: exponent
        | digits => digits.take 1 ++ ['.'] ++ digits.drop 1 ++ exponent
    sign ++ size

def chars : Number → List Char
  | integer value => (toString value).toList
  | float bits => floatChars bits

end Number

namespace Document

def escapedControl (c : Char) : List Char :=
  let code := Nat.toDigits 16 c.toNat
  ['\\', 'u'] ++ List.replicate (4 - code.length) '0' ++ code

def escapedChar : Char → List Char
  | '"' => ['\\', '"']
  | '\\' => ['\\', '\\']
  | '\x08' => ['\\', 'b']
  | '\x0c' => ['\\', 'f']
  | '\n' => ['\\', 'n']
  | '\r' => ['\\', 'r']
  | '\t' => ['\\', 't']
  | c => if c.toNat < 0x20 then escapedControl c else [c]

def quotedChars (text : String) : List Char :=
  '"' :: text.toList.flatMap escapedChar ++ ['"']

mutual

def chars : Document → List Char
  | .null => ['n', 'u', 'l', 'l']
  | .bool true => ['t', 'r', 'u', 'e']
  | .bool false => ['f', 'a', 'l', 's', 'e']
  | .number value => value.chars
  | .text value => quotedChars value
  | .list items => '[' :: (itemChars items ++ [']'])
  | .object members => '{' :: (memberChars members ++ ['}'])

def itemChars : List Document → List Char
  | [] => []
  | [item] => item.chars
  | item :: rest => item.chars ++ ',' :: itemChars rest

def memberChars : List (String × Document) → List Char
  | [] => []
  | [(name, value)] => quotedChars name ++ ':' :: value.chars
  | (name, value) :: rest => quotedChars name ++ ':' :: (value.chars ++ ',' :: memberChars rest)

end

def toText (doc : Document) : String := String.ofList doc.chars

end Document
end EtcdFleet
