import EtcdFleet.Text.Shapeless

set_option autoImplicit false

/-!
# Quoted text in messages

A text between quotes, so that its ends and everything invisible in it can be seen: quotes and
backslashes are escaped, and so is every character without a shape of its own.
-/

namespace EtcdFleet.Text

def numbered (c : Char) : List Char :=
  ['\\', 'u', '\x7b'] ++ Nat.toDigits 16 c.toNat ++ ['\x7d']

def escapedInQuotes : Char → List Char
  | '"' => ['\\', '"']
  | '\\' => ['\\', '\\']
  | '\n' => ['\\', 'n']
  | '\r' => ['\\', 'r']
  | '\t' => ['\\', 't']
  | '\x00' => ['\\', '0']
  | c => if isShapeless c then numbered c else [c]

def quoted (text : String) : String :=
  String.ofList ('"' :: text.toList.flatMap escapedInQuotes ++ ['"'])

end EtcdFleet.Text
