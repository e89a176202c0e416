import EtcdFleet.Document
import EtcdFleet.Text.Numeral
import EtcdFleet.Text.Scanner

set_option autoImplicit false

/-!
# Scanning TOML text

White space, comments and line ends, and the four kinds of quoted text. A line end inside a quoted
text is read as a line feed.
-/

namespace EtcdFleet.Toml

open Text Scanner

def isSpace (c : Char) : Bool := c == ' ' || c == '\t'

/-- What may stand in a comment or, quotes and backslashes aside, in a quoted text. -/
def isPlain (c : Char) : Bool := c == '\t' || (0x20 ≤ c.toNat && c.toNat ≠ 0x7F)

def spaces : Scanner Unit := discard (takeWhile isSpace)

def lineEnd : Scanner Unit := do
  spaces
  if ← optionally ['#'] then discard (takeWhile isPlain)
  exactly ['\n'] <|> exactly ['\r', '\n'] <|> atEnd

/-- White space, line ends and comments; the flag says that a comment is open. -/
def afterBlank? : Bool → List Char → Option (List Char)
  | _, [] => some []
  | _, '\n' :: rest => afterBlank? false rest
  | _, '\r' :: '\n' :: rest => afterBlank? false rest
  | true, c :: rest => if isPlain c then afterBlank? true rest else none
  | false, '#' :: rest => afterBlank? true rest
  | false, c :: rest => if isSpace c then afterBlank? false rest else some (c :: rest)

def blank : Scanner Unit := ofFunction fun cs => (afterBlank? false cs).map ((), ·)

/-! ## Quoted text -/

def escaped? : Char → Option Char
  | 'b' => some '\x08'
  | 't' => some '\t'
  | 'n' => some '\n'
  | 'f' => some '\x0c'
  | 'r' => some '\r'
  | '"' => some '"'
  | '\\' => some '\\'
  | _ => none

def escapedNumber? (digits : List Char) : Option Char :=
  (Text.hexNumber? digits).bind Text.charOf?

def basicBody? : List Char → Option (List Char × List Char)
  | [] => none
  | '"' :: rest => some ([], rest)
  | '\\' :: 'u' :: a :: b :: c :: d :: rest => do
    let char ← escapedNumber? [a, b, c, d]
    let (chars, after) ← basicBody? rest
    return (char :: chars, after)
  | '\\' :: 'U' :: a :: b :: c :: d :: e :: f :: g :: h :: rest => do
    let char ← escapedNumber? [a, b, c, d, e, f, g, h]
    let (chars, after) ← basicBody? rest
    return (char :: chars, after)
  | '\\' :: c :: rest => do
    let char ← escaped? c
    let (chars, after) ← basicBody? rest
    return (char :: chars, after)
  | c :: rest => do
    guard (isPlain c && c != '\\')
    let (chars, after) ← basicBody? rest
    return (c :: chars, after)

/-- A backslash at the end of a line joins it to the next line that is not blank. -/
def endsLine (cs : List Char) : Bool :=
  match cs.dropWhile isSpace with
  | '\n' :: _ | '\r' :: '\n' :: _ => true
  | _ => false

/-- As `basicBody?` for three quotes, before which two more may stand as text; the flag says that
the rest of a joined line is being skipped. -/
def longBasicBody? : Bool → List Char → Option (List Char × List Char)
  | _, [] => none
  | true, '\n' :: rest => longBasicBody? true rest
  | true, '\r' :: '\n' :: rest => longBasicBody? true rest
  | true, ' ' :: rest => longBasicBody? true rest
  | true, '\t' :: rest => longBasicBody? true rest
  | _, '"' :: '"' :: '"' :: '"' :: '"' :: rest => some (['"', '"'], rest)
  | _, '"' :: '"' :: '"' :: '"' :: rest => some (['"'], rest)
  | _, '"' :: '"' :: '"' :: rest => some ([], rest)
  | _, '\\' :: 'u' :: a :: b :: c :: d :: rest => do
    let char ← escapedNumber? [a, b, c, d]
    let (chars, after) ← longBasicBody? false rest
    return (char :: chars, after)
  | _, '\\' :: 'U' :: a :: b :: c :: d :: e :: f :: g :: h :: rest => do
    let char ← escapedNumber? [a, b, c, d, e, f, g, h]
    let (chars, after) ← longBasicBody? false rest
    return (char :: chars, after)
  | _, '\\' :: c :: rest =>
    if endsLine (c :: rest) then longBasicBody? true (c :: rest)
    else do
      let char ← escaped? c
      let (chars, after) ← longBasicBody? false rest
      return (char :: chars, after)
  | _, '\r' :: '\n' :: rest => do
    let (chars, after) ← longBasicBody? false rest
    return ('\n' :: chars, after)
  | _, c :: rest => do
    guard ((isPlain c && c != '\\') || c == '\n')
    let (chars, after) ← longBasicBody? false rest
    return (c :: chars, after)

def literalBody? : List Char → Option (List Char × List Char)
  | [] => none
  | '\'' :: rest => some ([], rest)
  | c :: rest => do
    guard (isPlain c)
    let (chars, after) ← literalBody? rest
    return (c :: chars, after)

def longLiteralBody? : List Char → Option (List Char × List Char)
  | [] => none
  | '\'' :: '\'' :: '\'' :: '\'' :: '\'' :: rest => some (['\'', '\''], rest)
  | '\'' :: '\'' :: '\'' :: '\'' :: rest => some (['\''], rest)
  | '\'' :: '\'' :: '\'' :: rest => some ([], rest)
  | '\r' :: '\n' :: rest => do
    let (chars, after) ← longLiteralBody? rest
    return ('\n' :: chars, after)
  | c :: rest => do
    guard (isPlain c || c == '\n')
    let (chars, after) ← longLiteralBody? rest
    return (c :: chars, after)

/-- A line end directly after the opening quotes of a long text is no part of it. -/
def withoutFirstLineEnd : List Char → List Char
  | '\n' :: rest => rest
  | '\r' :: '\n' :: rest => rest
  | cs => cs

def shortText : Scanner (List Char) := do
  if ← optionally ['"'] then ofFunction basicBody?
  else
    exactly ['\'']
    ofFunction literalBody?

def text : Scanner (List Char) := do
  if ← optionally ['"', '"', '"'] then
    ofFunction fun cs => longBasicBody? false (withoutFirstLineEnd cs)
  else if ← optionally ['\'', '\'', '\''] then
    ofFunction fun cs => longLiteralBody? (withoutFirstLineEnd cs)
  else shortText

end EtcdFleet.Toml
