import EtcdFleet.Text.Pieces

set_option autoImplicit false

/-!
# The file system of a bare machine

Which directories are there before anything is configured, and where no file can be made. Paths are
followed step by step: empty steps and single dots lead nowhere, two dots lead up, and nothing lies
above the root.
-/

namespace EtcdFleet.Machine

/-- The steps that are left of a path below where it starts, if every name on the way may be entered. A
step up from the start leads to `above`, if to anything. -/
def follow? (enters : List (List Char) → Bool) (above : Option (List (List Char)))
    (pieces : List (List Char)) : Option (List (List Char)) :=
  pieces.foldlM
    (fun done piece =>
      if piece = [] ∨ piece = ['.'] then some done
      else if piece = ['.', '.'] then if done = [] then above else some done.dropLast
      else if enters (done ++ [piece]) then some (done ++ [piece])
      else none)
    []

def pieces (path : String) : List (List Char) := Text.pieces '/' path.toList

def below? (path : String) : Option (List (List Char)) := follow? (fun _ => true) none (pieces path)

def isAbsolute (path : String) : Bool := path.toList.head? == some '/'

def directories : List (List String) :=
  [["bin"], ["boot"], ["dev"], ["dev", "pts"], ["dev", "shm"], ["etc"], ["home"], ["lib"],
    ["media"], ["mnt"], ["opt"], ["proc"], ["proc", "self"], ["root"], ["run"], ["sbin"], ["srv"],
    ["sys"], ["tmp"], ["usr"], ["usr", "bin"], ["usr", "lib"], ["usr", "local"], ["usr", "sbin"],
    ["usr", "share"], ["var"], ["var", "lib"], ["var", "log"], ["var", "tmp"]]

/-- From the root through directories that are there; a step up from the root leads to it again. -/
def directory? (pieces : List (List Char)) : Option (List String) :=
  (follow? (fun steps => directories.contains (steps.map String.ofList)) (some []) pieces).map
    fun steps => steps.map String.ofList

def isDirectory (path : String) : Bool :=
  if isAbsolute path then (directory? (pieces path)).isSome
  else !path.isEmpty && (follow? (fun _ => false) (some []) (pieces path)).isSome

def isEmptyFile (path : String) : Bool :=
  isAbsolute path && (pieces path).getLast? == some "null".toList &&
    directory? (pieces path).dropLast == some ["dev"]

def longestName : Nat := 255

/-- Of the longest path there is, what is left for a directory between the working directory and the
name of a file. -/
def longestDirectory : Nat := 4050

def closed : List (List String) := [["proc"], ["sys"], ["dev", "null"]]

def isClosed (path : String) : Bool :=
  isAbsolute path &&
    (follow? (fun _ => true) (some []) (pieces path)).any fun steps =>
      closed.any (·.isPrefixOf (steps.map String.ofList))

def canHold (path : String) : Bool :=
  !path.toList.contains '\x00' && path.utf8ByteSize ≤ longestDirectory &&
    ((pieces path).all fun piece => (String.ofList piece).utf8ByteSize ≤ longestName) &&
    !isClosed path

end EtcdFleet.Machine
