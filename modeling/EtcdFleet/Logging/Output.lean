import EtcdFleet.Document.Reader
import EtcdFleet.Logging.Filter
import EtcdFleet.Settings
import EtcdFleet.Settings.Machine
import EtcdFleet.Text.Quoted

set_option autoImplicit false

/-!
# Where logging begins

Logging writes to the console and, where a directory is set, to a log file. The first line says that
it has begun. The filter is the one that the environment asks for, or, where that is missing or
malformed, the level of the settings. Logging does not begin where a filter is torn or the directory
cannot be made.
-/

namespace EtcdFleet

inductive LogLine
  | text (line : String)
  | record (fields : Document)

structure LogOutput where
  console : List LogLine
  hasFile : Bool
  file : Option (String × List LogLine)

inductive LogFailure
  | tornFilter
  | noDirectory
  deriving DecidableEq

namespace LogOutput

def target : String := "kstone_provider::logging"

def message (settings : LogSettings) : String :=
  "Logging initialized - level: " ++ settings.level

def filter (settings : LogSettings) (environment : Option String) : LogDirective.Result LogFilter :=
  match environment.map LogFilter.ofText with
  | some (.ok filter) => .ok filter
  | some (.error .torn) => .error .torn
  | _ => LogFilter.ofTextLeniently settings.level

def styled (style text : String) : String := "\x1b[" ++ style ++ "m" ++ text ++ "\x1b[0m"

/-- What a terminal would obey is shown by its number instead. -/
def shownInTerminal : Char → List Char
  | '\x07' => ['\\', 'x', '0', '7']
  | '\x08' => ['\\', 'x', '0', '8']
  | '\x0c' => ['\\', 'x', '0', 'c']
  | '\x1b' => ['\\', 'x', '1', 'b']
  | '\x7f' => ['\\', 'x', '7', 'f']
  | c => if 0x80 ≤ c.toNat ∧ c.toNat < 0xA0 then Text.numbered c else [c]

def consoleText (settings : LogSettings) : String :=
  styled "32" " INFO" ++ " " ++ styled "2" target ++ styled "2" ":" ++ " " ++
    String.ofList ((message settings).toList.flatMap shownInTerminal)

/-- A line that is a written object counts as a record, of which the time is left out. -/
def lineOf (line : List Char) : LogLine :=
  match (Document.ofText? (String.ofList line)).bind Document.object? with
  | some members => .record (.object (members.filter fun member => member.1 != "timestamp"))
  | none => .text (String.ofList line)

/-- A line ends with a line feed, and with the carriage return before it. -/
def lines (text : String) : List LogLine :=
  (Text.pieces '\n' text.toList).map fun line =>
    lineOf (if line.getLast? = some '\r' then line.dropLast else line)

def recordFields (settings : LogSettings) : List (String × Option Document) :=
  [("fields", some (.object [("message", .text (message settings))])),
    ("level", some (.text "INFO")),
    ("target", some (.text target))]

/-- What follows the name of a log file; each `D` stands for a digit of the time at which the file
was begun. -/
def timePattern : Rotation → String
  | .hourly => ".DDDD-DD-DD-DD"
  | .daily => ".DDDD-DD-DD"
  | .never => ""

def fileName (rotation : Rotation) : String := "kstone-provider.log" ++ timePattern rotation

/-- The file in a directory, unless that lies outside the working directory. -/
def fileBelow? (path : String) (rotation : Rotation) : Option String :=
  if Machine.isAbsolute path then none
  else (Machine.below? path).map fun steps =>
    String.ofList (Text.joined ['/'] (steps ++ [(fileName rotation).toList]))

def record (fields : List (String × Option Document)) : LogLine := .record (.record fields)

def begin (settings : LogSettings) (environment : Option String) : Except LogFailure LogOutput :=
  match filter settings environment with
  | .error _ => .error .tornFilter
  | .ok filter =>
    if settings.filePath.any fun path => !Machine.canHold path then .error .noDirectory
    else
      let shown := filter.passes target.toList ["message".toList] .info
      let ifShown (lines : List LogLine) : List LogLine := if shown then lines else []
      .ok {
        console := ifShown <|
          if settings.jsonFormat then [record (recordFields settings)]
          else lines (consoleText settings)
        hasFile := settings.filePath.isSome
        file := settings.filePath.bind fun path =>
          (fileBelow? path settings.rotation).map fun name =>
            (name, ifShown
              [record (recordFields settings ++ [("threadId", some (.text "ThreadId(1)"))])]) }

def settingsOfEnvironment (level path : Option String) : LogSettings :=
  { LogSettings.initial with level := level.getD "info", filePath := path }

end LogOutput
end EtcdFleet
