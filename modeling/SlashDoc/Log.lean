import SlashDoc.Extraction.Snapshot
import SlashDoc.Settings
import SlashDoc.Text.Quoted

/-!
The log: its events, how it is set up, and events as lines. Each event has a fixed text and
severity, belongs to one component, and carries named values.
-/

namespace SlashDoc

inductive Severity where
  | debug
  | info
  | error
  deriving DecidableEq, Repr

namespace Severity

def name : Severity → Text
  | debug => "debug".toList
  | info => "info".toList
  | error => "error".toList

def value : Severity → Nat
  | debug => 10
  | info => 20
  | error => 40

end Severity

inductive Component where
  | extraction
  | streaming
  | page
  | commandLine
  deriving DecidableEq, Repr

inductive Event where
  | blockKept (block : Block)
  | commentDiscarded (lineNumber : Nat) (line : Text)
  | extractionFinished (snapshot : Snapshot)
  | sourceUnreadable (path reason : Text)
  | documentExtracted (file : Text) (lines : Nat)
  | templateFailed (template reason : Text)
  | runFailed (message : Text)
  deriving DecidableEq, Repr

namespace Event

def text : Event → Text
  | blockKept _ => "Block flushed".toList
  | commentDiscarded _ _ => "Inline comment discarded".toList
  | extractionFinished _ => "Extraction finished".toList
  | sourceUnreadable _ _ => "Failed to read source".toList
  | documentExtracted _ _ => "Extracted document".toList
  | templateFailed _ _ => "Template rendering failed".toList
  | runFailed _ => "Untangle failed".toList

def severity : Event → Severity
  | blockKept _ | commentDiscarded _ _ | extractionFinished _ => .debug
  | documentExtracted _ _ => .info
  | sourceUnreadable _ _ | templateFailed _ _ | runFailed _ => .error

def component : Event → Component
  | blockKept _ | commentDiscarded _ _ | extractionFinished _ => .extraction
  | sourceUnreadable _ _ => .streaming
  | templateFailed _ _ => .page
  | documentExtracted _ _ | runFailed _ => .commandLine

def fields : Event → Fields
  | blockKept block => block.context
  | commentDiscarded lineNumber line =>
    [("line_number", .integer lineNumber), ("line", .text line)]
  | extractionFinished snapshot => snapshot.context
  | sourceUnreadable path reason => [("path", .text path), ("error", .text reason)]
  | documentExtracted file lines => [("file", .text file), ("lines", .integer lines)]
  | templateFailed template reason => [("template", .text template), ("error", .text reason)]
  | runFailed message => [("error", .text message)]

end Event

/-! ## Setting up -/

namespace Log

inductive Form where
  | json
  | console
  | keyValue
  deriving DecidableEq, Repr

structure Setup where
  threshold : Nat
  form : Form
  deriving DecidableEq, Repr

/-- The names that a level is looked up among are not those of levels alone: the format of a line
and the styles that formats are written in have names too. -/
inductive Constant where
  | level (value : Nat)
  | lineFormat
  | formatStyles
  deriving DecidableEq, Repr

def constants : List (Text × Constant) :=
  [("CRITICAL", .level 50), ("FATAL", .level 50), ("ERROR", .level 40), ("WARNING", .level 30),
   ("WARN", .level 30), ("INFO", .level 20), ("DEBUG", .level 10), ("NOTSET", .level 0),
   ("BASIC_FORMAT", .lineFormat), ("_STYLES", .formatStyles)].map
    fun (name, constant) => (String.toList name, constant)

inductive LevelFault where
  | unknown (name : Text)
  | lineFormat
  | formatStyles
  deriving DecidableEq, Repr

namespace LevelFault

def shownFormat : Text := "%(levelname)s:%(name)s:%(message)s".toList

def shownStyles : Text :=
  ("\x7b'%': (<class 'logging.PercentStyle'>, '%(levelname)s:%(name)s:%(message)s'), " ++
   "'\x7b': (<class 'logging.StrFormatStyle'>, " ++
     "'\x7blevelname\x7d:\x7bname\x7d:\x7bmessage\x7d'), " ++
   "'$': (<class 'logging.StringTemplateStyle'>, " ++
     "'$\x7blevelname\x7d:$\x7bname\x7d:$\x7bmessage\x7d')\x7d").toList

def message : LevelFault → Text
  | unknown name => "module 'logging' has no attribute '".toList ++ name ++ "'".toList
  | lineFormat => "Unknown level: ".toList ++ Text.quoted shownFormat
  | formatStyles => "Level not an integer or a valid string: ".toList ++ shownStyles

end LevelFault

/-- The form that is asked for. The machine-readable form goes before the one for people. -/
def Form.choose (json forPeople : Bool) : Form :=
  if json then .json else if forPeople then .console else .keyValue

def configure (level : Text) (json forPeople : Bool) : Except LevelFault Setup :=
  let name := Text.toUpper level
  match constants.lookup name with
  | none => .error (.unknown name)
  | some .lineFormat => .error .lineFormat
  | some .formatStyles => .error .formatStyles
  | some (.level value) => .ok ⟨value, Form.choose json forPeople⟩

def shows (level : Level) (event : Event) : Bool :=
  level.threshold ≤ event.severity.value

/-- The name of a logger: the one asked for, else that of the caller, else the root. -/
def loggerName (root : Text) (asked caller : Option Text) : Text :=
  asked.getD (caller.getD root)

def componentName (root : Text) : Component → Text
  | .extraction => root ++ ".core.extraction".toList
  | .streaming => root ++ ".streaming".toList
  | .page => root ++ ".rendering.page".toList
  | .commandLine => root ++ ".cli".toList

end Log

/-! ## Machine-readable lines

Everything outside the printable basic characters is written as escapes of four hexadecimal digits,
in pairs for code points beyond them.
-/

namespace Json

def unitEscape (unit : Nat) : Text :=
  "\\u".toList ++ Text.hexDigits 4 unit

def escapeChar (c : Char) : Text :=
  if c = '"' || c = '\\' then ['\\', c]
  else if c = '\n' then "\\n".toList
  else if c = '\r' then "\\r".toList
  else if c = '\t' then "\\t".toList
  else if ' ' ≤ c && c ≤ '~' then [c]
  else if c.toNat < 0x10000 then unitEscape c.toNat
  else
    let offset := c.toNat - 0x10000
    unitEscape (0xD800 + offset / 0x400) ++ unitEscape (0xDC00 + offset % 0x400)

def string (text : Text) : Text :=
  ['"'] ++ text.flatMap escapeChar ++ ['"']

def integer (n : Int) : Text :=
  if n < 0 then '-' :: Text.ofNat n.natAbs else Text.ofNat n.natAbs

def object (members : List Text) : Text :=
  ['\x7b'] ++ List.intercalate ", ".toList members ++ ['\x7d']

def member (name : String) (value : Text) : Text :=
  string name.toList ++ ": ".toList ++ value

/-- A value of a log event. Events only carry texts, integers, flags and nothing. -/
def scalar : Value → Text
  | .text t => string t
  | .integer n => integer n
  | .flag b => (if b then "true" else "false").toList
  | _ => "null".toList

end Json

def Event.jsonLine (root : Text) (event : Event) : Text :=
  Json.object
    ((event.fields.map fun (name, value) => Json.member name (Json.scalar value)) ++
      [Json.member "event" (Json.string event.text),
       Json.member "level" (Json.string event.severity.name),
       Json.member "logger" (Json.string (Log.componentName root event.component))])

end SlashDoc
