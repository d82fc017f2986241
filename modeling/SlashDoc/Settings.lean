import SlashDoc.Text.UpperCase
import SlashDoc.Validation

/-!
The settings of an extraction and of the command line around it. Two log levels have a second name;
each name is a level of its own, because settings keep the name they were given.
-/

namespace SlashDoc

inductive Level where
  | critical
  | fatal
  | error
  | warn
  | warning
  | info
  | debug
  | notSet
  deriving DecidableEq, Repr

namespace Level

def name : Level → Text
  | critical => "CRITICAL".toList
  | fatal => "FATAL".toList
  | error => "ERROR".toList
  | warn => "WARN".toList
  | warning => "WARNING".toList
  | info => "INFO".toList
  | debug => "DEBUG".toList
  | notSet => "NOTSET".toList

def all : List Level :=
  [critical, fatal, error, warn, warning, info, debug, notSet]

/-- The threshold that a level stands for: an event is shown if its own value is not below it. -/
def threshold : Level → Nat
  | critical | fatal => 50
  | error => 40
  | warn | warning => 30
  | info => 20
  | debug => 10
  | notSet => 0

def ofName? (text : Text) : Option Level :=
  all.find? fun level => level.name = text

def parse? (text : Text) : Option Level :=
  ofName? (Text.toUpper text)

end Level

structure Settings where
  separator : Text := "::".toList
  tableClass : Text := "sig".toList
  template : Option Path := none
  level : Level := .warning
  jsonLogs : Bool := false
  deriving DecidableEq, Repr

namespace Settings

def levelRule : Rule Level := fun location value =>
  match value with
  | .text t =>
    match Level.parse? t with
    | some level => .ok level
    | none => Checked.refuse location (.unknownLevel t)
  | _ => Checked.refuse location .notText

/-- Reads settings from named values. Fields that are not given have their defaults, and unknown
fields are overlooked. -/
def ofFields (fields : Fields) : Checked Settings :=
  let standard : Settings := {}
  let separator := Fields.optional fields "signature_separator" Rule.nonEmptyText standard.separator
  let tableClass := Fields.optional fields "table_class" Rule.text standard.tableClass
  let template := Fields.optional fields "template_path" Rule.optionalPath standard.template
  let level := Fields.optional fields "log_level" levelRule standard.level
  let jsonLogs := Fields.optional fields "json_logs" Rule.flag standard.jsonLogs
  Checked.and (Checked.and (Checked.and (Checked.and
    (separator.map Settings.mk) tableClass) template) level) jsonLogs

def toFields (settings : Settings) : Fields :=
  [("signature_separator", .text settings.separator),
   ("table_class", .text settings.tableClass),
   ("template_path", (settings.template.map fun path => Value.text path.toText).getD .null),
   ("log_level", .text settings.level.name),
   ("json_logs", .flag settings.jsonLogs)]

def debug (settings : Settings) : Bool :=
  settings.level = .debug

end Settings

end SlashDoc
