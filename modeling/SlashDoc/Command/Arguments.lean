import SlashDoc.Text.Basic
import SlashDoc.Text.Quoted

/-!
Command-line arguments. A long switch may be shortened as long as it stays unambiguous and takes its
value from the next argument or after an equals sign; a short switch may have its value attached.
After a double dash everything is an operand.
-/

namespace SlashDoc.Command

open Text

inductive Switch where
  | help
  | output
  | markdown
  | template
  | separator
  | logLevel
  | jsonLogs
  deriving DecidableEq, Repr

namespace Switch

def all : List Switch :=
  [help, output, markdown, template, separator, logLevel, jsonLogs]

def spellings : Switch → List Text
  | help => ["-h".toList, "--help".toList]
  | output => ["-o".toList, "--output".toList]
  | markdown => ["--markdown".toList]
  | template => ["--template".toList]
  | separator => ["--separator".toList]
  | logLevel => ["--log-level".toList]
  | jsonLogs => ["--json-logs".toList]

def title (switch : Switch) : Text :=
  List.intercalate ['/'] switch.spellings

def takesValue : Switch → Bool
  | output | template | separator | logLevel => true
  | help | markdown | jsonLogs => false

def table : List (Text × Switch) :=
  all.flatMap fun switch => switch.spellings.map fun spelling => (spelling, switch)

end Switch

inductive Fault where
  | missingFile
  | unrecognized (arguments : List Text)
  | missingValue (switch : Switch)
  | unwantedValue (switch : Switch) (value : Text)
  | ambiguous (argument : Text) (spellings : List Text)
  deriving DecidableEq, Repr

def Fault.message : Fault → Text
  | missingFile => "the following arguments are required: file".toList
  | unrecognized arguments =>
    "unrecognized arguments: ".toList ++ List.intercalate [' '] arguments
  | missingValue switch =>
    "argument ".toList ++ switch.title ++ ": expected one argument".toList
  | unwantedValue switch value =>
    "argument ".toList ++ switch.title ++ ": ignored explicit argument ".toList ++ quoted value
  | ambiguous argument spellings =>
    "ambiguous option: ".toList ++ argument ++ " could match ".toList ++
      List.intercalate ", ".toList spellings

/-- The part an argument plays: an operand, the double dash, a switch with the value attached to it,
or something that looks like a switch and is none. -/
inductive Word where
  | operand (text : Text)
  | doubleDash
  | switch (switch : Switch) (short : Bool) (value : Option Text)
  | unknown (text : Text)
  deriving DecidableEq, Repr

namespace Word

def splitValue (argument : Text) : Text × Option Text :=
  match argument.dropWhile (· != '=') with
  | [] => (argument, none)
  | _ :: value => (argument.takeWhile (· != '='), some value)

def isNegative : Text → Bool
  | '-' :: number =>
    let whole := number.takeWhile isDecimal
    match number.dropWhile isDecimal with
    | [] => whole != []
    | '.' :: fraction => fraction != [] && fraction.all isDecimal
    | _ => false
  | _ => false

def isNegativeNumber (argument : Text) : Bool :=
  ((singleLine? argument).map isNegative).getD false

/-- An argument that spells no switch: a negative number and anything with a space are operands. -/
def other (argument : Text) : Word :=
  if isNegativeNumber argument || argument.contains ' ' then .operand argument
  else .unknown argument

def long (argument : Text) : Except Fault Word :=
  let (spelling, value) := splitValue argument
  match Switch.table.lookup spelling with
  | some found => .ok (.switch found false value)
  | none =>
    match Switch.table.filter fun (full, _) => spelling.isPrefixOf full with
    | [] => .ok (other argument)
    | [(_, found)] => .ok (.switch found false value)
    | several => .error (.ambiguous argument (several.map Prod.fst))

def short (argument : Text) : Word :=
  match Switch.table.lookup (splitValue argument).1, Switch.table.lookup (argument.take 2) with
  | some found, _ => .switch found true (splitValue argument).2
  | none, some found => .switch found true (some (argument.drop 2))
  | none, none => other argument

def classify : Text → Except Fault Word
  | ['-', '-'] => .ok .doubleDash
  | '-' :: '-' :: rest => long ('-' :: '-' :: rest)
  | '-' :: c :: rest => .ok (short ('-' :: c :: rest))
  | argument => .ok (.operand argument)

def classifyAll : List Text → Except Fault (List Word)
  | [] => .ok []
  | argument :: rest => do
    match ← classify argument with
    | .doubleDash => return .doubleDash :: rest.map .operand
    | word => return word :: (← classifyAll rest)

end Word

/-- The value of a switch, which can be missing although the switch was given one. -/
abbrev SwitchValue := Option Text

/-- The value attached to a switch. A double dash is taken off, and leaves none. -/
def SwitchValue.attached (text : Text) : SwitchValue :=
  if text = "--".toList then none else some text

structure Arguments where
  file : Text
  output : Option SwitchValue := none
  markdown : Bool := false
  template : Option SwitchValue := none
  separator : SwitchValue := some "::".toList
  logLevel : SwitchValue := some "WARNING".toList
  jsonLogs : Bool := false
  deriving DecidableEq, Repr

structure Draft where
  file : Option Text := none
  arguments : Arguments := { file := [] }
  leftovers : List Text := []
  deriving DecidableEq, Repr

inductive Stop where
  | helpAsked
  | fault (fault : Fault)
  deriving DecidableEq, Repr

namespace Draft

def turnOn (draft : Draft) : Switch → Draft
  | .markdown => { draft with arguments := { draft.arguments with markdown := true } }
  | .jsonLogs => { draft with arguments := { draft.arguments with jsonLogs := true } }
  | _ => draft

def assign (draft : Draft) (switch : Switch) (value : SwitchValue) : Draft :=
  match switch with
  | .output => { draft with arguments := { draft.arguments with output := some value } }
  | .template => { draft with arguments := { draft.arguments with template := some value } }
  | .separator => { draft with arguments := { draft.arguments with separator := value } }
  | .logLevel => { draft with arguments := { draft.arguments with logLevel := value } }
  | _ => draft

/-- Letters attached to the switch for help: more switches of one letter. -/
def attachedLetters (valueFollows : Bool) : Text → Stop
  | [] => .helpAsked
  | 'h' :: rest => attachedLetters valueFollows rest
  | ['o'] => if valueFollows then .helpAsked else .fault (.missingValue .output)
  | 'o' :: _ => .helpAsked
  | rest => .fault (.unwantedValue .help rest)

def operandFollows : List Word → Bool
  | .operand _ :: _ => true
  | _ => false

def refuseValue (switch : Switch) (short valueFollows : Bool) (value : Text) : Stop :=
  if short && switch = .help && value != [] then attachedLetters valueFollows value
  else .fault (.unwantedValue switch value)

/-- Reads the arguments in order. The first operand is the file; a double dash beside it goes with
it. -/
def consume (draft : Draft) : List Word → Except Stop Draft
  | [] => .ok draft
  | .switch switch short value :: rest =>
    match switch.takesValue, value, rest with
    | true, some value, rest => consume (draft.assign switch (SwitchValue.attached value)) rest
    | true, none, .operand value :: rest => consume (draft.assign switch (some value)) rest
    | true, none, _ => .error (.fault (.missingValue switch))
    | false, some value, rest =>
      .error (refuseValue switch short (operandFollows rest) value)
    | false, none, rest =>
      if switch = .help then .error .helpAsked else consume (draft.turnOn switch) rest
  | .operand text :: rest =>
    match draft.file, rest with
    | none, .doubleDash :: rest => consume { draft with file := some text } rest
    | none, rest => consume { draft with file := some text } rest
    | some _, rest => consume { draft with leftovers := draft.leftovers ++ [text] } rest
  | .doubleDash :: rest =>
    match draft.file, rest with
    | none, .operand text :: rest => consume { draft with file := some text } rest
    | _, rest => consume { draft with leftovers := draft.leftovers ++ ["--".toList] } rest
  | .unknown text :: rest => consume { draft with leftovers := draft.leftovers ++ [text] } rest

def finish (draft : Draft) : Except Stop Arguments :=
  match draft.file, draft.leftovers with
  | none, _ => .error (.fault .missingFile)
  | some file, [] => .ok { draft.arguments with file }
  | some _, leftovers => .error (.fault (.unrecognized leftovers))

end Draft

def Arguments.parse (arguments : List Text) : Except Stop Arguments :=
  match Word.classifyAll arguments with
  | .error fault => .error (.fault fault)
  | .ok words =>
    match Draft.consume {} words with
    | .error stop => .error stop
    | .ok draft => draft.finish

end SlashDoc.Command
