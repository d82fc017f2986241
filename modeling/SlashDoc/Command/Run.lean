import SlashDoc.Command.Arguments
import SlashDoc.Extraction.Document
import SlashDoc.Log
import SlashDoc.Markdown
import SlashDoc.Page.Template

/-!
A run of the command: from arguments and a tree of files to an exit code, output, log events and
the tree afterwards. A run works with a renderer, a template engine and a disk, which are given. A
failure ends it with a message; what is no failure of its own breaks it off.
-/

namespace SlashDoc

inductive Failure where
  | plain (message : Text)
  | source (path : Path) (reason message : Option Text)
  | template (template : Text) (reason message : Option Text)
  deriving DecidableEq, Repr

namespace Failure

def because (statement : Text) : Option Text → Text
  | none | some [] => statement
  | some reason => statement ++ ": ".toList ++ reason

def messageOr (standard : Text) : Option Text → Text
  | none | some [] => standard
  | some given => given

def message : Failure → Text
  | plain given => given
  | source path reason given =>
    messageOr (because ("Cannot read source file ".toList ++ path.toText) reason) given
  | template name reason given =>
    messageOr (because ("Cannot render template ".toList ++ name) reason) given

end Failure

/-- The failure that a fault is reported as. A path that cannot be one is not reported as a failure
of the source. -/
def ReadFault.failure? (path : Text) : ReadFault → Option Failure
  | .nullCharacter => none
  | fault => some (.source (Path.ofText path) (some fault.message) none)

def ReadFault.events (path : Text) (fault : ReadFault) : List Event :=
  if (fault.failure? path).isSome then [.sourceUnreadable path fault.message] else []

def PageFault.events : PageFault → List Event
  | .template path fault => [.templateFailed path.toText fault.message]
  | .foreign _ => []

def extractFile (settings : Settings) (tree : FileTree) (path : Text) (debug : Bool := false) :
    List Event × Except ReadFault Text :=
  let (chunks, fault) := readChunks tree path .standard .utf8
  let stream := Stream.feedAll settings { extraction := { debug } } chunks
  match fault with
  | some fault => (stream.extraction.events ++ fault.events path, .error fault)
  | none =>
    let finished := stream.finish settings
    (finished.extraction.events, .ok finished.document)

namespace Command

/-- What a run works with: a renderer of documents, a template engine, and the disk that takes the
output. -/
structure Tools where
  markdown : Text → Text
  engine : Engine
  disk : Disk

def Tools.standard : Tools := ⟨Markdown.basic, Template.engine, .ample⟩

/-- Why a run breaks off without an outcome: an error on the way to a page that is not the template
engine's own, a path with a null character, or an output that was given without a path. -/
inductive Breakdown where
  | page (fault : ForeignFault)
  | nullCharacter
  | noOutputPath
  deriving DecidableEq, Repr

def Breakdown.message : Breakdown → Text
  | page fault => fault.message
  | nullCharacter => nullMessage
  | noOutputPath => "'list' object has no attribute 'write_text'".toList

inductive Halt where
  | failure (failure : Failure)
  | breakdown (breakdown : Breakdown)
  deriving DecidableEq, Repr

namespace Halt

def ofRead (path : Text) (fault : ReadFault) : Halt :=
  match fault.failure? path with
  | some reported => .failure reported
  | none => .breakdown .nullCharacter

def ofPage : PageFault → Halt
  | .template path fault => .failure (.template path.toText (some fault.reason) none)
  | .foreign fault => .breakdown (.page fault)

end Halt

abbrev Logged (α : Type) := List Event × Except Halt α

def lineCount (document : Text) : Nat :=
  if document = [] then 0 else document.count '\n' + 1

def convert (tools : Tools) (settings : Settings) (tree : FileTree) (file : Path)
    (markdown : Bool) : Logged Text :=
  let (events, result) := extractFile settings tree file.toText settings.debug
  match result with
  | .error fault => (events, .error (.ofRead file.toText fault))
  | .ok document =>
    let events := events ++ [.documentExtracted file.toText (lineCount document)]
    if markdown then (events, .ok document)
    else
      match renderPage tools.engine tree settings.template
        (Markdown.render tools.markdown document) file.name with
      | .ok page => (events, .ok page)
      | .error fault => (events ++ fault.events, .error (.ofPage fault))

/-- The output with a line feed at its end, unless there is none or it has one. -/
def endLine (output : Text) : Text :=
  if output = [] || output.getLast? = some '\n' then output else output ++ ['\n']

/-- What a run leaves behind: its exit code, what it printed, what it complained about, the events
it logged, the files, and what it wrote of them. -/
structure Outcome where
  exitCode : Nat
  printed : Text := []
  complaint : Option Text := none
  events : List Event := []
  jsonLogs : Bool := false
  tree : FileTree
  written : Option (Text × List UInt8) := none
  deriving DecidableEq, Repr

def programName : Text := "untangle".toList

def usage : Text :=
  ("usage: untangle [-h] [-o OUTPUT] [--markdown] [--template TEMPLATE] [--separator SEPARATOR] " ++
   "[--log-level LOG_LEVEL] [--json-logs] file\n").toList

def misused (tree : FileTree) (message : Text) : Outcome :=
  { exitCode := 2, tree, complaint := some (programName ++ ": error: ".toList ++ message) }

def problemCount (count : Nat) : Text :=
  Text.ofNat count ++ (if count = 1 then " validation error" else " validation errors").toList ++
    " for UntangleConfig".toList

def givenValue : SwitchValue → Value
  | some text => .text text
  | none => .list []

def settingsOf (arguments : Arguments) : Checked Settings :=
  Settings.ofFields
    [("signature_separator", givenValue arguments.separator),
     ("template_path", (arguments.template.map givenValue).getD .null),
     ("log_level", givenValue arguments.logLevel),
     ("json_logs", .flag arguments.jsonLogs)]

/-- What became of an output: what was printed, the files afterwards with the bytes that reached
one of them, and what went wrong. -/
structure Handout where
  printed : Text := []
  tree : FileTree
  written : Option (Text × List UInt8) := none
  halt : Option Halt := none
  deriving DecidableEq, Repr

def unwritten (path : Path) (fault : WriteFault) : Halt :=
  .failure (.plain (Failure.because
    ("Cannot write output file ".toList ++ path.toText) (some (fault.message path.toText))))

def writeOutput (disk : Disk) (tree : FileTree) (path : Path) (output : Text) : Handout :=
  if path.toText.contains '\x00' then { tree, halt := some (.breakdown .nullCharacter) }
  else
    let writing := tree.write disk path.toText (encodeUtf8 output)
    { tree := writing.tree
      written := writing.stored.map fun bytes => (path.toText, bytes)
      halt := writing.fault.map (unwritten path) }

def emit (disk : Disk) (tree : FileTree) (target : Option SwitchValue) (output : Text) : Handout :=
  match target with
  | none => { printed := output, tree }
  | some none => { tree, halt := some (.breakdown .noOutputPath) }
  | some (some path) => writeOutput disk tree (Path.ofText path) output

def handOut (disk : Disk) (tree : FileTree) (target : Option SwitchValue) :
    Except Halt Text → Handout
  | .ok output => emit disk tree target (endLine output)
  | .error halt => { tree, halt := some halt }

def settle (handout : Handout) : Except Breakdown Outcome :=
  let outcome : Outcome :=
    { exitCode := 0
      printed := handout.printed
      tree := handout.tree
      written := handout.written }
  match handout.halt with
  | none => .ok outcome
  | some (.failure failure) =>
    .ok { outcome with
      exitCode := 1
      complaint := some (programName ++ ": ".toList ++ failure.message)
      events := [.runFailed failure.message] }
  | some (.breakdown breakdown) => .error breakdown

def runWith (tools : Tools) (settings : Settings) (arguments : Arguments) (tree : FileTree) :
    Except Breakdown Outcome := do
  let (events, result) :=
    convert tools settings tree (Path.ofText arguments.file) arguments.markdown
  let outcome ← settle (handOut tools.disk tree arguments.output result)
  return { outcome with
    events := (events ++ outcome.events).filter (Log.shows settings.level)
    jsonLogs := settings.jsonLogs }

/-- Runs the command. A breakdown ends the run without an outcome. -/
def run (tools : Tools) (tree : FileTree) (arguments : List Text) : Except Breakdown Outcome :=
  match Arguments.parse arguments with
  | .error .helpAsked => .ok { exitCode := 0, printed := usage, tree }
  | .error (.fault fault) => .ok (misused tree fault.message)
  | .ok arguments =>
    match settingsOf arguments with
    | .error problems => .ok (misused tree (problemCount problems.length))
    | .ok settings => runWith tools settings arguments tree

end Command

end SlashDoc
