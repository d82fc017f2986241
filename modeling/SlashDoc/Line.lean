import SlashDoc.Html
import SlashDoc.Text.Basic

/-!
The lines of a source: how a text is cut into them, and what a line can say. A line ends at a
carriage return followed by a line feed, at a lone carriage return or at a lone line feed, so a text
has one line more than it has breaks.
-/

namespace SlashDoc.Line

def leadingBreak? : Text → Option Text
  | '\r' :: '\n' :: _ => some ['\r', '\n']
  | '\r' :: _ => some ['\r']
  | '\n' :: _ => some ['\n']
  | _ => none

def isBreak (c : Char) : Bool :=
  c == '\r' || c == '\n'

/-- The lines of a text, without their breaks. After a final break comes one empty line. -/
def split : Text → List Text
  | [] => [[]]
  | '\r' :: '\n' :: rest => [] :: split rest
  | c :: rest => if isBreak c then [] :: split rest else Text.extendHead c (split rest)

def normalise : Text → Text
  | [] => []
  | '\r' :: '\n' :: rest => '\n' :: normalise rest
  | c :: rest => (if c = '\r' then '\n' else c) :: normalise rest

/-! ## Buffers

A text may arrive in pieces that are cut anywhere, also inside a line break. A carriage return at
the end of what has arrived is held back, because a line feed may follow.
-/

/-- The text that has arrived since the last complete line: non-empty pieces, the newest first. -/
structure Buffer where
  pieces : List Text := []
  deriving DecidableEq, Repr

namespace Buffer

def pending (buffer : Buffer) : Text :=
  buffer.pieces.reverse.flatten

def endsInReturn (buffer : Buffer) : Bool :=
  match buffer.pieces with
  | [] => false
  | piece :: _ => piece.getLast? == some '\r'

def holding (text : Text) : Buffer :=
  if text = [] then {} else { pieces := [text] }

/-- Cuts the last line off a text: the complete lines and what is held. A final carriage return is
held together with the line before it. -/
def cut (text : Text) : List Text × Text :=
  if text.getLast? == some '\r' then
    let lines := split text.dropLast
    (lines.dropLast, lines.getLastD [] ++ ['\r'])
  else
    let lines := split text
    (lines.dropLast, lines.getLastD [])

/-- Takes in a piece of text and gives the lines that it completes. As long as no break arrives, the
held text is not looked at again. -/
def feed (buffer : Buffer) (chunk : Text) : Buffer × List Text :=
  if buffer.endsInReturn || chunk.any isBreak then
    let (lines, held) := cut (buffer.pending ++ chunk)
    (holding held, lines)
  else if chunk = [] then (buffer, [])
  else ({ pieces := chunk :: buffer.pieces }, [])

def close (buffer : Buffer) : Buffer × List Text :=
  ({}, split buffer.pending)

end Buffer

end SlashDoc.Line

/-! ## Comments

A comment line is an indentation, two or more slashes, at most one blank and the body. Only a line
feed at the very end may follow the body.
-/

namespace SlashDoc

open Text

structure Comment where
  indent : Text
  slashes : Text
  gap : Text
  body : Text
  deriving DecidableEq, Repr

namespace Comment

def splitGap : Text → Text × Text
  | [] => ([], [])
  | c :: rest => if isBlank c then ([c], rest) else ([], c :: rest)

def ofLine? (line : Text) : Option Comment :=
  let marked := line.dropWhile isBlank
  let slashes := marked.takeWhile (· == '/')
  let (gap, rest) := splitGap (marked.dropWhile (· == '/'))
  if slashes.length < 2 then none
  else (singleLine? rest).map fun body => ⟨line.takeWhile isBlank, slashes, gap, body⟩

def text (comment : Comment) : Text :=
  comment.indent ++ comment.slashes ++ comment.gap ++ comment.body

def body? (line : Text) : Option Text :=
  (ofLine? line).map body

end Comment

/-! ## Bodies

The shapes of a comment body that are rendered in a special way: a signature with or without a
name, the description of a parameter, and a header. Each shape is a record of its parts in order,
with the text that the parts stand for. A last part that runs to the end of the line leaves out one
final line feed.
-/

structure NamedSignature where
  indent : Text
  name : Text
  gap : Text
  type : Text
  deriving DecidableEq, Repr

namespace NamedSignature

def isNameChar (c : Char) : Bool :=
  !isBlank c && c != ':'

/-- Reads a signature with a name. The type keeps its leading blanks. -/
def ofBody? (body : Text) : Option NamedSignature := do
  let named := body.dropWhile isBlank
  let name := named.takeWhile isNameChar
  let spaced := named.dropWhile isNameChar
  let rest ← after? "::".toList (spaced.dropWhile isBlank)
  let type ← singleLine? rest
  if name = [] then none
  else some ⟨body.takeWhile isBlank, name, spaced.takeWhile isBlank, type⟩

def text (signature : NamedSignature) : Text :=
  signature.indent ++ signature.name ++ signature.gap ++ "::".toList ++ signature.type

end NamedSignature

structure UnnamedSignature where
  indent : Text
  gap : Text
  type : Text
  deriving DecidableEq, Repr

namespace UnnamedSignature

/-- Reads a signature without a name. The type loses its leading blanks. -/
def ofBody? (body : Text) : Option UnnamedSignature := do
  let spaced ← after? "::".toList (body.dropWhile isBlank)
  let type ← singleLine? (spaced.dropWhile isBlank)
  some ⟨body.takeWhile isBlank, spaced.takeWhile isBlank, type⟩

def text (signature : UnnamedSignature) : Text :=
  signature.indent ++ "::".toList ++ signature.gap ++ signature.type

end UnnamedSignature

structure Parameter where
  indent : Text
  marker : Char
  gap : Text
  name : Text
  beforeDash : Text
  afterDash : Text
  description : Text
  deriving DecidableEq, Repr

namespace Parameter

def isMarker (c : Char) : Bool :=
  c == '*' || c == '+' || c == '-'

def afterMarker? (indent : Text) (marker : Char) (rest : Text) : Option Parameter := do
  let named := rest.dropWhile isBlank
  let name := named.takeWhile (!isBlank ·)
  let spaced := named.dropWhile (!isBlank ·)
  let beforeDash := spaced.takeWhile isBlank
  let dashed ← after? ['-'] (spaced.dropWhile isBlank)
  let afterDash := dashed.takeWhile isBlank
  let description ← singleLine? (dashed.dropWhile isBlank)
  if name = [] || beforeDash = [] || afterDash = [] then none
  else some ⟨indent, marker, rest.takeWhile isBlank, name, beforeDash, afterDash, description⟩

def ofBody? (body : Text) : Option Parameter :=
  match body.dropWhile isBlank with
  | [] => none
  | c :: rest => if isMarker c then afterMarker? (body.takeWhile isBlank) c rest else none

def text (parameter : Parameter) : Text :=
  parameter.indent ++ [parameter.marker] ++ parameter.gap ++ parameter.name ++
    parameter.beforeDash ++ ['-'] ++ parameter.afterDash ++ parameter.description

def item (parameter : Parameter) : Text :=
  [parameter.marker, ' ', '\x60'] ++ parameter.name ++ ['\x60', ' '] ++ parameter.description

end Parameter

namespace Header

def run? (text : Text) : Option Text :=
  match text.takeWhile (· == '#') with
  | [] => none
  | run => some run

/-- The nesting level that a body announces: the length of its first run of number signs. -/
def depth? (body : Text) : Option Nat :=
  (search run? body).map fun (_, run) => run.length

end Header

/-! ## Functions

A line of code opens a function that is bound, as in a name, an equals sign and the word `function`
with a parameter list, or that carries its name itself. The shapes are found anywhere in a line, at
the first position where one fits.
-/

/-- A parameter list: from an opening parenthesis to the last closing one before the next line
feed. Gives the list with both parentheses. -/
def parameterList? : Text → Option Text
  | '(' :: rest =>
    match dropEndWhile (· != ')') (rest.takeWhile (· != '\n')) with
    | [] => none
    | inner => some ('(' :: inner)
  | _ => none

/-- A function bound to a name: the name, blanks, an equals sign, anything but word characters,
the word `function`, blanks and the parameter list. -/
structure BoundFunction where
  name : Text
  gap : Text
  filler : Text
  space : Text
  params : Text
  deriving DecidableEq, Repr

namespace BoundFunction

def isNameChar (c : Char) : Bool :=
  !isBlank c && c != '='

def start? (text : Text) : Option BoundFunction := do
  let spaced := text.dropWhile isNameChar
  let filled ← after? ['='] (spaced.dropWhile isBlank)
  let rest ← after? "function".toList (filled.dropWhile (!isWord ·))
  let params ← parameterList? (rest.dropWhile isBlank)
  match text.takeWhile isNameChar with
  | [] => none
  | name => some ⟨name, spaced.takeWhile isBlank, filled.takeWhile (!isWord ·),
      rest.takeWhile isBlank, params⟩

def text (function : BoundFunction) : Text :=
  function.name ++ function.gap ++ ['='] ++ function.filler ++ "function".toList ++
    function.space ++ function.params

end BoundFunction

/-- A function that carries its name: the word `function`, blanks, the name, blanks and the
parameter list. -/
structure NamedFunction where
  gap : Text
  name : Text
  space : Text
  params : Text
  deriving DecidableEq, Repr

namespace NamedFunction

def isNameChar (c : Char) : Bool :=
  !isBlank c && c != '('

def start? (text : Text) : Option NamedFunction := do
  let spaced ← after? "function".toList text
  let named := spaced.dropWhile isBlank
  let gap := spaced.takeWhile isBlank
  let name := named.takeWhile isNameChar
  let rest := named.dropWhile isNameChar
  let params ← parameterList? (rest.dropWhile isBlank)
  if gap = [] || name = [] then none
  else some ⟨gap, name, rest.takeWhile isBlank, params⟩

def text (function : NamedFunction) : Text :=
  "function".toList ++ function.gap ++ function.name ++ function.space ++ function.params

end NamedFunction

end SlashDoc

/-! ## Shapes

Every shape can be asked for at the start of a text or anywhere in it; the answer says where it
stands, what it covers and how its named parts read.
-/

namespace SlashDoc.Line

open Text

inductive Shape where
  | lineBreak
  | comment
  | namedSignature
  | unnamedSignature
  | parameter
  | header
  | blank
  | boundFunction
  | namedFunction
  | table
  deriving DecidableEq, Repr

structure Occurrence where
  start : Nat
  text : Text
  groups : List (String × Text)
  deriving DecidableEq, Repr

def Occurrence.stop (occurrence : Occurrence) : Nat :=
  occurrence.start + occurrence.text.length

namespace Shape

def recognise? (shape : Shape) (text : Text) : Option (Text × List (String × Text)) :=
  match shape with
  | .lineBreak => (leadingBreak? text).map fun covered => (covered, [])
  | .comment => (Comment.ofLine? text).map fun found => (found.text, [("body", found.body)])
  | .namedSignature => (NamedSignature.ofBody? text).map fun found =>
      (found.text, [("name", found.name), ("type", found.type)])
  | .unnamedSignature => (UnnamedSignature.ofBody? text).map fun found =>
      (found.text, [("type", found.type)])
  | .parameter => (Parameter.ofBody? text).map fun found =>
      (found.text, [("marker", [found.marker]), ("name", found.name),
        ("description", found.description)])
  | .header => (Header.run? text).map fun run => (run, [])
  | .blank => if isBlankText text then some (text, []) else none
  | .boundFunction => (BoundFunction.start? text).map fun found =>
      (found.text, [("name", found.name), ("params", found.params)])
  | .namedFunction => (NamedFunction.start? text).map fun found =>
      (found.text, [("name", found.name), ("params", found.params)])
  | .table => if Html.isTableLine text then some (text, []) else none

/-- Whether a shape describes a whole line, so that it can only stand at the start. -/
def coversLine : Shape → Bool
  | .comment | .namedSignature | .unnamedSignature | .parameter | .blank | .table => true
  | .lineBreak | .header | .boundFunction | .namedFunction => false

def start? (shape : Shape) (text : Text) : Option Occurrence :=
  (shape.recognise? text).map fun (covered, groups) => ⟨0, covered, groups⟩

def find? (shape : Shape) (text : Text) : Option Occurrence :=
  if shape.coversLine then shape.start? text
  else (search shape.recognise? text).map fun (before, covered, groups) =>
    ⟨before.length, covered, groups⟩

end Shape

end SlashDoc.Line
