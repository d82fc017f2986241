import SlashDoc.Html
import SlashDoc.Page.Render

/-!
A small template engine. Its templates have texts, values by name that may be marked as safe, and
comments; a minus sign inside a pair of marks takes away the blanks next to them. A template is cut
into tokens, the tokens are read as pieces, and the pieces are filled in. Whatever else a template
can hold is refused with an error that is not reported as a fault of the template.
-/

namespace SlashDoc

open Text

namespace Template

inductive Fault where
  | emptyValue
  | cutShort (expected : Text)
  | misplaced (expected got : Text)
  | noOperand
  | badIdentifier
  | unknownTag (name : Text)
  | missingTagName
  | unknownFilter (name : Text)
  | unclosedComment
  | unsupported
  deriving DecidableEq, Repr

namespace Fault

def valueEnd : Text := "end of print statement".toList

def filterName : Text := "name".toList

def message : Fault → Text
  | emptyValue => "Expected an expression, got ".toList ++ quoted valueEnd
  | cutShort expected => "unexpected end of template, expected ".toList ++ quoted expected ++ ['.']
  | misplaced expected got =>
    "expected token ".toList ++ quoted expected ++ ", got ".toList ++ quoted got
  | noOperand => "unexpected 'end of template'".toList
  | badIdentifier => "Invalid character in identifier".toList
  | unknownTag name => "Encountered unknown tag ".toList ++ quoted name ++ ['.']
  | missingTagName => "tag name expected".toList
  | unknownFilter name => "No filter named ".toList ++ quoted name ++ ['.']
  | unclosedComment => "Missing end of comment tag".toList
  | unsupported => "the template uses what this engine does not have".toList

/-- What an engine does not have is no error of the template. -/
def toError : Fault → EngineError
  | unsupported => .other "unsupported template".toList unsupported.message
  | fault => .own "template error".toList fault.message

end Fault

/-! ## Tokens -/

inductive Token where
  | text (content : Text)
  | valueStart
  | valueEnd
  | tagStart
  | tagEnd
  | name (text : Text)
  | bar
  | other
  | fault (fault : Fault)
  deriving DecidableEq, Repr

namespace Token

/-- A number can begin like a name. -/
def ofName (text : Text) : Token :=
  if isIdentifier text then .name text
  else if text.head?.any isDecimal then .other
  else .fault .badIdentifier

def next (c : Char) (rest : Text) : Token × Text :=
  if isNameChar c then (ofName (c :: rest.takeWhile isNameChar), rest.dropWhile isNameChar)
  else (if c = '|' then .bar else .other, rest)

inductive Mode where
  | text
  | value
  | tag
  | comment
  deriving DecidableEq, Repr

def opening? : Text → Option (Mode × Text)
  | '\x7b' :: '\x7b' :: rest => some (.value, rest)
  | '\x7b' :: '%' :: rest => some (.tag, rest)
  | '\x7b' :: '#' :: rest => some (.comment, rest)
  | _ => none

/-- Splits off the sign after an opening mark: whether blanks before it are taken away. -/
def splitSign : Text → Bool × Text
  | '-' :: rest => (true, rest)
  | '+' :: rest => (false, rest)
  | rest => (false, rest)

def afterValue? : Text → Option Text
  | '-' :: '\x7d' :: '\x7d' :: rest => some (rest.dropWhile isBlank)
  | '\x7d' :: '\x7d' :: rest => some rest
  | _ => none

def afterTag? : Text → Option Text
  | '-' :: '%' :: '\x7d' :: rest => some (rest.dropWhile isBlank)
  | '+' :: '%' :: '\x7d' :: rest => some rest
  | '%' :: '\x7d' :: rest => some rest
  | _ => none

def afterComment? : Text → Option Text
  | [] => none
  | '-' :: '#' :: '\x7d' :: rest => some (rest.dropWhile isBlank)
  | '#' :: '\x7d' :: rest => some rest
  | _ :: rest => afterComment? rest

def end? : Mode → Text → Option (Token × Text)
  | .value, source => (afterValue? source).map fun rest => (.valueEnd, rest)
  | .tag, source => (afterTag? source).map fun rest => (.tagEnd, rest)
  | .text, _ | .comment, _ => none

def ofContent (content : Text) : List Token :=
  if content = [] then [] else [.text content]

def ofMode : Mode → List Token
  | .value => [.valueStart]
  | .tag => [.tagStart]
  | .text | .comment => []

/-- Cuts a text of at most `fuel` characters into tokens. A comment that is opened at the very end
is closed by it. -/
def cut : (fuel : Nat) → Mode → Text → List Token
  | 0, _, _ => []
  | _ + 1, _, [] => []
  | fuel + 1, .text, source =>
    match search opening? source with
    | none => [.text source]
    | some (before, mode, marked) =>
      let (strips, rest) := splitSign marked
      ofContent (if strips then dropEndWhile isBlank before else before) ++ ofMode mode ++
        cut fuel mode rest
  | fuel + 1, .comment, source =>
    match afterComment? source with
    | none => [.fault .unclosedComment]
    | some rest => cut fuel .text rest
  | fuel + 1, mode, c :: rest =>
    match end? mode (c :: rest) with
    | some (token, after) => token :: cut fuel .text after
    | none =>
      if isBlank c then cut fuel mode rest
      else (next c rest).1 :: cut fuel mode (next c rest).2

@[simp] theorem cut_nil (fuel : Nat) (mode : Mode) : cut fuel mode [] = [] := by
  cases fuel with
  | zero => rw [cut]
  | succ fuel => rw [cut]

def ofTemplate (text : Text) : List Token :=
  cut text.length .text text

end Token

/-! ## Pieces -/

inductive Piece where
  | text (content : Text)
  | value (name : Text) (filters : List Text)
  deriving DecidableEq, Repr

/-- What the next token has to belong to: a piece, a value that has just begun, one that could end,
or the name of a filter. -/
inductive Stage where
  | piece
  | start
  | value (name : Text) (filters : List Text)
  | filter (name : Text) (filters : List Text)
  deriving DecidableEq, Repr

def reservedNames : List Text :=
  ["true", "True", "false", "False", "none", "None", "not", "range", "dict", "lipsum", "cycler",
   "joiner", "namespace", "self"].map String.toList

def operators : List Text :=
  ["and", "or", "if", "else", "in", "not", "is"].map String.toList

def knownTags : List Text :=
  ["for", "if", "block", "extends", "print", "macro", "include", "from", "import", "set", "with",
   "autoescape", "call", "filter", "raw"].map String.toList

def knownFilters : List Text :=
  ["abs", "attr", "batch", "capitalize", "center", "count", "d", "default", "dictsort", "e",
   "escape", "filesizeformat", "first", "float", "forceescape", "format", "groupby", "indent",
   "int", "items", "join", "last", "length", "list", "lower", "map", "max", "min", "pprint",
   "random", "reject", "rejectattr", "replace", "reverse", "round", "select", "selectattr",
   "slice", "sort", "string", "striptags", "sum", "title", "tojson", "trim", "truncate",
   "unique", "upper", "urlencode", "urlize", "wordcount", "wordwrap", "xmlattr"].map String.toList

def tagFault : List Token → Fault
  | .name name :: _ => if knownTags.contains name then .unsupported else .unknownTag name
  | .fault found :: _ => found
  | .other :: _ => .unsupported
  | _ => .missingTagName

def faultAt : Stage → List Token → Fault
  | _, .fault found :: _ => found
  | .start, [] => .noOperand
  | .start, .valueEnd :: _ => .emptyValue
  | .value _ _, [] => .cutShort Fault.valueEnd
  | .value _ _, .name word :: _ =>
    if operators.contains word then .unsupported else .misplaced Fault.valueEnd word
  | .filter _ _, [] => .cutShort Fault.filterName
  | .filter _ _, .valueEnd :: _ => .misplaced Fault.filterName Fault.valueEnd
  | .filter _ _, .bar :: _ => .misplaced Fault.filterName ['|']
  | _, _ => .unsupported

def read : Stage → List Token → Except Fault (List Piece)
  | .piece, [] => .ok []
  | .piece, .text content :: rest => (read .piece rest).map (.text content :: ·)
  | .piece, .valueStart :: rest => read .start rest
  | .piece, .tagStart :: rest => .error (tagFault rest)
  | .start, .name name :: rest =>
    if reservedNames.contains name then .error .unsupported else read (.value name []) rest
  | .value name filters, .bar :: rest => read (.filter name filters) rest
  | .value name filters, .valueEnd :: rest => (read .piece rest).map (.value name filters :: ·)
  | .filter name filters, .name added :: rest => read (.value name (filters ++ [added])) rest
  | stage, tokens => .error (faultAt stage tokens)

def otherFilter? : Piece → Option Text
  | .text _ => none
  | .value _ filters => filters.reverse.find? (· != "safe".toList)

/-- Reads a template. Filters are looked up once all of it has been read. -/
def parse (source : Text) : Except Fault (List Piece) := do
  let pieces ← read .piece (Token.ofTemplate source)
  match pieces.findSome? otherFilter? with
  | some name =>
    .error (if knownFilters.contains name then .unsupported else .unknownFilter name)
  | none => .ok pieces

/-! ## Pages -/

def valueOf (body file name : Text) : Text :=
  if name = "body".toList then body
  else if name = "file".toList then file
  else []

def fillPiece (escapes : Bool) (body file : Text) : Piece → Text
  | .text content => content
  | .value name filters =>
    if escapes && !filters.contains "safe".toList then Html.escapeValue (valueOf body file name)
    else valueOf body file name

def fill (pieces : List Piece) (escapes : Bool) (body file : Text) : Text :=
  pieces.flatMap (fillPiece escapes body file)

def engine : Engine where
  render _ _ escapes source body file :=
    match parse source with
    | .ok pieces => .ok (fill pieces escapes body file)
    | .error fault => .error fault.toError

end Template

end SlashDoc
