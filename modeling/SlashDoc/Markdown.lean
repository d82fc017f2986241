import SlashDoc.Html
import SlashDoc.Line

/-!
Documents as markup. A table of one line is raw markup, and raw markup only ends at an empty line;
so an empty line is put after every table that text follows. What becomes of the lines then is up to
a renderer, which is a parameter. The renderer of this library knows headings, bullet lists,
paragraphs, rules, code spans and the raw markup of tables.
-/

namespace SlashDoc.Markdown

open Text

/-- The lines, with an empty one after every table that is directly followed by a line that shows
something. -/
def separateLines : List Text → List Text
  | [] => []
  | [line] => [line]
  | line :: next :: rest =>
    if Html.isTableLine line && !isBlankText next then
      line :: [] :: separateLines (next :: rest)
    else line :: separateLines (next :: rest)

def separateTables (text : Text) : Text :=
  unlines (separateLines (splitOn '\n' text))

def render (renderer : Text → Text) (text : Text) : Text :=
  renderer (separateTables text)

/-! ## Inline markup

Code spans stand between runs of backquotes of equal length. A run without a partner is plain text.
Spaces around a line feed in plain text are dropped, and two or more before it break the line.
-/

inductive Piece where
  | plain (text : Text)
  | ticks (count : Nat)
  deriving DecidableEq, Repr

namespace Piece

def ofText : Text → List Piece
  | [] => []
  | c :: rest =>
    if c = '\x60' then
      match ofText rest with
      | .ticks count :: more => .ticks (count + 1) :: more
      | more => .ticks 1 :: more
    else
      match ofText rest with
      | .plain text :: more => .plain (c :: text) :: more
      | more => .plain [c] :: more

def text : Piece → Text
  | .plain text => text
  | .ticks count => List.replicate count '\x60'

end Piece

inductive Span where
  | text (content : Text)
  | code (content : Text)
  deriving DecidableEq, Repr

namespace Span

/-- The content of a code span: line feeds become spaces, and one space is taken off at both ends
if there is one at both and the content has more than spaces. -/
def codeContent (inner : Text) : Text :=
  let spaced := inner.map fun c => if c = '\n' then ' ' else c
  if spaced.head? = some ' ' && spaced.getLast? = some ' ' && spaced.any (· != ' ') then
    spaced.tail.dropLast
  else spaced

/-- Puts pieces together. Inside a code span, `within` holds the length of the run that opened it
and the content so far; a span is only opened if its partner follows. -/
def ofPieces : (within : Option (Nat × Text)) → List Piece → List Span
  | _, [] => []
  | none, .plain content :: rest => .text content :: ofPieces none rest
  | none, .ticks count :: rest =>
    if rest.contains (.ticks count) then ofPieces (some (count, [])) rest
    else .text (List.replicate count '\x60') :: ofPieces none rest
  | some (count, inner), piece :: rest =>
    if piece = .ticks count then .code (codeContent inner) :: ofPieces none rest
    else ofPieces (some (count, inner ++ piece.text)) rest

def renderLine (line : Text) : Text :=
  Html.escape (dropEndWhile (· == ' ') line) ++
    (if "  ".toList.isSuffixOf line then "<br />\n".toList else ['\n'])

def renderLines : List Text → Text
  | [] => []
  | [last] => Html.escape (last.dropWhile isSpace)
  | line :: rest => renderLine (line.dropWhile isSpace) ++ renderLines rest

def renderText (content : Text) : Text :=
  match splitOn '\n' content with
  | first :: second :: rest => renderLine first ++ renderLines (second :: rest)
  | _ => Html.escape content

def render : Span → Text
  | .text content => renderText content
  | .code content => "<code>".toList ++ Html.escape content ++ "</code>".toList

end Span

def renderInline (text : Text) : Text :=
  (Span.ofPieces none (Piece.ofText text)).flatMap Span.render

/-! ## Lines

A line that opens a table starts raw markup, which runs up to the next empty line. Up to three
spaces in front of a line do not matter.
-/

def isEmptyLine (line : Text) : Bool :=
  line.all isSpace

/-- A line without the spaces in front, if there are at most three and no tab. Only such a line can
begin anything but prose. -/
def unindented? (line : Text) : Option Text :=
  let indent := line.takeWhile isSpace
  if indent.length ≤ 3 && indent.all (· == ' ') then some (line.dropWhile isSpace) else none

/-- Whether a character is dropped at the ends of inline content: white space, but not the control
for the next line. -/
def isMargin (c : Char) : Bool :=
  isWhite c && c != '\x85'

def trimMargins (text : Text) : Text :=
  trimWhere isMargin text

def endsTagName : Text → Bool
  | [] | '>' :: _ | '/' :: '>' :: _ => true
  | c :: _ => isBlank c

def namesTable (text : Text) : Bool :=
  (text.take 5).map Char.toLower = "table".toList && endsTagName (text.drop 5)

def opensRaw : Text → Bool
  | '<' :: '/' :: rest => namesTable rest
  | '<' :: rest => namesTable rest
  | _ => false

def endsMark (text : Text) : Bool :=
  (text.head?.map isSpace).getD true

/-- The content of a heading, given what follows its opening number signs. A closing run of number
signs after a space is not part of it. -/
def headingContent (rest : Text) : Text :=
  let shown := dropEndWhile isSpace rest
  let core := dropEndWhile (· == '#') shown
  if (core.getLast?.map isSpace).getD false then trimMargins core else trimMargins shown

def heading? (line : Text) : Option (Nat × Text) :=
  let level := (line.takeWhile (· == '#')).length
  let rest := line.dropWhile (· == '#')
  if level = 0 || 6 < level || !endsMark rest then none
  else some (level, headingContent rest)

def isMarker (c : Char) : Bool :=
  c == '-' || c == '+' || c == '*'

def item? : Text → Option (Char × Text)
  | [] => none
  | marker :: content =>
    if isMarker marker && endsMark content then some (marker, content) else none

/-- Whether the content of an item ends in prose, which the next line can go on with. It does not if
it is empty or a heading. -/
def endsInProse : Text → Bool
  | [] => false
  | c :: rest =>
    if isSpace c || isMarker c && endsMark rest then endsInProse rest
    else (heading? (c :: rest)).isNone

def isRule (line : Text) : Bool :=
  match line.filter (!isSpace ·) with
  | [] => false
  | mark :: marks =>
    (mark == '*' || mark == '-' || mark == '_') && 2 ≤ marks.length && marks.all (· == mark)

def underline? (line : Text) : Option Nat :=
  match dropEndWhile isSpace line with
  | [] => none
  | mark :: marks =>
    if marks.any (· != mark) then none
    else if mark = '=' then some 1
    else if mark = '-' then some 2
    else none

inductive LineKind where
  | empty
  | raw (text : Text)
  | heading (level : Nat) (content : Text)
  | underline (level : Nat)
  | item (marker : Char) (content : Text)
  | rule
  | prose (text : Text)
  deriving DecidableEq, Repr

inductive Before where
  | nothing
  | raw
  | prose
  | itemProse
  deriving DecidableEq, Repr

namespace LineKind

/-- The kind of a line that is no underline. An item without content cannot follow prose. -/
def ofMark (before : Before) (line shown : Text) : LineKind :=
  if isRule shown then .rule
  else
    match heading? shown, item? shown with
    | some (level, content), _ => .heading level content
    | none, some (marker, content) =>
      if before = .prose && isEmptyLine content then .prose line else .item marker content
    | none, none => .prose line

def ofLine (before : Before) (line : Text) : LineKind :=
  match unindented? line with
  | none => .prose line
  | some shown =>
    match if before = .prose then underline? shown else none with
    | some level => .underline level
    | none => ofMark before line shown

def goesOnWith (before : Before) : LineKind → Before
  | raw _ => .raw
  | prose _ => if before = .itemProse then .itemProse else .prose
  | item _ content => if endsInProse content then .itemProse else .nothing
  | empty | heading .. | underline _ | rule => .nothing

def ofLines : Before → List Text → List LineKind
  | _, [] => []
  | before, line :: rest =>
    let kind : LineKind :=
      if isEmptyLine line then .empty
      else if before = .raw || (unindented? line).any opensRaw then
        .raw (if rest.isEmpty then line else line ++ ['\n'])
      else .ofLine before line
    kind :: ofLines (goesOnWith before kind) rest

end LineKind

/-! ## Blocks

Prose right after a list item goes on with it, and a list with an empty line between two of its
items shows their contents as paragraphs.
-/

/-- An element of a document. A title is prose with an underline. A list is loose if an empty line
stands between two of its items. -/
inductive Element where
  | gap
  | raw (text : Text)
  | heading (level : Nat) (content : Text)
  | title (level : Nat) (lines : List Text)
  | rule
  | bullets (marker : Char) (items : List Text) (loose : Bool)
  | paragraph (lines : List Text)
  deriving DecidableEq, Repr

namespace Element

/-- Puts an item in front of the elements after it. It joins a list with the same marker, also over
empty lines. -/
def consItem (marker : Char) (content : Text) (elements : List Element) : List Element :=
  match elements.dropWhile (· = .gap) with
  | .bullets other items loose :: rest =>
    if marker = other then
      .bullets marker (content :: items) (loose || elements.head? = some .gap) :: rest
    else .bullets marker [content] false :: elements
  | _ => .bullets marker [content] false :: elements

/-- Puts a line in front of the elements after it. A line of prose joins the prose after it, and
prose joins an item that it goes on with. -/
def cons (kind : LineKind) (elements : List Element) : List Element :=
  match kind, elements with
  | .empty, elements => .gap :: elements
  | .raw text, elements => .raw text :: elements
  | .heading level content, elements => .heading level content :: elements
  | .underline level, elements => .title level [] :: elements
  | .rule, elements => .rule :: elements
  | .item marker content, .paragraph lines :: rest =>
    if endsInProse content then consItem marker (content ++ ['\n'] ++ unlines lines) rest
    else consItem marker content (.paragraph lines :: rest)
  | .item marker content, elements => consItem marker content elements
  | .prose line, .paragraph lines :: rest => .paragraph (line :: lines) :: rest
  | .prose line, .title level lines :: rest => .title level (line :: lines) :: rest
  | .prose line, elements => .paragraph [line] :: elements

def ofLines (lines : List Text) : List Element :=
  (LineKind.ofLines .nothing lines).foldr cons []

def tagged (name : Text) (content : Text) : Text :=
  ['<'] ++ name ++ ['>'] ++ content ++ "</".toList ++ name ++ ['>']

def renderHeading (level : Nat) (content : Text) : Text :=
  tagged ('h' :: Text.ofNat level) (renderInline content) ++ ['\n']

def renderParagraph (content : Text) : Text :=
  tagged ['p'] (renderInline (trimMargins content)) ++ ['\n']

def renderBullets (items : List Text) : Text :=
  tagged "ul".toList (['\n'] ++ items.flatMap fun content =>
    tagged "li".toList content ++ ['\n']) ++ ['\n']

def renderItem (loose : Bool) : Text → Text
  | [] => []
  | c :: rest =>
    if isSpace c then renderItem loose rest
    else if isMarker c && endsMark rest then ['\n'] ++ renderBullets [renderItem false rest]
    else
      match heading? (c :: rest) with
      | some (level, content) => ['\n'] ++ renderHeading level content
      | none =>
        if loose then ['\n'] ++ renderParagraph (c :: rest)
        else renderInline (trimMargins (c :: rest))

def render : Element → Text
  | .gap => []
  | .raw text => text
  | .heading level content => renderHeading level content
  | .title level lines => renderHeading level (trimMargins (unlines lines))
  | .rule => "<hr />\n".toList
  | .bullets _ items loose => renderBullets (items.map (renderItem loose))
  | .paragraph lines => renderParagraph (unlines lines)

end Element

def clean (text : Text) : Text :=
  (Line.normalise text).map fun c => if c = '\x00' then '�' else c

def basic (text : Text) : Text :=
  (Element.ofLines (splitOn '\n' (clean text))).flatMap Element.render

end SlashDoc.Markdown
