import SlashDoc.Text.Basic

/-!
Escaped text, and tables of one line. Text content and attribute values use named entities for four
of the characters that have a meaning in markup; page values also escape the apostrophe and use
numbers for both quotes.
-/

namespace SlashDoc.Html

open Text

/-- A character of text content: the angle brackets, the ampersand and the double quote become
entities. -/
def entity : Char → Text
  | '<' => "&lt;".toList
  | '>' => "&gt;".toList
  | '&' => "&amp;".toList
  | '"' => "&quot;".toList
  | c => [c]

def escape (text : Text) : Text :=
  text.flatMap entity

def pageEntity : Char → Text
  | '&' => "&amp;".toList
  | '<' => "&lt;".toList
  | '>' => "&gt;".toList
  | '\x27' => "&#39;".toList
  | '"' => "&#34;".toList
  | c => [c]

def escapeValue (text : Text) : Text :=
  text.flatMap pageEntity

/-! ## Tables -/

inductive CellFormat where
  | code
  | plain
  | bracketed
  deriving DecidableEq, Repr

def CellFormat.apply : CellFormat → Text → Text
  | .code, text => "<code>".toList ++ text ++ "</code>".toList
  | .plain, text => text
  | .bracketed, text => ['['] ++ text ++ [']']

def renderCell (format : CellFormat) (cell : Text) : Text :=
  "<td>".toList ++ format.apply (escape cell) ++ "</td>".toList

def renderRow (format : CellFormat) (row : List Text) : Text :=
  "<tr>".toList ++ row.flatMap (renderCell format) ++ "</tr>".toList

/-- A table as one piece of markup; nothing at all when there are no rows. -/
def renderTable (format : CellFormat) (cssClass : Text) (rows : List (List Text)) : Text :=
  if rows = [] then []
  else "<table class=\"".toList ++ escape cssClass ++ "\">".toList ++
    rows.flatMap (renderRow format) ++ "</table>".toList

def endsWord : Text → Bool
  | [] => true
  | c :: _ => !isWord c

/-- Whether a line is a whole table: the opening tag, content without a line feed, the closing tag
and blanks. -/
def isTableLine (line : Text) : Bool :=
  match after? "<table".toList line with
  | none => false
  | some rest =>
    match after? "</table>".toList.reverse (rest.reverse.dropWhile isBlank) with
    | none => false
    | some content => endsWord rest && content.all (· != '\n')

end SlashDoc.Html
