import SlashDoc.Files.Tree
import SlashDoc.Text.Basic
import SlashDoc.Text.Quoted

/-!
Values as they are given from outside, what can be wrong with them, and the rules that turn them
into values of the domain.
-/

namespace SlashDoc

open Text

/-- A value of unknown kind. A floating-point number is kept apart from an integer, as a numerator
over a denominator; one that is infinite or undefined has neither. -/
inductive Value where
  | null
  | flag (b : Bool)
  | integer (n : Int)
  | ratio (numerator : Int) (denominator : Nat)
  | notFinite
  | text (t : Text)
  | list (items : List Value)
  | record (fields : List (String × Value))
  deriving Inhabited, Repr

abbrev Fields := List (String × Value)

/-! ## Problems

Each cause has a sentence and a short code; a list of problems is reported in the order of the
fields.
-/

inductive Cause where
  | missing
  | notText
  | emptyText
  | notInteger
  | fractional
  | notFinite
  | unreadableInteger
  | oversizedInteger
  | below (least : Nat)
  | notFlag
  | unreadableFlag
  | notPath
  | notChoice (choices : List Text)
  | notList
  | unknownLevel (given : Text)
  | notRecord (kind : Text)
  | frozen
  deriving DecidableEq, Repr

def oneOf : List Text → Text
  | [] => []
  | [last] => quoted last
  | [first, last] => quoted first ++ " or ".toList ++ quoted last
  | first :: rest => quoted first ++ ", ".toList ++ oneOf rest

namespace Cause

def message : Cause → Text
  | missing => "Field required".toList
  | notText => "Input should be a valid string".toList
  | emptyText => "String should have at least 1 character".toList
  | notInteger => "Input should be a valid integer".toList
  | fractional => "Input should be a valid integer, got a number with a fractional part".toList
  | notFinite => "Input should be a finite number".toList
  | unreadableInteger =>
    "Input should be a valid integer, unable to parse string as an integer".toList
  | oversizedInteger =>
    "Unable to parse input string as an integer, exceeded maximum size".toList
  | below least => "Input should be greater than or equal to ".toList ++ Text.ofNat least
  | notFlag => "Input should be a valid boolean".toList
  | unreadableFlag => "Input should be a valid boolean, unable to interpret input".toList
  | notPath => "Input is not a valid path for <class 'pathlib.Path'>".toList
  | notChoice choices => "Input should be ".toList ++ oneOf choices
  | notList => "Input should be a valid tuple".toList
  | unknownLevel given => "Value error, Unknown log level: ".toList ++ given
  | notRecord kind => "Input should be a valid dictionary or instance of ".toList ++ kind
  | frozen => "Instance is frozen".toList

def code : Cause → Text
  | missing => "missing".toList
  | notText => "string_type".toList
  | emptyText => "string_too_short".toList
  | notInteger => "int_type".toList
  | fractional => "int_from_float".toList
  | notFinite => "finite_number".toList
  | unreadableInteger => "int_parsing".toList
  | oversizedInteger => "int_parsing_size".toList
  | below _ => "greater_than_equal".toList
  | notFlag => "bool_type".toList
  | unreadableFlag => "bool_parsing".toList
  | notPath => "path_type".toList
  | notChoice _ => "enum".toList
  | notList => "tuple_type".toList
  | unknownLevel _ => "value_error".toList
  | notRecord _ => "model_type".toList
  | frozen => "frozen_instance".toList

end Cause

/-- A cause and the field it was found in. The location is empty if a whole record is wrong. -/
structure Problem where
  location : Text
  cause : Cause
  deriving DecidableEq, Repr

def Problem.render (problem : Problem) : Text :=
  problem.location ++ ": ".toList ++ problem.cause.message ++ " [".toList ++
    problem.cause.code ++ "]".toList

def Problem.report (problems : List Problem) : Text :=
  List.intercalate "; ".toList (problems.map Problem.render)

end SlashDoc

/-! ## Integers

A plain integer is a row of digits that a minus sign may precede. Other spellings are first made
plain: white space around the number, a plus sign, zeros in front, single underscores between digits
and a fraction of zeros are taken off.
-/

namespace SlashDoc.Decimal

open Text

inductive Reading where
  | value (n : Int)
  | oversized
  | unreadable
  deriving DecidableEq, Repr

def longest : Nat := 4300

def digitsValue (digits : Text) : Nat :=
  digits.foldl (fun n c => 10 * n + (c.toNat - '0'.toNat)) 0

def splitMinus : Text → Bool × Text
  | '-' :: rest => (true, rest)
  | t => (false, t)

def isPadded : Text → Bool
  | '0' :: _ :: _ => true
  | _ => false

/-- Reads a plain integer. Too many digits are noticed before anything that follows them. -/
def readPlain (t : Text) : Reading :=
  let (negative, unsigned) := splitMinus t
  let digits := unsigned.takeWhile Char.isDigit
  if isPadded digits then .unreadable
  else if longest < digits.length + negative.toNat then .oversized
  else if digits = [] || digits != unsigned then .unreadable
  else .value (if negative then -(digitsValue digits : Int) else digitsValue digits)

def dropPlus? : Text → Option Text
  | '+' :: '-' :: _ => none
  | '+' :: rest => some rest
  | t => some t

/-- Takes off zeros and underscores up to the first character that is neither. The last of them
stays if nothing or a point follows; `last` is the one before the text. -/
def dropZerosAfter? (last : Char) : Text → Option Text
  | [] => some [last]
  | c :: rest =>
    if c = '0' || c = '_' then dropZerosAfter? c rest
    else if c = '.' then some (last :: c :: rest)
    else if c.isDigit || c = '-' then some (c :: rest)
    else none

def dropZeros? : Text → Option Text
  | [] => none
  | c :: rest =>
    if c = '0' then dropZerosAfter? c rest
    else if c.isDigit || c = '-' then some (c :: rest)
    else none

/-- Takes off a point and the zeros after it. There has to be a zero after a point. -/
def dropFraction? (t : Text) : Option Text :=
  match t.dropWhile (· != '.') with
  | [] => some t
  | _ :: fraction =>
    if fraction != [] && fraction.all (· == '0') then some (t.takeWhile (· != '.')) else none

def dropUnderscores? (t : Text) : Option Text :=
  if (splitOn '_' t).all (· != []) then some (t.filter (· != '_')) else none

def plainDigits? (t : Text) : Option Text := do
  dropUnderscores? (← dropFraction? (← dropZeros? t))

/-- Makes the spelling of an integer plain. A sign may follow zeros, but not another sign. -/
def plain? (t : Text) : Option Text := do
  match ← dropPlus? (trimWhere isWhite t) with
  | '-' :: '-' :: _ => none
  | '-' :: rest => (plainDigits? rest).map ('-' :: ·)
  | rest => plainDigits? rest

def read (t : Text) : Reading :=
  match readPlain t with
  | .unreadable => ((plain? t).map readPlain).getD .unreadable
  | reading => reading

end SlashDoc.Decimal

/-! ## Rules

A record is checked field by field, and the problems of all its fields are collected before it is
refused.
-/

namespace SlashDoc

open Text

abbrev Checked (α : Type) := Except (List Problem) α

namespace Checked

/-- Applies a checked function to a checked argument; problems of both are kept, in this order. -/
def and {α β : Type} (f : Checked (α → β)) (a : Checked α) : Checked β :=
  match f, a with
  | .ok f, .ok a => .ok (f a)
  | .ok _, .error problems => .error problems
  | .error problems, .ok _ => .error problems
  | .error first, .error second => .error (first ++ second)

def refuse {α : Type} (location : Text) (cause : Cause) : Checked α :=
  .error [⟨location, cause⟩]

/-- Sets a field of a finished record. Its fields cannot be changed; a name that starts with an
underscore is none of them, and setting it changes nothing that shows. -/
def assign {α : Type} (record : α) (name : Text) : Checked α :=
  if name.head? = some '_' then .ok record else refuse name .frozen

end Checked

abbrev Rule (α : Type) := Text → Value → Checked α

namespace Fields

def required {α : Type} (fields : Fields) (name : String) (rule : Rule α) : Checked α :=
  match fields.lookup name with
  | none => Checked.refuse name.toList .missing
  | some value => rule name.toList value

def optional {α : Type} (fields : Fields) (name : String) (rule : Rule α) (default : α) :
    Checked α :=
  match fields.lookup name with
  | none => .ok default
  | some value => rule name.toList value

end Fields

namespace Rule

def text : Rule Text := fun location value =>
  match value with
  | .text t => .ok t
  | _ => Checked.refuse location .notText

def nonEmptyText : Rule Text := fun location value =>
  match value with
  | .text [] => Checked.refuse location .emptyText
  | .text t => .ok t
  | _ => Checked.refuse location .notText

def optionalText : Rule (Option Text) := fun location value =>
  match value with
  | .null => .ok none
  | .text t => .ok (some t)
  | _ => Checked.refuse location .notText

def optionalPath : Rule (Option Path) := fun location value =>
  match value with
  | .null => .ok none
  | .text t => .ok (some (Path.ofText t))
  | _ => Checked.refuse location .notPath

def choice {α : Type} (names : List Text) (ofName? : Text → Option α) : Rule α :=
  fun location value =>
    match value with
    | .text t =>
      match ofName? t with
      | some a => .ok a
      | none => Checked.refuse location (.notChoice names)
    | _ => Checked.refuse location (.notChoice names)

def textsFrom (location : Text) : (index : Nat) → List Value → Checked (List Text)
  | _, [] => .ok []
  | index, value :: rest =>
    Checked.and ((text (location ++ ['.'] ++ Text.ofNat index) value).map List.cons)
      (textsFrom location (index + 1) rest)

def texts : Rule (List Text) := fun location value =>
  match value with
  | .list items => textsFrom location 0 items
  | _ => Checked.refuse location .notList

def noWords : List Text :=
  ["0", "off", "f", "false", "n", "no"].map String.toList

def yesWords : List Text :=
  ["1", "on", "t", "true", "y", "yes"].map String.toList

def wordBound : Nat := 9223372036854775808

def flagOfWord (location : Text) (n : Int) : Checked Bool :=
  if n = 0 then .ok false
  else if n = 1 then .ok true
  else Checked.refuse location .unreadableFlag

/-- Yes or no, given as such, as one or zero, or as a word in any case. A number that is no machine
integer is not a flag at all. -/
def flag : Rule Bool := fun location value =>
  match value with
  | .flag b => .ok b
  | .integer n =>
    if -wordBound ≤ n && n < wordBound then flagOfWord location n
    else Checked.refuse location .notFlag
  | .ratio numerator denominator =>
    if numerator % denominator = 0 && (numerator / denominator).natAbs < wordBound then
      flagOfWord location (numerator / denominator)
    else Checked.refuse location .notFlag
  | .text t =>
    if noWords.contains (t.map Char.toLower) then .ok false
    else if yesWords.contains (t.map Char.toLower) then .ok true
    else Checked.refuse location .unreadableFlag
  | .null | .notFinite | .list _ | .record _ => Checked.refuse location .notFlag

/-- An integer, also given as yes or no, as a floating-point number without a fraction, or in
digits. A floating-point number has to be a machine integer. -/
def integer : Rule Int := fun location value =>
  match value with
  | .integer n => .ok n
  | .flag b => .ok (if b then 1 else 0)
  | .ratio numerator denominator =>
    if numerator % denominator != 0 then Checked.refuse location .fractional
    else if (numerator / denominator).natAbs < wordBound then .ok (numerator / denominator)
    else Checked.refuse location .oversizedInteger
  | .notFinite => Checked.refuse location .notFinite
  | .text t =>
    match Decimal.read t with
    | .value n => .ok n
    | .oversized => Checked.refuse location .oversizedInteger
    | .unreadable => Checked.refuse location .unreadableInteger
  | .null | .list _ | .record _ => Checked.refuse location .notInteger

def atLeast (least : Nat) : Rule Nat := fun location value =>
  match integer location value with
  | .error problems => .error problems
  | .ok n => if n < least then Checked.refuse location (.below least) else .ok n.toNat

end Rule

end SlashDoc
