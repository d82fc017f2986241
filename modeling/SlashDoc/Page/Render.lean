import SlashDoc.Files.Reader
import SlashDoc.Line

/-!
Whole pages: a document in the standard page or in a template of the user's own. What a template
means is up to a template engine, which is a parameter here; finding the text of a template,
choosing whether values are escaped, and telling the engine's own errors from all others is not.
-/

namespace SlashDoc

open Text

/-- The errors that come out of a template engine: its own, and those of what it calls. -/
inductive EngineError where
  | own (kind message : Text)
  | other (kind message : Text)
  deriving DecidableEq, Repr

/-- A template engine makes a page of the text of a template, given whether values are escaped, and
the two values. A template can include others from its own directory, so the engine is given the
files and the path too. -/
structure Engine where
  render : FileTree → Path → (escapes : Bool) → (source body file : Text) → Except EngineError Text

inductive TemplateFault where
  | notFound (name directory : Text)
  | parentName
  | raised (kind message : Text)
  deriving DecidableEq, Repr

namespace TemplateFault

def message : TemplateFault → Text
  | notFound name directory =>
    quoted name ++ " not found in search path: ".toList ++ quoted directory
  | parentName => "..".toList
  | raised _ message => message

/-- The reason that is given for a failure: an error without a message is called by its kind. -/
def reason : TemplateFault → Text
  | raised kind [] => kind
  | fault => fault.message

end TemplateFault

/-- What goes wrong on the way to a page and is no fault of a template engine. -/
inductive ForeignFault where
  | undecodable (fault : DecodeFault)
  | denied (path : Text)
  | raised (kind message : Text)
  deriving DecidableEq, Repr

def ForeignFault.message : ForeignFault → Text
  | undecodable fault => fault.message
  | denied path => PathFault.denied.message path
  | raised _ message => message

inductive PageFault where
  | template (path : Path) (fault : TemplateFault)
  | foreign (fault : ForeignFault)
  deriving DecidableEq, Repr

def PageFault.ofError (path : Path) : EngineError → PageFault
  | .own kind message => .template path (.raised kind message)
  | .other kind message => .foreign (.raised kind message)

namespace Template

def standardPath : Path := ⟨.relative, ["page.html.j2".toList]⟩

def standardText : Text :=
  ("<!DOCTYPE html>\n<html>\n<head>\n  <meta charset=\"utf-8\">\n" ++
   "  <title>\x7b\x7b file \x7d\x7d</title>\n  <style>\n" ++
   "    body \x7b font-family: Georgia, serif; max-width: 46em; margin: 2em auto; " ++
     "line-height: 1.5; \x7d\n" ++
   "    code, pre \x7b font-family: Menlo, Consolas, monospace; font-size: 0.9em; \x7d\n" ++
   "    table.sig \x7b border-collapse: collapse; margin: 0.5em 0 1em; \x7d\n" ++
   "    table.sig td \x7b padding: 0.1em 0.4em; \x7d\n" ++
   "  </style>\n</head>\n<body>\n<div class=\"source\">\x7b\x7b file \x7d\x7d</div>\n" ++
   "\x7b\x7b body | safe \x7d\x7d\n</body>\n</html>\n").toList

def escapedEndings : List Text := [".html", ".html.j2", ".htm"].map String.toList

def escapesFor (name : Text) : Bool :=
  escapedEndings.any (·.isSuffixOf (name.map Char.toLower))

end Template

/-- How the loader of templates calls a file: by the directory and the name. -/
def Path.joined (path : Path) : Text :=
  let directory := path.parent.toText
  if directory.getLast? = some '/' then directory ++ path.name else directory ++ '/' :: path.name

def templateText (tree : FileTree) (path : Path) : Except PageFault Text :=
  if path.name = "..".toList then .error (.template path .parentName)
  else
    match tree.read path.toText with
    | .error .denied => .error (.foreign (.denied path.joined))
    | .error _ => .error (.template path (.notFound path.name path.parent.toText))
    | .ok bytes =>
      match Encoding.utf8.decode bytes with
      | .error fault => .error (.foreign (.undecodable fault))
      | .ok text => .ok (Line.normalise text)

def templateSource (tree : FileTree) : Option Path → Except PageFault Text
  | none => .ok Template.standardText
  | some path => templateText tree path

def renderPage (engine : Engine) (tree : FileTree) (template : Option Path) (body file : Text) :
    Except PageFault Text := do
  let path := template.getD Template.standardPath
  let source ← templateSource tree template
  (engine.render tree path (Template.escapesFor path.name) source body file).mapError
    (PageFault.ofError path)

end SlashDoc
