import TableReaders.Identifier
import TableReaders.Schema.Documentation
import TableReaders.Text.Lines

/-!
Doc comments. A comment begins with the exported name of what it stands over, so every definition
has one, also without documentation. Every line of the documentation is a line of the comment: it is
cut at its end and has the comment marker before it, so that no text can leave the comment.
-/

namespace TableReaders.Package

open Schema

def commentLine (indent : String) (line : List Char) : String :=
  match Text.trimEnd line with
  | [] => indent ++ "//\n"
  | shown => indent ++ "// " ++ String.ofList shown ++ "\n"

def comment (indent text : String) : String :=
  String.join ((Text.lines text.toList).map (commentLine indent))

def docComment (name : String) (documentation : Option Documentation) (indent : String) : String :=
  let name := Identifier.exported name
  match documentation.bind (·.short), documentation.bind (·.long) with
  | some short, some long => comment indent (name ++ " " ++ short) ++ comment indent long
  | some only, none | none, some only => comment indent (name ++ " " ++ only)
  | none, none => comment indent (name ++ " ...")

end TableReaders.Package
