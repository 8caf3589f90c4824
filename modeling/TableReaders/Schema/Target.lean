import TableReaders.Identifier

/-!
What a type token names: a table, a group of an enumeration, or nothing that is known. A definition
is identified by the name of its application, a slash and its own name.
-/

namespace TableReaders.Schema

inductive Target where
  | table (id : String)
  | group (id parent : String)
  | unknown
  deriving DecidableEq, Repr

namespace Target

def kind : Target → String
  | .table _ => "Table"
  | .group .. => "EnumerationGroup"
  | .unknown => "Unresolved"

def id? : Target → Option String
  | .table id | .group id _ => some id
  | .unknown => none

def parent? : Target → Option String
  | .group _ parent => some parent
  | .table _ | .unknown => none

def name? (target : Target) : Option String :=
  target.id?.map Identifier.lastSegment

end Target

inductive LookupError where
  | notAName (token : String)
  | otherApplication (application : String)
  | unreachable (reason : String)
  deriving DecidableEq, Repr

def LookupError.message : LookupError → String
  | .notAName token => "malformed type token '" ++ token ++ "'"
  | .otherApplication application => "unknown application '" ++ application ++ "'"
  | .unreachable reason => "symbol registry unavailable: " ++ reason

abbrev Resolver := (application token : String) → Except LookupError Target

end TableReaders.Schema
