import TableReaders.Package.Comment
import TableReaders.Package.Settings
import TableReaders.Schema.Table
import TableReaders.Schema.Target

/-!
Accessors: the methods of a reader interface. A field has at most one. Reserved tokens decide at
once; any other token is looked up, and what it names decides.
-/

namespace TableReaders.Package

open Schema

inductive Accessor where
  | text
  | textVector
  | rowVector (table : String)
  | row (table : String)
  | enumeration (name : String)
  deriving DecidableEq, Repr

namespace Accessor

def ofItems : Target → Option Accessor
  | .table id => some (.rowVector (Identifier.lastSegment id))
  -- There are vectors of rows only.
  | .group .. | .unknown => none

def ofTarget : Target → Option Accessor
  | .table id => some (.row (Identifier.lastSegment id))
  -- A group is read as its enumeration.
  | .group _ parent => some (.enumeration (Identifier.lastSegment parent))
  | .unknown => none

def ofField (application : String) (field : Schema.Field) (resolve : Resolver) :
    Except LookupError (Option Accessor) :=
  if field.type = textToken then .ok (some .text)
  else if field.type = vectorToken then
    match field.itemToken? with
    | none => .ok none
    | some items =>
        if items = textToken then .ok (some .textVector)
        else ofItems <$> resolve application items
  else ofTarget <$> resolve application field.type

def label : Accessor → String
  | .text => "string"
  | .textVector => "vector-string"
  | .rowVector _ => "vector-table"
  | .row _ => "table"
  | .enumeration _ => "enumeration"

def resultType (settings : Settings) : Accessor → String
  | .text => "string"
  | .textVector => settings.vectorAlias ++ ".VectorStringReader"
  | .rowVector table => Identifier.vectorInterface table
  | .row table => "(" ++ Identifier.rowInterface table ++ ", error)"
  | .enumeration name => Identifier.exported name

def mayFail : Accessor → Bool
  | .row _ => true
  | .text | .textVector | .rowVector _ | .enumeration _ => false

def package? (settings : Settings) : Accessor → Option String
  | .textVector => some settings.vectorPackage
  | .text | .rowVector _ | .row _ | .enumeration _ => none

def render (settings : Settings) (field : Schema.Field) (accessor : Accessor) : String :=
  docComment field.name field.documentation "\t" ++
    "\t" ++ Identifier.exported field.name ++ "() " ++ accessor.resultType settings ++ "\n"

end Accessor

end TableReaders.Package
