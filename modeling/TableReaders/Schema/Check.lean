import TableReaders.Schema.Application
import TableReaders.Schema.Error

/-!
Which applications can be generated. Names must be identifiers, every definition must have a name of
its own, and a vector must say what its items are. Whether a token names anything is not asked here.
The first defect is reported: tables in order, each with its fields, then the enumerations, then all
groups.
-/

namespace TableReaders.Schema

abbrev Checked := Except CheckError

namespace Check

def fresh (definition : Definition) (shown : String) (seen : List String) (name : String) :
    Checked (List String) :=
  if name ∈ seen then .error (.definedTwice definition shown) else .ok (name :: seen)

def identifier (definition : Definition) (name : String) : Checked Unit :=
  if Identifier.valid name then .ok () else .error (.notAnIdentifier definition name)

def unreserved (definition : Definition) (name : String) : Checked Unit :=
  if reserved name then .error (.notAnIdentifier definition name) else .ok ()

/-- Checks a field after others whose exported names are `seen`: fields that differ only in the case
of their first letter would have one accessor. -/
def field (table : Table) (seen : List String) (field : Field) : Checked (List String) := do
  identifier .field field.name
  let seen ← fresh .field (table.name ++ "." ++ field.name) seen (Identifier.exported field.name)
  if field.holdsVector && field.itemToken?.isNone then .error (.itemsMissing table.name field.name)
  else return seen

def table (table : Table) : Checked Unit := do
  identifier .table table.name
  discard (table.fields.foldlM (field table) [])

def nextTable (seen : List String) (next : Table) : Checked (List String) := do
  unreserved .table next.name
  let seen ← fresh .table next.name seen next.name
  table next
  return seen

def nextEnumeration (seen : List String) (next : Enumeration) : Checked (List String) := do
  identifier .enumeration next.name
  fresh .enumeration next.name seen next.name

def nextGroup (seen : List String) (next : Group) : Checked (List String) := do
  identifier .group next.name
  unreserved .group next.name
  fresh .group next.name seen next.name

end Check

def Table.check (table : Table) : Checked Unit :=
  Check.table table

def Application.check (application : Application) : Checked Unit := do
  let seen ← application.tables.foldlM Check.nextTable []
  let seen ← application.enumerations.foldlM Check.nextEnumeration seen
  discard ((application.enumerations.flatMap (·.groups)).foldlM Check.nextGroup seen)

end TableReaders.Schema
