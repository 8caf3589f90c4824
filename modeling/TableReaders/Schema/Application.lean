import TableReaders.Schema.Enumeration
import TableReaders.Schema.Table
import TableReaders.Schema.Target
import TableReaders.Text.Blank

/-!
Applications: the tables and enumerations of one name space, in order of declaration. Beside the two
lists stand indexes from names to positions, which only `declareTable` and `declareEnumeration`
fill. A definition that was put into a list without them is part of the application, but no token
names it. Where a name was added twice the later entry counts.

The type does not say that the positions of an index are inside its list. They are, in every
application that comes about by the functions below (`Application.Indexed`), because a list only
grows at its end. So a
look-up never meets a position with nothing at it; `table?` and `target` answer there as for a name
without an entry, which stands for no behaviour of its own.
-/

namespace TableReaders.Schema

structure Application where
  name : String
  documentation : Option Documentation := none
  tables : List Table := []
  enumerations : List Enumeration := []
  /-- Positions of tables by name, latest first. -/
  tableIndex : List (String × Nat) := []
  /-- Positions of enumerations by the name of a group, latest first. -/
  groupIndex : List (String × Nat) := []
  deriving DecidableEq

namespace Application

def declareTable (application : Application) (table : Table) : Application :=
  { application with
    tables := application.tables ++ [{ table with application := application.name }]
    tableIndex := (table.name, application.tables.length) :: application.tableIndex }

def declareEnumeration (application : Application) (enumeration : Enumeration) : Application :=
  { application with
    enumerations := application.enumerations ++ [enumeration]
    groupIndex :=
      (enumeration.groups.map fun group => (group.name, application.enumerations.length)).reverse ++
        application.groupIndex }

def listTable (application : Application) (table : Table) : Application :=
  { application with tables := application.tables ++ [table] }

def listEnumeration (application : Application) (enumeration : Enumeration) : Application :=
  { application with enumerations := application.enumerations ++ [enumeration] }

def changeFirst {α : Type} (test : α → Bool) (change : α → α) : List α → List α
  | [] => []
  | first :: rest =>
      if test first then change first :: rest else first :: changeFirst test change rest

def extendTable (application : Application) (table : String) (field : Field) : Application :=
  { application with
    tables := changeFirst (·.name == table) (·.extend field) application.tables }

def extendEnumeration (application : Application) (enumeration : String) (group : Group) :
    Application :=
  { application with
    enumerations := changeFirst (·.name == enumeration) (·.extend group) application.enumerations }

def rename (application : Application) (name : String) : Application :=
  { application with name }

def table? (application : Application) (name : String) : Option Table :=
  (application.tableIndex.lookup name).bind (application.tables[·]?)

def enumeration? (application : Application) (name : String) : Option Enumeration :=
  application.enumerations.find? (·.name == name)

def qualify (application : Application) (name : String) : String :=
  application.name ++ "/" ++ name

def wellFormedToken (token : String) : Bool :=
  !token.toList.isEmpty && token.toList.all fun c => c != '/' && !Text.isBlank c

/-- What a token names in the application: a table before a group. -/
def target (application : Application) (token : String) : Target :=
  if (application.tableIndex.lookup token).isSome then .table (application.qualify token)
  else
    match (application.groupIndex.lookup token).bind (application.enumerations[·]?) with
    | some parent => .group (application.qualify token) (application.qualify parent.name)
    | none => .unknown

def resolve (application : Application) : Resolver := fun asked token =>
  if asked ≠ application.name then .error (.otherApplication asked)
  else if wellFormedToken token then .ok (application.target token)
  else .error (.notAName token)

end Application

end TableReaders.Schema
