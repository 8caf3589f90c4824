import TableReaders.Schema.Documentation

/-!
Tables: named, typed fields in the order of their declaration. The type of a field is a token. Two
tokens are reserved: text, and a vector whose items have a token of their own. Any other token names
a definition.
-/

namespace TableReaders.Schema

def textToken : String := "String"

def vectorToken : String := "Vector"

def reserved (token : String) : Bool :=
  token == textToken || token == vectorToken

structure Field where
  name : String
  type : String
  items : Option String := none
  documentation : Option Documentation := none
  deriving DecidableEq

namespace Field

def text (name : String) : Field :=
  { name, type := textToken }

def vector (name items : String) : Field :=
  { name, type := vectorToken, items := some items }

def holdsVector (field : Field) : Bool :=
  field.type == vectorToken

/-- The token of the items. An empty token counts as none. -/
def itemToken? (field : Field) : Option String :=
  field.items.filter (· != "")

/-- The token that says what the field holds: for a vector that of its items, and empty if there is
none. -/
def token (field : Field) : String :=
  if field.holdsVector then field.itemToken?.getD "" else field.type

end Field

structure Table where
  name : String
  application : String
  documentation : Option Documentation := none
  fields : List Field := []
  deriving DecidableEq

namespace Table

def extend (table : Table) (field : Field) : Table :=
  { table with fields := table.fields ++ [field] }

def field? (table : Table) (name : String) : Option Field :=
  table.fields.find? (·.name == name)

end Table

end TableReaders.Schema
