import TableReaders.Schema.Documentation

/-! Enumerations: named groups of named items. A field's type names a group, not the enumeration. -/

namespace TableReaders.Schema

structure Group where
  name : String
  documentation : Option Documentation := none
  items : List String := []
  deriving DecidableEq

def Group.extend (group : Group) (item : String) : Group :=
  { group with items := group.items ++ [item] }

structure Enumeration where
  name : String
  documentation : Option Documentation := none
  groups : List Group := []
  deriving DecidableEq

namespace Enumeration

def extend (enumeration : Enumeration) (group : Group) : Enumeration :=
  { enumeration with groups := enumeration.groups ++ [group] }

def group? (enumeration : Enumeration) (name : String) : Option Group :=
  enumeration.groups.find? (·.name == name)

end Enumeration

end TableReaders.Schema
