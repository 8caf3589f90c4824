import TableReaders.Package.Accessor
import TableReaders.Package.ImportSet
import TableReaders.Package.Trace

/-!
The reader interface of a table. One pass over the fields collects the imports and the text of the
methods; the parts are put together when the pass has come to its end, so a table that fails has no
text. The interface of vectors of the table follows that of its rows.
-/

namespace TableReaders.Package

open Schema

def vectorInterface (table : String) : String :=
  "\n// " ++ Identifier.vectorInterface table ++ " ...\n" ++
  "type " ++ Identifier.vectorInterface table ++ " interface \x7b\n" ++
  "\t// Len returns the current size of this vector\n" ++
  "\tLen() int\n\n" ++
  "\t// Get returns the item in the position i.\n" ++
  "\t// If the item does not exist it returns the default value of the underlying data type.\n" ++
  "\t// When i < 0 or i >= Len() it returns a VectorInvalidIndexError.\n" ++
  "\tGet(i int) (" ++ Identifier.rowInterface table ++ ", error)\n" ++
  "\x7d\n"

structure Draft where
  imports : ImportSet := {}
  definitions : String
  accessors : Nat := 0

namespace Draft

def begin (table : Table) : Draft where
  definitions :=
    docComment (Identifier.rowInterface table.name) table.documentation "" ++
      "type " ++ Identifier.rowInterface table.name ++ " interface \x7b\n"

def push (draft : Draft) (settings : Settings) (field : Schema.Field) (accessor : Accessor) :
    Draft where
  imports :=
    match accessor.package? settings with
    | some path => draft.imports.insert path
    | none => draft.imports
  -- An empty line stands between two methods.
  definitions :=
    draft.definitions ++ (if 0 < draft.accessors then "\n" else "") ++
      accessor.render settings field
  accessors := draft.accessors + 1

def finish (draft : Draft) (table : Table) : String :=
  draft.imports.render ++ (draft.definitions ++ "\x7d\n") ++ vectorInterface table.name

end Draft

namespace Interface

variable (settings : Settings) (resolve : Resolver) (table : Table)

def step (draft : Draft) (field : Schema.Field) : Traced Draft :=
  match Accessor.ofField table.application field resolve with
  | .error error => .fail (.resolve error)
  | .ok (some accessor) => do
      .tell (.accessorWritten field.name accessor.label)
      return draft.push settings field accessor
  | .ok none =>
      match settings.unresolved with
      | .skip => do
          .tell (.fieldSkipped field.name field.token)
          return draft
      | .refuse => .fail (.noAccessor table.name field.name field.token)

def pass : Traced Draft :=
  table.fields.foldlM (step settings resolve table) (Draft.begin table)

def closing (result : Except GenerateError Draft) : Entry :=
  match result with
  | .ok draft => .tableDone (Identifier.rowInterface table.name) draft.accessors
  | .error error => .tableFailed (Identifier.rowInterface table.name) error

def render : Traced String :=
  let passed := pass settings resolve table
  { log := .tableBegun table.name table.application :: (passed.log ++ [closing table passed.result])
    result := (·.finish table) <$> passed.result }

end Interface

end TableReaders.Package
