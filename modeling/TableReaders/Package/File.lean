import TableReaders.Package.Interface
import TableReaders.Schema.Check
import TableReaders.Schema.Document

/-!
The files of a package: one for each table of an application, in order. The application is checked
before anything is generated, and the first table that fails ends the run.
-/

namespace TableReaders.Package

open Schema

structure File where
  table : String
  name : String
  contents : String
  deriving DecidableEq, Repr

variable (settings : Settings)

def File.nameFor (table : Table) : String :=
  Identifier.snakeCase table.name ++ "_reader." ++ settings.extension

def File.ofTable (application : Application) (table : Table) : Traced File := do
  let body ← Interface.render settings application.resolve table
  return {
    table := table.name
    name := File.nameFor settings table
    contents := "package " ++ settings.packageFor application.name ++ "\n\n" ++ body }

def generate (application : Application) : Traced (List File) := do
  .silent (application.check.mapError .schema)
  let files ← application.tables.mapM (File.ofTable settings application)
  .tell (.applicationDone files.length application.name)
  return files

def renderTable (application : Application) (name : String) : Traced String :=
  match application.table? name with
  | some table => Interface.render settings application.resolve table
  | none => .fail (.schema (.noSuchTable name))

def generateDocument (text : String) : Traced (List File) := do
  let application ← .silent ((Application.ofDocument text).mapError .unreadable)
  generate settings application

end TableReaders.Package
