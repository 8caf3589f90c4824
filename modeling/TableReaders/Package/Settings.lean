import TableReaders.Identifier

/-! What can be chosen about the generated files. -/

namespace TableReaders.Package

inductive Unresolved where
  | skip
  | refuse
  deriving DecidableEq, Repr

structure Settings where
  /-- The package with the interface of text vectors. -/
  vectorPackage : String := "github.com/nebtex/hybrids/golang/hybrids"
  unresolved : Unresolved := .skip
  extension : String := "go"
  /-- The path of the package of the files. Without one the package has the application's name. -/
  package : Option String := none
  deriving DecidableEq, Repr

namespace Settings

def vectorAlias (settings : Settings) : String :=
  Identifier.lastSegment settings.vectorPackage

/-- What a package name has for a character: ASCII capitals become small, and what cannot stand in a
name becomes an underscore. -/
def packageCharacter (c : Char) : Char :=
  if Identifier.isTail c then c.toLower else '_'

def startsPackage (c : Char) : Bool :=
  Text.isAlphabetic c || c == '_'

def packageIdentifier (source : String) : String :=
  let name := source.toList.map packageCharacter
  if name.head?.any startsPackage then String.ofList name else String.ofList ('_' :: name)

def packageFor (settings : Settings) (application : String) : String :=
  match settings.package with
  | some path => packageIdentifier (Identifier.lastSegment path)
  | none => packageIdentifier application

end Settings

end TableReaders.Package
