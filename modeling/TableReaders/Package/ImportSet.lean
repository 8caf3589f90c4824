/-! The packages that a file imports: a set of paths, kept and written in increasing order. -/

namespace TableReaders.Package

structure ImportSet where
  paths : List String := []
  deriving DecidableEq, Repr

namespace ImportSet

def insertInto (path : String) : List String → List String
  | [] => [path]
  | first :: rest =>
      if path < first then path :: first :: rest
      else if path = first then first :: rest
      else first :: insertInto path rest

def insert (imports : ImportSet) (path : String) : ImportSet :=
  ⟨insertInto path imports.paths⟩

def contains (imports : ImportSet) (path : String) : Bool :=
  imports.paths.contains path

def add (imports : ImportSet) (path : String) : Bool × ImportSet :=
  (!imports.contains path, imports.insert path)

def size (imports : ImportSet) : Nat :=
  imports.paths.length

def isEmpty (imports : ImportSet) : Bool :=
  imports.paths.isEmpty

def line (path : String) : String :=
  "\t\"" ++ path ++ "\"\n"

def render (imports : ImportSet) : String :=
  if imports.isEmpty then ""
  else "import (\n" ++ String.join (imports.paths.map line) ++ ")\n\n"

def renderWithin? (imports : ImportSet) (limit : Nat) : Option String :=
  if imports.render.utf8ByteSize ≤ limit then some imports.render else none

end ImportSet

end TableReaders.Package
