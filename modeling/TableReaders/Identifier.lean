import TableReaders.Text.Alphabetic
import TableReaders.Text.CaseMapping
import TableReaders.Text.Lowercase
import TableReaders.Text.Numeric
import TableReaders.Text.Uppercase

/-!
Names. A schema name becomes an exported Go name by giving its first character the capital form, so
a name is an identifier when that form is a capital. Interfaces are named after tables, and files
carry the snake case of the table's name.
-/

namespace TableReaders.Identifier

open Text

def isAlphanumeric (c : Char) : Bool :=
  isAlphabetic c || isNumeric c

def isTail (c : Char) : Bool :=
  isAlphanumeric c || c == '_'

/-- The first character is a letter whose capital form is all capitals; letters, numbers and
underscores follow. -/
def valid (name : String) : Bool :=
  match name.toList with
  | [] => false
  | first :: rest => isAlphabetic first && (toCapital first).all isUppercase && rest.all isTail

def exported (name : String) : String :=
  match name.toList with
  | [] => ""
  | first :: rest => String.ofList (toCapital first ++ rest)

def rowInterface (table : String) : String :=
  exported table ++ "Reader"

def vectorInterface (table : String) : String :=
  "Vector" ++ exported table ++ "Reader"

def lastSegment (path : String) : String :=
  String.ofList (path.toList.reverse.takeWhile (· != '/')).reverse

def isSeparator (c : Char) : Bool :=
  c == '-' || c == ' '

/-- A capital starts a new word after a small letter or a digit, and after another capital if a
small letter follows: the last capital of an acronym belongs to the next word. -/
def startsWord (previous : Option Char) (c : Char) (next : Option Char) : Bool :=
  isUppercase c && previous.any fun p =>
    isLowercase p || p.isDigit || isUppercase p && next.any isLowercase

def snakePiece (previous : Option Char) (c : Char) (next : Option Char) : List Char :=
  if isSeparator c then ['_']
  else if startsWord previous c next then '_' :: toSmall c
  else toSmall c

def snakeFrom (previous : Option Char) : List Char → List Char
  | [] => []
  | c :: rest => snakePiece previous c rest.head? ++ snakeFrom (some c) rest

def snakeCase (name : String) : String :=
  String.ofList (snakeFrom none name.toList)

end TableReaders.Identifier
