import TableReaders.Schema.Application

/-!
Applications as schema documents. Every text is the value of an attribute, with the five characters
that have names written by name, and every element has a start tag and a close tag. Documentation
comes first in what it documents, and tables come before enumerations.
-/

namespace TableReaders.Schema

namespace Printer

def escaped (c : Char) : List Char :=
  if c = '&' then "&amp;".toList
  else if c = '<' then "&lt;".toList
  else if c = '>' then "&gt;".toList
  else if c = '\x22' then "&quot;".toList
  else if c = '\x27' then "&apos;".toList
  else [c]

def escape (text : String) : String :=
  String.ofList (text.toList.flatMap escaped)

def attr (key value : String) : String :=
  " " ++ key ++ "=\"" ++ escape value ++ "\""

def attr? (key : String) : Option String → String
  | some value => attr key value
  | none => ""

def element (name attrs content : String) : String :=
  "<" ++ name ++ attrs ++ ">" ++ content ++ "</" ++ name ++ ">"

def documentation : Option Documentation → String
  | none => ""
  | some given =>
      element "documentation" (attr? "short" given.short ++ attr? "long" given.long) ""

def field (field : Field) : String :=
  element "field" (attr "name" field.name ++ attr "type" field.type ++ attr? "items" field.items)
    (documentation field.documentation)

def table (table : Table) : String :=
  element "table" (attr "name" table.name)
    (documentation table.documentation ++ String.join (table.fields.map field))

def item (name : String) : String :=
  element "item" (attr "name" name) ""

def group (group : Group) : String :=
  element "group" (attr "name" group.name)
    (documentation group.documentation ++ String.join (group.items.map item))

def enumeration (enumeration : Enumeration) : String :=
  element "enumeration" (attr "name" enumeration.name)
    (documentation enumeration.documentation ++ String.join (enumeration.groups.map group))

end Printer

def Application.toDocument (application : Application) : String :=
  Printer.element "application" (Printer.attr "name" application.name)
    (Printer.documentation application.documentation ++
      String.join (application.tables.map Printer.table) ++
      String.join (application.enumerations.map Printer.enumeration))

end TableReaders.Schema
