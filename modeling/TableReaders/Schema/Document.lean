import TableReaders.Markup.Element
import TableReaders.Schema.Application
import TableReaders.Schema.Error
import TableReaders.Text.Lines

/-!
Schema documents. An application is read from the events of a document: it begins at the first start
tag of that name, whatever stands around it, and takes in every table, enumeration and documentation
that follows. Each part is read from its own tag and content. An element that its surroundings do
not know is passed over with all that is in it. Where documentation stands twice the later one
counts.

Only a table must be closed. Any other element may be cut off by the end of the document and then
has what came before it.

Text counts in the body of a documentation only. Its blanks are kept until the body is complete and
are then cut off line by line. Text anywhere else is passed over, so it makes no difference that its
blanks are kept as well.
-/

namespace TableReaders.Schema

open Markup

abbrev Read := Except ReadError

namespace Read

def ofMarkup {α : Type} : Except Fault α → Read α
  | .ok value => .ok value
  | .error fault => .error (.markup fault)

def pass : Event → Read Unit
  | .fault fault => .error (.markup fault)
  | _ => .ok ()

def skip (content : Content) : Read Unit :=
  content.events.forM pass

def required (tag : Tag) (key : String) : Read String :=
  match tag.value? key with
  | some value => ofMarkup (unescape value)
  | none => .error (.attributeMissing tag.name key)

def values (tag : Tag) (keys : List String) : Read (List (String × String)) :=
  (tag.attributes.filter fun attr => keys.contains attr.key).mapM fun attr => do
    return (attr.key, ← ofMarkup (unescape attr.value))

def referenced (name : String) : Read (List Char) :=
  match resolveReference name.toList with
  | .error fault => .error (.markup (.character fault))
  | .ok none => .error (.misshapen (.entityUnknown name))
  | .ok (some c) => .ok [c]

def characterData : Item → Read (List Char)
  | .element _ content => do
      skip content
      return []
  | .mark (.text content) | .mark (.cdata content) => .ok content.toList
  | .mark (.reference name) => referenced name
  | .mark event => do
      pass event
      return []

def body (content : Content) : Read (List Char) :=
  List.flatten <$> (items content.events).mapM characterData

/-- The texts are the two attributes. A body stands in for a long text that is missing or blank. -/
def documentation (tag : Tag) (content : Content) : Read Documentation := do
  let given ← values tag ["short", "long"]
  let text ← body content
  let attributes := Documentation.ofTexts (given.lookup "short") (given.lookup "long")
  return .ofTexts attributes.short (attributes.long.or (String.ofList (Text.flushLeft text)))

def children {σ : Type} (onElement : σ → Tag → Content → Read σ) (start : σ) (events : List Event) :
    Read σ :=
  (items events).foldlM (fun state item =>
    match item with
    | .element tag content => onElement state tag content
    | .mark event => do
        pass event
        return state) start

/-- The field of a tag, without documentation. A value that cannot be read counts before a missing
one. -/
def fieldTag (tag : Tag) : Read Field := do
  let given ← values tag ["name", "type", "items"]
  match given.lookup "name", given.lookup "type" with
  | none, _ => .error (.attributeMissing "field" "name")
  | some _, none => .error (.attributeMissing "field" "type")
  | some name, some type => return { name, type, items := given.lookup "items" }

def fieldPart (field : Field) (tag : Tag) (content : Content) : Read Field :=
  if tag.name = "documentation" then do
    return { field with documentation := some (← documentation tag content) }
  else do
    skip content
    return field

def field (tag : Tag) (content : Content) : Read Field := do
  children fieldPart (← fieldTag tag) content.events

def tablePart (table : Table) (tag : Tag) (content : Content) : Read Table :=
  if tag.name = "field" then do
    return table.extend (← field tag content)
  else if tag.name = "documentation" then do
    return { table with documentation := some (← documentation tag content) }
  else do
    skip content
    return table

def table (application : String) (tag : Tag) (content : Content) : Read Table := do
  let table ← children tablePart { name := ← required tag "name", application } content.events
  if content.closed then return table else .error (.misshapen (.tableOpen table.name))

def groupPart (group : Group) (tag : Tag) (content : Content) : Read Group :=
  if tag.name = "item" then do
    let name ← required tag "name"
    -- Nothing inside an item counts.
    skip content
    return group.extend name
  else if tag.name = "documentation" then do
    return { group with documentation := some (← documentation tag content) }
  else do
    skip content
    return group

def group (tag : Tag) (content : Content) : Read Group := do
  children groupPart { name := ← required tag "name" } content.events

def enumerationPart (enumeration : Enumeration) (tag : Tag) (content : Content) :
    Read Enumeration :=
  if tag.name = "group" then do
    return enumeration.extend (← group tag content)
  else if tag.name = "documentation" then do
    return { enumeration with documentation := some (← documentation tag content) }
  else do
    skip content
    return enumeration

def enumeration (tag : Tag) (content : Content) : Read Enumeration := do
  children enumerationPart { name := ← required tag "name" } content.events

def applicationPart (application : Application) (tag : Tag) (content : Content) :
    Read Application :=
  if tag.name = "documentation" then do
    return { application with documentation := some (← documentation tag content) }
  else if tag.name = "table" then do
    return application.declareTable (← table application.name tag content)
  else if tag.name = "enumeration" then do
    return application.declareEnumeration (← enumeration tag content)
  -- Only one application is read from a document, whatever the second one holds.
  else if tag.name = "application" then .error (.misshapen .severalApplications)
  else do
    skip content
    return application

/-- The first tag of an application, at any depth, and the events after it. -/
def root : List Event → Read (Tag × List Event)
  | [] => .error (.misshapen .noApplication)
  | .start tag :: rest | .empty tag :: rest =>
      if tag.name = "application" then .ok (tag, rest) else root rest
  | event :: rest => do
      pass event
      root rest

end Read

def Application.ofEvents (events : List Event) : Read Application := do
  let (tag, rest) ← Read.root events
  Read.children Read.applicationPart { name := ← Read.required tag "name" } rest

def Application.ofDocument (text : String) : Read Application :=
  Application.ofEvents (Markup.events text)

end TableReaders.Schema
