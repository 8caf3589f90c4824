import TableReaders.Proofs.Schema.Registry
import TableReaders.Proofs.Schema.Written

/-!
Reading undoes writing. The document of an application is read as the application that comes about
by declaring its tables and then its enumerations, each in order. Every reader is taken at the
events that are written for its part: it ends where the part ends, so the parts of a whole can be
read one after another. An application that itself came about by declaring, in whatever order, is
read as it is.
-/

namespace TableReaders.Schema

open Markup Printer

namespace Read

section Tags

variable {element name : String} {texts : List (String × String)} {keys : List String}

theorem ofMarkup_unescape (text : String) : ofMarkup (unescape (escape text)) = .ok text := by
  rw [unescape_escape]
  rfl

theorem values_written (listed : ∀ text ∈ texts, text.1 ∈ keys) :
    values ⟨element, attributesOf texts⟩ keys = .ok texts := by
  have kept : (attributesOf texts).filter (fun given => keys.contains given.key) =
      attributesOf texts := by
    rw [List.filter_eq_self]
    intro given member
    obtain ⟨text, among, same⟩ := List.mem_map.mp member
    subst same
    exact List.contains_iff_mem.mpr (listed text among)
  rw [values, kept, mapM_eq_ok, attributesOf, List.forall₂_map_left_iff, List.forall₂_same]
  intro text _
  rw [ofMarkup_unescape]
  rfl

theorem required_written :
    required ⟨element, attributesOf [("name", name)]⟩ "name" = .ok name := by
  have found : Tag.value? ⟨element, attributesOf [("name", name)]⟩ "name" = some (escape name) := by
    simp [Tag.value?, attributesOf]
  rw [required, found]
  exact ofMarkup_unescape name

end Tags

section Children

variable {σ : Type} {onElement : σ → Tag → Content → Read σ} {state : σ}

theorem children_nil (state : σ) : children onElement state [] = .ok state := by
  rw [children, items]
  rfl

/-- The close tag of the application itself is an event like any other. -/
theorem children_close (name : String) : children onElement state [.close name] = .ok state := by
  simp [children, items, pass]

/-- A part ends at its close tag, so what it adds does not depend on what follows. -/
theorem children_element {content : List Event} {name : String} {texts : List (String × String)}
    {next : σ} (nested : Nested content)
    (part : onElement state ⟨name, attributesOf texts⟩ ⟨content, true⟩ = .ok next)
    (rest : List Event) :
    children onElement state (elementEvents name texts content ++ rest) =
      children onElement next rest := by
  have events : elementEvents name texts content ++ rest =
      .start ⟨name, attributesOf texts⟩ :: (content ++ .close name :: rest) := by
    simp [elementEvents]
  have stepped : children onElement state (elementEvents name texts content ++ rest) =
      onElement state ⟨name, attributesOf texts⟩ ⟨content, true⟩ >>= fun next =>
        children onElement next rest := by
    rw [events, children, items_closed (nested.inside 0), List.foldlM_cons]
    rfl
  rw [stepped, part]
  rfl

/-- Parts that are read one by one are read one after another. -/
theorem children_each {α : Type} {eventsOf : α → List Event} {add : σ → α → σ}
    (each : ∀ state item rest,
      children onElement state (eventsOf item ++ rest) = children onElement (add state item) rest)
    (items : List α) (rest : List Event) :
    children onElement state (items.flatMap eventsOf ++ rest) =
      children onElement (items.foldl add state) rest := by
  induction items generalizing state with
  | nil => rfl
  | cons item others ih =>
      rw [List.flatMap_cons, List.append_assoc, each, List.foldl_cons]
      exact ih

/-- The same where the state is made up of the parts read so far. -/
theorem children_build {α : Type} {eventsOf : α → List Event} (build : List α → σ)
    (each : ∀ before item rest, children onElement (build before) (eventsOf item ++ rest) =
      children onElement (build (before ++ [item])) rest) {items : List α} (before : List α) :
    children onElement (build before) (items.flatMap eventsOf) = .ok (build (before ++ items)) := by
  induction items generalizing before with
  | nil => rw [List.flatMap_nil, List.append_nil, children_nil]
  | cons item others ih =>
      rw [List.flatMap_cons, each, ih, List.append_assoc, List.singleton_append]

end Children

section Documentation

theorem lookup_texts? (key : String) (value : Option String) :
    (texts? key value).lookup key = value := by
  cases value <;> simp [texts?]

theorem lookup_texts?_ne {key other : String} (apart : other ≠ key) (value : Option String) :
    (texts? key value).lookup other = none := by
  have unlike : (other == key) = false := beq_eq_false_iff_ne.mpr apart
  cases value <;> simp [texts?, List.lookup_cons, unlike]

theorem key_of_mem_texts? {key : String} {value : Option String} {text : String × String}
    (member : text ∈ texts? key value) : text.1 = key := by
  obtain ⟨_, _, same⟩ := Option.map_eq_some_iff.mp (Option.mem_toList.mp member)
  subst same
  rfl

theorem filter_shows {given : Option String} (shown : ∀ text ∈ given, shows text = true) :
    given.filter shows = given := by
  cases given with
  | none => rfl
  | some text => simp [shown text rfl]

/-- An empty text is no long text. -/
theorem filter_or_empty {given : Option String} (shown : ∀ text ∈ given, shows text = true) :
    (given.or (some (String.ofList (Text.flushLeft [])))).filter shows = given := by
  cases given with
  | none => decide
  | some text => exact filter_shows shown

theorem ofTexts_eq {given : Documentation} {short long : Option String}
    (sameShort : short.filter shows = given.short) (sameLong : long.filter shows = given.long) :
    Documentation.ofTexts short long = given := by
  cases given
  cases sameShort
  cases sameLong
  rfl

theorem lookup_documentationTexts (given : Documentation) :
    (documentationTexts given).lookup "short" = given.short ∧
      (documentationTexts given).lookup "long" = given.long := by
  simp [documentationTexts, List.lookup_append, lookup_texts?, lookup_texts?_ne]

theorem body_nil : body ⟨[], true⟩ = .ok [] := by
  rw [body, items]
  rfl

theorem documentation_read (given : Documentation) :
    documentation ⟨"documentation", attributesOf (documentationTexts given)⟩ ⟨[], true⟩ =
      .ok given := by
  -- The body of what is written is empty, and both texts are attributes that show something.
  have listed : ∀ text ∈ documentationTexts given, text.1 ∈ ["short", "long"] := by
    intro text member
    rcases List.mem_append.mp member with front | back
    · simp [key_of_mem_texts? front]
    · simp [key_of_mem_texts? back]
  obtain ⟨short, long⟩ := lookup_documentationTexts given
  have attributes : Documentation.ofTexts given.short given.long = given :=
    ofTexts_eq (filter_shows given.short_shows) (filter_shows given.long_shows)
  simp only [documentation, values_written listed, body_nil, short, long, attributes, bind,
    Except.bind]
  apply congrArg Except.ok
  exact ofTexts_eq (filter_shows given.short_shows) (filter_or_empty given.long_shows)

/-- Documentation comes first in what it documents and is put where there is none yet. -/
theorem children_documentation {σ : Type} {onElement : σ → Tag → Content → Read σ}
    {state : σ} (put : σ → Option Documentation → σ) (bare : put state none = state)
    (step : ∀ tag content, tag.name = "documentation" →
      onElement state tag content = documentation tag content >>= fun given =>
        pure (put state given))
    (given : Option Documentation) (rest : List Event) :
    children onElement state (documentationEvents given ++ rest) =
      children onElement (put state given) rest := by
  cases given with
  | none =>
      rw [bare]
      rfl
  | some given =>
      apply children_element .nil
      rw [step _ _ rfl, documentation_read]
      rfl

end Documentation

section Tables

theorem fieldTag_read (given : Field) :
    fieldTag ⟨"field", attributesOf (fieldTexts given)⟩ =
      .ok { name := given.name, type := given.type, items := given.items } := by
  have listed : ∀ text ∈ fieldTexts given, text.1 ∈ ["name", "type", "items"] := by
    intro text member
    rcases List.mem_append.mp member with front | back
    · rcases List.mem_pair.mp front with same | same <;> simp [same]
    · simp [key_of_mem_texts? back]
  have items : (fieldTexts given).lookup "items" = given.items := by
    simp [fieldTexts, List.lookup_cons, lookup_texts?]
  have name : (fieldTexts given).lookup "name" = some given.name := by
    simp [fieldTexts]
  have type : (fieldTexts given).lookup "type" = some given.type := by
    simp [fieldTexts, List.lookup_cons]
  simp only [fieldTag, values_written listed, bind, Except.bind, name, type, items]
  rfl

theorem field_read (given : Field) :
    field ⟨"field", attributesOf (fieldTexts given)⟩
      ⟨documentationEvents given.documentation, true⟩ =
      .ok given := by
  have documented :
      children fieldPart { name := given.name, type := given.type, items := given.items }
      (documentationEvents given.documentation ++ []) = children fieldPart given [] := by
    apply children_documentation fun field : Field => fun documentation =>
      { field with documentation }
    · rfl
    · intro tag content named
      rw [fieldPart, if_pos named]
  rw [List.append_nil, children_nil] at documented
  rw [field, fieldTag_read]
  exact documented

theorem children_field (state : Table) (given : Field) (rest : List Event) :
    children tablePart state (fieldEvents given ++ rest) =
      children tablePart (state.extend given) rest := by
  have part : tablePart state ⟨"field", attributesOf (fieldTexts given)⟩
      ⟨documentationEvents given.documentation, true⟩ = .ok (state.extend given) := by
    rw [tablePart, if_pos rfl, field_read]
    rfl
  exact children_element (documentation_written given.documentation).nested part rest

/-- What is written for a table does not name its application. It belongs to the one that is being
read. -/
theorem table_read (application : String) (given : Table) :
    table application ⟨"table", attributesOf [("name", given.name)]⟩
      ⟨documentationEvents given.documentation ++ given.fields.flatMap fieldEvents, true⟩ =
      .ok { given with application } := by
  have documented : ∀ rest, children tablePart { name := given.name, application }
      (documentationEvents given.documentation ++ rest) =
        children tablePart { given with application, fields := [] } rest := by
    apply children_documentation fun table : Table => fun documentation =>
      { table with documentation }
    · rfl
    · intro tag content named
      rw [tablePart, if_neg (by rw [named]; decide), if_pos named]
  have fields : children tablePart { given with application, fields := [] }
      (given.fields.flatMap fieldEvents) = .ok { given with application } :=
    children_build (fun fields => { given with application, fields })
      (fun fields => children_field _) []
  simp only [table, required_written, documented, fields, bind, Except.bind]
  rfl

end Tables

section Enumerations

theorem children_item (state : Group) (name : String) (rest : List Event) :
    children groupPart state (itemEvents name ++ rest) =
      children groupPart (state.extend name) rest := by
  have part : groupPart state ⟨"item", attributesOf [("name", name)]⟩ ⟨[], true⟩ =
      .ok (state.extend name) := by
    rw [groupPart, if_pos rfl, required_written]
    rfl
  exact children_element .nil part rest

theorem group_read (given : Group) :
    group ⟨"group", attributesOf [("name", given.name)]⟩
      ⟨documentationEvents given.documentation ++ given.items.flatMap itemEvents, true⟩ =
      .ok given := by
  have documented : ∀ rest, children groupPart { name := given.name }
      (documentationEvents given.documentation ++ rest) =
        children groupPart { given with items := [] } rest := by
    apply children_documentation fun group : Group => fun documentation =>
      { group with documentation }
    · rfl
    · intro tag content named
      rw [groupPart, if_neg (by rw [named]; decide), if_pos named]
  have items : children groupPart { given with items := [] } (given.items.flatMap itemEvents) =
      .ok given :=
    children_build (fun items => { given with items }) (fun items => children_item _) []
  simp only [group, required_written, documented, items, bind, Except.bind]

theorem children_group (state : Enumeration) (given : Group) (rest : List Event) :
    children enumerationPart state (groupEvents given ++ rest) =
      children enumerationPart (state.extend given) rest := by
  have part : enumerationPart state ⟨"group", attributesOf [("name", given.name)]⟩
      ⟨documentationEvents given.documentation ++ given.items.flatMap itemEvents, true⟩ =
      .ok (state.extend given) := by
    rw [enumerationPart, if_pos rfl, group_read]
    rfl
  exact children_element ((documentation_written _).append (.join item_written)).nested part rest

theorem enumeration_read (given : Enumeration) :
    enumeration ⟨"enumeration", attributesOf [("name", given.name)]⟩
      ⟨documentationEvents given.documentation ++ given.groups.flatMap groupEvents, true⟩ =
      .ok given := by
  have documented : ∀ rest, children enumerationPart { name := given.name }
      (documentationEvents given.documentation ++ rest) =
        children enumerationPart { given with groups := [] } rest := by
    apply children_documentation fun enumeration : Enumeration => fun documentation =>
      { enumeration with documentation }
    · rfl
    · intro tag content named
      rw [enumerationPart, if_neg (by rw [named]; decide), if_pos named]
  have groups : children enumerationPart { given with groups := [] }
      (given.groups.flatMap groupEvents) = .ok given :=
    children_build (fun groups => { given with groups }) (fun groups => children_group _) []
  simp only [enumeration, required_written, documented, groups, bind, Except.bind]

end Enumerations

section Applications

theorem children_table (state : Application) (given : Table) (rest : List Event) :
    children applicationPart state (tableEvents given ++ rest) =
      children applicationPart (state.declareTable given) rest := by
  -- Declaring sets the application of the table, so it does not matter which one it had.
  have part : applicationPart state ⟨"table", attributesOf [("name", given.name)]⟩
      ⟨documentationEvents given.documentation ++ given.fields.flatMap fieldEvents, true⟩ =
      .ok (state.declareTable given) := by
    rw [applicationPart, if_neg (by simp), if_pos rfl, table_read]
    rfl
  exact children_element ((documentation_written _).append (.join field_written)).nested part rest

theorem children_enumeration (state : Application) (given : Enumeration) (rest : List Event) :
    children applicationPart state (enumerationEvents given ++ rest) =
      children applicationPart (state.declareEnumeration given) rest := by
  have part : applicationPart state ⟨"enumeration", attributesOf [("name", given.name)]⟩
      ⟨documentationEvents given.documentation ++ given.groups.flatMap groupEvents, true⟩ =
      .ok (state.declareEnumeration given) := by
    rw [applicationPart, if_neg (by simp), if_neg (by simp), if_pos rfl, enumeration_read]
    rfl
  exact children_element ((documentation_written _).append (.join group_written)).nested part rest

end Applications

end Read

namespace Application

/-- The application that comes about by declaring the tables and then the enumerations of
another. -/
def redeclared (application : Application) : Application :=
  application.enumerations.foldl declareEnumeration
    (application.tables.foldl declareTable
      { name := application.name, documentation := application.documentation })

theorem ofEvents_written (given : Application) :
    ofEvents (elementEvents "application" [("name", given.name)] (definitionEvents given)) =
      .ok given.redeclared := by
  have documented : ∀ rest, Read.children Read.applicationPart { name := given.name }
      (documentationEvents given.documentation ++ rest) =
        Read.children Read.applicationPart
          { name := given.name, documentation := given.documentation } rest := by
    apply Read.children_documentation fun application : Application => fun documentation =>
      { application with documentation }
    · rfl
    · intro tag content named
      rw [Read.applicationPart, if_pos named]
  have parts : Read.children Read.applicationPart { name := given.name }
      (definitionEvents given ++ [.close "application"]) = .ok given.redeclared := by
    rw [definitionEvents, List.append_assoc, List.append_assoc, documented,
      Read.children_each Read.children_table, Read.children_each Read.children_enumeration,
      Read.children_close]
    rfl
  have opened : Read.root (elementEvents "application" [("name", given.name)]
      (definitionEvents given)) = .ok (⟨"application", attributesOf [("name", given.name)]⟩,
        definitionEvents given ++ [.close "application"]) := by
    rw [elementEvents, Read.root, if_pos rfl]
  simp only [ofEvents, opened, Read.required_written, parts, bind, Except.bind]

theorem events_toDocument (given : Application) :
    Markup.events given.toDocument =
      elementEvents "application" [("name", given.name)] (definitionEvents given) := by
  obtain ⟨cuts, nested⟩ := application_written given
  have unmarked : withoutMark given.toDocument.toList = given.toDocument.toList := by
    obtain ⟨rest, starts⟩ := toList_element "application" (attr "name" given.name) _
    rw [toDocument, starts]
    rfl
  -- Nothing follows the document, so what was shown for any rest holds for the empty one.
  have cut := cuts []
  have paired := matchTags_nested nested [] []
  rw [List.append_nil, cutEvents, List.append_nil] at cut
  rw [List.append_nil, matchTags, List.append_nil] at paired
  rw [Markup.events, unmarked, cut, paired]

def definitions (application : Application) :
    String × Option Documentation × List Table × List Enumeration :=
  (application.name, application.documentation, application.tables, application.enumerations)

theorem definitions_declareTables {tables : List Table} {state : Application}
    (belongs : ∀ table ∈ tables, table.application = state.name) :
    (tables.foldl declareTable state).definitions =
      (state.name, state.documentation, state.tables ++ tables, state.enumerations) := by
  induction tables generalizing state with
  | nil => simp [definitions]
  | cons table rest ih =>
      have own : { table with application := state.name } = table := by
        rw [← belongs table List.mem_cons_self]
      have later : ∀ other ∈ rest, other.application = (state.declareTable table).name :=
        fun other member => belongs other (List.mem_cons_of_mem table member)
      rw [List.foldl_cons, ih later]
      simp [declareTable, own]

theorem definitions_declareEnumerations (enumerations : List Enumeration) (state : Application) :
    (enumerations.foldl declareEnumeration state).definitions =
      (state.name, state.documentation, state.tables, state.enumerations ++ enumerations) := by
  induction enumerations generalizing state with
  | nil => simp [definitions]
  | cons enumeration rest ih =>
      rw [List.foldl_cons, ih]
      simp [declareEnumeration]

theorem definitions_redeclared {application : Application}
    (belongs : ∀ table ∈ application.tables, table.application = application.name) :
    application.redeclared.definitions = application.definitions := by
  have tables : (application.tables.foldl declareTable
      { name := application.name, documentation := application.documentation }).definitions =
        (application.name, application.documentation, application.tables, []) :=
    definitions_declareTables belongs
  simp only [definitions, Prod.mk.injEq] at tables
  obtain ⟨name, documentation, listed, none⟩ := tables
  rw [redeclared, definitions_declareEnumerations, name, documentation, listed, none]
  rfl

section Order

variable (application : Application)

theorem redeclared_declareTable (table : Table) :
    (application.declareTable table).redeclared = application.redeclared.declareTable table := by
  rw [redeclared, declareTable, List.foldl_append]
  exact List.foldl_hom (fun given : Application => given.declareTable table) fun _ _ => rfl

theorem redeclared_declareEnumeration (enumeration : Enumeration) :
    (application.declareEnumeration enumeration).redeclared =
      application.redeclared.declareEnumeration enumeration := by
  rw [redeclared, redeclared, declareEnumeration, List.foldl_append]
  rfl

end Order

/-- Tables and enumerations have indexes of their own, so it makes no difference how the two were
mixed. The documentation may be any, since it may change between two declarations. -/
theorem Declared.redeclared_eq {application : Application} (declared : application.Declared)
    (documentation : Option Documentation) :
    redeclared { application with documentation } = { application with documentation } := by
  induction declared generalizing documentation with
  | named name => rfl
  -- What was put in before is replaced, so the induction hypothesis is the goal itself.
  | documented before other ih => exact ih documentation
  | @table earlier _ table ih =>
      have later := redeclared_declareTable { earlier with documentation } table
      rw [ih documentation] at later
      exact later
  | @enumeration earlier _ enumeration ih =>
      have later := redeclared_declareEnumeration { earlier with documentation } enumeration
      rw [ih documentation] at later
      exact later

/-- No text is excepted, and a name may stand twice. The application of a table is not written, so
it has to be the one that the table is written in. -/
theorem ofDocument_toDocument (application : Application)
    (belongs : ∀ table ∈ application.tables, table.application = application.name) :
    ofDocument application.toDocument = .ok application.redeclared ∧
      application.redeclared.definitions = application.definitions ∧
      (application.Declared → application.redeclared = application) := by
  refine ⟨?_, definitions_redeclared belongs, ?_⟩
  · rw [ofDocument, events_toDocument, ofEvents_written]
  · intro declared
    exact declared.redeclared_eq application.documentation

def listed : Application :=
  let table : Table := {
    name := "<T>", application := "R&D"
    documentation := some (.ofTexts (some "says \x22x\x22") none)
    fields := [{ name := "it\x27s", type := "Vector", items := some "" }] }
  { name := "R&D", tables := [table, table],
    enumerations := [{ name := "E", groups := [{ name := "G" }] }] }

/-- The document names what the list alone does not, and the later of the two tables answers. -/
theorem listed_read :
    ∃ read, Application.ofDocument listed.toDocument = .ok read ∧
      read.definitions = listed.definitions ∧ read.table? "<T>" = listed.tables[1]? := by
  obtain ⟨read, same, _⟩ := ofDocument_toDocument listed (by decide)
  exact ⟨_, read, same, by decide⟩

end Application

end TableReaders.Schema
