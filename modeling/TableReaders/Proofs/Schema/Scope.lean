import TableReaders.Proofs.Schema.Registry
import TableReaders.Proofs.Schema.Replacement

/-!
Where the parts of an application come from. An application goes on to the end of its document: the
outermost tables, enumerations and documentation behind its close tag count like those that it
holds. Every part is read from one element, and the elements are taken in order, so the parts are
those of the application's own element and then those from behind it. Nothing comes from before its
start tag.
-/

namespace TableReaders.Schema

open Markup Read

/-- The content of the application's own element and the events behind the end of that element. -/
def scope : List Event → List Event × List Event
  | [] => ([], [])
  | .start tag :: rest =>
      if tag.name = "application" then ((takeContent 0 rest).1.events, (takeContent 0 rest).2)
      else scope rest
  | .empty tag :: rest => if tag.name = "application" then ([], rest) else scope rest
  | _ :: rest => scope rest

def named (name : String) : List Item → List (Tag × Content)
  | [] => []
  | .element tag content :: rest =>
      if tag.name = name then (tag, content) :: named name rest else named name rest
  | .mark _ :: rest => named name rest

structure Parts where
  tables : List Table
  enumerations : List Enumeration
  documentation : List Documentation

structure Parts.ReadFrom (parts : Parts) (application : String) (given : List Item) : Prop where
  tables : (named "table" given).mapM (fun element => Read.table application element.1 element.2) =
    .ok parts.tables
  enumerations :
    (named "enumeration" given).mapM (fun element => Read.enumeration element.1 element.2) =
    .ok parts.enumerations
  documentation :
    (named "documentation" given).mapM (fun element => Read.documentation element.1 element.2) =
    .ok parts.documentation

namespace Read

/-- A table belongs to the application that it is read for. -/
theorem application_of_table {application : String} {tag : Tag} {content : Content} {given : Table}
    (read : table application tag content = .ok given) : given.application = application := by
  obtain ⟨name, _, run⟩ := bind_eq_ok.mp read
  obtain ⟨last, run, ended⟩ := bind_eq_ok.mp run
  have belongs : last.application = application := by
    refine @children_keeps _ _ (fun state => state.application = application) _ _ _ run rfl
      fun state tag content next stepped before => ?_
    unfold tablePart at stepped
    split at stepped
    next =>
      obtain ⟨_, _, same⟩ := bind_eq_ok.mp stepped
      cases same
      exact before
    next =>
      split at stepped <;>
      · obtain ⟨_, _, same⟩ := bind_eq_ok.mp stepped
        cases same
        exact before
  split at ended
  · cases ended
    exact belongs
  · cases ended

/-- All that an element can do to an application. -/
theorem applicationPart_cases {state next : Application} {tag : Tag} {content : Content}
    (stepped : applicationPart state tag content = .ok next) :
    (tag.name = "documentation" ∧
        ∃ given, documentation tag content = .ok given ∧
          next = { state with documentation := some given }) ∨
      (tag.name = "table" ∧
        ∃ given, table state.name tag content = .ok given ∧ next = state.declareTable given) ∨
      (tag.name = "enumeration" ∧
        ∃ given, enumeration tag content = .ok given ∧ next = state.declareEnumeration given) ∨
      (tag.name ∉ Level.application.known ∧ next = state) := by
  unfold applicationPart at stepped
  by_cases documents : tag.name = "documentation"
  · rw [if_pos documents] at stepped
    obtain ⟨given, read, same⟩ := bind_eq_ok.mp stepped
    exact .inl ⟨documents, given, read, (Except.ok.inj same).symm⟩
  · rw [if_neg documents] at stepped
    by_cases isTable : tag.name = "table"
    · rw [if_pos isTable] at stepped
      obtain ⟨given, read, same⟩ := bind_eq_ok.mp stepped
      exact .inr (.inl ⟨isTable, given, read, (Except.ok.inj same).symm⟩)
    · rw [if_neg isTable] at stepped
      by_cases isEnumeration : tag.name = "enumeration"
      · rw [if_pos isEnumeration] at stepped
        obtain ⟨given, read, same⟩ := bind_eq_ok.mp stepped
        exact .inr (.inr (.inl ⟨isEnumeration, given, read, (Except.ok.inj same).symm⟩))
      · rw [if_neg isEnumeration] at stepped
        by_cases isApplication : tag.name = "application"
        · rw [if_pos isApplication] at stepped
          cases stepped
        · rw [if_neg isApplication] at stepped
          obtain ⟨_, _, same⟩ := bind_eq_ok.mp stepped
          exact .inr (.inr (.inr ⟨by simp [Level.known, *], (Except.ok.inj same).symm⟩))

end Read

section Named

variable {name : String} {tag : Tag}

theorem mapM_named_self {α : Type} {read : Tag × Content → Read α} {first : α} {others : List α}
    {content : Content} {rest : List Item} (same : tag.name = name)
    (here : read (tag, content) = .ok first) (later : (named name rest).mapM read = .ok others) :
    (named name (.element tag content :: rest)).mapM read = .ok (first :: others) := by
  rw [named, if_pos same, List.mapM_cons, here, later]
  rfl

theorem named_other (differs : tag.name ≠ name) (content : Content) (rest : List Item) :
    named name (.element tag content :: rest) = named name rest :=
  if_neg differs

end Named

namespace Parts

variable {parts : Parts} {application : String} {rest : List Item} {tag : Tag} {content : Content}

theorem ReadFrom.other (read : parts.ReadFrom application rest)
    (unknown : tag.name ∉ Level.application.known) :
    parts.ReadFrom application (.element tag content :: rest) := by
  have others : tag.name ≠ "application" ∧ tag.name ≠ "documentation" ∧ tag.name ≠ "table" ∧
      tag.name ≠ "enumeration" := by simpa [Level.known] using unknown
  obtain ⟨_, notDocuments, notTable, notEnumeration⟩ := others
  constructor
  · rw [named_other notTable]
    exact read.tables
  · rw [named_other notEnumeration]
    exact read.enumerations
  · rw [named_other notDocuments]
    exact read.documentation

theorem ReadFrom.table (read : parts.ReadFrom application rest) (isTable : tag.name = "table")
    {given : Table} (here : Read.table application tag content = .ok given) :
    { parts with tables := given :: parts.tables : Parts }.ReadFrom application
      (.element tag content :: rest) := by
  constructor
  · exact mapM_named_self isTable here read.tables
  · rw [named_other (by simp [isTable])]
    exact read.enumerations
  · rw [named_other (by simp [isTable])]
    exact read.documentation

theorem ReadFrom.enumeration (read : parts.ReadFrom application rest)
    (isEnumeration : tag.name = "enumeration")
    {given : Enumeration} (here : Read.enumeration tag content = .ok given) :
    { parts with enumerations := given :: parts.enumerations : Parts }.ReadFrom application
      (.element tag content :: rest) := by
  constructor
  · rw [named_other (by simp [isEnumeration])]
    exact read.tables
  · exact mapM_named_self isEnumeration here read.enumerations
  · rw [named_other (by simp [isEnumeration])]
    exact read.documentation

theorem ReadFrom.documented (read : parts.ReadFrom application rest)
    (documents : tag.name = "documentation")
    {given : Documentation} (here : Read.documentation tag content = .ok given) :
    { parts with documentation := given :: parts.documentation : Parts }.ReadFrom application
      (.element tag content :: rest) := by
  constructor
  · rw [named_other (by simp [documents])]
    exact read.tables
  · rw [named_other (by simp [documents])]
    exact read.enumerations
  · exact mapM_named_self documents here read.documentation

def Empty (parts : Parts) : Prop :=
  parts.tables = [] ∧ parts.enumerations = [] ∧ parts.documentation = []

theorem mapM_eq_nil_iff {α β : Type} {step : α → Read β} {given : List α} {results : List β}
    (run : given.mapM step = .ok results) : results = [] ↔ given = [] := by
  have each := mapM_eq_ok.mp run
  constructor
  · intro none
    rw [none] at each
    cases each
    rfl
  · intro none
    rw [none] at each
    cases each
    rfl

theorem ReadFrom.empty_iff {given : List Item} (read : parts.ReadFrom application given) :
    parts.Empty ↔ ∀ kind ∈ ["table", "enumeration", "documentation"], named kind given = [] := by
  simp [Empty, mapM_eq_nil_iff read.tables, mapM_eq_nil_iff read.enumerations,
    mapM_eq_nil_iff read.documentation]

/-- Parts are added to an application at the end. Of documentation the last counts. -/
structure Added (parts : Parts) (before after : Application) : Prop where
  name : after.name = before.name
  tables : after.tables = before.tables ++ parts.tables
  enumerations : after.enumerations = before.enumerations ++ parts.enumerations
  documentation : after.documentation = parts.documentation.getLast?.or before.documentation

theorem added_of_run {given : List Item} {before after : Application}
    (run : given.foldlM Level.application.step before = .ok after) :
    ∃ parts : Parts, parts.ReadFrom before.name given ∧ parts.Added before after := by
  -- Each item adds at most one part, and the parts of the later items come behind it.
  induction given generalizing before with
  | nil =>
      cases run
      refine ⟨⟨[], [], []⟩, ⟨rfl, rfl, rfl⟩, rfl, ?_, ?_, rfl⟩ <;> exact (List.append_nil _).symm
  | cons item rest ih =>
      rw [List.foldlM_cons] at run
      obtain ⟨middle, stepped, run⟩ := bind_eq_ok.mp run
      obtain ⟨parts, read, added⟩ := ih run
      cases item with
      | mark event =>
          obtain ⟨_, _, same⟩ := bind_eq_ok.mp stepped
          cases same
          exact ⟨parts, ⟨read.tables, read.enumerations, read.documentation⟩, added⟩
      | element tag content =>
          rcases applicationPart_cases stepped with ⟨documents, given, here, same⟩ |
            ⟨isTable, given, here, same⟩ | ⟨isEnumeration, given, here, same⟩ | ⟨unknown, same⟩
          · subst same
            refine ⟨_, read.documented documents here, added.name, added.tables,
              added.enumerations, ?_⟩
            rw [added.documentation, List.getLast?_cons]
            cases parts.documentation.getLast? <;> rfl
          · subst same
            refine ⟨_, read.table isTable here, added.name, ?_, added.enumerations,
              added.documentation⟩
            have belongs : { given with application := before.name } = given := by
              rw [← application_of_table here]
            rw [added.tables, Application.declareTable, belongs, List.append_assoc]
            rfl
          · subst same
            refine ⟨_, read.enumeration isEnumeration here, added.name, added.tables, ?_,
              added.documentation⟩
            rw [added.enumerations, Application.declareEnumeration, List.append_assoc]
            rfl
          · subst same
            exact ⟨parts, read.other unknown, added⟩

end Parts

theorem walk_scope {events since : List Event} {tag : Tag} (found : root events = .ok (tag, since))
    (state : Application) :
    Level.application.walk state since =
      Level.application.walk state (scope events).1 >>= fun inner : Application =>
        Level.application.walk inner (scope events).2 := by
  induction events with
  | nil => cases found
  | cons event rest ih =>
      cases event with
      | start other =>
          by_cases named : other.name = "application"
          · simp only [root, named, if_true] at found
            cases found
            rw [scope, if_pos named]
            rcases inside_or_closed 0 since with
              ⟨depth, inside⟩ | ⟨content, name, behind, split, inside⟩
            · rw [takeContent_open inside]
              simp only [Level.walk_nil]
              exact (bind_pure _).symm
            · have closed : Level.application.Alike (.close name :: behind) behind :=
                Level.alike_close Level.noConfusion name behind
              rw [split, takeContent_closed inside, Level.walk_append (opened_closed inside [])]
              exact congrArg _ (funext closed)
          · simp only [root, named, if_false] at found
            rw [scope, if_neg named]
            exact ih found
      | empty other =>
          by_cases named : other.name = "application"
          · simp only [root, named, if_true] at found
            cases found
            rw [scope, if_pos named, Level.walk_nil]
            rfl
          · simp only [root, named, if_false] at found
            rw [scope, if_neg named]
            exact ih found
      | fault cause => cases found
      | _ => exact ih found

namespace Application

/-- The parts of an application are read from its own content and, behind those, from what follows
the end of its element. The second part is empty only if no element of these names stands there. -/
theorem ofDocument_scope {text : String} {application : Application}
    (read : ofDocument text = .ok application) :
    ∃ own behind : Parts,
      own.ReadFrom application.name (items (scope (Markup.events text)).1) ∧
      behind.ReadFrom application.name (items (scope (Markup.events text)).2) ∧
      application.tables = own.tables ++ behind.tables ∧
      application.enumerations = own.enumerations ++ behind.enumerations ∧
      application.documentation = (own.documentation ++ behind.documentation).getLast? ∧
      (behind.Empty ↔ ∀ kind ∈ ["table", "enumeration", "documentation"],
        named kind (items (scope (Markup.events text)).2) = []) := by
  obtain ⟨⟨tag, since⟩, found, run⟩ := bind_eq_ok.mp read
  obtain ⟨name, _, run⟩ := bind_eq_ok.mp run
  obtain ⟨inner, inside, run⟩ := bind_eq_ok.mp ((walk_scope found { name }).symm.trans run)
  obtain ⟨own, readOwn, first⟩ := Parts.added_of_run inside
  obtain ⟨behind, readBehind, later⟩ := Parts.added_of_run run
  rw [← first.name, ← later.name] at readOwn
  rw [← later.name] at readBehind
  refine ⟨own, behind, readOwn, readBehind, ?_, ?_, ?_, readBehind.empty_iff⟩
  · rw [later.tables, first.tables]
    rfl
  · rw [later.enumerations, first.enumerations]
    rfl
  · rw [later.documentation, first.documentation, List.getLast?_append, Option.or_none]

def followed : String :=
  "<root><application name=\x22store\x22><table name=\x22Item\x22/></application>" ++
    "<table name=\x22Lost\x22/></root>"

/-- The application has both tables, and its element holds only one. -/
theorem followed_read :
    ∃ (application : Application) (own behind : Parts),
      ofDocument followed = .ok application ∧
      own.ReadFrom application.name (items (scope (Markup.events followed)).1) ∧
      behind.ReadFrom application.name (items (scope (Markup.events followed)).2) ∧
      own.tables.map (·.name) = ["Item"] ∧ application.tables.map (·.name) = ["Item", "Lost"] ∧
      ¬behind.Empty := by
  have read : ofDocument followed = .ok (({ name := "store" } : Application).declareTable
      { name := "Item", application := "store" }
        |>.declareTable { name := "Lost", application := "store" }) :=
    eq_ok_of_toOption (by decide +kernel)
  have held : (named "table" (items (scope (Markup.events followed)).1)).mapM
      (fun element => Read.table "store" element.1 element.2) =
        .ok [{ name := "Item", application := "store" }] := eq_ok_of_toOption (by decide +kernel)
  have stands : named "table" (items (scope (Markup.events followed)).2) =
      [(⟨"table", [⟨"name", "Lost"⟩]⟩, .nothing)] := by decide +kernel
  obtain ⟨own, behind, readOwn, readBehind, _, _, _, empty⟩ := ofDocument_scope read
  refine ⟨_, own, behind, read, readOwn, readBehind, ?_, rfl, ?_⟩
  · rw [← Except.ok.inj (held.symm.trans readOwn.tables)]
    rfl
  · rw [empty]
    intro nothing
    have none := nothing "table" List.mem_cons_self
    rw [stands] at none
    cases none

end Application

end TableReaders.Schema
