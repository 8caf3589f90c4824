import TableReaders.Proofs.Schema.Registry

/-!
Applications after any history of changes. Only declaring fills the indexes; the other changes go
past them. A table or an enumeration may be put into its list directly, which moves the positions of
what is declared later, one that is in a list may be extended, and the application may get another
name. Through all of this every entry of an index points at a definition of its name. So what a
look-up answers is told by the history alone: of the declarations under a name the latest counts.
-/

namespace TableReaders.Schema

/-- One change of an application. What is extended is found by its position in the list. -/
inductive Edit where
  | declareTable (table : Table)
  | declareEnumeration (enumeration : Enumeration)
  | listTable (table : Table)
  | listEnumeration (enumeration : Enumeration)
  | extendTable (position : Nat) (field : Field)
  | extendEnumeration (position : Nat) (group : Group)
  | rename (name : String)

namespace Edit

def apply (application : Application) : Edit → Application
  | .declareTable table => application.declareTable table
  | .declareEnumeration enumeration => application.declareEnumeration enumeration
  | .listTable table => application.listTable table
  | .listEnumeration enumeration => application.listEnumeration enumeration
  | .extendTable position field =>
      { application with tables := application.tables.modify position (·.extend field) }
  | .extendEnumeration position group =>
      { application with enumerations := application.enumerations.modify position (·.extend group) }
  | .rename name => application.rename name

def tableName? : Edit → Option String
  | .declareTable table => some table.name
  | _ => none

def fieldAt? (position : Nat) : Edit → Option Field
  | .extendTable place field => if place = position then some field else none
  | _ => none

def owner? (token : String) : Edit → Option Enumeration
  | .declareEnumeration enumeration =>
      if enumeration.groups.any (·.name == token) then some enumeration else none
  | _ => none

def newName? : Edit → Option String
  | .rename name => some name
  | _ => none

def latest? {α : Type} (tells : Edit → Option α) (edits : List Edit) : Option α :=
  edits.reverse.findSome? tells

def answer (name : String) (edits : List Edit) (asked token : String) : Except LookupError Target :=
  let current := (latest? newName? edits).getD name
  if asked ≠ current then .error (.otherApplication asked)
  else if ¬Application.IsName token then .error (.notAName token)
  else if ∃ edit ∈ edits, edit.tableName? = some token then .ok (.table (current ++ "/" ++ token))
  else
    match latest? (owner? token) edits with
    | some enumeration =>
        .ok (.group (current ++ "/" ++ token) (current ++ "/" ++ enumeration.name))
    | none => .ok .unknown

end Edit

namespace Application

open Edit

def edited (application : Application) (edits : List Edit) : Application :=
  edits.foldl Edit.apply application

section Extension

variable {α : Type}

theorem changeFirst_eq_modify (test : α → Bool) (change : α → α) (items : List α) :
    changeFirst test change items = items.modify (items.findIdx test) change := by
  induction items with
  | nil => rfl
  | cons first rest ih =>
      by_cases here : test first = true
      · simp [changeFirst, here, List.findIdx_cons]
      · simp [changeFirst, here, List.findIdx_cons, ih]

/-- The application extends the first table of a name, which is the one at a certain position. -/
theorem extendTable_eq_apply (application : Application) (table : String) (field : Field) :
    application.extendTable table field =
      Edit.apply application
        (.extendTable (application.tables.findIdx (·.name == table)) field) := by
  rw [extendTable, changeFirst_eq_modify]
  rfl

theorem extendEnumeration_eq_apply (application : Application) (enumeration : String)
    (group : Group) :
    application.extendEnumeration enumeration group =
      Edit.apply application
        (.extendEnumeration (application.enumerations.findIdx (·.name == enumeration)) group) := by
  rw [extendEnumeration, changeFirst_eq_modify]
  rfl

end Extension

section Invariant

variable {application : Application}

theorem indexed_apply (indexed : application.Indexed) (edit : Edit) :
    (Edit.apply application edit).Indexed := by
  cases edit with
  | declareTable table => exact indexed_declareTable indexed table
  | declareEnumeration enumeration => exact indexed_declareEnumeration indexed enumeration
  | listTable table =>
      refine ⟨?_, indexed.groups⟩
      intro entry member
      obtain ⟨found, placed, named⟩ := indexed.tables entry member
      exact ⟨found, getElem?_grown placed table, named⟩
  | listEnumeration enumeration =>
      refine ⟨indexed.tables, ?_⟩
      intro entry member
      obtain ⟨found, placed, owns⟩ := indexed.groups entry member
      exact ⟨found, getElem?_grown placed enumeration, owns⟩
  | extendTable position field =>
      -- A table that is extended keeps its name.
      refine ⟨?_, indexed.groups⟩
      intro entry member
      obtain ⟨found, placed, named⟩ := indexed.tables entry member
      refine ⟨_, by rw [Edit.apply, List.getElem?_modify, placed]; rfl, ?_⟩
      split
      · exact named
      · exact named
  | extendEnumeration position group =>
      -- An enumeration that is extended keeps its groups.
      refine ⟨indexed.tables, ?_⟩
      intro entry member
      obtain ⟨found, placed, owned, within, named⟩ := indexed.groups entry member
      refine ⟨_, by rw [Edit.apply, List.getElem?_modify, placed]; rfl, owned, ?_, named⟩
      split
      · exact List.mem_append_left _ within
      · exact within
  | rename name => exact ⟨indexed.tables, indexed.groups⟩

theorem indexed_edited (indexed : application.Indexed) (edits : List Edit) :
    (application.edited edits).Indexed := by
  induction edits generalizing application with
  | nil => exact indexed
  | cons edit rest ih => exact ih (indexed_apply indexed edit)

end Invariant

section Tables

variable {application : Application} {wanted : String} {position : Nat} {table : Table}

theorem lookup_apply (application : Application) (edit : Edit) (wanted : String) :
    (Edit.apply application edit).tableIndex.lookup wanted =
      if edit.tableName? = some wanted then some application.tables.length
      else application.tableIndex.lookup wanted := by
  cases edit with
  | declareTable table =>
      by_cases same : table.name = wanted
      · simp [Edit.apply, declareTable, tableName?, same]
      · have differ : (wanted == table.name) = false := beq_false_of_ne (Ne.symm same)
        simp [Edit.apply, declareTable, tableName?, same, List.lookup_cons, differ]
  | _ => rfl

theorem lookup_edited_eq_none (application : Application) (edits : List Edit) (wanted : String) :
    (application.edited edits).tableIndex.lookup wanted = none ↔
      application.tableIndex.lookup wanted = none ∧
        ∀ edit ∈ edits, edit.tableName? ≠ some wanted := by
  induction edits generalizing application with
  | nil => simp [edited]
  | cons edit rest ih =>
      have later := ih (Edit.apply application edit)
      rw [lookup_apply] at later
      by_cases here : edit.tableName? = some wanted
      · simpa [edited, here] using later
      · simpa [edited, here] using later

theorem lookup_edited_other {edits : List Edit}
    (other : ∀ edit ∈ edits, edit.tableName? ≠ some wanted) :
    (application.edited edits).tableIndex.lookup wanted = application.tableIndex.lookup wanted := by
  induction edits generalizing application with
  | nil => rfl
  | cons edit rest ih =>
      rw [List.forall_mem_cons] at other
      have kept : (Edit.apply application edit).tableIndex.lookup wanted =
          application.tableIndex.lookup wanted := by
        rw [lookup_apply, if_neg other.1]
      exact (ih other.2).trans kept

/-- What stands in the list stays where it is, and all that happens to it is that it gets further
fields. -/
theorem tables_apply (placed : application.tables[position]? = some table) (edit : Edit) :
    (Edit.apply application edit).tables[position]? =
      some { table with fields := table.fields ++ (edit.fieldAt? position).toList } := by
  have unchanged : some { table with fields := table.fields ++ [] } = some table := by
    rw [List.append_nil]
  cases edit with
  | declareTable added => exact (getElem?_grown placed _).trans unchanged.symm
  | listTable added => exact (getElem?_grown placed _).trans unchanged.symm
  | extendTable place field =>
      by_cases here : place = position
      · simp [Edit.apply, placed, here, fieldAt?, Table.extend]
      · simp [Edit.apply, placed, here, fieldAt?]
  | declareEnumeration _ => exact placed.trans unchanged.symm
  | listEnumeration _ => exact placed.trans unchanged.symm
  | extendEnumeration _ _ => exact placed.trans unchanged.symm
  | rename _ => exact placed.trans unchanged.symm

theorem tables_edited (placed : application.tables[position]? = some table) (edits : List Edit) :
    (application.edited edits).tables[position]? =
      some { table with fields := table.fields ++ edits.filterMap (fieldAt? position) } := by
  induction edits generalizing application table with
  | nil => simpa [edited] using placed
  | cons edit rest ih =>
      have later := ih (tables_apply placed edit)
      cases added : edit.fieldAt? position with
      | none => simpa [edited, added] using later
      | some field => simpa [edited, added] using later

end Tables

section Latest

variable {α : Type} {tells : Edit → Option α}

theorem latest?_cons (edit : Edit) (rest : List Edit) :
    latest? tells (edit :: rest) = (latest? tells rest).or (tells edit) := by
  rw [latest?, List.reverse_cons, List.findSome?_append, List.findSome?_singleton]
  rfl

/-- Where each edit overrides what a view showed before, the view shows what the latest edit
tells. -/
theorem view_edited (view : Application → Option α)
    (step : ∀ application edit, application.Indexed →
      view (Edit.apply application edit) = (tells edit).or (view application))
    {application : Application} (indexed : application.Indexed) (edits : List Edit) :
    view (application.edited edits) = (latest? tells edits).or (view application) := by
  induction edits generalizing application with
  | nil => rfl
  | cons edit rest ih =>
      have later := ih (indexed_apply indexed edit)
      rw [step application edit indexed] at later
      rw [latest?_cons, Option.or_assoc]
      exact later

end Latest

section Groups

variable {application : Application}

theorem name_apply (application : Application) (edit : Edit) :
    some (Edit.apply application edit).name = edit.newName?.or (some application.name) := by
  cases edit <;> rfl

def parentName? (application : Application) (token : String) : Option String :=
  (application.groupIndex.lookup token).bind ((application.enumerations.map (·.name))[·]?)

theorem lookup_groups (groups : List Group) (position : Nat) (token : String) :
    (groups.map fun group => (group.name, position)).reverse.lookup token =
      if groups.any (·.name == token) then some position else none := by
  induction groups with
  | nil => rfl
  | cons group rest ih =>
      rw [List.map_cons, List.reverse_cons, List.lookup_append, ih, List.any_cons]
      by_cases here : group.name = token
      · subst here
        split <;> simp
      · have differ : (token == group.name) = false := beq_false_of_ne (Ne.symm here)
        simp [here, differ, List.lookup_cons]

theorem parentName?_grown (indexed : application.Indexed) (token last : String) :
    (application.groupIndex.lookup token).bind
      ((application.enumerations.map (·.name) ++ [last])[·]?) = application.parentName? token := by
  -- Positions in the index are inside the list, so the list can grow behind them.
  apply Option.bind_congr
  intro position found
  obtain ⟨enumeration, placed, _⟩ := indexed.groups _ (mem_of_lookup found)
  have named : (application.enumerations.map (·.name))[position]? = some enumeration.name := by
    rw [List.getElem?_map, placed, Option.map_some]
  rw [getElem?_grown named, named]

theorem parentName?_apply (token : String) (application : Application) (edit : Edit)
    (indexed : application.Indexed) :
    (Edit.apply application edit).parentName? token =
      ((edit.owner? token).map (·.name)).or (application.parentName? token) := by
  cases edit with
  | declareEnumeration enumeration =>
      have grown := parentName?_grown indexed token enumeration.name
      rw [parentName?, Edit.apply, declareEnumeration, List.lookup_append, lookup_groups,
        List.map_append, List.map_singleton, owner?]
      split
      · rw [Option.some_or, Option.bind_some, Option.map_some, Option.some_or,
          ← application.enumerations.length_map (·.name)]
        exact List.getElem?_concat_length
      · exact grown
  | listEnumeration enumeration =>
      rw [parentName?, Edit.apply, listEnumeration, List.map_append]
      exact parentName?_grown indexed token enumeration.name
  | extendEnumeration position group =>
      have names : (application.enumerations.modify position (·.extend group)).map (·.name) =
          application.enumerations.map (·.name) := by
        apply List.ext_getElem?
        intro place
        rw [List.getElem?_map, List.getElem?_map, List.getElem?_modify]
        cases application.enumerations[place]? with
        | none => rfl
        | some enumeration => by_cases here : position = place <;> simp [here, Enumeration.extend]
      rw [parentName?, Edit.apply, names]
      rfl
  | _ => rfl

theorem target_eq (application : Application) (token : String) :
    application.target token =
      if (application.tableIndex.lookup token).isSome then .table (application.qualify token)
      else
        match application.parentName? token with
        | some parent => .group (application.qualify token) (application.qualify parent)
        | none => .unknown := by
  unfold target parentName?
  cases application.groupIndex.lookup token with
  | none => rfl
  | some position =>
      simp only [Option.bind_some, List.getElem?_map]
      cases application.enumerations[position]? <;> rfl

end Groups

section History

/-- What an application tells is what its history says: it had a name at first and was edited
since. -/
structure Follows (application : Application) (name : String) (edits : List Edit) : Prop where
  /-- No look-up leaves the list of tables. -/
  tableInside : ∀ token position, application.tableIndex.lookup token = some position →
    position < application.tables.length
  /-- No look-up leaves the list of enumerations. -/
  enumerationInside : ∀ token position, application.groupIndex.lookup token = some position →
    position < application.enumerations.length
  /-- A table that was never declared is not found. -/
  undeclared : ∀ wanted, (∀ edit ∈ edits, edit.tableName? ≠ some wanted) →
    application.table? wanted = none
  /-- The table that was declared last under a name is found where it was put then, with the fields
  that it got since. -/
  declared : ∀ before table after, edits = before ++ .declareTable table :: after →
    (∀ edit ∈ after, edit.tableName? ≠ some table.name) →
      let earlier := edited { name } before
      let position := earlier.tables.length
      application.table? table.name = application.tables[position]? ∧
        application.tables[position]? = some { table with
          application := earlier.name
          fields := table.fields ++ after.filterMap (fieldAt? position) }
  named : ∀ wanted table, application.table? wanted = some table → table.name = wanted
  resolved : ∀ asked token, application.resolve asked token = answer name edits asked token

theorem Indexed.table_named {application : Application} (indexed : application.Indexed)
    {wanted : String} {table : Table} (found : application.table? wanted = some table) :
    table.name = wanted := by
  obtain ⟨position, listed, placed⟩ := Option.bind_eq_some_iff.mp found
  obtain ⟨other, again, named⟩ := indexed.tables _ (mem_of_lookup listed)
  rw [placed] at again
  cases again
  exact named

theorem edited_append (application : Application) (before after : List Edit) :
    application.edited (before ++ after) = (application.edited before).edited after :=
  List.foldl_append

theorem table?_edited (application : Application) (table : Table) (after : List Edit)
    (latest : ∀ edit ∈ after, edit.tableName? ≠ some table.name) :
    let last := (application.declareTable table).edited after
    last.table? table.name = last.tables[application.tables.length]? ∧
      last.tables[application.tables.length]? = some { table with
        application := application.name
        fields := table.fields ++ after.filterMap (fieldAt? application.tables.length) } := by
  have listed : (application.declareTable table).tableIndex.lookup table.name =
      some application.tables.length :=
    List.lookup_cons_self
  have placed : (application.declareTable table).tables[application.tables.length]? =
      some { table with application := application.name } :=
    List.getElem?_concat_length
  refine ⟨?_, tables_edited placed after⟩
  rw [table?, lookup_edited_other latest, listed, Option.bind_some]

theorem name_edited (name : String) (edits : List Edit) :
    (edited { name } edits).name = (latest? newName? edits).getD name := by
  have shown := view_edited (fun application => some application.name)
    (fun application edit _ => name_apply application edit) (indexed_named name) edits
  rw [Option.or_some] at shown
  exact Option.some.inj shown

theorem parentName?_edited (name token : String) (edits : List Edit) :
    (edited { name } edits).parentName? token = (latest? (owner? token) edits).map (·.name) := by
  have shown :=
    view_edited (parentName? · token) (parentName?_apply token) (indexed_named name) edits
  rw [shown, latest?, latest?, List.map_findSome?]
  exact Option.or_none

theorem target_edited (name token : String) (edits : List Edit) :
    (edited { name } edits).target token =
      if ∃ edit ∈ edits, edit.tableName? = some token then
        .table ((edited { name } edits).qualify token)
      else
        match latest? (owner? token) edits with
        | some enumeration => .group ((edited { name } edits).qualify token)
            ((edited { name } edits).qualify enumeration.name)
        | none => .unknown := by
  have listed : ((edited { name } edits).tableIndex.lookup token).isSome = true ↔
      ∃ edit ∈ edits, edit.tableName? = some token := by
    rw [Option.isSome_iff_ne_none, Ne, lookup_edited_eq_none]
    simp
  rw [target_eq, parentName?_edited]
  simp only [listed]
  cases latest? (owner? token) edits <;> rfl

theorem resolve_edited (name asked token : String) (edits : List Edit) :
    (edited { name } edits).resolve asked token = answer name edits asked token := by
  simp only [resolve, answer, target_edited, qualify, name_edited, wellFormedToken_iff]
  by_cases own : asked = (latest? newName? edits).getD name
  · by_cases proper : IsName token
    · simp only [own, proper, ne_eq, not_true_eq_false, if_true, if_false, apply_ite Except.ok]
      cases latest? (owner? token) edits <;> rfl
    · simp [own, proper]
  · simp [own]

/-- Declaring, listing, extending and renaming in any order leave an application whose look-ups stay
inside their lists and answer by the latest declaration. -/
theorem edited_follows (name : String) (edits : List Edit) :
    (edited { name } edits).Follows name edits := by
  have indexed := indexed_edited (indexed_named name) edits
  constructor
  case tableInside =>
    intro token position found
    obtain ⟨_, placed, _⟩ := indexed.tables _ (mem_of_lookup found)
    exact (List.getElem?_eq_some_iff.mp placed).1
  case enumerationInside =>
    intro token position found
    obtain ⟨_, placed, _⟩ := indexed.groups _ (mem_of_lookup found)
    exact (List.getElem?_eq_some_iff.mp placed).1
  case undeclared =>
    intro wanted never
    rw [table?, (lookup_edited_eq_none _ _ _).mpr ⟨rfl, never⟩, Option.bind_none]
  case declared =>
    intro before table after shape latest
    subst shape
    rw [edited_append]
    exact table?_edited _ table after latest
  case named =>
    intro wanted table found
    exact indexed.table_named found
  case resolved =>
    intro asked token
    exact resolve_edited name asked token edits

-- A table that is only listed is not found, but it moves the position of the one that is declared
-- behind it.
example :
    (edited { name := "store" } [.listTable { name := "Item", application := "" },
      .declareTable { name := "Item", application := "" }, .extendTable 1 (.text "sku"),
      .rename "shop"]).table? "Item" =
      some { name := "Item", application := "store", fields := [.text "sku"] } := by decide

end History

end Application

end TableReaders.Schema
