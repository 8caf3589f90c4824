import TableReaders.Package.Interface
import TableReaders.Proofs.Outcome

/-!
The text of the interfaces of a table, said without a pass. A field by itself decides whether it
stops the pass, so the first such field decides how the pass ends. If there is none, the draft at
the end is that of the methods of all fields that have one, and skipped fields leave no trace in it:
neither a separator nor an import.
-/

namespace TableReaders.Package

open Schema

def Draft.ofMethods (settings : Settings) (table : Table)
    (methods : List (Schema.Field × Accessor)) :
    Draft where
  imports := ⟨if methods.any (·.2 == .textVector) then [settings.vectorPackage] else []⟩
  definitions :=
    (Draft.begin table).definitions ++
      "\n".intercalate (methods.map fun method => method.2.render settings method.1)
  accessors := methods.length

section Drafts

theorem intercalate_concat (separator last : String) (pieces : List String) :
    separator.intercalate (pieces ++ [last]) =
      separator.intercalate pieces ++ (if 0 < pieces.length then separator else "") ++ last := by
  cases pieces with
  | nil => simp
  | cons first rest =>
      rw [String.intercalate_append_of_ne_nil (by simp) (by simp), String.intercalate_singleton]
      simp

theorem ImportSet.render_optional (path : String) (wanted : Bool) :
    ImportSet.render ⟨if wanted then [path] else []⟩ =
      if wanted then "import (\n\t\"" ++ path ++ "\"\n)\n\n" else "" := by
  cases wanted with
  | false => rfl
  | true =>
      have opening : "import (\n\t\"" = "import (\n" ++ "\t\"" := by decide
      have closing : "\"\n)\n\n" = "\"\n" ++ ")\n\n" := by decide
      rw [if_pos rfl, if_pos rfl, opening, closing]
      simp only [ImportSet.render, ImportSet.isEmpty, ImportSet.line, List.isEmpty_cons,
        Bool.false_eq_true, if_false, List.map_singleton, String.join_cons, String.join_nil,
        String.append_empty, String.append_assoc]

theorem imports_concat (settings : Settings) (table : Table)
    (methods : List (Schema.Field × Accessor)) (field : Schema.Field) (accessor : Accessor) :
    ((Draft.ofMethods settings table methods).push settings field accessor).imports =
      (Draft.ofMethods settings table (methods ++ [(field, accessor)])).imports := by
  -- There is one package to import, so the set has it or is empty.
  cases earlier : methods.any (·.2 == .textVector) <;> cases accessor <;>
    simp [Draft.push, Draft.ofMethods, Accessor.package?, ImportSet.insert, ImportSet.insertInto,
      earlier]

theorem definitions_concat (settings : Settings) (table : Table)
    (methods : List (Schema.Field × Accessor)) (field : Schema.Field) (accessor : Accessor) :
    ((Draft.ofMethods settings table methods).push settings field accessor).definitions =
      (Draft.ofMethods settings table (methods ++ [(field, accessor)])).definitions := by
  have joined := intercalate_concat "\n" (accessor.render settings field)
    (methods.map fun method => method.2.render settings method.1)
  rw [List.length_map] at joined
  change (Draft.begin table).definitions ++ _ ++ (if 0 < methods.length then "\n" else "") ++ _ = _
  simp only [Draft.ofMethods, List.map_append, List.map_singleton, joined, String.append_assoc]

theorem push_ofMethods (settings : Settings) (table : Table)
    (methods : List (Schema.Field × Accessor)) (field : Schema.Field) (accessor : Accessor) :
    (Draft.ofMethods settings table methods).push settings field accessor =
      Draft.ofMethods settings table (methods ++ [(field, accessor)]) := by
  have imports := imports_concat settings table methods field accessor
  have definitions := definitions_concat settings table methods field accessor
  have accessors :
      ((Draft.ofMethods settings table methods).push settings field accessor).accessors =
      (Draft.ofMethods settings table (methods ++ [(field, accessor)])).accessors := by
    simp [Draft.push, Draft.ofMethods]
  exact (Draft.mk.injEq _ _ _ _ _ _).mpr ⟨imports, definitions, accessors⟩

end Drafts

namespace Interface

variable (settings : Settings) (resolve : Resolver) (table : Table)

def accessor? (field : Schema.Field) : Option Accessor :=
  match Accessor.ofField table.application field resolve with
  | .ok found => found
  | .error _ => none

def fault? (field : Schema.Field) : Option GenerateError :=
  match Accessor.ofField table.application field resolve, settings.unresolved with
  | .error cause, _ => some (.resolve cause)
  | .ok none, .refuse => some (.noAccessor table.name field.name field.token)
  | .ok none, .skip | .ok (some _), _ => none

def methods (fields : List Schema.Field) : List (Schema.Field × Accessor) :=
  fields.filterMap fun field => (accessor? resolve table field).map (field, ·)

section Known

variable {resolve : Resolver} {table : Table} {field : Schema.Field} {accessor : Accessor}

theorem accessor?_eq_some :
    accessor? resolve table field = some accessor ↔
      Accessor.ofField table.application field resolve = .ok (some accessor) := by
  unfold accessor?
  cases Accessor.ofField table.application field resolve <;> simp

theorem mem_methods {fields : List Schema.Field} :
    (field, accessor) ∈ methods resolve table fields ↔
      field ∈ fields ∧ Accessor.ofField table.application field resolve = .ok (some accessor) := by
  simp [methods, List.mem_filterMap, accessor?_eq_some]

end Known

def extended (draft : Draft) (field : Schema.Field) : Draft :=
  match accessor? resolve table field with
  | some accessor => draft.push settings field accessor
  | none => draft

def importFor (wanted : Bool) : String :=
  if wanted then "import (\n\t\"" ++ settings.vectorPackage ++ "\"\n)\n\n" else ""

def headLine (name : String) : String :=
  "type " ++ Identifier.rowInterface name ++ " interface \x7b\n"

def methodTexts : List String :=
  (methods resolve table table.fields).map fun method => method.2.render settings method.1

def ending (name : String) : String :=
  "\x7d\n" ++ vectorInterface name

def text : String :=
  importFor settings ((methods resolve table table.fields).any (·.2 == .textVector)) ++
  docComment (Identifier.rowInterface table.name) table.documentation "" ++
  headLine table.name ++
  "\n".intercalate (methodTexts settings resolve table) ++
  ending table.name

theorem step_result (draft : Draft) (field : Schema.Field) :
    (step settings resolve table draft field).result =
      unlessFault (fault? settings resolve table field)
        (extended settings resolve table draft field) := by
  unfold step fault? extended accessor?
  cases Accessor.ofField table.application field resolve with
  | error cause => rfl
  | ok found =>
      cases found with
      | some accessor => rfl
      | none => cases settings.unresolved <;> rfl

theorem extended_ofMethods (done : List (Schema.Field × Accessor)) (field : Schema.Field) :
    extended settings resolve table (Draft.ofMethods settings table done) field =
      Draft.ofMethods settings table (done ++ methods resolve table [field]) := by
  unfold extended methods
  cases found : accessor? resolve table field with
  | none => simp [found]
  | some accessor => simp [found, push_ofMethods]

theorem foldl_extended (fields : List Schema.Field) (done : List (Schema.Field × Accessor)) :
    fields.foldl (extended settings resolve table) (Draft.ofMethods settings table done) =
      Draft.ofMethods settings table (done ++ methods resolve table fields) := by
  induction fields generalizing done with
  | nil => simp [methods]
  | cons field rest ih =>
      rw [List.foldl_cons, extended_ofMethods, ih, List.append_assoc]
      congr 2
      simp only [methods, ← List.filterMap_append, List.singleton_append]

theorem pass_result :
    (pass settings resolve table).result =
      unlessFault (table.fields.findSome? (fault? settings resolve table))
        (Draft.ofMethods settings table (methods resolve table table.fields)) := by
  have start : Draft.begin table = Draft.ofMethods settings table [] := by
    simp [Draft.ofMethods, Draft.begin]
  rw [pass, Traced.result_foldlM, foldlM_unlessFault (step_result settings resolve table), start,
    foldl_extended, List.nil_append]

theorem finish_ofMethods :
    (Draft.ofMethods settings table (methods resolve table table.fields)).finish table =
      text settings resolve table := by
  rw [Draft.finish, Draft.ofMethods, ImportSet.render_optional]
  simp only [text, importFor, headLine, methodTexts, ending, Draft.begin, String.append_assoc]

theorem render_result :
    (render settings resolve table).result =
      unlessFault (table.fields.findSome? (fault? settings resolve table))
        (text settings resolve table) := by
  rw [render, pass_result, ← finish_ofMethods]
  cases table.fields.findSome? (fault? settings resolve table) <;> rfl

/-- The field does not stop the pass: its token could be looked up, and where every field needs an
accessor it has one. -/
def Passes (field : Schema.Field) : Prop :=
  ∃ found, Accessor.ofField table.application field resolve = .ok found ∧
    (settings.unresolved = .refuse → found.isSome = true)

inductive Stops (field : Schema.Field) : GenerateError → Prop where
  | unanswered {cause : LookupError}
      (answer : Accessor.ofField table.application field resolve = .error cause) :
      Stops field (.resolve cause)
  | unresolved (nothing : Accessor.ofField table.application field resolve = .ok none)
      (refused : settings.unresolved = .refuse) :
      Stops field (.noAccessor table.name field.name field.token)

theorem fault?_eq_none_iff (field : Schema.Field) :
    fault? settings resolve table field = none ↔ Passes settings resolve table field := by
  unfold fault? Passes
  cases Accessor.ofField table.application field resolve with
  | error cause => simp
  | ok found => cases found <;> cases settings.unresolved <;> simp

theorem fault?_eq_some_iff (field : Schema.Field) (error : GenerateError) :
    fault? settings resolve table field = some error ↔
      Stops settings resolve table field error := by
  constructor
  · intro fault
    unfold fault? at fault
    split at fault
    next cause answer =>
      cases fault
      exact .unanswered answer
    next nothing refused =>
      cases fault
      exact .unresolved nothing refused
    next => cases fault
    next => cases fault
  · rintro (⟨answer⟩ | ⟨nothing, refused⟩)
    · simp [fault?, answer]
    · simp [fault?, nothing, refused]

/-- The pass gives the composed text if no field stops it, and else the error of the first field
that does. -/
theorem render_composed :
    (∀ out, (render settings resolve table).result = .ok out ↔
      (∀ field ∈ table.fields, Passes settings resolve table field) ∧
        out = text settings resolve table) ∧
    ∀ error, (render settings resolve table).result = .error error ↔
      ∃ before field after, table.fields = before ++ field :: after ∧
        Stops settings resolve table field error ∧
        ∀ earlier ∈ before, Passes settings resolve table earlier := by
  constructor
  · intro out
    rw [render_result, unlessFault_eq_ok, List.findSome?_eq_none_iff, eq_comm (a := out)]
    simp only [fault?_eq_none_iff]
  · intro error
    rw [render_result, unlessFault_eq_error, List.findSome?_eq_some_iff]
    simp only [fault?_eq_none_iff, fault?_eq_some_iff]

end Interface

end TableReaders.Package
