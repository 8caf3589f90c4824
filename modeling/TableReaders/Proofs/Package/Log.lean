import TableReaders.Proofs.Package.Evolution
import TableReaders.Proofs.Package.Methods

/-!
The log of a run that generates an application. It tells of every table up to the first that fails:
the table begins, each of its fields has one entry, and one entry closes it. After the last table of
a run that succeeds the number of files follows. How many accessors a table has is told by the entry
that closes it, and the same number is found by counting the entries of its fields and by counting
the methods in its file.
-/

namespace TableReaders.Package

open Schema

structure Shown where
  span : Option String
  level : Level
  fields : List (String × String)
  deriving DecidableEq

def Entry.shown (entry : Entry) : Shown :=
  ⟨entry.span?, entry.level, entry.fields⟩

namespace Shown

variable (resolve : Resolver) (table : Table)

def opening : Shown :=
  ⟨some "reader_interface", .info,
    [("table", table.name), ("application", table.application), ("kind", "reader interface")]⟩

def ofField (field : Schema.Field) : Shown :=
  match Interface.accessor? resolve table field with
  | some accessor =>
      ⟨none, .debug,
        [("field", field.name), ("accessor", accessor.label), ("message", "accessor emitted")]⟩
  | none =>
      ⟨none, .debug,
        [("field", field.name), ("token", field.token),
          ("message", "unresolved field type skipped")]⟩

def done (accessors : Nat) : Shown :=
  ⟨none, .info, [("message", "Interface for table " ++ Identifier.rowInterface table.name ++
    " created successfully (" ++ toString accessors ++ " accessors)")]⟩

def failed (error : GenerateError) : Shown :=
  ⟨none, .error, [("message", "Interface for table " ++ Identifier.rowInterface table.name ++
    " failed: " ++ error.message)]⟩

def summary (files : Nat) (application : String) : Shown :=
  ⟨none, .info, [("message", "Generated " ++ toString files ++
    " reader interfaces for application " ++ application)]⟩

def tellsAccessor (shown : Shown) : Bool :=
  shown.fields.contains ("message", "accessor emitted")

def accessorCount : Nat :=
  (table.fields.map (ofField resolve table)).countP tellsAccessor

def completed : List Shown :=
  opening table :: table.fields.map (ofField resolve table) ++
    [done table (accessorCount resolve table)]

def interrupted (passed : List Schema.Field) (error : GenerateError) : List Shown :=
  opening table :: passed.map (ofField resolve table) ++ [failed table error]

end Shown

namespace Traced

variable {α β σ : Type} {first : Traced α} {next : α → Traced β}

theorem log_bind_ok {value : α} (done : first.result = .ok value) :
    (first >>= next).log = first.log ++ (next value).log := by
  obtain ⟨log, result⟩ := first
  cases done
  rfl

theorem log_bind_error {error : GenerateError} (stopped : first.result = .error error) :
    (first >>= next).log = first.log := by
  obtain ⟨log, result⟩ := first
  cases stopped
  rfl

theorem log_bind_pure (first : Traced α) (change : α → β) :
    (first >>= fun value => pure (change value)).log = first.log := by
  obtain ⟨log, result⟩ := first
  cases result with
  | error error => rfl
  | ok value => exact List.append_nil log

/-- Where every step succeeds the run tells what they tell, and then goes on with the rest. -/
theorem log_mapM_append {step : α → Traced β} {items : List α}
    (succeed : ∀ item ∈ items, ∃ value, (step item).result = .ok value) (rest : List α) :
    ((items ++ rest).mapM step).log =
      items.flatMap (fun item => (step item).log) ++ (rest.mapM step).log := by
  induction items with
  | nil => rfl
  | cons item items ih =>
      rw [List.forall_mem_cons] at succeed
      obtain ⟨value, here⟩ := succeed.1
      rw [List.cons_append, List.mapM_cons, log_bind_ok here, log_bind_pure, ih succeed.2,
        List.flatMap_cons, List.append_assoc]

theorem log_mapM_error {step : α → Traced β} {item : α} {error : GenerateError}
    (stopped : (step item).result = .error error) (rest : List α) :
    ((item :: rest).mapM step).log = (step item).log := by
  rw [List.mapM_cons, log_bind_error stopped]

end Traced

namespace Interface

variable {settings : Settings} {resolve : Resolver} {table : Table}

def entry (resolve : Resolver) (table : Table) (field : Schema.Field) : Entry :=
  match accessor? resolve table field with
  | some accessor => .accessorWritten field.name accessor.label
  | none => .fieldSkipped field.name field.token

theorem shown_entry (field : Schema.Field) :
    (entry resolve table field).shown = Shown.ofField resolve table field := by
  unfold entry Shown.ofField
  cases accessor? resolve table field <;> rfl

/-- A field that stops the pass is not told of: the entry that closes the table tells its error. -/
theorem step_log (draft : Draft) (field : Schema.Field) :
    (step settings resolve table draft field).log =
      if fault? settings resolve table field = none then [entry resolve table field] else [] := by
  unfold step fault? entry accessor?
  rcases Accessor.ofField table.application field resolve with cause | (_ | accessor)
  · rfl
  · cases settings.unresolved <;> rfl
  · rfl

theorem foldlM_log {fields : List Schema.Field}
    (clear : ∀ field ∈ fields, fault? settings resolve table field = none) (draft : Draft) :
    (fields.foldlM (step settings resolve table) draft).log = fields.map (entry resolve table) := by
  induction fields generalizing draft with
  | nil => rfl
  | cons field rest ih =>
      rw [List.forall_mem_cons] at clear
      have passed : (step settings resolve table draft field).result =
          .ok (extended settings resolve table draft field) := by
        rw [step_result, clear.1]
        rfl
      rw [List.foldlM_cons, Traced.log_bind_ok passed, step_log, if_pos clear.1, ih clear.2,
        List.map_cons, List.singleton_append]

/-- The log of the fields before the one that stops the pass is all that the pass tells. -/
theorem pass_log_stopped {before after : List Schema.Field} {field : Schema.Field}
    {error : GenerateError} (fields : table.fields = before ++ field :: after)
    (clear : ∀ earlier ∈ before, fault? settings resolve table earlier = none)
    (stops : fault? settings resolve table field = some error) :
    (pass settings resolve table).log = before.map (entry resolve table) := by
  have reached : (before.foldlM (step settings resolve table) (Draft.begin table)).result =
      .ok (before.foldl (extended settings resolve table) (Draft.begin table)) := by
    rw [Traced.result_foldlM, foldlM_unlessFault (step_result settings resolve table),
      List.findSome?_eq_none_iff.mpr clear]
    rfl
  have stopped : ∀ draft, (step settings resolve table draft field).result = .error error := by
    intro draft
    rw [step_result, stops]
    rfl
  rw [pass, fields, List.foldlM_append, Traced.log_bind_ok reached, foldlM_log clear,
    List.foldlM_cons,
    Traced.log_bind_error (stopped _), step_log, stops, if_neg (by simp), List.append_nil]

theorem accessorCount_eq :
    Shown.accessorCount resolve table = (methods resolve table table.fields).length := by
  rw [Shown.accessorCount, List.countP_map, methods, List.length_filterMap_eq_countP]
  congr 1
  funext field
  rw [Function.comp_apply, Shown.ofField, Option.isSome_map]
  cases accessor? resolve table field with
  | none => simp [Shown.tellsAccessor]
  | some accessor => simp [Shown.tellsAccessor]

theorem render_log :
    (render settings resolve table).log.map Entry.shown =
      Shown.opening table :: ((pass settings resolve table).log.map Entry.shown ++
        [(closing table (pass settings resolve table).result).shown]) := by
  rw [render, List.map_cons, List.map_append]
  rfl

theorem map_shown (fields : List Schema.Field) :
    (fields.map (entry resolve table)).map Entry.shown =
      fields.map (Shown.ofField resolve table) := by
  rw [List.map_map]
  exact List.map_congr_left fun field _ => shown_entry field

theorem render_log_done
    (clear : ∀ field ∈ table.fields, fault? settings resolve table field = none) :
    (render settings resolve table).log.map Entry.shown = Shown.completed resolve table := by
  have passed := pass_result settings resolve table
  rw [List.findSome?_eq_none_iff.mpr clear] at passed
  rw [render_log, passed, pass, foldlM_log clear, map_shown, Shown.completed, accessorCount_eq]
  rfl

theorem render_log_stopped {before after : List Schema.Field} {field : Schema.Field}
    {error : GenerateError} (fields : table.fields = before ++ field :: after)
    (clear : ∀ earlier ∈ before, fault? settings resolve table earlier = none)
    (stops : fault? settings resolve table field = some error) :
    (render settings resolve table).log.map Entry.shown =
      Shown.interrupted resolve table before error := by
  have stopped := pass_result settings resolve table
  rw [List.findSome?_eq_some_iff.mpr ⟨before, field, after, fields, stops, clear⟩] at stopped
  rw [render_log, stopped, pass_log_stopped fields clear stops, map_shown]
  rfl

end Interface

section Application

variable {settings : Settings} {application : Application}

theorem ofTable_log (table : Table) :
    (File.ofTable settings application table).log =
      (Interface.render settings application.resolve table).log :=
  Traced.log_bind_pure _ _

theorem generate_log_refused {cause : CheckError} (refused : application.check = .error cause) :
    (generate settings application).log = [] := by
  have failed : (Traced.silent (application.check.mapError .schema)).result =
      .error (.schema cause) := by
    rw [refused]
    rfl
  rw [generate, Traced.log_bind_error failed]
  rfl

theorem generate_log_checked (checked : application.check = .ok ()) :
    (generate settings application).log =
      (application.tables.mapM (File.ofTable settings application) >>= fun files => do
        Traced.tell (.applicationDone files.length application.name)
        return files).log := by
  have passed : (Traced.silent (application.check.mapError .schema)).result = .ok () := by
    rw [checked]
    rfl
  rw [generate, Traced.log_bind_ok passed]
  rfl

/-- The tables before a certain place that nothing is wrong with are told of in full. -/
theorem mapM_log_shown {earlier : List Table}
    (clear : ∀ table ∈ earlier, ∀ field ∈ table.fields,
      Interface.fault? settings application.resolve table field = none) (rest : List Table) :
    ((earlier ++ rest).mapM (File.ofTable settings application)).log.map Entry.shown =
      earlier.flatMap (Shown.completed application.resolve) ++
        (rest.mapM (File.ofTable settings application)).log.map Entry.shown := by
  have succeed : ∀ table ∈ earlier, ∃ file, (File.ofTable settings application table).result =
      .ok file := by
    intro table member
    refine ⟨File.composed settings application table, ?_⟩
    rw [ofTable_result, List.findSome?_eq_none_iff.mpr (clear table member)]
    rfl
  rw [Traced.log_mapM_append succeed, List.map_append, List.map_flatMap]
  congr 1
  apply List.flatMap_congr
  intro table member
  rw [ofTable_log, Interface.render_log_done (clear table member)]

/-- The file of a table has so many accessors: they stand between its head and its end, with an
empty line between two, and where no path brings further lines along they are what is read off its
text as methods. -/
def HasAccessors (settings : Settings) (application : Application) (accessors : Nat) (table : Table)
    (file : File) : Prop :=
  file.contents =
    File.opening settings application.name table ++
      "\n".intercalate (Interface.methodTexts settings application.resolve table) ++
      Interface.ending table.name ∧
  (Interface.methodTexts settings application.resolve table).length = accessors ∧
  (SingleLine settings.vectorPackage →
    (methodsIn (Identifier.rowInterface table.name) file.contents.toList).length = accessors)

theorem composed_hasAccessors (accepted : application.Accepted) {table : Table}
    (member : table ∈ application.tables) :
    HasAccessors settings application (Shown.accessorCount application.resolve table) table
      (File.composed settings application table) := by
  rw [Interface.accessorCount_eq]
  refine ⟨File.composed_contents settings application table, List.length_map _, ?_⟩
  intro packaged
  rw [methodsIn_composed accepted packaged member, List.length_map]

theorem clear_of_firstFault (clear : firstFault? settings application = none) :
    ∀ table ∈ application.tables, ∀ field ∈ table.fields,
      Interface.fault? settings application.resolve table field = none := by
  intro table member
  exact List.findSome?_eq_none_iff.mp (List.findSome?_eq_none_iff.mp clear table member)

theorem generate_log_done (checked : application.check = .ok ())
    (clear : firstFault? settings application = none) :
    (generate settings application).log.map Entry.shown =
      application.tables.flatMap (Shown.completed application.resolve) ++
        [Shown.summary application.tables.length application.name] := by
  have made := tables_result settings application
  rw [clear] at made
  have told : (application.tables.mapM (File.ofTable settings application)).log.map Entry.shown =
      application.tables.flatMap (Shown.completed application.resolve) := by
    have all := mapM_log_shown (clear_of_firstFault clear) []
    rw [List.append_nil, List.mapM_nil] at all
    exact all.trans (List.append_nil _)
  rw [generate_log_checked checked, Traced.log_bind_ok made, List.map_append, told, List.length_map]
  rfl

theorem generate_log_stopped (checked : application.check = .ok ()) {error : GenerateError}
    (fault : firstFault? settings application = some error) {earlier later : List Table}
    {table : Table} (tables : application.tables = earlier ++ table :: later)
    (clear : ∀ other ∈ earlier, ∀ field ∈ other.fields,
      Interface.fault? settings application.resolve other field = none)
    {before after : List Schema.Field} {field : Schema.Field}
    (fields : table.fields = before ++ field :: after)
    (passed : ∀ other ∈ before, Interface.fault? settings application.resolve table other = none)
    (stops : Interface.fault? settings application.resolve table field = some error) :
    (generate settings application).log.map Entry.shown =
      earlier.flatMap (Shown.completed application.resolve) ++
        Shown.interrupted application.resolve table before error := by
  have stopped := tables_result settings application
  rw [fault] at stopped
  have failed : (File.ofTable settings application table).result = .error error := by
    rw [ofTable_result,
      List.findSome?_eq_some_iff.mpr ⟨before, field, after, fields, stops, passed⟩]
    rfl
  rw [generate_log_checked checked, Traced.log_bind_error stopped, tables, mapM_log_shown clear,
    Traced.log_mapM_error failed, ofTable_log, Interface.render_log_stopped fields passed stops]

/-- The log tells of every table up to the first that fails, field by field, and never counts
wrong. -/
theorem generate_log (settings : Settings) (application : Application) :
    (∀ cause, application.check = .error cause → (generate settings application).log = []) ∧
    (∀ files, (generate settings application).result = .ok files →
      (generate settings application).log.map Entry.shown =
        application.tables.flatMap (Shown.completed application.resolve) ++
          [Shown.summary files.length application.name] ∧
      List.Forall₂ (fun table => HasAccessors settings application
        (Shown.accessorCount application.resolve table) table) application.tables files) ∧
    ∀ error, application.check = .ok () → (generate settings application).result = .error error →
      ∃ earlier table later before field after,
        application.tables = earlier ++ table :: later ∧ table.fields = before ++ field :: after ∧
        (∀ other ∈ earlier, ∀ passed ∈ other.fields,
          Interface.Passes settings application.resolve other passed) ∧
        (∀ passed ∈ before, Interface.Passes settings application.resolve table passed) ∧
        Interface.Stops settings application.resolve table field error ∧
        (generate settings application).log.map Entry.shown =
          earlier.flatMap (Shown.completed application.resolve) ++
            Shown.interrupted application.resolve table before error := by
  refine ⟨fun cause => generate_log_refused, ?_, ?_⟩
  · intro files generated
    obtain ⟨checked, clear, rfl⟩ := generate_eq_composed.mp generated
    have accepted := (Application.check_eq_ok application).mp checked
    refine ⟨?_, ?_⟩
    · rw [generate_log_done checked clear, List.length_map]
    · rw [List.forall₂_map_right_iff, List.forall₂_same]
      exact fun table member => composed_hasAccessors accepted member
  · intro error checked stopped
    rw [generate_checked checked, unlessFault_eq_error] at stopped
    obtain ⟨earlier, table, later, tables, offends, clear⟩ := List.findSome?_eq_some_iff.mp stopped
    obtain ⟨before, field, after, fields, stops, passed⟩ := List.findSome?_eq_some_iff.mp offends
    simp only [List.findSome?_eq_none_iff] at clear
    have log := generate_log_stopped checked stopped tables clear fields passed stops
    simp only [Interface.fault?_eq_none_iff, Interface.fault?_eq_some_iff] at clear passed stops
    exact ⟨earlier, table, later, before, field, after, tables, fields, clear, passed, stops, log⟩

def gradedItem : List Shown :=
  [⟨some "reader_interface", .info,
      [("table", "Item"), ("application", "store"), ("kind", "reader interface")]⟩,
    ⟨none, .debug, [("field", "sku"), ("accessor", "string"), ("message", "accessor emitted")]⟩,
    ⟨none, .info,
      [("message", "Interface for table ItemReader created successfully (1 accessors)")]⟩]

def gradedColor : Shown :=
  ⟨some "reader_interface", .info,
    [("table", "Color"), ("application", "store"), ("kind", "reader interface")]⟩

/-- The field without an accessor is told of where it is left out, and ends the log where it is
refused. -/
theorem graded_log :
    (generate {} graded).log.map Entry.shown =
      gradedItem ++ [gradedColor,
        ⟨none, .debug, [("field", "grades"), ("token", "Grade"),
          ("message", "unresolved field type skipped")]⟩,
        ⟨none, .info,
          [("message", "Interface for table ColorReader created successfully (0 accessors)")]⟩,
        ⟨none, .info, [("message", "Generated 2 reader interfaces for application store")]⟩] ∧
    (generate { unresolved := .refuse } graded).log.map Entry.shown =
      gradedItem ++ [gradedColor,
        ⟨none, .error, [("message", "Interface for table ColorReader failed: " ++
          "unresolved type 'Grade' in field 'Color.grades'")]⟩] := by
  constructor
  · obtain ⟨files, generated⟩ := exists_of_isOk
      (by decide +kernel : (generate {} graded).result.isOk = true)
    obtain ⟨log, all⟩ := (generate_log {} graded).2.1 files generated
    have two : files.length = 2 := all.length_eq.symm
    rw [log, two]
    decide +kernel
  · have checked : graded.check = .ok () := eq_ok_of_toOption (by decide +kernel)
    have fault : firstFault? { unresolved := .refuse } graded =
        some (.noAccessor "Color" "grades" "Grade") := by
      decide +kernel
    have failed : (generate { unresolved := .refuse } graded).result =
        .error (.noAccessor "Color" "grades" "Grade") := by
      rw [generate_checked checked, fault]
      rfl
    obtain ⟨earlier, table, later, before, field, after, tables, fields, _, _, stops, log⟩ :=
      (generate_log { unresolved := .refuse } graded).2.2 _ checked failed
    rw [← Interface.fault?_eq_some_iff] at stops
    rw [log]
    -- Both tables have one field, so there are two places to stop at.
    match earlier, before, tables, fields with
    | [], [], tables, fields =>
        cases tables
        cases fields
        exact absurd stops (by decide +kernel)
    | [_], [], tables, fields =>
        cases tables
        decide +kernel
    | [], _ :: _, tables, fields =>
        cases tables
        simp at fields
    | [_], _ :: _, tables, fields =>
        cases tables
        simp at fields
    | _ :: _ :: _, _, tables, fields =>
        simp [graded, Application.declareTable, Application.declareEnumeration] at tables

end Application

end TableReaders.Package
