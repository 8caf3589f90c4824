import TableReaders.Proofs.Package.Composition
import TableReaders.Proofs.Package.Generation

/-!
How generating a whole application ends. An application that came about by declaring answers every
token that is a name, so a token can be wrong in two ways only: it is no name, or, where every field
needs an accessor, it names nothing that has one. The first such field, table by table, decides the
error; without one there is a file for every table. A table that is asked for by its name then gives
what its file holds behind the package clause.
-/

namespace TableReaders.Package

open Schema

section References

/-- The token of a field that has to be looked up: that of a vector's items or that of the field
itself, unless it is text. -/
def reference? (field : Schema.Field) : Option String :=
  if field.type = textToken then none
  else if field.type = vectorToken then
    field.items.filter fun token => token ≠ "" ∧ token ≠ textToken
  else some field.type

def Accessor.ofReference (field : Schema.Field) (target : Target) : Option Accessor :=
  if field.holdsVector then ofItems target else ofTarget target

variable {resolve : Resolver} {asked token : String} {field : Schema.Field}

theorem ofField_plain (complete : field.Accepted) (plain : reference? field = none) :
    ∃ accessor, Accessor.ofField asked field resolve = .ok (some accessor) := by
  unfold reference? at plain
  unfold Accessor.ofField
  by_cases text : field.type = textToken
  · exact ⟨.text, if_pos text⟩
  · rw [if_neg text] at plain ⊢
    by_cases vector : field.type = vectorToken
    · rw [if_pos vector] at plain ⊢
      obtain ⟨items, given, filled⟩ := complete.items vector
      rw [given, Option.filter_eq_none_iff] at plain
      have texts : items = textToken := by simpa [filled] using plain
      exact ⟨.textVector, by rw [Field.itemToken?_eq_some.mpr ⟨given, filled⟩]; exact if_pos texts⟩
    · rw [if_neg vector] at plain
      cases plain

theorem ofField_reference (refers : reference? field = some token) :
    Accessor.ofField asked field resolve = Accessor.ofReference field <$> resolve asked token ∧
      field.token = token := by
  unfold reference? at refers
  unfold Accessor.ofField Accessor.ofReference Field.token Field.holdsVector
  by_cases text : field.type = textToken
  · rw [if_pos text] at refers
    cases refers
  · rw [if_neg text] at refers ⊢
    by_cases vector : field.type = vectorToken
    · rw [if_pos vector] at refers ⊢
      obtain ⟨given, apart⟩ := Option.filter_eq_some_iff.mp refers
      obtain ⟨filled, other⟩ := of_decide_eq_true apart
      simp only [vector, Field.itemToken?_eq_some.mpr ⟨given, filled⟩, BEq.rfl, if_true]
      exact ⟨if_neg other, rfl⟩
    · rw [if_neg vector] at refers ⊢
      cases refers
      have scalar : (field.type == vectorToken) = false := beq_false_of_ne vector
      simp only [scalar]
      exact ⟨rfl, rfl⟩

end References

section Offences

variable (settings : Settings) (application : Application)

/-- The token names something that the field can have an accessor for: a table or, outside a vector,
a group. -/
def Accessible (field : Schema.Field) (token : String) : Prop :=
  application.NamesTable token ∨ field.holdsVector = false ∧ application.NamesGroup token

instance (field : Schema.Field) (token : String) : Decidable (Accessible application field token) :=
  inferInstanceAs (Decidable (_ ∨ _))

def Resolvable (field : Schema.Field) : Prop :=
  ∀ token, reference? field = some token →
    Application.IsName token ∧ (settings.unresolved = .refuse → Accessible application field token)

instance (field : Schema.Field) : Decidable (Resolvable settings application field) :=
  inferInstanceAs (Decidable (∀ token ∈ reference? field, Application.IsName token ∧
    (settings.unresolved = .refuse → Accessible application field token)))

inductive Offends (table : Table) (field : Schema.Field) : GenerateError → Prop where
  | notAName {token : String} (refers : reference? field = some token)
      (malformed : ¬Application.IsName token) : Offends table field (.resolve (.notAName token))
  | unresolved {token : String} (refers : reference? field = some token)
      (proper : Application.IsName token) (refused : settings.unresolved = .refuse)
      (unnamed : ¬Accessible application field token) :
      Offends table field (.noAccessor table.name field.name token)

/-- The error of the first field, table by table and in each field by field, whose token is not in
order. -/
def FirstOffence (error : GenerateError) : Prop :=
  ∃ earlier table later, application.tables = earlier ++ table :: later ∧
    (∃ before field after, table.fields = before ++ field :: after ∧
      Offends settings application table field error ∧
        ∀ other ∈ before, Resolvable settings application other) ∧
    ∀ other ∈ earlier, ∀ field ∈ other.fields, Resolvable settings application field

variable {settings application} {table : Table} {field : Schema.Field} {token : String}

/-- Every target but the unknown one has an accessor, a group however only outside a vector. -/
theorem ofReference_isSome (declared : application.Declared) :
    (Accessor.ofReference field (application.target token)).isSome = true ↔
      Accessible application field token := by
  unfold Accessor.ofReference Accessible
  rcases declared.target_cases token with ⟨table, target⟩ | ⟨table, group, parent, target⟩ |
    ⟨table, group, target⟩
  all_goals
    rw [target]
    cases field.holdsVector <;> simp [Accessor.ofItems, Accessor.ofTarget, *]

theorem resolve_own (application : Application) (token : String) :
    application.resolve application.name token =
      if Application.IsName token then .ok (application.target token)
      else .error (.notAName token) := by
  simp [Application.resolve, Application.wellFormedToken_iff]

/-- A field either needs no look-up, or its token is no name, or the application says what it names.
The application is asked under its own name, since its tables belong to it. -/
theorem ofField_cases (declared : application.Declared) (accepted : application.Accepted)
    (member : table ∈ application.tables) (listed : field ∈ table.fields) :
    (reference? field = none ∧
      ∃ accessor, Accessor.ofField table.application field application.resolve =
        .ok (some accessor)) ∨
    ∃ token, reference? field = some token ∧ field.token = token ∧
      (¬Application.IsName token ∧
        Accessor.ofField table.application field application.resolve = .error (.notAName token) ∨
      Application.IsName token ∧
        ∃ found, Accessor.ofField table.application field application.resolve = .ok found ∧
          (found.isSome = true ↔ Accessible application field token)) := by
  rw [declared.complete.owned table member]
  cases refers : reference? field with
  | none =>
      exact .inl ⟨rfl, ofField_plain ((accepted.tables table member).2.fields field listed) refers⟩
  | some token =>
      obtain ⟨classified, same⟩ := ofField_reference refers
      refine .inr ⟨token, rfl, same, ?_⟩
      rw [classified, resolve_own]
      by_cases proper : Application.IsName token
      · rw [if_pos proper]
        exact .inr ⟨proper, _, rfl, ofReference_isSome declared⟩
      · rw [if_neg proper]
        exact .inl ⟨proper, rfl⟩

theorem passes_iff_resolvable (declared : application.Declared) (accepted : application.Accepted)
    (member : table ∈ application.tables) (listed : field ∈ table.fields) :
    Interface.Passes settings application.resolve table field ↔
      Resolvable settings application field := by
  unfold Interface.Passes Resolvable
  rcases ofField_cases declared accepted member listed with ⟨plain, accessor, found⟩ |
    ⟨token, refers, _, ⟨malformed, answer⟩ | ⟨proper, found, answer, names⟩⟩
  · simp [plain, found]
  · simp [refers, answer, malformed]
  · simp [refers, answer, proper, ← names]

theorem stops_iff_offends (declared : application.Declared) (accepted : application.Accepted)
    (member : table ∈ application.tables) (listed : field ∈ table.fields) (error : GenerateError) :
    Interface.Stops settings application.resolve table field error ↔
      Offends settings application table field error := by
  rcases ofField_cases declared accepted member listed with ⟨plain, accessor, found⟩ |
    ⟨token, refers, same, ⟨malformed, failed⟩ | ⟨proper, found, given, names⟩⟩
  · constructor
    · rintro (⟨answer⟩ | ⟨nothing, _⟩)
      · cases found.symm.trans answer
      · cases found.symm.trans nothing
    · rintro (⟨refers, _⟩ | ⟨refers, _⟩)
      · cases plain.symm.trans refers
      · cases plain.symm.trans refers
  · constructor
    · rintro (⟨answer⟩ | ⟨nothing, _⟩)
      · cases failed.symm.trans answer
        exact .notAName refers malformed
      · cases failed.symm.trans nothing
    · rintro (⟨again, _⟩ | ⟨again, proper, _⟩)
      · cases refers.symm.trans again
        exact .unanswered failed
      · cases refers.symm.trans again
        exact absurd proper malformed
  · constructor
    · rintro (⟨answer⟩ | ⟨nothing, refused⟩)
      · cases given.symm.trans answer
      · cases given.symm.trans nothing
        rw [same]
        exact .unresolved refers proper refused (mt names.mpr (by simp))
    · rintro (⟨again, malformed⟩ | ⟨again, _, refused, unnamed⟩)
      · cases refers.symm.trans again
        exact absurd proper malformed
      · cases refers.symm.trans again
        have nothing : found = none := Option.not_isSome_iff_eq_none.mp (mt names.mp unnamed)
        rw [nothing] at given
        rw [← same]
        exact .unresolved given refused

end Offences

section Files

variable (settings : Settings) (application : Application)

def File.composed (table : Table) : File where
  table := table.name
  name := File.nameFor settings table
  contents := "package " ++ settings.packageFor application.name ++ "\n\n" ++
    Interface.text settings application.resolve table

def firstFault? : Option GenerateError :=
  application.tables.findSome? fun table =>
    table.fields.findSome? (Interface.fault? settings application.resolve table)

theorem ofTable_result (table : Table) :
    (File.ofTable settings application table).result =
      unlessFault (table.fields.findSome? (Interface.fault? settings application.resolve table))
        (File.composed settings application table) := by
  rw [File.ofTable, Traced.result_bind, Interface.render_result]
  cases table.fields.findSome? (Interface.fault? settings application.resolve table) <;> rfl

theorem tables_result :
    (application.tables.mapM (File.ofTable settings application)).result =
      unlessFault (firstFault? settings application)
        (application.tables.map (File.composed settings application)) := by
  rw [Traced.result_mapM, mapM_unlessFault (ofTable_result settings application)]
  rfl

variable {settings application}

theorem generate_refused {cause : CheckError} (refused : application.check = .error cause) :
    (generate settings application).result = .error (.schema cause) := by
  rw [generate, Traced.result_bind, Traced.result_silent, refused]
  rfl

theorem generate_checked (checked : application.check = .ok ()) :
    (generate settings application).result =
      unlessFault (firstFault? settings application)
        (application.tables.map (File.composed settings application)) := by
  rw [generate, Traced.result_bind, Traced.result_silent, checked]
  change (application.tables.mapM (File.ofTable settings application) >>= _).result = _
  rw [Traced.result_bind, tables_result]
  cases firstFault? settings application <;> rfl

theorem generate_eq_composed {files : List File} :
    (generate settings application).result = .ok files ↔
      application.check = .ok () ∧ firstFault? settings application = none ∧
        files = application.tables.map (File.composed settings application) := by
  cases check : application.check with
  | error cause => simp [generate_refused check]
  | ok _ =>
      rw [generate_checked check, unlessFault_eq_ok]
      simp [eq_comm (a := files)]

theorem firstFault?_eq_none_iff (declared : application.Declared)
    (accepted : application.Accepted) :
    firstFault? settings application = none ↔
      ∀ table ∈ application.tables, ∀ field ∈ table.fields,
        Resolvable settings application field := by
  unfold firstFault?
  simp only [List.findSome?_eq_none_iff, Interface.fault?_eq_none_iff]
  exact forall₂_congr fun table member => forall₂_congr fun field listed =>
    passes_iff_resolvable declared accepted member listed

theorem firstFault?_eq_some_iff (declared : application.Declared) (accepted : application.Accepted)
    (error : GenerateError) :
    firstFault? settings application = some error ↔ FirstOffence settings application error := by
  unfold firstFault? FirstOffence
  simp only [List.findSome?_eq_some_iff, List.findSome?_eq_none_iff, Interface.fault?_eq_none_iff,
    Interface.fault?_eq_some_iff]
  refine exists₃_congr fun earlier table later => and_congr_right fun tables => ?_
  have member : table ∈ application.tables := by simp [tables]
  apply and_congr
  · refine exists₃_congr fun before field after => and_congr_right fun fields => ?_
    apply and_congr
    · exact stops_iff_offends declared accepted member (by simp [fields]) error
    · exact forall₂_congr fun other listed =>
        passes_iff_resolvable declared accepted member (by simp [fields, listed])
  · exact forall₂_congr fun other among => forall₂_congr fun field listed =>
      passes_iff_resolvable declared accepted (by simp [tables, among]) listed

theorem FirstOffence.name_or_accessor {error : GenerateError}
    (first : FirstOffence settings application error) :
    (∃ token, error = .resolve (.notAName token)) ∨
      ∃ table field token, error = .noAccessor table field token := by
  obtain ⟨_, _, _, _, ⟨_, _, _, _, offends, _⟩, _⟩ := first
  cases offends with
  | notAName _ _ => exact .inl ⟨_, rfl⟩
  | unresolved _ _ _ _ => exact .inr ⟨_, _, _, rfl⟩

theorem generate_isOk_iff (declared : application.Declared) :
    (∃ files, (generate settings application).result = .ok files) ↔
      application.check = .ok () ∧
        ∀ table ∈ application.tables, ∀ field ∈ table.fields,
          Resolvable settings application field := by
  simp only [generate_eq_composed, exists_and_left, exists_eq, and_true]
  apply and_congr_right
  intro checked
  exact firstFault?_eq_none_iff declared ((Application.check_eq_ok application).mp checked)

theorem generate_eq_error_iff (declared : application.Declared) (error : GenerateError) :
    (generate settings application).result = .error error ↔
      (∃ cause, application.check = .error cause ∧ error = .schema cause) ∨
        application.check = .ok () ∧ FirstOffence settings application error := by
  cases check : application.check with
  | error cause => simp [generate_refused check, eq_comm]
  | ok _ =>
      have accepted := (Application.check_eq_ok application).mp check
      simp [generate_checked check, unlessFault_eq_error, firstFault?_eq_some_iff declared accepted]

theorem declared_of_origin
    (origin : application.Declared ∨ ∃ text, Application.ofDocument text = .ok application) :
    application.Declared := by
  rcases origin with declared | ⟨text, read⟩
  · exact declared
  · exact Application.ofDocument_declared read

/-- Generating succeeds exactly if the check accepts the application and every token is in order.
Otherwise the check's error is reported or that of the first field, and no look-up goes to another
application. -/
theorem generate_verdict
    (origin : application.Declared ∨ ∃ text, Application.ofDocument text = .ok application) :
    ((∃ files, (generate settings application).result = .ok files) ↔
      application.check = .ok () ∧
        ∀ table ∈ application.tables, ∀ field ∈ table.fields,
          Resolvable settings application field) ∧
    (∀ error, (generate settings application).result = .error error ↔
      (∃ cause, application.check = .error cause ∧ error = .schema cause) ∨
        application.check = .ok () ∧ FirstOffence settings application error) ∧
    (∀ error, (generate settings application).result = .error error →
      error ≠ .render ∧ (∀ other, error ≠ .resolve (.otherApplication other)) ∧
        ∀ reason, error ≠ .resolve (.unreachable reason)) ∧
    ∀ files, (generate settings application).result = .ok files →
      files.map (·.table) = application.tables.map (·.name) := by
  have declared := declared_of_origin origin
  refine ⟨generate_isOk_iff declared, generate_eq_error_iff declared, ?_, ?_⟩
  · intro error failed
    rcases (generate_eq_error_iff declared error).mp failed with ⟨cause, _, rfl⟩ | ⟨_, first⟩
    · simp
    · rcases first.name_or_accessor with ⟨token, rfl⟩ | ⟨table, field, token, rfl⟩ <;> simp
  · intro files generated
    obtain ⟨_, _, rfl⟩ := generate_eq_composed.mp generated
    simp [File.composed]

def graded : Application :=
  ((Application.declareTable { name := "store" } {
      name := "Item", application := "store", fields := [.text "sku"] }).declareTable
    { name := "Color", application := "store",
      fields := [.vector "grades" "Grade"] }).declareEnumeration
    { name := "Condition", groups := [{ name := "Grade" }] }

theorem graded_declared : graded.Declared :=
  .enumeration (.table (.table (.named _) _) _) _

/-- A vector of groups has no accessor: the field is left out, or it is the one that is reported. -/
theorem graded_verdict :
    (∃ files, (generate {} graded).result = .ok files ∧ files.map (·.table) = ["Item", "Color"]) ∧
      (generate { unresolved := .refuse } graded).result =
        .error (.noAccessor "Color" "grades" "Grade") := by
  have checked : graded.check = .ok () := eq_ok_of_toOption (by decide +kernel)
  constructor
  · obtain ⟨succeeds, _, _, named⟩ := @generate_verdict {} graded (.inl graded_declared)
    obtain ⟨files, generated⟩ := succeeds.mpr ⟨checked, by decide +kernel⟩
    exact ⟨files, generated, named files generated⟩
  · have refers : reference? (.vector "grades" "Grade") = some "Grade" := by decide
    have fails := (@generate_verdict { unresolved := .refuse } graded (.inl graded_declared)).2.1
    refine (fails _).mpr (.inr ⟨checked, [_], _, [], rfl, ⟨[], _, [], rfl, ?_, by simp⟩, ?_⟩)
    · exact .unresolved refers (by decide) rfl (by decide)
    · decide

end Files

section Single

variable {settings : Settings} {application : Application}

theorem renderTable_of_mem (declared : application.Declared) (checked : application.check = .ok ())
    {table : Table} (member : table ∈ application.tables) :
    (renderTable settings application table.name).result =
      (Interface.render settings application.resolve table).result := by
  -- The index leads to the table that the run over the list came to: the names are distinct.
  have accepted := (Application.check_eq_ok application).mp checked
  have distinct : (application.tables.map (·.name)).Nodup :=
    (List.nodup_append'.mp (List.nodup_append'.mp accepted.distinct).1).1
  rw [renderTable, declared.table?_of_mem distinct member]

/-- A table by itself gives the text that its file has behind the package clause, and a name that no
table has is reported as such. -/
theorem renderTable_agrees
    (origin : application.Declared ∨ ∃ text, Application.ofDocument text = .ok application) :
    (∀ files, (generate settings application).result = .ok files →
      List.Forall₂ (fun table file => file.table = table.name ∧
        ∃ body, (renderTable settings application file.table).result = .ok body ∧
          file.contents = "package " ++ settings.packageFor application.name ++ "\n\n" ++ body)
        application.tables files) ∧
    ∀ name, (∀ table ∈ application.tables, table.name ≠ name) →
      (renderTable settings application name).result = .error (.schema (.noSuchTable name)) := by
  have declared := declared_of_origin origin
  constructor
  · intro files generated
    obtain ⟨checked, clear, rfl⟩ := generate_eq_composed.mp generated
    rw [List.forall₂_map_right_iff, List.forall₂_same]
    intro table member
    have passed := List.findSome?_eq_none_iff.mp clear table member
    refine ⟨rfl, Interface.text settings application.resolve table, ?_, rfl⟩
    change (renderTable settings application table.name).result = _
    rw [renderTable_of_mem declared checked member, Interface.render_result, passed]
    rfl
  · intro name missing
    have unnamed : ¬application.NamesTable name := by
      rintro ⟨table, member, named⟩
      exact missing table member named
    rw [renderTable, declared.table?_eq_none unnamed]
    rfl

/-- A group is no table, so there is no text for its name. -/
theorem graded_agrees :
    (∃ files, (generate {} graded).result = .ok files ∧
      List.Forall₂ (fun table file => file.table = table.name ∧
        ∃ body, (renderTable {} graded file.table).result = .ok body ∧
          file.contents = "package " ++ "store" ++ "\n\n" ++ body) graded.tables files) ∧
      (renderTable {} graded "Grade").result = .error (.schema (.noSuchTable "Grade")) := by
  have package : Settings.packageFor {} graded.name = "store" := by decide +kernel
  obtain ⟨files, generated⟩ := exists_of_isOk
    (by decide +kernel : (generate {} graded).result.isOk = true)
  obtain ⟨agree, missing⟩ := @renderTable_agrees {} graded (.inl graded_declared)
  rw [package] at agree
  exact ⟨⟨files, generated, agree files generated⟩, missing "Grade" (by decide)⟩

end Single

end TableReaders.Package
