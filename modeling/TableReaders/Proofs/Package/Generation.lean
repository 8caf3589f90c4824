import TableReaders.Package.File
import TableReaders.Proofs.Identifier
import TableReaders.Proofs.Outcome
import TableReaders.Proofs.Schema.Accepted
import TableReaders.Proofs.Schema.Registry

/-!
What a run that generated files went through. The application passed its check, every table was
passed over field by field, and each field either had an accessor that was written or was left out
where that is allowed. What an accessor refers to is read off the token that was looked up for it:
the application's name before the last slash never reaches the text.
-/

namespace TableReaders.Package

open Schema

section Fields

variable {settings : Settings} {resolve : Resolver} {table : Table} {field : Schema.Field}
  {draft next : Draft} {asked : String} {accessor : Accessor}

theorem Interface.step_eq_ok :
    (step settings resolve table draft field).result = .ok next ↔
      (∃ accessor, Accessor.ofField table.application field resolve = .ok (some accessor) ∧
        next = draft.push settings field accessor) ∨
      Accessor.ofField table.application field resolve = .ok none ∧ settings.unresolved = .skip ∧
        next = draft := by
  unfold step
  cases Accessor.ofField table.application field resolve with
  | error cause => simp
  | ok found =>
      cases found with
      | some accessor => simp [eq_comm]
      | none => cases settings.unresolved <;> simp [eq_comm]

theorem Interface.pass_eq_ok {finish : Draft} :
    (pass settings resolve table).result = .ok finish ↔
      table.fields.foldlM (fun draft field => (step settings resolve table draft field).result)
        (Draft.begin table) = .ok finish := by
  rw [pass, Traced.result_foldlM]

/-- What stands behind an accessor: the answer to the look-up that it was made from. -/
def Accessor.Answers (resolve : Resolver) (asked : String) (field : Schema.Field) : Accessor → Prop
  | .text | .textVector => True
  | .rowVector table =>
      ∃ token id, resolve asked token = .ok (.table id) ∧ table = Identifier.lastSegment id
  | .row table => ∃ id, resolve asked field.type = .ok (.table id) ∧
      table = Identifier.lastSegment id
  | .enumeration name =>
      ∃ id parent, resolve asked field.type = .ok (.group id parent) ∧
        name = Identifier.lastSegment parent

theorem Accessor.answers_of_ofField (found : ofField asked field resolve = .ok (some accessor)) :
    accessor.Answers resolve asked field := by
  unfold ofField at found
  split at found
  · cases found
    trivial
  · split at found
    · -- A vector: the token of its items is looked up, unless they are text.
      split at found
      next => cases found
      next items _ =>
        split at found
        · cases found
          trivial
        · obtain ⟨target, answer, made⟩ := map_eq_ok.mp found
          cases target with
          | table id =>
              cases made
              exact ⟨items, id, answer, rfl⟩
          | group id parent => cases made
          | unknown => cases made
    · obtain ⟨target, answer, made⟩ := map_eq_ok.mp found
      cases target with
      | table id =>
          cases made
          exact ⟨id, answer, rfl⟩
      | group id parent =>
          cases made
          exact ⟨id, parent, answer, rfl⟩
      | unknown => cases made

end Fields

section Names

variable {application : Application} {asked token id parent : String}

theorem lastSegment_of_table (answer : application.resolve asked token = .ok (.table id)) :
    Identifier.lastSegment id = token := by
  -- A token has no slash, so the last segment of what identifies its table is the token again.
  obtain ⟨_, proper, names⟩ := Application.resolve_eq_ok.mp answer
  rw [(Application.target_eq_table names).1]
  exact Identifier.lastSegment_qualified _ _ (Application.slash_not_mem_token proper)

theorem lastSegment_of_group (accepted : application.Accepted)
    (answer : application.resolve asked token = .ok (.group id parent)) :
    ∃ enumeration ∈ application.enumerations, Identifier.lastSegment parent = enumeration.name := by
  obtain ⟨_, _, names⟩ := Application.resolve_eq_ok.mp answer
  obtain ⟨position, enumeration, _, placed, owner⟩ := Application.target_eq_group names
  have member := List.mem_of_getElem? placed
  have plain := Identifier.slash_not_mem_of_valid (accepted.enumerations enumeration member)
  exact ⟨enumeration, member, by rw [owner]; exact Identifier.lastSegment_qualified _ _ plain⟩

end Names

section Files

variable {settings : Settings} {application : Application} {table : Table} {file : File}
  {files : List File}

def File.ofDraft (settings : Settings) (application : Application) (table : Table) (draft : Draft) :
    File where
  table := table.name
  name := File.nameFor settings table
  contents := "package " ++ settings.packageFor application.name ++ "\n\n" ++ draft.finish table

theorem File.ofTable_eq_ok :
    (File.ofTable settings application table).result = .ok file ↔
      ∃ draft, (Interface.pass settings application.resolve table).result = .ok draft ∧
        file = File.ofDraft settings application table draft := by
  simp only [File.ofTable, Traced.result_bind, Interface.render, bind_eq_ok, map_eq_ok,
    Traced.result_pure, Except.ok.injEq]
  constructor
  · rintro ⟨body, ⟨draft, passed, finished⟩, made⟩
    exact ⟨draft, passed, by rw [← made, ← finished]; rfl⟩
  · rintro ⟨draft, passed, made⟩
    exact ⟨_, ⟨draft, passed, rfl⟩, made.symm⟩

theorem generate_eq_ok :
    (generate settings application).result = .ok files ↔
      application.Accepted ∧
        List.Forall₂ (fun table file => (File.ofTable settings application table).result = .ok file)
          application.tables files := by
  simp only [generate, Traced.result_bind, Traced.result_silent, Traced.result_mapM, bind_eq_ok,
    mapError_eq_ok, mapM_eq_ok, Traced.result_tell, Traced.result_pure, Except.ok.injEq]
  rw [← Application.check_eq_ok]
  constructor
  · rintro ⟨_, checked, made, all, _, _, same⟩
    subst same
    exact ⟨checked, all⟩
  · rintro ⟨checked, all⟩
    exact ⟨(), checked, files, all, (), trivial, rfl⟩

end Files

end TableReaders.Package
