import Mathlib.Data.List.Nodup
import Mathlib.Data.List.Pairwise
import TableReaders.Proofs.Package.Declarations

/-!
The interfaces of a whole package. Every interface that an accessor returns is declared in some file
of the package, and every enumeration that an accessor returns is one of the application that owns
the group asked for. Whether an interface is declared once only is decided by the exported names of
the tables: two tables with one exported name share both interfaces, and a table may take the name
of another's vector interface.
-/

namespace TableReaders.Package

open Schema

section References

variable {settings : Settings} {application : Application} {files : List File} {table : Table}

/-- What an accessor returns is there: an interface in one of the files, or an enumeration of the
application with the group that the field asks for. -/
def Accessor.Supplied (application : Application) (files : List File) (field : Schema.Field) :
    Accessor → Prop
  | .text | .textVector => True
  | .rowVector table => ∃ file ∈ files, Identifier.vectorInterface table ∈ file.interfaces
  | .row table => ∃ file ∈ files, Identifier.rowInterface table ∈ file.interfaces
  | .enumeration name =>
      ∃ enumeration ∈ application.enumerations, enumeration.name = name ∧
        ∃ group ∈ enumeration.groups, group.name = field.type

theorem generated_interfaces (generated : (generate settings application).result = .ok files)
    (member : table ∈ application.tables) :
    ∃ file ∈ files, Identifier.rowInterface table.name ∈ file.interfaces ∧
      Identifier.vectorInterface table.name ∈ file.interfaces := by
  -- Acceptance puts the name of a table on one line, and then both of its interfaces are in its
  -- file.
  obtain ⟨accepted, all⟩ := generate_eq_ok.mp generated
  obtain ⟨file, written, made⟩ := exists_of_forall₂ all member
  have single := Identifier.feed_not_mem_of_valid (accepted.tables table member).2.identifier
  have both := interfaces_sublist single made
  exact ⟨file, written, both.subset (by simp), both.subset (by simp)⟩

theorem interfaces_of_answer (indexed : application.Indexed)
    (generated : (generate settings application).result = .ok files) {asked token id : String}
    (answer : application.resolve asked token = .ok (.table id)) :
    ∃ file ∈ files, Identifier.rowInterface (Identifier.lastSegment id) ∈ file.interfaces ∧
      Identifier.vectorInterface (Identifier.lastSegment id) ∈ file.interfaces := by
  obtain ⟨_, _, names⟩ := Application.resolve_eq_ok.mp answer
  obtain ⟨table, member, named⟩ := indexed.table_of_target names
  rw [lastSegment_of_table answer, ← named]
  exact generated_interfaces generated member

theorem enumeration_of_answer (indexed : application.Indexed) (accepted : application.Accepted)
    {asked token id parent : String}
    (answer : application.resolve asked token = .ok (.group id parent)) :
    ∃ enumeration ∈ application.enumerations, enumeration.name = Identifier.lastSegment parent ∧
      ∃ group ∈ enumeration.groups, group.name = token := by
  obtain ⟨_, _, names⟩ := Application.resolve_eq_ok.mp answer
  obtain ⟨enumeration, member, owner, owns⟩ := indexed.enumeration_of_target names
  have plain := Identifier.slash_not_mem_of_valid (accepted.enumerations enumeration member)
  refine ⟨enumeration, member, ?_, owns⟩
  rw [owner]
  exact (Identifier.lastSegment_qualified _ _ plain).symm

theorem supplied_of_found (indexed : application.Indexed)
    (generated : (generate settings application).result = .ok files) {asked : String}
    {field : Schema.Field} {accessor : Accessor}
    (found : Accessor.ofField asked field application.resolve = .ok (some accessor)) :
    accessor.Supplied application files field := by
  -- The token of a reference is looked up in the indexes, and what is found there was declared.
  have answers := Accessor.answers_of_ofField found
  cases accessor with
  | text => trivial
  | textVector => trivial
  | rowVector name =>
      obtain ⟨token, id, answer, same⟩ := answers
      obtain ⟨file, written, _, vector⟩ := interfaces_of_answer indexed generated answer
      exact ⟨file, written, same ▸ vector⟩
  | row name =>
      obtain ⟨id, answer, same⟩ := answers
      obtain ⟨file, written, row, _⟩ := interfaces_of_answer indexed generated answer
      exact ⟨file, written, same ▸ row⟩
  | enumeration name =>
      obtain ⟨id, parent, answer, same⟩ := answers
      rw [same]
      exact enumeration_of_answer indexed (generate_eq_ok.mp generated).1 answer

/-- No accessor of a generated package refers to something that is missing, whatever the settings
and however the application is called. -/
theorem accessors_supplied
    (origin : application.Declared ∨ ∃ text, Application.ofDocument text = .ok application)
    (generated : (generate settings application).result = .ok files) :
    ∀ table ∈ application.tables, ∀ field ∈ table.fields, ∀ accessor,
      Accessor.ofField table.application field application.resolve = .ok (some accessor) →
        accessor.Supplied application files field := by
  have declared : application.Declared := by
    rcases origin with declared | ⟨text, read⟩
    · exact declared
    · exact Application.ofDocument_declared read
  intro table _ field _ accessor found
  exact supplied_of_found declared.indexed generated found

def shop : Application :=
  ((Application.declareTable { name := "web/shop" } {
      name := "Item", application := "web/shop"
      fields := [{ name := "color", type := "Color" }, .vector "shades" "Color",
        { name := "condition", type := "ItemCondition" }] }).declareTable
    { name := "Color", application := "web/shop", fields := [.text "name"] }).declareEnumeration
    { name := "Condition", groups := [{ name := "ItemCondition", items := ["new"] }] }

theorem shop_supplied :
    ∃ files, (generate {} shop).result = .ok files ∧
      (Accessor.row "Color").Supplied shop files { name := "color", type := "Color" } ∧
      (Accessor.rowVector "Color").Supplied shop files (.vector "shades" "Color") ∧
      (Accessor.enumeration "Condition").Supplied shop files
        { name := "condition", type := "ItemCondition" } := by
  obtain ⟨files, generated⟩ := exists_of_isOk
    (by decide +kernel : (generate {} shop).result.isOk = true)
  have declared : shop.Declared := .enumeration (.table (.table (.named _) _) _) _
  have supplied := accessors_supplied (.inl declared) generated _ List.mem_cons_self
  exact ⟨files, generated, supplied _ (by decide) _ rfl, supplied _ (by decide) _ rfl,
    supplied _ (by decide) _ rfl⟩

end References

section Names

def tableInterfaces (table : Table) : List String :=
  [Identifier.rowInterface table.name, Identifier.vectorInterface table.name]

variable {first second : Table} {tables : List Table}

theorem exported_ne_vector (name : String) :
    Identifier.exported name ≠ "Vector" ++ Identifier.exported name := by
  intro same
  have long := congrArg String.length same
  rw [String.length_append] at long
  have six : "Vector".length = 6 := by decide
  omega

theorem tableInterfaces_nodup (table : Table) : (tableInterfaces table).Nodup := by
  rw [tableInterfaces, List.nodup_cons, List.mem_singleton,
    Identifier.rowInterface_eq_vectorInterface_iff]
  exact ⟨exported_ne_vector table.name, List.nodup_singleton _⟩

/-- The exported name of the first table is that of the second behind the word for vectors, so that
its row interface has the name of the other's vector interface. -/
def TakesVector (first second : Table) : Prop :=
  Identifier.exported first.name = "Vector" ++ Identifier.exported second.name

theorem tableInterfaces_disjoint :
    (tableInterfaces first).Disjoint (tableInterfaces second) ↔
      Identifier.exported first.name ≠ Identifier.exported second.name ∧
        ¬TakesVector first second ∧ ¬TakesVector second first := by
  have crossed : Identifier.vectorInterface first.name = Identifier.rowInterface second.name ↔
      TakesVector second first :=
    eq_comm.trans Identifier.rowInterface_eq_vectorInterface_iff
  simp only [tableInterfaces, List.disjoint_cons_left, List.mem_cons, List.not_mem_nil, or_false,
    List.disjoint_nil_left, and_true, Identifier.rowInterface_eq_iff,
    Identifier.vectorInterface_eq_iff, Identifier.rowInterface_eq_vectorInterface_iff, crossed,
    TakesVector]
  tauto

theorem takesVector_pairwise :
    tables.Pairwise (fun first second => ¬TakesVector first second ∧ ¬TakesVector second first) ↔
      ∀ first ∈ tables, ∀ second ∈ tables, ¬TakesVector first second := by
  -- A table never takes the name of its own vector interface, so to compare each with those after
  -- it is to compare every two.
  constructor
  · intro apart
    have symmetric : Std.Symm fun first second : Table =>
        ¬TakesVector first second ∧ ¬TakesVector second first := ⟨fun _ _ both => both.symm⟩
    have every := apart.forall_of_forall fun table _ =>
      ⟨exported_ne_vector table.name, exported_ne_vector table.name⟩
    intro first one second other
    exact (every one other).1
  · intro every
    apply List.pairwise_of_forall_mem_list
    intro first one second other
    exact ⟨every first one second other, every second other first one⟩

theorem interfaces_nodup_iff :
    (tables.flatMap tableInterfaces).Nodup ↔
      (tables.map fun table => Identifier.exported table.name).Nodup ∧
        ∀ first ∈ tables, ∀ second ∈ tables, ¬TakesVector first second := by
  have disjoint : (Function.onFun List.Disjoint tableInterfaces) = fun first second : Table =>
      Identifier.exported first.name ≠ Identifier.exported second.name ∧
        ¬TakesVector first second ∧ ¬TakesVector second first := by
    funext first second
    exact propext tableInterfaces_disjoint
  -- The names of one table never collide, so only those of two tables are left to compare.
  rw [List.nodup_flatMap, disjoint, List.pairwise_and_iff, takesVector_pairwise,
    List.nodup_iff_pairwise_ne, List.pairwise_map]
  exact and_iff_right fun table _ => tableInterfaces_nodup table

variable {settings : Settings} {application : Application} {files : List File}

theorem generated_sublist (generated : (generate settings application).result = .ok files) :
    (application.tables.flatMap tableInterfaces).Sublist (files.flatMap File.interfaces) := by
  obtain ⟨accepted, all⟩ := generate_eq_ok.mp generated
  apply flatMap_sublist
  apply ((List.forall₂_and_left _ _).mpr ⟨accepted.tables, all⟩).imp
  rintro table file ⟨⟨_, sound⟩, made⟩
  exact interfaces_sublist (Identifier.feed_not_mem_of_valid sound.identifier) made

theorem generated_exact (generated : (generate settings application).result = .ok files)
    (packaged : SingleLine settings.vectorPackage) :
    files.flatMap File.interfaces = application.tables.flatMap tableInterfaces := by
  obtain ⟨accepted, all⟩ := generate_eq_ok.mp generated
  apply flatMap_eq
  apply ((List.forall₂_and_left _ _).mpr ⟨fun _ member => member, all⟩).imp
  rintro table file ⟨member, made⟩
  exact interfaces_exact accepted packaged member made

/-- The check compares names as they are written, the interfaces are named by exported names. So a
package declares every interface once exactly if the exported names differ and none is that of a
vector. -/
theorem declared_once_iff (generated : (generate settings application).result = .ok files) :
    (application.tables.flatMap tableInterfaces).Sublist (files.flatMap File.interfaces) ∧
      (SingleLine settings.vectorPackage →
        files.flatMap File.interfaces = application.tables.flatMap tableInterfaces) ∧
      ((application.tables.flatMap tableInterfaces).Nodup ↔
        (application.tables.map fun table => Identifier.exported table.name).Nodup ∧
          ∀ first ∈ application.tables, ∀ second ∈ application.tables, ¬TakesVector first second) :=
  ⟨generated_sublist generated, generated_exact generated, interfaces_nodup_iff⟩

def twoCases : Application :=
  (Application.declareTable { name := "store" }
    { name := "Item", application := "store" }).declareTable
    { name := "item", application := "store" }

/-- The check lets both tables pass, and the files declare both interfaces twice. -/
theorem twoCases_declared_twice :
    ∃ files, (generate {} twoCases).result = .ok files ∧
      ¬(files.flatMap File.interfaces).Nodup := by
  obtain ⟨files, generated⟩ := exists_of_isOk
    (by decide +kernel : (generate {} twoCases).result.isOk = true)
  obtain ⟨_, exact, once⟩ := declared_once_iff generated
  refine ⟨files, generated, ?_⟩
  rw [exact (by decide), once]
  rintro ⟨distinct, _⟩
  exact absurd distinct (by decide +kernel)

end Names

end TableReaders.Package
