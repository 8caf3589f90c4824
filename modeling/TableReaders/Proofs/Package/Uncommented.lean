import TableReaders.Proofs.Package.Composition
import TableReaders.Proofs.Package.Declarations

/-!
What is left of a generated text without its comment lines. Documentation goes into comments only,
and every line of it stands behind a marker of its own, so with the comment lines all of it is gone.
Neither does it decide how a run ends. Hence two tables that differ in documentation alone are the
same code. Names need not be identifiers here: a line feed in a name adds lines to the code, but the
same ones whatever is documented.
-/

namespace TableReaders.Schema

def Field.undocumented (field : Field) : Field :=
  { field with documentation := none }

@[simp] theorem Field.undocumented_name (field : Field) :
    field.undocumented.name = field.name := rfl

def Table.undocumented (table : Table) : Table :=
  { table with documentation := none, fields := table.fields.map Field.undocumented }

@[simp] theorem Table.undocumented_name (table : Table) :
    table.undocumented.name = table.name := rfl

end TableReaders.Schema

namespace TableReaders.Package

open Schema

def isComment (line : List Char) : Bool :=
  "//".toList.isPrefixOf (line.dropWhile (· == '\t'))

def uncommented (text : List Char) : List Char :=
  ((Text.wholeLines text).filter fun line => !isComment line).flatten

abbrev Leaves (piece : String) (left : List Char) : Prop :=
  Text.Adds uncommented piece left

section Pieces

theorem leaves_of_lines {piece : String} {lines : List (List Char)}
    (adds : Text.Adds Text.wholeLines piece lines) :
    Leaves piece (lines.filter fun line => !isComment line).flatten :=
  adds.change (fun lines => (lines.filter fun line => !isComment line).flatten) fun front back => by
    rw [List.filter_append, List.flatten_append]

/-- A piece that ends its last line leaves what it leaves by itself. -/
theorem leaves_ended (piece : String) :
    Leaves (piece ++ "\n") (uncommented (piece ++ "\n").toList) :=
  leaves_of_lines (Text.adds_ended _ piece)

theorem isComment_marked {indent : List Char} (tabs : ∀ c ∈ indent, c = '\t') (tail : List Char) :
    isComment (indent ++ ('/' :: '/' :: tail)) = true := by
  have passed : (indent ++ ('/' :: '/' :: tail)).dropWhile (· == '\t') = '/' :: '/' :: tail := by
    rw [List.dropWhile_append_of_pos fun c member => beq_of_eq (tabs c member)]
    rfl
  rw [isComment, passed]
  rfl

theorem commentLine_leaves {indent : String} (tabs : ∀ c ∈ indent.toList, c = '\t')
    {line : List Char} (single : '\n' ∉ line) : Leaves (commentLine indent line) [] := by
  obtain ⟨tail, plain, written⟩ := commentLine_shape indent single
  have margin : SingleLine indent := by
    intro member
    exact absurd (tabs _ member) (by decide)
  have one : SingleLine (indent ++ ("//" ++ tail)) :=
    margin.append (SingleLine.append (by decide) plain)
  have marked : isComment ((indent ++ ("//" ++ tail)).toList ++ ['\n']) = true := by
    rw [String.toList_append, String.toList_append, List.append_assoc]
    exact isComment_marked tabs (tail.toList ++ ['\n'])
  have line := leaves_of_lines (Text.adds_line (· ++ ['\n']) one)
  rw [List.filter_cons_of_neg (by rw [marked]; decide)] at line
  rw [written]
  exact line

/-- Whatever is documented, the comment is gone with its lines. -/
theorem docComment_leaves {indent : String} (tabs : ∀ c ∈ indent.toList, c = '\t') (name : String)
    (documentation : Option Documentation) : Leaves (docComment name documentation indent) [] := by
  rw [docComment_eq]
  apply (Text.additive_adds uncommented).join
  intro piece member
  obtain ⟨line, listed, rfl⟩ := List.mem_map.mp member
  exact commentLine_leaves tabs (feed_not_mem_docLines listed)

end Pieces

section Code

variable (settings : Settings) (resolve : Resolver) (table : Table)

def signature (name : String) (accessor : Accessor) : String :=
  "\t" ++ Identifier.exported name ++ "() " ++ accessor.resultType settings ++ "\n"

def Interface.code : List Char :=
  let methods := Interface.methods resolve table table.fields
  uncommented (Interface.importFor settings (methods.any (·.2 == .textVector))).toList ++
  uncommented (Interface.headLine table.name).toList ++
  ['\n'].intercalate (methods.map fun method =>
    uncommented (signature settings method.1.name method.2).toList) ++
  uncommented (Interface.ending table.name).toList

variable {settings resolve table}

theorem render_leaves (field : Schema.Field) (accessor : Accessor) :
    Leaves (accessor.render settings field)
      (uncommented (signature settings field.name accessor).toList) := by
  have written : accessor.render settings field =
      docComment field.name field.documentation "\t" ++ signature settings field.name accessor := by
    simp only [Accessor.render, signature, String.append_assoc]
  have comment : Leaves (docComment field.name field.documentation "\t") [] :=
    docComment_leaves (by simp) _ _
  have method : Leaves (signature settings field.name accessor)
      (uncommented (signature settings field.name accessor).toList) := leaves_ended _
  have whole := comment.append method
  rwa [List.nil_append, ← written] at whole

theorem importFor_leaves (settings : Settings) (wanted : Bool) :
    Leaves (Interface.importFor settings wanted)
      (uncommented (Interface.importFor settings wanted).toList) := by
  unfold Interface.importFor
  split
  · rw [append_ended _ "\"\n)\n" (by decide)]
    exact leaves_ended _
  · exact Text.adds_empty

theorem headLine_leaves (name : String) :
    Leaves (Interface.headLine name) (uncommented (Interface.headLine name).toList) := by
  unfold Interface.headLine
  rw [append_ended _ " interface \x7b" (by decide)]
  exact leaves_ended _

/-- The comments are gone, and everything between them leaves what it leaves by itself. -/
theorem uncommented_text :
    uncommented (Interface.text settings resolve table).toList =
      Interface.code settings resolve table := by
  have comment :
      Leaves (docComment (Identifier.rowInterface table.name) table.documentation "") [] :=
    docComment_leaves (by simp) _ _
  -- The empty lines between the methods stay.
  have blank : Leaves "\n" ['\n'] := leaves_ended ""
  have methods : Leaves ("\n".intercalate (Interface.methodTexts settings resolve table))
      (['\n'].intercalate ((Interface.methods resolve table table.fields).map fun method =>
        uncommented (signature settings method.1.name method.2).toList)) :=
    (Text.additive_adds uncommented).intercalate blank fun method _ =>
      render_leaves method.1 method.2
  have imports := importFor_leaves settings
    ((Interface.methods resolve table table.fields).any (·.2 == .textVector))
  have front := ((imports.append comment).append (headLine_leaves table.name)).append methods
  rw [Interface.text, String.toList_append, front, List.append_nil]
  rfl

end Code

section Documentation

variable {settings : Settings} {resolve : Resolver} {table first second : Table}

theorem faults_undocumented (settings : Settings) (resolve : Resolver) (table : Table) :
    table.undocumented.fields.findSome? (Interface.fault? settings resolve table.undocumented) =
      table.fields.findSome? (Interface.fault? settings resolve table) := by
  rw [Table.undocumented, List.findSome?_map]
  rfl

theorem methods_undocumented (resolve : Resolver) (table : Table) :
    Interface.methods resolve table.undocumented table.undocumented.fields =
      (Interface.methods resolve table table.fields).map fun method =>
        (method.1.undocumented, method.2) := by
  rw [Interface.methods, Interface.methods, Table.undocumented, List.filterMap_map,
    List.map_filterMap]
  apply List.filterMap_congr
  intro field _
  change (Interface.accessor? resolve table field).map _ = _
  rw [Option.map_map]
  rfl

theorem code_undocumented (settings : Settings) (resolve : Resolver) (table : Table) :
    Interface.code settings resolve table.undocumented = Interface.code settings resolve table := by
  unfold Interface.code
  rw [methods_undocumented]
  simp only [List.any_map, List.map_map, Function.comp_def, Field.undocumented_name,
    Table.undocumented_name]

/-- Two tables that differ in documentation alone fail with one error, or both give a text and the
two texts are the same up to comment lines. -/
theorem render_documented (same : first.undocumented = second.undocumented) :
    (∃ error, (Interface.render settings resolve first).result = .error error ∧
      (Interface.render settings resolve second).result = .error error) ∨
    ∃ one other, (Interface.render settings resolve first).result = .ok one ∧
      (Interface.render settings resolve second).result = .ok other ∧
      uncommented one.toList = uncommented other.toList := by
  have faults : first.fields.findSome? (Interface.fault? settings resolve first) =
      second.fields.findSome? (Interface.fault? settings resolve second) := by
    rw [← faults_undocumented, same, faults_undocumented]
  have code : Interface.code settings resolve first = Interface.code settings resolve second := by
    rw [← code_undocumented, same, code_undocumented]
  rw [Interface.render_result, Interface.render_result, faults]
  cases second.fields.findSome? (Interface.fault? settings resolve second) with
  | some error => exact .inl ⟨error, rfl, rfl⟩
  | none => exact .inr ⟨_, _, rfl, rfl, by rw [uncommented_text, uncommented_text, code]⟩

def bareItem : Table where
  name := "Item"
  application := "store"
  fields := [.text "sku", .vector "tags" "String"]

def hostileItem : Table where
  name := "Item"
  application := "store"
  documentation :=
    some (.ofTexts (some "is sold */\n\x7d\r\ntype Evil interface \x7b") (some "\n\tSteal()"))
  fields := [
    { Field.text "sku" with
      documentation := some (.ofTexts none (some "\"\r\n\n// \n\tSteal() string")) },
    .vector "tags" "String"]

/-- Both tables give a text. The texts differ, but only in their comments. -/
theorem hostileItem_contained :
    ∃ one other,
      (Interface.render {} (Application.resolve { name := "store" }) bareItem).result = .ok one ∧
      (Interface.render {} (Application.resolve { name := "store" }) hostileItem).result =
        .ok other ∧
      one ≠ other ∧ uncommented one.toList = uncommented other.toList := by
  have same : bareItem.undocumented = hostileItem.undocumented := rfl
  have differ :
      (Interface.render {} (Application.resolve { name := "store" }) bareItem).result.toOption ≠
        (Interface.render {}
          (Application.resolve { name := "store" }) hostileItem).result.toOption := by
    decide +kernel
  rcases @render_documented {}
    (Application.resolve { name := "store" }) bareItem hostileItem same with
    ⟨error, failed, failedToo⟩ | ⟨one, other, made, madeToo, left⟩
  · rw [failed, failedToo] at differ
    exact absurd rfl differ
  · refine ⟨one, other, made, madeToo, ?_, left⟩
    rintro rfl
    rw [made, madeToo] at differ
    exact absurd rfl differ

end Documentation

end TableReaders.Package
