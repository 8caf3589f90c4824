import TableReaders.Proofs.Package.Verdict
import TableReaders.Proofs.Schema.Definitions

/-!
How a package follows a change of its application. If the same definitions are declared in another
order, the same files come out in the order of the tables. If further definitions are declared on
top, a table keeps all accessors it had: its file has the same frame, and between the methods it had
there may be new ones, for fields whose token named nothing before. Both hold because the check
leaves no name to two definitions.
-/

namespace TableReaders.Package

open Schema

section Order

variable {settings : Settings} {first second : Application}

theorem composed_eq (name : first.name = second.name) (answers : first.resolve = second.resolve) :
    File.composed settings first = File.composed settings second := by
  funext table
  rw [File.composed, File.composed, name, answers]

/-- A fault of some field stops the run wherever its table stands. -/
theorem firstFault?_eq_none_of_perm (tables : first.tables.Perm second.tables)
    (answers : first.resolve = second.resolve) (clear : firstFault? settings first = none) :
    firstFault? settings second = none := by
  rw [firstFault?, List.findSome?_eq_none_iff] at clear ⊢
  intro table member
  rw [← answers]
  exact clear table (tables.mem_iff.mpr member)

theorem generate_of_rearranged (one : first.Declared) (other : second.Declared)
    (same : first.Rearranged second) {files : List File}
    (generated : (generate settings first).result = .ok files) :
    (generate settings second).result = .ok (second.tables.map (File.composed settings first)) := by
  obtain ⟨checked, clear, _⟩ := generate_eq_composed.mp generated
  have accepted := (Application.check_eq_ok first).mp checked
  have answers := same.resolve_eq one other accepted
  refine generate_eq_composed.mpr ⟨same.check_iff.mp checked, ?_, ?_⟩
  · exact firstFault?_eq_none_of_perm same.tables answers clear
  · rw [composed_eq same.name answers]

/-- Both applications are accepted or refused, both packages come out or neither, and wherever a
table stands in the one list and in the other, its file stands there in the packages. -/
theorem generate_rearranged (one : first.Declared) (other : second.Declared)
    (same : first.Rearranged second) :
    (first.check = .ok () ↔ second.check = .ok ()) ∧
    ∀ settings : Settings,
      ((∃ files, (generate settings first).result = .ok files) ↔
        ∃ files, (generate settings second).result = .ok files) ∧
      ∀ files others, (generate settings first).result = .ok files →
        (generate settings second).result = .ok others →
          files.Perm others ∧
            ∀ here there : Nat, first.tables[here]? = second.tables[there]? →
              files[here]? = others[there]? := by
  refine ⟨same.check_iff, fun settings => ⟨⟨?_, ?_⟩, ?_⟩⟩
  · rintro ⟨files, generated⟩
    exact ⟨_, generate_of_rearranged one other same generated⟩
  · rintro ⟨files, generated⟩
    exact ⟨_, generate_of_rearranged other one same.symm generated⟩
  · intro files others generated generatedToo
    have again := generate_of_rearranged one other same generated
    cases generatedToo.symm.trans again
    obtain ⟨_, _, rfl⟩ := generate_eq_composed.mp generated
    refine ⟨same.tables.map _, fun here there stands => ?_⟩
    rw [List.getElem?_map, List.getElem?_map, stands]

def itemFirst : Application :=
  (((Application.declareTable { name := "store" } {
      name := "Item", application := "store"
      fields :=
        [{ name := "color", type := "Color" }, { name := "grade", type := "Grade" }] }).declareTable
    { name := "Color", application := "store", fields := [.text "code"] }).declareEnumeration
    { name := "Condition", groups := [{ name := "Grade" }, { name := "Wear" }] }).declareEnumeration
    { name := "Season" }

def itemLast : Application :=
  (((Application.declareEnumeration { name := "store" } { name := "Season" }).declareTable
    { name := "Color", application := "store", fields := [.text "code"] }).declareEnumeration
    { name := "Condition", groups := [{ name := "Wear" }, { name := "Grade" }] }).declareTable {
      name := "Item", application := "store"
      fields := [{ name := "color", type := "Color" }, { name := "grade", type := "Grade" }] }

theorem itemFirst_rearranged :
    ∃ files others, (generate { unresolved := .refuse } itemFirst).result = .ok files ∧
      (generate { unresolved := .refuse } itemLast).result = .ok others ∧ files.Perm others ∧
        files[0]? = others[1]? := by
  have one : itemFirst.Declared := .enumeration (.enumeration (.table (.table (.named _) _) _) _) _
  have other : itemLast.Declared := .table (.enumeration (.table (.enumeration (.named _) _) _) _) _
  have same : itemFirst.Rearranged itemLast :=
    ⟨rfl, .swap _ _ _, _, .swap _ _ _, .cons ⟨rfl, .refl _⟩ (.cons ⟨rfl, .swap _ _ _⟩ .nil)⟩
  obtain ⟨_, runs⟩ := generate_rearranged one other same
  obtain ⟨succeed, agree⟩ := runs { unresolved := .refuse }
  obtain ⟨files, generated⟩ := exists_of_isOk
    (by decide +kernel : (generate { unresolved := .refuse } itemFirst).result.isOk = true)
  obtain ⟨others, generatedToo⟩ := succeed.mp ⟨files, generated⟩
  obtain ⟨moved, stands⟩ := agree files others generated generatedToo
  exact ⟨files, others, generated, generatedToo, moved, stands 0 1 rfl⟩

end Order

section Methods

variable {resolve later : Resolver} {asked : String} {field : Schema.Field} {accessor : Accessor}

/-- Without a token to look up, the accessor does not depend on who is asked. -/
theorem Accessor.ofField_unreferenced (plain : reference? field = none) :
    ofField asked field resolve = ofField asked field later := by
  unfold reference? at plain
  unfold ofField
  by_cases text : field.type = textToken
  · rw [if_pos text, if_pos text]
  · by_cases vector : field.type = vectorToken
    · simp only [if_neg text, if_pos vector] at plain ⊢
      cases given : field.itemToken? with
      | none => rfl
      | some items =>
          obtain ⟨listed, filled⟩ := Field.itemToken?_eq_some.mp given
          rw [listed, Option.filter_eq_none_iff] at plain
          have texts : items = textToken := by simpa [filled] using plain
          simp only [if_pos texts]
    · rw [if_neg text, if_neg vector] at plain
      cases plain

/-- An accessor is made from what a token names, so it stays where all that is named stays. -/
theorem Accessor.ofField_kept
    (kept : ∀ token target, target ≠ .unknown → resolve asked token = .ok target →
      later asked token = .ok target)
    (found : ofField asked field resolve = .ok (some accessor)) :
    ofField asked field later = .ok (some accessor) := by
  cases refers : reference? field with
  | none =>
      rw [ofField_unreferenced refers] at found
      exact found
  | some token =>
      rw [(ofField_reference refers).1, map_eq_ok] at found ⊢
      obtain ⟨target, answer, made⟩ := found
      have known : target ≠ .unknown := by
        rintro rfl
        unfold ofReference at made
        split at made <;> cases made
      exact ⟨target, kept token target known answer, made⟩

def holdsTexts (field : Schema.Field) : Bool :=
  field.type == vectorToken && field.items == some textToken

/-- No look-up is needed to see that a field holds a vector of texts. -/
theorem Accessor.ofField_eq_textVector :
    ofField asked field resolve = .ok (some .textVector) ↔ holdsTexts field = true := by
  have apart : vectorToken ≠ textToken := by decide
  have filled : textToken ≠ "" := by decide
  unfold ofField holdsTexts
  by_cases text : field.type = textToken
  · simp [text, apart.symm]
  · by_cases vector : field.type = vectorToken
    · have listed : (field.items == some textToken) = true ↔ field.itemToken? = some textToken := by
        rw [beq_iff_eq, Field.itemToken?_eq_some, and_iff_left filled]
      simp only [vector, apart, if_false, if_true, BEq.rfl, Bool.true_and, listed]
      cases field.itemToken? with
      | none => simp
      | some items =>
          by_cases texts : items = textToken
          · simp [texts]
          · simp only [texts, if_false, map_eq_ok]
            constructor
            · rintro ⟨target, _, made⟩
              cases target <;> cases made
            · intro same
              exact absurd (Option.some.inj same) texts
    · simp only [text, vector, if_false, map_eq_ok, beq_iff_eq, Bool.and_eq_true, false_and,
        iff_false]
      rintro ⟨target, _, made⟩
      cases target <;> cases made

namespace Interface

variable {settings : Settings} {table : Table}

theorem methods_sublist {fields : List Schema.Field}
    (kept : ∀ field ∈ fields, ∀ accessor,
      Accessor.ofField table.application field resolve = .ok (some accessor) →
        Accessor.ofField table.application field later = .ok (some accessor)) :
    (methods resolve table fields).Sublist (methods later table fields) := by
  unfold methods
  induction fields with
  | nil => exact List.Sublist.slnil
  | cons field rest ih =>
      rw [List.forall_mem_cons] at kept
      have shorter := ih kept.2
      cases before : accessor? resolve table field with
      | none =>
          rw [List.filterMap_cons_none (by rw [before]; rfl), List.filterMap_cons]
          split
          · exact shorter
          · exact shorter.cons _
      | some accessor =>
          have after : accessor? later table field = some accessor :=
            accessor?_eq_some.mpr (kept.1 accessor (accessor?_eq_some.mp before))
          rw [List.filterMap_cons_some (by rw [before]; rfl),
            List.filterMap_cons_some (by rw [after]; rfl)]
          exact shorter.cons_cons _

theorem methods_any_textVector (fields : List Schema.Field) :
    (methods resolve table fields).any (·.2 == .textVector) = fields.any holdsTexts := by
  rw [Bool.eq_iff_iff, List.any_eq_true, List.any_eq_true]
  constructor
  · rintro ⟨⟨field, accessor⟩, member, same⟩
    obtain ⟨listed, known⟩ := mem_methods.mp member
    have texts : accessor = .textVector := eq_of_beq same
    rw [texts] at known
    exact ⟨field, listed, Accessor.ofField_eq_textVector.mp known⟩
  · rintro ⟨field, listed, texts⟩
    exact ⟨(field, .textVector), mem_methods.mpr ⟨listed, Accessor.ofField_eq_textVector.mpr texts⟩,
      BEq.rfl⟩

end Interface

end Methods

section Growth

variable {settings : Settings} {earlier later application : Application} {table : Table}

def File.opening (settings : Settings) (application : String) (table : Table) : String :=
  "package " ++ settings.packageFor application ++ "\n\n" ++
  Interface.importFor settings (table.fields.any holdsTexts) ++
  docComment (Identifier.rowInterface table.name) table.documentation "" ++
  Interface.headLine table.name

/-- Only the methods of a file depend on what tokens name. -/
theorem File.composed_contents (settings : Settings) (application : Application) (table : Table) :
    (File.composed settings application table).contents =
      File.opening settings application.name table ++
        "\n".intercalate (Interface.methodTexts settings application.resolve table) ++
        Interface.ending table.name := by
  change "package " ++ settings.packageFor application.name ++ "\n\n" ++
    Interface.text settings application.resolve table = _
  rw [Interface.text, Interface.methods_any_textVector, File.opening]
  simp only [String.append_assoc]

theorem accessors_kept (declared : earlier.Declared) (grown : earlier.Extends later)
    (accepted : later.Accepted) {asked : String} {field : Schema.Field} {accessor : Accessor}
    (found : Accessor.ofField asked field earlier.resolve = .ok (some accessor)) :
    Accessor.ofField asked field later.resolve = .ok (some accessor) := by
  apply Accessor.ofField_kept _ found
  intro token target known answer
  exact grown.resolve_kept declared accepted known answer

/-- What is declared on top of an application takes no accessor from its tables, as long as the
check still accepts the whole. In the package the file of a table stays, with its methods among
those it has now. -/
theorem generate_extended (declared : earlier.Declared) (grown : earlier.Extends later)
    (checked : later.check = .ok ()) :
    (∀ table ∈ earlier.tables, ∀ field ∈ table.fields, ∀ accessor,
      Accessor.ofField table.application field earlier.resolve = .ok (some accessor) →
        Accessor.ofField table.application field later.resolve = .ok (some accessor)) ∧
    ∀ (settings : Settings) files others, (generate settings earlier).result = .ok files →
      (generate settings later).result = .ok others →
        ∀ (position : Nat) table, earlier.tables[position]? = some table →
          later.tables[position]? = some table ∧
          ∃ file next : File, files[position]? = some file ∧ others[position]? = some next ∧
            file.contents = File.opening settings earlier.name table ++
              "\n".intercalate (Interface.methodTexts settings earlier.resolve table) ++
              Interface.ending table.name ∧
            next.contents = File.opening settings earlier.name table ++
              "\n".intercalate (Interface.methodTexts settings later.resolve table) ++
              Interface.ending table.name ∧
            (Interface.methodTexts settings earlier.resolve table).Sublist
              (Interface.methodTexts settings later.resolve table) := by
  have accepted := (Application.check_eq_ok later).mp checked
  constructor
  · intro table _ field _ accessor found
    exact accessors_kept declared grown accepted found
  · intro settings files others generated generatedToo position table placed
    obtain ⟨_, _, rfl⟩ := generate_eq_composed.mp generated
    obtain ⟨_, _, rfl⟩ := generate_eq_composed.mp generatedToo
    have stays : later.tables[position]? = some table := by
      obtain ⟨added, whole⟩ := grown.tables
      obtain ⟨inside, _⟩ := List.getElem?_eq_some_iff.mp placed
      rw [← whole, List.getElem?_append_left inside, placed]
    refine ⟨stays, File.composed settings earlier table, File.composed settings later table, ?_, ?_,
      File.composed_contents settings earlier table, ?_, ?_⟩
    · rw [List.getElem?_map, placed, Option.map_some]
    · rw [List.getElem?_map, stays, Option.map_some]
    · rw [File.composed_contents, grown.name]
    · apply List.Sublist.map
      exact Interface.methods_sublist fun field _ accessor => accessors_kept declared grown accepted

def uncolored : Application :=
  Application.declareTable { name := "store" } {
    name := "Item", application := "store"
    fields := [{ name := "color", type := "Color" }, .text "sku"] }

def colored : Application :=
  (uncolored.declareTable { name := "Color", application := "store" }).declareEnumeration
    { name := "Condition", groups := [{ name := "Grade" }] }

/-- The color gets its method in front of the one that the item had. -/
theorem uncolored_extended :
    ∃ files others, (generate {} uncolored).result = .ok files ∧
      (generate {} colored).result = .ok others ∧ colored.tables[0]? = uncolored.tables[0]? ∧
      ∀ table, uncolored.tables[0]? = some table →
        (Interface.methodTexts {} uncolored.resolve table).Sublist
            (Interface.methodTexts {} colored.resolve table) ∧
          (Interface.methodTexts {} uncolored.resolve table).length = 1 ∧
          (Interface.methodTexts {} colored.resolve table).length = 2 := by
  have declared : uncolored.Declared := .table (.named _) _
  have grown : uncolored.Extends colored := .enumeration (.table .same _) _
  have checked : colored.check = .ok () := eq_ok_of_toOption (by decide +kernel)
  obtain ⟨_, packages⟩ := generate_extended declared grown checked
  obtain ⟨files, generated⟩ := exists_of_isOk
    (by decide +kernel : (generate {} uncolored).result.isOk = true)
  obtain ⟨others, generatedToo⟩ := exists_of_isOk
    (by decide +kernel : (generate {} colored).result.isOk = true)
  refine ⟨files, others, generated, generatedToo, rfl, fun table placed => ?_⟩
  obtain ⟨_, _, _, _, _, _, _, among⟩ :=
    packages {} files others generated generatedToo 0 table placed
  cases placed
  exact ⟨among, by decide +kernel, by decide +kernel⟩

end Growth

end TableReaders.Package
