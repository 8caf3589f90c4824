import TableReaders.Proofs.Package.Composition
import TableReaders.Proofs.Package.Declarations
import TableReaders.Proofs.Package.Verdict

/-!
The methods of an interface, read off the text of a file. They stand between the line that opens the
interface and the brace that closes it, each on a line of its own with its comment above. What is
read there are the exported names of the fields that have an accessor, in order: nothing before the
interface opens it, and nothing in it closes it too early.
-/

namespace TableReaders.Package

open Schema

/-- The name of the method that a line of an interface declares. An empty line and a comment declare
none. -/
def methodName? (line : List Char) : Option String :=
  match line.dropWhile (· == '\t') with
  | [] => none
  | code =>
      if "//".toList.isPrefixOf code then none
      else some (String.ofList (code.takeWhile (· != '(')))

def closingLine : List Char := ['\x7d']

def bodyLines (interface : String) (lines : List (List Char)) : List (List Char) :=
  ((lines.dropWhile fun line => openedInterface? line != some interface).drop 1).takeWhile
    (· != closingLine)

def methodsIn (interface : String) (text : List Char) : List String :=
  (bodyLines interface (Text.lines text)).filterMap methodName?

section Body

/-- A piece of text in an interface: whole lines that do not close it, with certain methods. -/
def Lists (piece : String) (names : List String) : Prop :=
  ∃ lines, Text.Adds Text.lines piece lines ∧ closingLine ∉ lines ∧
    lines.filterMap methodName? = names

variable {first second line : String} {names more : List String}

theorem lists_empty : Lists "" [] :=
  ⟨[], Text.adds_empty, by simp, rfl⟩

theorem Lists.append (one : Lists first names) (other : Lists second more) :
    Lists (first ++ second) (names ++ more) := by
  obtain ⟨lines, adds, inside, listed⟩ := one
  obtain ⟨further, addsToo, insideToo, listedToo⟩ := other
  refine ⟨lines ++ further, adds.append addsToo, ?_, ?_⟩
  · rw [List.mem_append]
    rintro (early | late)
    · exact inside early
    · exact insideToo late
  · rw [List.filterMap_append, listed, listedToo]

theorem lists_line {shown : List Char} (single : SingleLine line)
    (read : Text.withoutReturn line.toList = shown) (inside : shown ≠ closingLine) :
    Lists (line ++ "\n") (methodName? shown).toList := by
  refine ⟨[shown], ?_, ?_, ?_⟩
  · intro rest
    rw [lines_piece single, read]
    rfl
  · rw [List.mem_singleton]
    exact inside.symm
  · cases found : methodName? shown <;> simp [found]

theorem additive_lists : Text.Additive Lists :=
  ⟨lists_empty, Lists.append⟩

theorem withoutReturn_append {front : List Char} (plain : '\r' ∉ front) (rest : List Char) :
    Text.withoutReturn (front ++ rest) = front ++ Text.withoutReturn rest := by
  induction front with
  | nil => rfl
  | cons c front ih =>
      rw [List.mem_cons, not_or] at plain
      rw [List.cons_append, List.cons_append, ← ih plain.2]
      cases front ++ rest with
      | nil => simp [Text.withoutReturn, Ne.symm plain.1]
      | cons next rest =>
          unfold Text.withoutReturn
          rw [List.getLast?_cons_cons]
          split <;> rfl

theorem blank_lists : Lists "\n" [] := by
  have line : Lists ("" ++ "\n") (methodName? []).toList := lists_line (by decide) rfl (by decide)
  exact line

theorem commentLine_lists {line : List Char} (single : '\n' ∉ line) :
    Lists (commentLine "\t" line) [] := by
  obtain ⟨tail, plain, written⟩ := commentLine_shape "\t" single
  have one : SingleLine ("\t" ++ ("//" ++ tail)) :=
    SingleLine.append (by decide) (SingleLine.append (by decide) plain)
  have read : Text.withoutReturn ("\t" ++ ("//" ++ tail)).toList =
      ['\t', '/', '/'] ++ Text.withoutReturn tail.toList := by
    have front : '\r' ∉ ['\t', '/', '/'] := by decide
    rw [String.toList_append, String.toList_append]
    exact withoutReturn_append front tail.toList
  rw [written]
  exact lists_line one read (by simp [closingLine])

/-- No documentation can declare a method or close the interface. -/
theorem docComment_lists (name : String) (documentation : Option Documentation) :
    Lists (docComment name documentation "\t") [] := by
  rw [docComment_eq]
  apply additive_lists.join
  intro piece member
  obtain ⟨line, listed, rfl⟩ := List.mem_map.mp member
  exact commentLine_lists (feed_not_mem_docLines listed)

end Body

section Accessors

variable {settings : Settings} {field : Schema.Field} {accessor : Accessor}

theorem methodName?_declaration {name : List Char} (tab : '\t' ∉ name) (slash : '/' ∉ name)
    (parenthesis : '(' ∉ name) (rest : List Char) :
    methodName? ('\t' :: (name ++ '(' :: rest)) = some (String.ofList name) := by
  have read : (name ++ '(' :: rest).takeWhile (· != '(') = name := by
    rw [List.takeWhile_append_of_pos]
    · simp
    · intro c member
      rw [bne_iff_ne]
      rintro rfl
      exact parenthesis member
  cases name with
  | nil => rfl
  | cons c name =>
      have indented : c ≠ '\t' := fun same => tab (same ▸ List.mem_cons_self)
      have marked : '/' ≠ c := fun same => slash (same ▸ List.mem_cons_self)
      rw [List.cons_append] at read ⊢
      simp [methodName?, indented, marked, read]

theorem accessor_lists (proper : Identifier.valid field.name = true)
    (typed : SingleLine (accessor.resultType settings)) :
    Lists (accessor.render settings field) [Identifier.exported field.name] := by
  -- A valid name has no character that could end it or turn the line into something else.
  have absent : ∀ c : Char, c.toNat < 0x41 → Identifier.isTail c = false →
      c ∉ (Identifier.exported field.name).toList := by
    intro c below outside member
    exact Identifier.not_mem_of_valid proper outside (Identifier.mem_of_mem_exported below member)
  have feed := absent '\n' (by decide) (by decide +kernel)
  have carriage := absent '\r' (by decide) (by decide +kernel)
  have tab := absent '\t' (by decide) (by decide +kernel)
  have slash := absent '/' (by decide) (by decide +kernel)
  have parenthesis := absent '(' (by decide) (by decide +kernel)
  have written : accessor.render settings field =
      docComment field.name field.documentation "\t" ++
        ("\t" ++ Identifier.exported field.name ++ "(" ++ (") " ++ accessor.resultType settings) ++
          "\n") := by
    have parentheses : "() " = "(" ++ ") " := by decide
    simp only [Accessor.render, parentheses, String.append_assoc, -String.reduceAppend]
  have single : SingleLine
      ("\t" ++ Identifier.exported field.name ++ "(" ++ (") " ++ accessor.resultType settings)) :=
    ((SingleLine.append (by decide) feed).append (by decide)).append
      (SingleLine.append (by decide) typed)
  have read : Text.withoutReturn
      ("\t" ++ Identifier.exported field.name ++ "(" ++
        (") " ++ accessor.resultType settings)).toList =
      '\t' :: ((Identifier.exported field.name).toList ++
        '(' :: Text.withoutReturn (") " ++ accessor.resultType settings).toList) := by
    have front : '\r' ∉ ("\t" ++ Identifier.exported field.name ++ "(").toList := by
      simp [carriage]
    rw [String.toList_append, withoutReturn_append front]
    simp
  have line := lists_line single read (by simp [closingLine])
  rw [methodName?_declaration tab slash parenthesis, String.ofList_toList] at line
  rw [written]
  exact (docComment_lists _ _).append line

end Accessors

section Parts

def WholeLines (text : String) : Prop :=
  ∃ lines, Text.Adds Text.lines text lines

variable {front body interface : String} {names : List String}

theorem whole_ended (text : String) : WholeLines (text ++ "\n") :=
  ⟨_, Text.adds_ended Text.withoutReturn text⟩

theorem WholeLines.append {first second : String} (one : WholeLines first)
    (other : WholeLines second) :
    WholeLines (first ++ second) := by
  obtain ⟨lines, adds⟩ := one
  obtain ⟨further, addsToo⟩ := other
  exact ⟨lines ++ further, adds.append addsToo⟩

theorem additive_whole : Text.Additive fun text (_ : List Unit) => WholeLines text :=
  ⟨⟨[], Text.adds_empty⟩, WholeLines.append⟩

theorem docComment_whole (name : String) (documentation : Option Documentation) (indent : String) :
    WholeLines (docComment name documentation indent) := by
  rw [docComment_eq]
  apply additive_whole.join
  intro piece member
  obtain ⟨line, listed, rfl⟩ := List.mem_map.mp member
  obtain ⟨tail, _, written⟩ := commentLine_shape indent (feed_not_mem_docLines listed)
  rw [written]
  exact whole_ended _

theorem importFor_whole (settings : Settings) (wanted : Bool) :
    WholeLines (Interface.importFor settings wanted) := by
  unfold Interface.importFor
  split
  · rw [append_ended _ "\"\n)\n" (by decide)]
    exact whole_ended _
  · exact ⟨[], Text.adds_empty⟩

theorem importFor_silent {settings : Settings} (packaged : SingleLine settings.vectorPackage)
    (wanted : Bool) : Declares (Interface.importFor settings wanted) [] := by
  have written := ImportSet.render_optional settings.vectorPackage wanted
  unfold Interface.importFor
  rw [← written]
  apply imports_silent
  intro path listed
  split at listed
  · rw [List.mem_singleton.mp listed]
    exact packaged
  · cases listed

theorem opened_of_silent {lines : List (List Char)} (adds : Text.Adds Text.lines front lines)
    (silent : Declares front []) : ∀ line ∈ lines, openedInterface? line = none := by
  have nothing := silent.interfacesIn_eq
  rw [interfacesIn, adds.read_eq rfl] at nothing
  simpa using nothing

/-- The interface begins at the first line that opens it and ends at the first brace behind that. -/
theorem bodyLines_parts {before between after : List (List Char)} {opening : List Char}
    (quiet : ∀ line ∈ before, openedInterface? line = none)
    (opens : openedInterface? opening = some interface) (inside : closingLine ∉ between) :
    bodyLines interface (before ++ opening :: (between ++ closingLine :: after)) = between := by
  have passed : ∀ line ∈ before, (openedInterface? line != some interface) = true := by
    intro line member
    rw [quiet line member]
    rfl
  have kept : ∀ line ∈ between, (line != closingLine) = true := by
    intro line member
    rw [bne_iff_ne]
    rintro rfl
    exact inside member
  rw [bodyLines, List.dropWhile_append_of_pos passed, List.dropWhile_cons_of_neg (by simp [opens]),
    List.drop_succ_cons, List.drop_zero, List.takeWhile_append_of_pos kept,
    List.takeWhile_cons_of_neg (by simp), List.append_nil]

theorem methodsIn_parts (whole : WholeLines front) (silent : Declares front [])
    (single : SingleLine interface) (lists : Lists body names) (rest : String) :
    methodsIn interface
      (front ++ ("type " ++ interface ++ " interface \x7b\n") ++ body ++
        ("\x7d\n" ++ rest)).toList =
      names := by
  obtain ⟨before, adds⟩ := whole
  obtain ⟨between, addsToo, inside, listed⟩ := lists
  have opening : Text.Adds Text.lines ("type " ++ interface ++ " interface \x7b\n")
      ["type ".toList ++ (interface.toList ++ " interface \x7b".toList)] := by
    intro more
    have one : SingleLine ("type " ++ interface ++ " interface \x7b") :=
      (SingleLine.append (by decide) single).append (by decide)
    rw [append_ended _ " interface \x7b" (by decide), lines_piece one, String.toList_append,
      String.toList_append, List.append_assoc, withoutReturn_opening]
    rfl
  have closing : Text.Adds Text.lines "\x7d\n" [closingLine] := by
    intro more
    have brace : "\x7d\n" = "\x7d" ++ "\n" := by decide
    rw [brace, lines_piece (by decide)]
    rfl
  have parts := ((adds.append opening).append addsToo).append closing
  have text : Text.lines
      (front ++ ("type " ++ interface ++ " interface \x7b\n") ++ body ++
        ("\x7d\n" ++ rest)).toList =
      before ++ ("type ".toList ++ (interface.toList ++ " interface \x7b".toList)) ::
        (between ++ closingLine :: Text.lines rest.toList) := by
    rw [← String.append_assoc, String.toList_append, parts]
    simp only [List.append_assoc, List.cons_append, List.nil_append]
  rw [methodsIn, text,
    bodyLines_parts (opened_of_silent adds silent)
      (openedInterface?_opening interface) inside, listed]

end Parts

section Files

variable {settings : Settings} {application : Application} {table : Table}

theorem clause_whole (settings : Settings) (name : String) :
    WholeLines ("package " ++ settings.packageFor name ++ "\n\n") := by
  rw [append_ended _ "\n" (by decide)]
  exact whole_ended _

/-- The methods read off the file of a table are those that the texts of its methods declare,
whatever is imported, as long as the import opens no interface. -/
theorem methodsIn_lists {names : List String} (proper : Identifier.valid table.name = true)
    (silent : Declares (Interface.importFor settings
      ((Interface.methods application.resolve table table.fields).any (·.2 == .textVector))) [])
    (lists : Lists
      ("\n".intercalate (Interface.methodTexts settings application.resolve table)) names) :
    methodsIn (Identifier.rowInterface table.name)
      (File.composed settings application table).contents.toList = names := by
  have named : SingleLine (Identifier.rowInterface table.name) :=
    SingleLine.append (Identifier.feed_not_mem_exported (Identifier.feed_not_mem_of_valid proper))
      (by decide)
  have comment :
      Declares (docComment (Identifier.rowInterface table.name) table.documentation "") [] :=
    docComment_silent (by simp) _ _
  have whole := ((clause_whole settings application.name).append (importFor_whole settings
    ((Interface.methods application.resolve table table.fields).any (·.2 == .textVector)))).append
    (docComment_whole (Identifier.rowInterface table.name) table.documentation "")
  have quiet := ((clause_silent settings application.name).append silent).append comment
  have parts := methodsIn_parts whole quiet named lists (vectorInterface table.name)
  rw [← parts]
  change methodsIn _ ("package " ++ settings.packageFor application.name ++ "\n\n" ++
    Interface.text settings application.resolve table).toList = _
  simp only [Interface.text, Interface.headLine, Interface.ending, String.append_assoc]

/-- The methods read off the file of a table are those of the fields that have an accessor. -/
theorem methodsIn_composed (accepted : application.Accepted)
    (packaged : SingleLine settings.vectorPackage) (member : table ∈ application.tables) :
    methodsIn (Identifier.rowInterface table.name)
      (File.composed settings application table).contents.toList =
      (Interface.methods application.resolve table table.fields).map fun method =>
        Identifier.exported method.1.name := by
  obtain ⟨_, sound⟩ := accepted.tables table member
  have lists : Lists ("\n".intercalate (Interface.methodTexts settings application.resolve table))
      ([].intercalate ((Interface.methods application.resolve table table.fields).map fun method =>
        [Identifier.exported method.1.name])) := by
    apply additive_lists.intercalate blank_lists
    rintro ⟨field, accessor⟩ listed
    obtain ⟨given, found⟩ := Interface.mem_methods.mp listed
    exact accessor_lists (sound.fields field given).identifier
      (resultType_single accepted packaged found)
  rw [methodsIn_lists sound.identifier (importFor_silent packaged _) lists, Text.nil_intercalate,
    ← List.flatMap_def]
  exact List.map_eq_flatMap.symm

end Files

end TableReaders.Package
