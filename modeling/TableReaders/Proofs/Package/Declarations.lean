import Mathlib.Data.List.Basic
import TableReaders.Proofs.Package.Generation
import TableReaders.Proofs.Package.Imports
import TableReaders.Proofs.Package.PackageNames
import TableReaders.Proofs.Text.Lines

/-!
The interfaces that a generated file declares, read off its text. A line that opens an interface has
a shape of its own, and every other line of a file begins with a character that rules this shape
out: comments with a slash or a tab, methods and imports with a tab. So a file declares the two
interfaces of its table and nothing else. The path of the package of text vectors is the only text
that goes into a file as it is; with a line feed in it a file may hold further lines, but the two
interfaces are there all the same.
-/

namespace TableReaders.Package

open Schema

def openedInterface? (line : List Char) : Option String :=
  ((line.dropPrefix? "type ".toList).bind (·.dropSuffix? " interface \x7b".toList)).map
    String.ofList

def interfacesIn (text : List Char) : List String :=
  (Text.lines text).filterMap openedInterface?

def File.interfaces (file : File) : List String :=
  interfacesIn file.contents.toList

/-- A piece of text that declares certain interfaces, whatever follows it. -/
def Declares (piece : String) (names : List String) : Prop :=
  ∀ rest, interfacesIn (piece.toList ++ rest) = names ++ interfacesIn rest

def SingleLine (text : String) : Prop :=
  '\n' ∉ text.toList

instance (text : String) : Decidable (SingleLine text) :=
  inferInstanceAs (Decidable ('\n' ∉ text.toList))

section Pieces

variable {first second line : String} {names more : List String} {lead : Char}

theorem SingleLine.append (one : SingleLine first) (other : SingleLine second) :
    SingleLine (first ++ second) := by
  unfold SingleLine
  rw [String.toList_append, List.mem_append]
  rintro (front | back)
  · exact one front
  · exact other back

/-- A last piece that is written with its line feed can be written without it, and the line feed
after it. -/
theorem append_ended (first second : String) {ending : String} (ended : ending = second ++ "\n") :
    first ++ ending = first ++ second ++ "\n" := by
  rw [ended, String.append_assoc]

theorem head?_append (starts : first.toList.head? = some lead) :
    (first ++ second).toList.head? = some lead := by
  rw [String.toList_append, List.head?_append, starts]
  rfl

theorem Declares.interfacesIn_eq (declares : Declares first names) :
    interfacesIn first.toList = names :=
  Text.Adds.read_eq declares rfl

theorem declares_empty : Declares "" [] :=
  Text.adds_empty

theorem Declares.append (one : Declares first names) (other : Declares second more) :
    Declares (first ++ second) (names ++ more) :=
  Text.Adds.append one other

theorem declares_join {pieces : List String} (silent : ∀ piece ∈ pieces, Declares piece []) :
    Declares (String.join pieces) [] :=
  (Text.additive_adds interfacesIn).join silent

/-- A piece that ends its last line declares what it declares by itself. -/
theorem declares_ended (piece : String) :
    Declares (piece ++ "\n") (interfacesIn (piece ++ "\n").toList) :=
  (Text.adds_ended Text.withoutReturn piece).change _ fun _ _ => List.filterMap_append

theorem openedInterface?_of_head {line : List Char} (other : line.head? ≠ some 't') :
    openedInterface? line = none := by
  have unlike : line.dropPrefix? "type ".toList = none := by
    rw [Option.eq_none_iff_forall_not_mem]
    intro rest found
    obtain ⟨front, shape, same⟩ := List.dropPrefix?_eq_some_iff.mp found
    rw [beq_iff_eq.mp same] at shape
    subst shape
    exact other rfl
  rw [openedInterface?, unlike]
  rfl

theorem lines_piece (single : SingleLine line) (rest : List Char) :
    Text.lines ((line ++ "\n").toList ++ rest) =
      Text.withoutReturn line.toList :: Text.lines rest :=
  Text.adds_line Text.withoutReturn single rest

theorem head?_withoutReturn {line : List Char} (starts : line.head? ≠ some 't') :
    (Text.withoutReturn line).head? ≠ some 't' := by
  unfold Text.withoutReturn
  split
  · cases line with
    | nil => exact starts
    | cons c rest =>
        cases rest with
        | nil => simp
        | cons d rest => exact starts
  · exact starts

theorem declares_silent (single : SingleLine line) (starts : line.toList.head? = some lead)
    (other : lead ≠ 't') : Declares (line ++ "\n") [] := by
  intro rest
  have unlike : line.toList.head? ≠ some 't' := by
    rw [starts]
    exact fun same => other (Option.some.inj same)
  rw [interfacesIn, lines_piece single,
    List.filterMap_cons_none (openedInterface?_of_head (head?_withoutReturn unlike))]
  rfl

theorem openedInterface?_opening (name : String) :
    openedInterface? ("type ".toList ++ (name.toList ++ " interface \x7b".toList)) = some name := by
  have tail : (name.toList ++ " interface \x7b".toList).dropSuffix? " interface \x7b".toList =
      some name.toList :=
    List.dropSuffix?_eq_some_iff.mpr ⟨_, rfl, BEq.rfl⟩
  rw [openedInterface?, List.dropPrefix?_append_of_beq _ BEq.rfl, Option.bind_some, tail,
    Option.map_some, String.ofList_toList]

theorem withoutReturn_opening (name : String) :
    Text.withoutReturn ("type ".toList ++ (name.toList ++ " interface \x7b".toList)) =
      "type ".toList ++ (name.toList ++ " interface \x7b".toList) := by
  have brace : " interface \x7b".toList.getLast? = some '\x7b' := by decide
  have last : ("type ".toList ++ (name.toList ++ " interface \x7b".toList)).getLast? =
      some '\x7b' := by
    rw [List.getLast?_append, List.getLast?_append, brace]
    rfl
  rw [Text.withoutReturn, last, if_neg (by decide)]

theorem declares_opening {name : String} (single : SingleLine name) :
    Declares ("type " ++ name ++ " interface \x7b\n") [name] := by
  have ended : "type " ++ name ++ " interface \x7b\n" =
      "type " ++ name ++ " interface \x7b" ++ "\n" :=
    append_ended _ _ (by decide)
  have one : SingleLine ("type " ++ name ++ " interface \x7b") :=
    (SingleLine.append (by decide) single).append (by decide)
  intro rest
  rw [ended, interfacesIn, lines_piece one, String.toList_append, String.toList_append,
    List.append_assoc, withoutReturn_opening,
    List.filterMap_cons_some (openedInterface?_opening name)]
  rfl

/-- For a piece that is written out in full, what it declares can be computed. -/
theorem declares_closed {piece : String} (ended : piece.toList.getLast? = some '\n')
    (computed : interfacesIn piece.toList = names) : Declares piece names := by
  have shape : String.ofList piece.toList.dropLast ++ "\n" = piece := by
    apply String.toList_injective
    rw [String.toList_append, String.toList_ofList]
    exact List.dropLast_append_getLast? '\n' ended
  rw [← computed, ← shape]
  exact declares_ended _

end Pieces

section Parts

variable {settings : Settings} {field : Schema.Field} {accessor : Accessor} {indent table : String}

/-- A line of a comment is the indent, the marker and no further line feed before the one at its
end. -/
theorem commentLine_shape (indent : String) {line : List Char} (single : '\n' ∉ line) :
    ∃ tail, SingleLine tail ∧ commentLine indent line = indent ++ ("//" ++ tail) ++ "\n" := by
  unfold commentLine
  split
  next => exact ⟨"", by decide, append_ended _ _ (by decide)⟩
  next =>
    refine ⟨" " ++ String.ofList (Text.trimEnd line), SingleLine.append (by decide) ?_, ?_⟩
    · rw [SingleLine, String.toList_ofList]
      exact fun member => single (Text.mem_of_mem_trimEnd member)
    · have marker : "// " = "//" ++ " " := by decide
      rw [marker]
      simp only [String.append_assoc, -String.reduceAppend]

def docLines (name : String) (documentation : Option Documentation) : List (List Char) :=
  let name := Identifier.exported name
  match documentation.bind (·.short), documentation.bind (·.long) with
  | some short, some long => Text.lines (name ++ " " ++ short).toList ++ Text.lines long.toList
  | some only, none | none, some only => Text.lines (name ++ " " ++ only).toList
  | none, none => Text.lines (name ++ " ...").toList

theorem docComment_eq (name : String) (documentation : Option Documentation) (indent : String) :
    docComment name documentation indent =
      String.join ((docLines name documentation).map (commentLine indent)) := by
  unfold docComment docLines
  cases documentation.bind (·.short) with
  | none => cases documentation.bind (·.long) <;> rfl
  | some short =>
      cases documentation.bind (·.long) with
      | none => rfl
      | some long => simp only [comment, List.map_append, String.join_append]

theorem feed_not_mem_docLines {name : String} {documentation : Option Documentation}
    {line : List Char} (listed : line ∈ docLines name documentation) : '\n' ∉ line := by
  unfold docLines at listed
  split at listed
  · rcases List.mem_append.mp listed with short | long
    · exact Text.feed_not_mem_of_mem_lines short
    · exact Text.feed_not_mem_of_mem_lines long
  all_goals exact Text.feed_not_mem_of_mem_lines listed

theorem commentLine_silent (tabs : ∀ c ∈ indent.toList, c = '\t') {line : List Char}
    (single : '\n' ∉ line) : Declares (commentLine indent line) [] := by
  obtain ⟨tail, plain, written⟩ := commentLine_shape indent single
  have margin : SingleLine indent := by
    intro member
    exact absurd (tabs _ member) (by decide)
  have one : SingleLine (indent ++ ("//" ++ tail)) :=
    margin.append (SingleLine.append (by decide) plain)
  rw [written]
  cases shape : indent.toList with
  | nil =>
      have starts : (indent ++ ("//" ++ tail)).toList.head? = some '/' := by
        rw [String.toList_append, shape]
        exact head?_append rfl
      exact declares_silent one starts (by decide)
  | cons c rest =>
      have starts : (indent ++ ("//" ++ tail)).toList.head? = some c := by
        apply head?_append
        rw [shape]
        rfl
      have tab : c = '\t' := tabs c (by rw [shape]; exact List.mem_cons_self)
      exact declares_silent one starts (by rw [tab]; decide)

/-- No documentation can leave its comment. -/
theorem docComment_silent (tabs : ∀ c ∈ indent.toList, c = '\t') (name : String)
    (documentation : Option Documentation) :
    Declares (docComment name documentation indent) [] := by
  rw [docComment_eq]
  apply declares_join
  intro piece member
  obtain ⟨line, listed, rfl⟩ := List.mem_map.mp member
  exact commentLine_silent tabs (feed_not_mem_docLines listed)

theorem accessor_ended : ∃ names, Declares (accessor.render settings field) names :=
  ⟨_, declares_ended _⟩

theorem accessor_silent (named : SingleLine field.name)
    (typed : SingleLine (accessor.resultType settings)) :
    Declares (accessor.render settings field) [] := by
  have written : accessor.render settings field =
      docComment field.name field.documentation "\t" ++
        ("\t" ++ (Identifier.exported field.name ++ "() " ++ accessor.resultType settings) ++
          "\n") := by
    simp only [Accessor.render, String.append_assoc]
  have method :
      SingleLine (Identifier.exported field.name ++ "() " ++ accessor.resultType settings) :=
    (SingleLine.append (Identifier.feed_not_mem_exported named) (by decide)).append typed
  rw [written]
  apply (docComment_silent (by simp) _ _).append
  exact declares_silent (SingleLine.append (by decide) method) (head?_append rfl) (by decide)

theorem imports_ended (imports : ImportSet) : ∃ names, Declares imports.render names := by
  unfold ImportSet.render
  split
  · exact ⟨[], declares_empty⟩
  · have written : "import (\n" ++ String.join (imports.paths.map ImportSet.line) ++ ")\n\n" =
        "import (\n" ++ String.join (imports.paths.map ImportSet.line) ++ ")\n" ++ "\n" :=
      append_ended _ _ (by decide)
    rw [written]
    exact ⟨_, declares_ended _⟩

theorem imports_silent {imports : ImportSet} (single : ∀ path ∈ imports.paths, SingleLine path) :
    Declares imports.render [] := by
  unfold ImportSet.render
  split
  · exact declares_empty
  · have head : Declares "import (\n" [] := declares_closed (by decide) (by decide)
    have tail : Declares ")\n\n" [] := declares_closed (by decide) (by decide)
    have lines : Declares (String.join (imports.paths.map ImportSet.line)) [] := by
      apply declares_join
      intro piece member
      obtain ⟨path, listed, rfl⟩ := List.mem_map.mp member
      have written : ImportSet.line path = "\t\"" ++ path ++ "\"" ++ "\n" :=
        append_ended _ _ (by decide)
      have one : SingleLine ("\t\"" ++ path ++ "\"") :=
        (SingleLine.append (by decide) (single path listed)).append (by decide)
      rw [written]
      exact declares_silent one (head?_append (head?_append rfl)) (by decide)
    exact (head.append lines).append tail

theorem vectorInterface_declares (single : SingleLine table) :
    Declares (vectorInterface table) [Identifier.vectorInterface table] := by
  have plain : SingleLine (Identifier.exported table) := Identifier.feed_not_mem_exported single
  have vector : SingleLine (Identifier.vectorInterface table) :=
    (SingleLine.append (by decide) plain).append (by decide)
  have row : SingleLine (Identifier.rowInterface table) := plain.append (by decide)
  have comment : Declares ("\n// " ++ Identifier.vectorInterface table ++ " ...\n") [] := by
    have blank : Declares "\n" [] := declares_closed (by decide) (by decide)
    have marker : "\n// " = "\n" ++ "// " := by decide
    rw [append_ended _ " ..." (by decide), marker, String.append_assoc, String.append_assoc,
      String.append_assoc]
    apply blank.append
    rw [← String.append_assoc, ← String.append_assoc]
    exact declares_silent ((SingleLine.append (by decide) vector).append (by decide))
      (head?_append (head?_append rfl)) (by decide)
  have method :
      Declares ("\tGet(i int) (" ++ Identifier.rowInterface table ++ ", error)\n") [] := by
    rw [append_ended _ ", error)" (by decide)]
    exact declares_silent ((SingleLine.append (by decide) row).append (by decide))
      (head?_append (head?_append rfl)) (by decide)
  -- The lines that are the same for every table are evaluated one by one.
  have size : Declares "\t// Len returns the current size of this vector\n" [] :=
    declares_closed (by decide +kernel) (by decide +kernel)
  have sizeMethod : Declares "\tLen() int\n\n" [] := declares_closed (by decide) (by decide)
  have position : Declares "\t// Get returns the item in the position i.\n" [] :=
    declares_closed (by decide +kernel) (by decide +kernel)
  have unset : Declares
      "\t// If the item does not exist it returns the default value of the underlying data type.\n"
        [] :=
    declares_closed (by decide +kernel) (by decide +kernel)
  have outside :
      Declares "\t// When i < 0 or i >= Len() it returns a VectorInvalidIndexError.\n" [] :=
    declares_closed (by decide +kernel) (by decide +kernel)
  have finish : Declares "\x7d\n" [] := declares_closed (by decide) (by decide)
  have whole := (((((((comment.append (declares_opening vector)).append size).append
    sizeMethod).append position).append unset).append outside).append method).append finish
  delta vectorInterface
  simpa only [String.append_assoc, List.nil_append, List.append_nil] using whole

end Parts

section Files

variable {settings : Settings} {application : Application} {resolve : Resolver} {table : Table}
  {field : Schema.Field} {accessor : Accessor} {draft : Draft} {file : File}

theorem packageFor_single (name : String) : SingleLine (settings.packageFor name) :=
  Settings.not_mem_packageName (Settings.packageFor_proper settings name) Identifier.isTail_marks.1

theorem begin_declares (single : SingleLine table.name) :
    Declares (Draft.begin table).definitions [Identifier.rowInterface table.name] := by
  have row : SingleLine (Identifier.rowInterface table.name) :=
    SingleLine.append (Identifier.feed_not_mem_exported single) (by decide)
  have comment :
      Declares (docComment (Identifier.rowInterface table.name) table.documentation "") [] :=
    docComment_silent (by simp) _ _
  have whole := comment.append (declares_opening row)
  simpa only [Draft.begin, String.append_assoc, List.nil_append] using whole

theorem push_declares {names more : List String} (before : Declares draft.definitions names)
    (added : Declares (accessor.render settings field) more) :
    Declares (draft.push settings field accessor).definitions (names ++ more) := by
  have gap : Declares (if 0 < draft.accessors then "\n" else "") [] := by
    split
    · exact declares_closed (by decide) (by decide)
    · exact declares_empty
  have whole := (before.append gap).append added
  rwa [List.append_nil] at whole

def Draft.Opens (table : Table) (draft : Draft) : Prop :=
  ∃ more, Declares draft.definitions (Identifier.rowInterface table.name :: more)

theorem pass_opens (single : SingleLine table.name)
    (passed : (Interface.pass settings resolve table).result = .ok draft) : draft.Opens table := by
  apply foldlM_keeps (Interface.pass_eq_ok.mp passed) ⟨[], begin_declares single⟩
  rintro state field next _ stepped ⟨more, declares⟩
  rcases Interface.step_eq_ok.mp stepped with ⟨accessor, _, same⟩ | ⟨_, _, same⟩
  · subst same
    obtain ⟨added, adds⟩ := accessor_ended
    exact ⟨more ++ added, push_declares declares adds⟩
  · subst same
    exact ⟨more, declares⟩

/-- The draft declares the interface of the table's rows and nothing else, and imports nothing but
the package of text vectors. -/
def Draft.OpensOnly (settings : Settings) (table : Table) (draft : Draft) : Prop :=
  Declares draft.definitions [Identifier.rowInterface table.name] ∧
    ∀ path ∈ draft.imports.paths, path = settings.vectorPackage

theorem push_imports (imported : ∀ path ∈ draft.imports.paths, path = settings.vectorPackage) :
    ∀ path ∈ (draft.push settings field accessor).imports.paths, path = settings.vectorPackage := by
  intro path member
  unfold Draft.push at member
  cases accessor with
  | textVector =>
      rcases ImportSet.mem_insertInto.mp member with same | earlier
      · exact same
      · exact imported path earlier
  | text => exact imported path member
  | rowVector name => exact imported path member
  | row name => exact imported path member
  | enumeration name => exact imported path member

/-- Along the pass, methods on one line each leave the declarations as they are. -/
theorem pass_opens_only (single : SingleLine table.name)
    (named : ∀ field ∈ table.fields, SingleLine field.name)
    (typed : ∀ field ∈ table.fields, ∀ accessor,
      Accessor.ofField table.application field resolve = .ok (some accessor) →
        SingleLine (accessor.resultType settings))
    (passed : (Interface.pass settings resolve table).result = .ok draft) :
    draft.OpensOnly settings table := by
  apply foldlM_keeps (Interface.pass_eq_ok.mp passed) ⟨begin_declares single, by simp [Draft.begin]⟩
  rintro state field next member stepped ⟨declares, imported⟩
  rcases Interface.step_eq_ok.mp stepped with ⟨accessor, found, same⟩ | ⟨_, _, same⟩
  · subst same
    have silent := accessor_silent (named field member) (typed field member accessor found)
    have grown := push_declares declares silent
    exact ⟨by rwa [List.append_nil] at grown, push_imports imported⟩
  · subst same
    exact ⟨declares, imported⟩

theorem finish_declares {before between : List String} (single : SingleLine table.name)
    (imports : Declares draft.imports.render before)
    (definitions : Declares draft.definitions between) :
    Declares (draft.finish table)
      (before ++ between ++ [Identifier.vectorInterface table.name]) := by
  have closing : Declares "\x7d\n" [] := declares_closed (by decide) (by decide)
  have whole :=
    (imports.append (definitions.append closing)).append (vectorInterface_declares single)
  rwa [List.append_nil] at whole

theorem clause_silent (settings : Settings) (name : String) :
    Declares ("package " ++ settings.packageFor name ++ "\n\n") [] := by
  have line : Declares ("package " ++ settings.packageFor name ++ "\n") [] :=
    declares_silent (SingleLine.append (by decide) (packageFor_single _)) (head?_append rfl)
      (by decide)
  have blank : Declares "\n" [] := declares_closed (by decide) (by decide)
  rw [append_ended _ "\n" (by decide)]
  exact line.append blank

theorem interfaces_ofDraft {names : List String} (finished : Declares (draft.finish table) names) :
    (File.ofDraft settings application table draft).interfaces = names :=
  ((clause_silent settings application.name).append finished).interfacesIn_eq

/-- For any settings, both interfaces of the table are declared in its file. -/
theorem interfaces_sublist (single : SingleLine table.name)
    (made : (File.ofTable settings application table).result = .ok file) :
    [Identifier.rowInterface table.name, Identifier.vectorInterface table.name].Sublist
      file.interfaces := by
  obtain ⟨draft, passed, same⟩ := File.ofTable_eq_ok.mp made
  obtain ⟨imported, imports⟩ := imports_ended draft.imports
  obtain ⟨more, opens⟩ := pass_opens single passed
  subst same
  rw [interfaces_ofDraft (finish_declares single imports opens), List.append_assoc]
  apply List.sublist_append_of_sublist_right
  rw [List.cons_append]
  exact (List.sublist_append_right more _).cons_cons _

theorem resultType_single (accepted : application.Accepted)
    (packaged : SingleLine settings.vectorPackage)
    {asked : String}
    (found : Accessor.ofField asked field application.resolve = .ok (some accessor)) :
    SingleLine (accessor.resultType settings) := by
  have answers := Accessor.answers_of_ofField found
  cases accessor with
  | text => exact (by decide : SingleLine "string")
  | textVector =>
      apply SingleLine.append _ (by decide)
      intro member
      rw [Settings.vectorAlias, Identifier.lastSegment, String.toList_ofList] at member
      have kept := (List.takeWhile_sublist _).subset (List.mem_reverse.mp member)
      exact packaged (List.mem_reverse.mp kept)
  | rowVector name =>
      obtain ⟨token, id, answer, same⟩ := answers
      rw [lastSegment_of_table answer] at same
      subst same
      have token := Application.feed_not_mem_token (Application.resolve_eq_ok.mp answer).2.1
      exact (SingleLine.append (by decide) (Identifier.feed_not_mem_exported token)).append
        (by decide)
  | row name =>
      obtain ⟨id, answer, same⟩ := answers
      rw [lastSegment_of_table answer] at same
      subst same
      have token := Application.feed_not_mem_token (Application.resolve_eq_ok.mp answer).2.1
      exact (SingleLine.append (by decide)
        (SingleLine.append (Identifier.feed_not_mem_exported token) (by decide))).append (by decide)
  | enumeration name =>
      obtain ⟨id, parent, answer, same⟩ := answers
      obtain ⟨enumeration, member, segment⟩ := lastSegment_of_group accepted answer
      rw [segment] at same
      subst same
      exact Identifier.feed_not_mem_exported
        (Identifier.feed_not_mem_of_valid (accepted.enumerations enumeration member))

/-- A path on one line adds no line, so the two interfaces of the table are all that its file
declares. -/
theorem interfaces_exact (accepted : application.Accepted)
    (packaged : SingleLine settings.vectorPackage) (member : table ∈ application.tables)
    (made : (File.ofTable settings application table).result = .ok file) :
    file.interfaces =
      [Identifier.rowInterface table.name, Identifier.vectorInterface table.name] := by
  obtain ⟨draft, passed, same⟩ := File.ofTable_eq_ok.mp made
  obtain ⟨_, sound⟩ := accepted.tables table member
  have single : SingleLine table.name := Identifier.feed_not_mem_of_valid sound.identifier
  obtain ⟨opens, imported⟩ := pass_opens_only single
    (fun field listed => Identifier.feed_not_mem_of_valid (sound.fields field listed).identifier)
    (fun field _ accessor found => resultType_single accepted packaged found) passed
  have imports : Declares draft.imports.render [] :=
    imports_silent fun path listed => by rw [imported path listed]; exact packaged
  subst same
  exact interfaces_ofDraft (finish_declares single imports opens)

end Files

end TableReaders.Package
