import TableReaders.Proofs.Package.Comments
import TableReaders.Proofs.Package.Composition

/-!
Comments and what they stand over. The first line of a comment is the marker and the exported name:
a name has no line feed and does not end with a blank, so neither the end of the line nor what is
cut off there is inside it. The interface of a table is named in its comment after one more export
than in its definition, which makes no difference.
-/

namespace TableReaders.Package

open Schema

/-- A definition of a name under a comment that names it. Behind the name the first line of the
comment has nothing or goes on with a blank. Further lines of the comment may follow, and then the
definition with the name between `lead` and `behind`. -/
def Headed (indent lead name behind text : String) : Prop :=
  ∃ (rest : List Char) (further : List (List Char)),
    text.toList =
      (indent ++ "// " ++ name).toList ++ rest ++ '\n' ::
        (further.flatMap (· ++ ['\n']) ++ (lead ++ name ++ behind).toList) ∧
    '\n' ∉ rest ∧ (rest = [] ∨ rest.head? = some ' ') ∧
    ∀ line ∈ further, (indent ++ "//").toList <+: line ∧ '\n' ∉ line

section Names

variable {name : String}

/-- The first text of a comment begins with the name and a blank. -/
theorem shownTexts_front (name : String) (documentation : Option Documentation) :
    ∃ text more, shownTexts name documentation =
      String.ofList ((Identifier.exported name).toList ++ [' '] ++ text) :: more := by
  have front (text : String) : Identifier.exported name ++ " " ++ text =
      String.ofList ((Identifier.exported name).toList ++ [' '] ++ text.toList) := by
    rw [← String.toList_inj, String.toList_ofList, String.toList_append, String.toList_append]
    rfl
  have bare : Identifier.exported name ++ " ..." = Identifier.exported name ++ " " ++ "..." := by
    rw [String.append_assoc]
    rfl
  unfold shownTexts
  rw [bare]
  simp only [front]
  split <;> exact ⟨_, _, rfl⟩

theorem trimEnd_name (accepted : Identifier.valid name = true) (rest : List Char) :
    Text.trimEnd (name.toList ++ rest) = name.toList ++ Text.trimEnd rest := by
  -- The last character of a name is no blank, so only what follows the name is cut.
  have filled : name.toList ≠ [] := by
    obtain ⟨first, tail, shape, _⟩ := Identifier.valid_shape accepted
    rw [shape]
    exact List.cons_ne_nil first tail
  have solid : Text.isBlank (name.toList.getLast filled) = false :=
    Identifier.not_isBlank_of_isTail (Identifier.isTail_of_mem accepted (List.getLast_mem filled))
  rw [← List.dropLast_append_getLast filled]
  exact Text.trimEnd_append solid _ rest

theorem docLines_front (accepted : Identifier.valid name = true)
    (documentation : Option Documentation) :
    ∃ rest more, (docLines name documentation).map Text.trimEnd =
        ((Identifier.exported name).toList ++ rest) :: more ∧
      (rest = [] ∨ rest.head? = some ' ') := by
  obtain ⟨text, others, shown⟩ := shownTexts_front name documentation
  have single : '\n' ∉ (Identifier.exported name).toList ++ [' '] := by
    have plain := Identifier.feed_not_mem_exported (Identifier.feed_not_mem_of_valid accepted)
    simp [plain]
  obtain ⟨line, more, cut⟩ := Text.cutLines_front single (by simp) text
  have kept := Text.trimEnd_isPrefix (' ' :: line)
  refine ⟨Text.trimEnd (' ' :: line),
    more ++ others.flatMap fun text => Text.cutLines text.toList, ?_, ?_⟩
  · rw [docLines_cut, shown, List.flatMap_cons, String.toList_ofList, cut, List.append_assoc,
      List.singleton_append, trimEnd_name (Identifier.valid_exported accepted).1, List.cons_append]
  · cases trimmed : Text.trimEnd (' ' :: line) with
    | nil => exact .inl rfl
    | cons c rest =>
        rw [trimmed, List.cons_prefix_cons] at kept
        exact .inr (by rw [kept.1]; rfl)

theorem docComment_headed (accepted : Identifier.valid name = true)
    (documentation : Option Documentation)
    (indent lead behind : String) (margin : SingleLine indent) :
    Headed indent lead (Identifier.exported name) behind
      (docComment name documentation indent ++ (lead ++ Identifier.exported name ++ behind)) := by
  obtain ⟨rest, more, cut, separated⟩ := docLines_front accepted documentation
  have single : ∀ line ∈ (docLines name documentation).map Text.trimEnd, '\n' ∉ line := by
    intro line listed
    obtain ⟨origin, given, rfl⟩ := List.mem_map.mp listed
    exact fun member => feed_not_mem_docLines given (Text.mem_of_mem_trimEnd member)
  rw [cut, List.forall_mem_cons, List.mem_append, not_or] at single
  refine ⟨rest, more.map (marked indent), ?_, single.1.2, separated, ?_⟩
  · have first : marked indent ((Identifier.exported name).toList ++ rest) =
        (indent ++ "// " ++ Identifier.exported name).toList ++ rest := by
      have filled : (Identifier.exported name).toList ++ rest ≠ [] := by
        obtain ⟨_, first, head, _⟩ := Identifier.valid_exported accepted
        intro nothing
        rw [(List.append_eq_nil_iff.mp nothing).1] at head
        cases head
      rw [marked, if_neg filled, String.toList_append, String.toList_append]
      simp
    rw [String.toList_append, toList_docComment, cut, List.map_cons, List.flatMap_cons, first]
    simp only [List.append_assoc, List.cons_append, List.nil_append]
  · intro line listed
    obtain ⟨shown, member, rfl⟩ := List.mem_map.mp listed
    exact ⟨marked_front indent shown, marked_single margin (single.2 shown member)⟩

end Names

/-- Exporting a name once is enough and keeps it a name, and every definition of a generated text
stands under a comment that begins with the name it defines. -/
theorem definitions_headed (settings : Settings) (resolve : Resolver) (table : Table) :
    (∀ name, Identifier.exported (Identifier.exported name) = Identifier.exported name) ∧
    (∀ name, Identifier.valid name = true → Identifier.valid (Identifier.exported name) = true ∧
      ∃ first, (Identifier.exported name).toList.head? = some first ∧
        Text.isUppercase first = true) ∧
    (Identifier.valid table.name = true →
      Headed "" "type " (Identifier.rowInterface table.name) " interface \x7b\n"
        (Draft.begin table).definitions) ∧
    (∀ (field : Schema.Field) (accessor : Accessor), Identifier.valid field.name = true →
      Headed "\t" "\t" (Identifier.exported field.name)
        ("() " ++ accessor.resultType settings ++ "\n")
        (accessor.render settings field)) ∧
    ∀ text, (Interface.render settings resolve table).result = .ok text →
      text =
        Interface.importFor settings
            ((Interface.methods resolve table table.fields).any (·.2 == .textVector)) ++
          (Draft.begin table).definitions ++
          "\n".intercalate (Interface.methodTexts settings resolve table) ++
          Interface.ending table.name := by
  refine ⟨Identifier.exported_exported, fun name => Identifier.valid_exported, ?_, ?_, ?_⟩
  · intro accepted
    have headed := docComment_headed (Identifier.valid_rowInterface accepted) table.documentation
      "" "type " " interface \x7b\n" (by decide)
    rw [Identifier.exported_rowInterface] at headed
    have written : (Draft.begin table).definitions =
        docComment (Identifier.rowInterface table.name) table.documentation "" ++
          ("type " ++ Identifier.rowInterface table.name ++ " interface \x7b\n") := by
      simp only [Draft.begin, String.append_assoc]
    rw [written]
    exact headed
  · intro field accessor accepted
    have headed := docComment_headed accepted field.documentation "\t" "\t"
      ("() " ++ accessor.resultType settings ++ "\n") (by decide)
    have written : accessor.render settings field =
        docComment field.name field.documentation "\t" ++
          ("\t" ++ Identifier.exported field.name ++
            ("() " ++ accessor.resultType settings ++ "\n")) := by
      simp only [Accessor.render, String.append_assoc]
    rw [written]
    exact headed
  · intro text rendered
    have composed : text = Interface.text settings resolve table := by
      rw [Interface.render_result, unlessFault_eq_ok] at rendered
      exact rendered.2.symm
    rw [composed, Interface.text]
    simp only [Draft.begin, Interface.headLine, String.append_assoc]

def offField : Schema.Field :=
  { Field.text "ﬀ" with documentation := some (.ofTexts (some "\r\nis open") (some "\nlater")) }

def streets : Table where
  name := "ßtreet"
  application := "store"
  documentation := some (.ofTexts none (some "\u2003\nhas doors"))
  fields := [offField]

/-- Both definitions stand under their names, though what follows the names on these lines is
blank. -/
theorem streets_headed :
    Identifier.valid streets.name = true ∧ Identifier.valid offField.name = true ∧
    Headed "" "type " "SStreetReader" " interface \x7b\n" (Draft.begin streets).definitions ∧
    Headed "\t" "\t" "FF" "() string\n" (Accessor.text.render {} offField) ∧
    ∃ text, (Interface.render {} (Application.resolve { name := "store" }) streets).result =
      .ok text ∧
      text =
        "// SStreetReader\n// has doors\ntype SStreetReader interface \x7b\n" ++
        "\t// FF\n\t// is open\n\t//\n\t// later\n\tFF() string\n" ++
        Interface.ending "ßtreet" := by
  have accepted : Identifier.valid streets.name = true := by decide +kernel
  have acceptedToo : Identifier.valid offField.name = true := by decide +kernel
  obtain ⟨_, _, table, field, composed⟩ :=
    definitions_headed {} (Application.resolve { name := "store" }) streets
  obtain ⟨text, rendered⟩ := exists_of_isOk (by decide +kernel :
    (Interface.render {} (Application.resolve { name := "store" }) streets).result.isOk = true)
  have name : Identifier.rowInterface streets.name = "SStreetReader" := by decide +kernel
  have nameToo : Identifier.exported offField.name = "FF" := by decide +kernel
  refine ⟨accepted, acceptedToo, ?_, ?_, text, rendered, ?_⟩
  · rw [← name]
    exact table accepted
  · rw [← nameToo]
    exact field offField .text acceptedToo
  · rw [composed text rendered]
    decide +kernel

end TableReaders.Package
