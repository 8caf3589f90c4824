import Mathlib.Data.List.Chain
import TableReaders.Proofs.Package.Delivery

/-!
The names of generated files. Snake case writes the small form of every character that is no
separator, in order, and beside that only underscores: one for every separator, and one before a
word that no separator precedes. The latter stands between letters, so two underscores meet only
where two separators did. The name of a table that the check accepts has no separator in front and
no character that a path gives a meaning to, and its file name keeps that.
-/

namespace TableReaders

namespace Identifier

open Text

def isBoundary (c : Char) : Bool :=
  isSeparator c || c == '_'

section Pieces

variable {previous next : Option Char} {c p : Char}

theorem isBoundary_iff : isBoundary c = true ↔ c ∈ ['-', ' ', '_'] := by
  simp [isBoundary, isSeparator, or_assoc]

theorem snakePiece_boundary (boundary : isBoundary c = true) :
    snakePiece previous c next = ['_'] := by
  simp only [isBoundary, Bool.or_eq_true, beq_iff_eq] at boundary
  rcases boundary with separator | underscore
  · rw [snakePiece, if_pos separator]
  · have small : isUppercase '_' = false := by decide +kernel
    have own : toSmall '_' = ['_'] := by decide +kernel
    have plain : isSeparator '_' = false := by decide
    simp [snakePiece, startsWord, underscore, small, own, plain]

theorem snakePiece_plain (plain : isBoundary c = false) :
    snakePiece previous c next =
      (if startsWord previous c next then ['_'] else []) ++ toSmall c := by
  rw [isBoundary, Bool.or_eq_false_iff] at plain
  rw [snakePiece, if_neg (by simp [plain.1])]
  split <;> rfl

theorem underscore_not_mem_toSmall (plain : isBoundary c = false) : '_' ∉ toSmall c := by
  intro member
  rw [← mem_toSmall_low (by decide) member] at plain
  exact absurd plain (by decide)

/-- An underscore is put in only behind a letter or a digit. -/
theorem not_isBoundary_of_startsWord (begins : startsWord (some p) c next = true) :
    isBoundary p = false := by
  rw [Bool.eq_false_iff]
  intro boundary
  have caseless : (['-', ' ', '_'].all fun c => !isLowercase c && !c.isDigit && !isUppercase c) =
      true := by
    decide +kernel
  have none := List.all_eq_true.mp caseless p (isBoundary_iff.mp boundary)
  simp_all [startsWord]

end Pieces

section Letters

/-- Without the underscores, what is left of a piece is the small form of its character. -/
theorem filter_snakeFrom (previous : Option Char) (text : List Char) :
    (snakeFrom previous text).filter (· != '_') =
      (text.filter fun c => !isBoundary c).flatMap toSmall := by
  induction text generalizing previous with
  | nil => rfl
  | cons c rest ih =>
      rw [snakeFrom, List.filter_append, ih]
      cases boundary : isBoundary c with
      | true => simp [snakePiece_boundary boundary, boundary]
      | false =>
          have letters : (toSmall c).filter (· != '_') = toSmall c := by
            rw [List.filter_eq_self]
            intro shown member
            rw [bne_iff_ne]
            rintro rfl
            exact underscore_not_mem_toSmall boundary member
          have front : (if startsWord previous c rest.head? then ['_'] else []).filter (· != '_') =
              [] := by
            split <;> rfl
          rw [snakePiece_plain boundary, List.filter_append, front, letters,
            List.filter_cons_of_pos (by simp [boundary]), List.flatMap_cons, List.nil_append]

end Letters

section Neighbours

variable {kind : Char → Bool} {text word tail : List Char} {lead last p : Char}

def Adjacent (kind : Char → Bool) (text : List Char) : Prop :=
  ∃ before first second after,
    text = before ++ first :: second :: after ∧ kind first = true ∧ kind second = true

def Spaced (kind : Char → Bool) (text : List Char) : Prop :=
  text.IsChain fun first second => (kind first && kind second) = false

@[simp] theorem spaced_nil : Spaced kind [] := .nil

@[simp] theorem spaced_singleton : Spaced kind [lead] := .singleton lead

@[simp] theorem spaced_cons_cons :
    Spaced kind (lead :: last :: tail) ↔
      (kind lead && kind last) = false ∧ Spaced kind (last :: tail) :=
  List.isChain_cons_cons

theorem adjacent_iff : Adjacent kind text ↔ ¬Spaced kind text := by
  rw [Spaced, List.isChain_iff_forall_rel_of_append_cons_cons]
  constructor
  · rintro ⟨before, first, second, after, shape, one, other⟩ spaced
    have apart := spaced shape
    rw [one, other] at apart
    cases apart
  · intro crowded
    simp only [not_forall, Bool.not_eq_false, Bool.and_eq_true] at crowded
    obtain ⟨first, second, before, after, shape, both⟩ := crowded
    exact ⟨before, first, second, after, shape, both⟩

theorem spaced_lead (other : kind lead = false) :
    Spaced kind (lead :: text) ↔ Spaced kind text := by
  cases text with
  | nil => simp
  | cons c rest => simp [other]

/-- Characters of another kind keep apart whatever stands before them. -/
theorem spaced_past (plain : ∀ c ∈ word, kind c = false) (other : kind last = false) (lead : Char) :
    Spaced kind (lead :: (word ++ last :: tail)) ↔ Spaced kind (last :: tail) := by
  induction word generalizing lead with
  | nil => simp [other]
  | cons c word ih =>
      rw [List.forall_mem_cons] at plain
      rw [List.cons_append, spaced_cons_cons, ih plain.2]
      simp [plain.1]

theorem toSmall_parts (plain : isBoundary p = false) :
    ∃ word last, toSmall p = word ++ [last] ∧ (∀ c ∈ word, (c == '_') = false) ∧
      (last == '_') = false := by
  have away := underscore_not_mem_toSmall plain
  obtain ⟨word, last, form⟩ := (toSmall p).eq_nil_or_concat'.resolve_left (toSmall_ne_nil p)
  rw [form, List.mem_append, not_or, List.mem_singleton] at away
  refine ⟨word, last, form, ?_, beq_false_of_ne (Ne.symm away.2)⟩
  intro c member
  exact beq_false_of_ne fun same => away.1 (same ▸ member)

theorem spaced_snakeFrom (text : List Char) (same : (lead == '_') = isBoundary p) :
    Spaced (· == '_') (lead :: snakeFrom (some p) text) ↔ Spaced isBoundary (p :: text) := by
  -- The character written last is carried along: it is an underscore exactly if a separator was
  -- read last.
  induction text generalizing lead p with
  | nil => simp [snakeFrom]
  | cons c rest ih =>
      rw [snakeFrom, spaced_cons_cons]
      cases boundary : isBoundary c with
      | true =>
          have onward : Spaced (· == '_') ('_' :: snakeFrom (some c) rest) ↔
              Spaced isBoundary (c :: rest) :=
            ih (by rw [boundary]; rfl)
          rw [snakePiece_boundary boundary, List.singleton_append, spaced_cons_cons, onward, same]
          rfl
      | false =>
          obtain ⟨word, last, form, plain, other⟩ := toSmall_parts boundary
          have onward := ih (other.trans boundary.symm)
          have letters : ∀ before,
              Spaced (· == '_') (before :: (toSmall c ++ snakeFrom (some c) rest)) ↔
              Spaced isBoundary (c :: rest) := by
            intro before
            rw [form, List.append_assoc, List.singleton_append, spaced_past plain other, onward]
          rw [snakePiece_plain boundary]
          split
          next begins =>
            -- The underscore before a word follows a character that is none.
            rw [not_isBoundary_of_startsWord begins] at same ⊢
            rw [List.singleton_append, List.cons_append, spaced_cons_cons, letters, same]
            rfl
          next =>
            rw [List.nil_append, letters, Bool.and_false]
            simp

theorem snakeFrom_none (text : List Char) : snakeFrom none text = snakeFrom (some '.') text := by
  -- The first character has none before it, which is as good as one without case.
  have caseless : isLowercase '.' = false ∧ '.'.isDigit = false ∧ isUppercase '.' = false := by
    decide +kernel
  cases text with
  | nil => rfl
  | cons c rest => simp [snakeFrom, snakePiece, startsWord, caseless]

theorem spaced_snakeCase (name : String) :
    Spaced (· == '_') (snakeCase name).toList ↔ Spaced isBoundary name.toList := by
  have written : Spaced (· == '_') ('.' :: snakeFrom (some '.') name.toList) ↔
      Spaced (· == '_') (snakeFrom (some '.') name.toList) := spaced_lead (by decide)
  rw [snakeCase, String.toList_ofList, snakeFrom_none, ← written,
    spaced_snakeFrom name.toList (by decide), spaced_lead (by decide)]

end Neighbours

section Characters

variable {name : String} {c shown : Char}

theorem mem_snakeCase (other : c ≠ '_') (member : c ∈ (snakeCase name).toList) :
    ∃ origin ∈ name.toList, c ∈ toSmall origin := by
  have kept : c ∈ (snakeFrom none name.toList).filter (· != '_') := by
    rw [snakeCase, String.toList_ofList] at member
    exact List.mem_filter.mpr ⟨member, bne_iff_ne.mpr other⟩
  rw [filter_snakeFrom] at kept
  obtain ⟨origin, listed, formed⟩ := List.mem_flatMap.mp kept
  exact ⟨origin, (List.mem_filter.mp listed).1, formed⟩

theorem not_mem_snakeCase (accepted : valid name = true) (below : c.toNat < 0x61)
    (outside : isTail c = false) : c ∉ (snakeCase name).toList := by
  have other : c ≠ '_' := by
    rintro rfl
    rw [isTail_iff.mpr (.inr (.inr rfl))] at outside
    cases outside
  intro member
  obtain ⟨origin, listed, formed⟩ := mem_snakeCase other member
  rw [← mem_toSmall_low below formed] at listed
  exact not_mem_of_valid accepted outside listed

theorem head?_snakeCase (accepted : valid name = true) :
    ∃ first, (snakeCase name).toList.head? = some first ∧
      ∀ c : Char, c.toNat < 0x61 → isAlphabetic c = false → first ≠ c := by
  -- A name that the check accepts begins with a letter, and the small form of a letter is one.
  obtain ⟨letter, rest, shape, alphabetic, _⟩ := valid_shape accepted
  have plain : isBoundary letter = false := by
    rw [Bool.eq_false_iff]
    intro boundary
    have unlike : (['-', ' ', '_'].all fun c => !isAlphabetic c) = true := by decide +kernel
    have other := List.all_eq_true.mp unlike letter (isBoundary_iff.mp boundary)
    simp [alphabetic] at other
  have alone : startsWord none letter rest.head? = false := by simp [startsWord]
  obtain ⟨first, more, form⟩ := List.exists_cons_of_ne_nil (toSmall_ne_nil letter)
  refine ⟨first, ?_, ?_⟩
  · rw [snakeCase, String.toList_ofList, shape, snakeFrom, snakePiece_plain plain, alone, form]
    rfl
  · rintro c below other rfl
    have same := mem_toSmall_low below (form ▸ List.mem_cons_self)
    rw [same, alphabetic] at other
    cases other

end Characters

end Identifier

namespace Package

open Schema

/-- A name for one entry of a directory that no tool passes over: no path separator, no NUL, and
neither a dot nor an underscore in front. -/
structure File.PlainName (name : String) : Prop where
  slash : '/' ∉ name.toList
  nul : '\x00' ∉ name.toList
  front : ∃ first, name.toList.head? = some first ∧ first ≠ '.' ∧ first ≠ '_'

variable {settings : Settings} {table : Table}

theorem nameFor_plain (accepted : Identifier.valid table.name = true)
    (slash : '/' ∉ settings.extension.toList) (nul : '\x00' ∉ settings.extension.toList) :
    File.PlainName (File.nameFor settings table) := by
  have written : (File.nameFor settings table).toList =
      (Identifier.snakeCase table.name).toList ++
        ("_reader.".toList ++ settings.extension.toList) := by
    rw [File.nameFor, String.toList_append, String.toList_append, List.append_assoc]
  have absent : ∀ c : Char, c.toNat < 0x61 → Identifier.isTail c = false → c ∉ "_reader.".toList →
      c ∉ settings.extension.toList → c ∉ (File.nameFor settings table).toList := by
    intro c below outside middle behind member
    rw [written, List.mem_append, List.mem_append] at member
    rcases member with front | within | last
    · exact Identifier.not_mem_snakeCase accepted below outside front
    · exact middle within
    · exact behind last
  obtain ⟨first, head, letter⟩ := Identifier.head?_snakeCase accepted
  refine ⟨absent '/' (by decide) Identifier.isTail_marks.2 (by decide) slash,
    absent '\x00' (by decide) (by decide +kernel) (by decide) nul, first, ?_, ?_, ?_⟩
  · rw [written, List.head?_append, head]
    rfl
  · exact letter '.' (by decide) (by decide +kernel)
  · exact letter '_' (by decide) (by decide +kernel)

/-- Snake case keeps every letter and puts no two underscores where there were no two separators,
and every file of an application that the check accepts has a plain name. -/
theorem fileNames_plain (settings : Settings) (application : Application) (name : String) :
    ((Identifier.snakeCase name).toList.filter (· != '_') =
      (name.toList.filter fun c => !Identifier.isBoundary c).flatMap Text.toSmall) ∧
    (Identifier.Adjacent (· == '_') (Identifier.snakeCase name).toList ↔
      Identifier.Adjacent Identifier.isBoundary name.toList) ∧
    (application.check = .ok () → '/' ∉ settings.extension.toList →
      '\x00' ∉ settings.extension.toList →
      (∀ table ∈ application.tables, File.PlainName (File.nameFor settings table)) ∧
      ∀ files, (generate settings application).result = .ok files →
        ∀ file ∈ files, File.PlainName file.name) := by
  refine ⟨?_, ?_, ?_⟩
  · rw [Identifier.snakeCase, String.toList_ofList]
    exact Identifier.filter_snakeFrom none name.toList
  · rw [Identifier.adjacent_iff, Identifier.adjacent_iff, Identifier.spaced_snakeCase]
  · intro checked slash nul
    have accepted := (Application.check_eq_ok application).mp checked
    have plain : ∀ table ∈ application.tables, File.PlainName (File.nameFor settings table) :=
      fun table member => nameFor_plain (accepted.tables table member).2.identifier slash nul
    refine ⟨plain, ?_⟩
    intro files generated file written
    have listed : file.name ∈ files.map File.name := List.mem_map_of_mem written
    rw [generated_names generated] at listed
    obtain ⟨table, member, named⟩ := List.mem_map.mp listed
    rw [← named]
    exact plain table member

def devices : Application :=
  (Application.declareTable { name := "lab" }
    { name := "HTTPServer2_İd", application := "lab" }).declareTable
    { name := "ßeta__Probe", application := "lab" }

theorem devices_plain :
    Identifier.snakeCase "-HTTPServer2 _İd" = "_http_server2__i̇d" ∧
    Identifier.Adjacent (· == '_') "_http_server2__i̇d".toList ∧
    devices.check = .ok () ∧
    ∃ files, (generate { extension := "gen.go" } devices).result = .ok files ∧
      files.map (·.name) = ["http_server2_i̇d_reader.gen.go", "ßeta__probe_reader.gen.go"] ∧
      ∀ file ∈ files, File.PlainName file.name := by
  have cased : Identifier.snakeCase "-HTTPServer2 _İd" = "_http_server2__i̇d" := by decide +kernel
  have checked : devices.check = .ok () := eq_ok_of_toOption (by decide +kernel)
  obtain ⟨_, neighbours, names⟩ :=
    fileNames_plain { extension := "gen.go" } devices "-HTTPServer2 _İd"
  obtain ⟨files, generated⟩ := exists_of_isOk
    (by decide +kernel : (generate { extension := "gen.go" } devices).result.isOk = true)
  refine ⟨cased, ?_, checked, files, generated, ?_, ?_⟩
  · rw [← cased]
    exact neighbours.mpr
      ⟨"-HTTPServer2".toList, ' ', '_', "İd".toList, by decide, by decide, by decide⟩
  · rw [generated_names generated]
    decide +kernel
  · exact (names checked (by decide) (by decide)).2 files generated

end Package

end TableReaders
