import TableReaders.Identifier
import TableReaders.Proofs.Text.CaseMapping

/-!
The characters of names. Case mappings only produce letters and marks, so a slash or a line feed in
the exported form of a name was in the name itself. The exported form of a name is a name, and it is
its own exported form. The names of interfaces are told apart by what they are made from: two
interfaces have one name exactly when the exported names behind them agree or one of these begins
with the word that marks a vector.
-/

namespace TableReaders.Identifier

open Text

section Characters

variable {name : String} {c : Char}

theorem valid_shape (accepted : valid name = true) :
    ∃ first rest, name.toList = first :: rest ∧ isAlphabetic first = true ∧
      (∀ c ∈ toCapital first, isUppercase c = true) ∧ ∀ c ∈ rest, isTail c = true := by
  unfold valid at accepted
  split at accepted
  next => cases accepted
  next first rest shape =>
    simp only [Bool.and_eq_true, List.all_eq_true] at accepted
    exact ⟨first, rest, shape, accepted.1.1, accepted.1.2, accepted.2⟩

theorem toList_exported {first : Char} {rest : List Char} (shape : name.toList = first :: rest) :
    (exported name).toList = toCapital first ++ rest := by
  unfold exported
  rw [shape]
  exact String.toList_ofList

/-- A name is exported with a capital in front that stays as it is if the name is exported again. -/
theorem exported_shape {first : Char} {rest : List Char} (shape : name.toList = first :: rest) :
    ∃ capital more, toCapital first = capital :: more ∧ toCapital capital = [capital] ∧
      (exported name).toList = capital :: (more ++ rest) := by
  obtain ⟨capital, more, form⟩ := List.exists_cons_of_ne_nil (toCapital_ne_nil first)
  refine ⟨capital, more, form, toCapital_stable (form ▸ List.mem_cons_self), ?_⟩
  rw [toList_exported shape, form, List.cons_append]

theorem exported_exported (name : String) : exported (exported name) = exported name := by
  cases shape : name.toList with
  | nil => simp [exported, shape]
  | cons first rest =>
      obtain ⟨capital, more, _, stable, written⟩ := exported_shape shape
      rw [← String.toList_inj, toList_exported written, stable, written, List.singleton_append]

theorem isTail_iff : isTail c = true ↔ isAlphabetic c = true ∨ isNumeric c = true ∨ c = '_' := by
  simp [isTail, isAlphanumeric, or_assoc]

theorem isTail_of_isUppercase (capital : isUppercase c = true) : isTail c = true :=
  isTail_iff.mpr (.inl (isAlphabetic_of_isUppercase capital))

theorem not_isBlank_of_isTail (tail : isTail c = true) : isBlank c = false := by
  rcases isTail_iff.mp tail with letter | number | underscore
  · exact not_isBlank_of_anyHas (by decide +kernel) letter
  · exact not_isBlank_of_anyHas (by decide +kernel) number
  · rw [underscore]
    decide

theorem isTail_of_mem (accepted : valid name = true) (member : c ∈ name.toList) :
    isTail c = true := by
  obtain ⟨first, rest, shape, letter, _, tail⟩ := valid_shape accepted
  rw [shape] at member
  rcases List.mem_cons.mp member with same | later
  · subst same
    exact isTail_iff.mpr (.inl letter)
  · exact tail c later

theorem valid_of_shape {first : Char} {rest : List Char} (shape : name.toList = first :: rest)
    (letter : isAlphabetic first = true) (capital : ∀ c ∈ toCapital first, isUppercase c = true)
    (tail : ∀ c ∈ rest, isTail c = true) : valid name = true := by
  unfold valid
  rw [shape]
  simp only [Bool.and_eq_true, List.all_eq_true]
  exact ⟨⟨letter, capital⟩, tail⟩

theorem valid_append {ending : String} (accepted : valid name = true)
    (tail : ∀ c ∈ ending.toList, isTail c = true) : valid (name ++ ending) = true := by
  obtain ⟨first, rest, shape, letter, capital, behind⟩ := valid_shape accepted
  have written : (name ++ ending).toList = first :: (rest ++ ending.toList) := by
    rw [String.toList_append, shape, List.cons_append]
  refine valid_of_shape written letter capital ?_
  intro c member
  rcases List.mem_append.mp member with early | late
  · exact behind c early
  · exact tail c late

theorem valid_exported (accepted : valid name = true) :
    valid (exported name) = true ∧
      ∃ first, (exported name).toList.head? = some first ∧ isUppercase first = true := by
  -- Capitals are letters and capital forms of themselves.
  obtain ⟨first, rest, shape, _, capitals, tail⟩ := valid_shape accepted
  obtain ⟨capital, more, form, stable, written⟩ := exported_shape shape
  rw [form, List.forall_mem_cons] at capitals
  refine ⟨valid_of_shape written (isAlphabetic_of_isUppercase capitals.1) ?_ ?_, capital, ?_,
    capitals.1⟩
  · rw [stable]
    simpa using capitals.1
  · intro c member
    rcases List.mem_append.mp member with early | late
    · exact isTail_of_isUppercase (capitals.2 c early)
    · exact tail c late
  · rw [written]
    rfl

theorem not_mem_of_valid (accepted : valid name = true) (outside : isTail c = false) :
    c ∉ name.toList := by
  intro member
  rw [isTail_of_mem accepted member] at outside
  cases outside

theorem mem_of_mem_exported (below : c.toNat < 0x41) (member : c ∈ (exported name).toList) :
    c ∈ name.toList := by
  cases shape : name.toList with
  | nil =>
      unfold exported at member
      rw [shape] at member
      cases member
  | cons first rest =>
      rw [toList_exported shape] at member
      rcases List.mem_append.mp member with front | later
      · rw [mem_toCapital_low below front]
        exact List.mem_cons_self
      · exact List.mem_cons_of_mem first later

/-- Names are on one line, in their exported form too. -/
theorem feed_not_mem_exported (single : '\n' ∉ name.toList) : '\n' ∉ (exported name).toList :=
  fun member => single (mem_of_mem_exported (by decide) member)

/-- What ends a line or parts a path is in no name. -/
theorem isTail_marks : isTail '\n' = false ∧ isTail '/' = false := by
  decide +kernel

theorem feed_not_mem_of_valid (accepted : valid name = true) : '\n' ∉ name.toList :=
  not_mem_of_valid accepted isTail_marks.1

theorem slash_not_mem_of_valid (accepted : valid name = true) : '/' ∉ name.toList :=
  not_mem_of_valid accepted isTail_marks.2

end Characters

section Segments

/-- Read from its end, a path gives up a name without slashes as a whole. -/
theorem takeWhile_plain {name : List Char} (plain : '/' ∉ name) (rest : List Char) :
    (name.reverse ++ rest).takeWhile (· != '/') = name.reverse ++ rest.takeWhile (· != '/') := by
  apply List.takeWhile_append_of_pos
  intro c member
  rw [bne_iff_ne]
  rintro rfl
  exact plain (List.mem_reverse.mp member)

theorem lastSegment_plain {name : String} (plain : '/' ∉ name.toList) :
    lastSegment name = name := by
  have cut := takeWhile_plain plain []
  rw [List.append_nil, List.takeWhile_nil, List.append_nil] at cut
  rw [lastSegment, cut, List.reverse_reverse, String.ofList_toList]

/-- Only the part behind the last slash counts, whatever stands before it. -/
theorem lastSegment_qualified (front name : String) (plain : '/' ∉ name.toList) :
    lastSegment (front ++ "/" ++ name) = name := by
  have cut : (front ++ "/" ++ name).toList.reverse.takeWhile (· != '/') = name.toList.reverse := by
    rw [String.toList_append, List.reverse_append, takeWhile_plain plain]
    simp
  rw [lastSegment, cut, List.reverse_reverse, String.ofList_toList]

/-- The last segment is the last of the pieces between slashes. -/
theorem toList_lastSegment (path : String) :
    (lastSegment path).toList = (path.toList.splitOn '/').getLastD [] := by
  by_cases slash : '/' ∈ path.toList.reverse
  · obtain ⟨name, front, shape, plain⟩ := List.eq_append_cons_of_mem slash
    have plain : '/' ∉ name.reverse := fun member => plain (List.mem_reverse.mp member)
    have pieces : path.toList = front.reverse ++ '/' :: name.reverse := by
      rw [← List.reverse_inj, shape]
      simp
    have whole : path = String.ofList front.reverse ++ "/" ++ String.ofList name.reverse := by
      rw [← String.toList_inj, pieces]
      simp
    have segment : lastSegment path = String.ofList name.reverse := by
      rw [whole]
      exact lastSegment_qualified _ _ (by simpa using plain)
    rw [segment, String.toList_ofList, pieces, List.splitOn_append_cons_self,
      List.splitOn_eq_singleton plain, List.getLastD_concat]
  · rw [List.mem_reverse] at slash
    rw [lastSegment_plain slash, List.splitOn_eq_singleton slash]
    rfl

end Segments

section Interfaces

variable {first second : String}

theorem rowInterface_eq_iff :
    rowInterface first = rowInterface second ↔ exported first = exported second := by
  simp [rowInterface, String.append_left_inj]

theorem reader_named : valid "Reader" = true ∧ exported "Reader" = "Reader" := by
  decide +kernel

theorem valid_rowInterface (accepted : valid first = true) : valid (rowInterface first) = true :=
  valid_append (valid_exported accepted).1 fun _ member => isTail_of_mem reader_named.1 member

theorem exported_rowInterface (name : String) :
    exported (rowInterface name) = rowInterface name := by
  -- The first character is that of an exported name, or of what follows it if there is no name.
  cases shape : (exported name).toList with
  | nil =>
      have nothing : exported name = "" := String.toList_eq_nil_iff.mp shape
      rw [rowInterface, nothing, String.empty_append, reader_named.2]
  | cons first rest =>
      have written : (rowInterface name).toList = first :: (rest ++ "Reader".toList) := by
        rw [rowInterface, String.toList_append, shape, List.cons_append]
      have stable : toCapital first ++ rest = first :: rest := by
        rw [← toList_exported shape, exported_exported, shape]
      rw [← String.toList_inj, toList_exported written, ← List.append_assoc, stable, written,
        List.cons_append]

theorem vectorInterface_eq_iff :
    vectorInterface first = vectorInterface second ↔ exported first = exported second := by
  simp [vectorInterface, String.append_left_inj, String.append_right_inj]

theorem rowInterface_eq_vectorInterface_iff :
    rowInterface first = vectorInterface second ↔ exported first = "Vector" ++ exported second := by
  simp [rowInterface, vectorInterface, String.append_left_inj]

end Interfaces

end TableReaders.Identifier
