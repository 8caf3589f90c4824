import TableReaders.Proofs.Text.Category
import TableReaders.Text.Blank
import TableReaders.Text.CaseMapping

/-!
What the case tables do to characters. A form is listed, or it is one character that a run has
moved, or the character itself. What is asked of the tables then comes down to two lists of numbers,
the code points that are moved and those that they are moved to: the latter are characters, none of
them stands before the letters, and in the tables of capitals none of them is moved again. To
compare the two lists, each is made a number with a bit for every member. Capitals are letters, and
neither letters nor numbers are blank.
-/

namespace TableReaders.Text

section Forms

variable {expansions : List (Nat × List Nat)} {shifts : List Shift} {low code : Nat}
  {c shown : Char}

theorem shifted_cases (shifts : List Shift) (code : Nat) :
    shifted shifts code = code ∨
      ∃ shift ∈ shifts, shift.run.has code = true ∧
        shifted shifts code = shift.image + (code - shift.run.first) := by
  unfold shifted
  cases found : shifts.findSome? (·.imageOf? code) with
  | none => exact .inl rfl
  | some image =>
      obtain ⟨shift, member, imaged⟩ := List.exists_of_findSome?_eq_some found
      unfold Shift.imageOf? at imaged
      split at imaged
      next has =>
        cases imaged
        exact .inr ⟨shift, member, has, rfl⟩
      next => cases imaged

theorem mapCase_cases (expansions : List (Nat × List Nat)) (shifts : List Shift) (c : Char) :
    (∃ codes, (c.toNat, codes) ∈ expansions ∧ mapCase expansions shifts c = codes.map Char.ofNat) ∨
    mapCase expansions shifts c = [c] ∨
    ∃ shift ∈ shifts, shift.run.has c.toNat = true ∧
      mapCase expansions shifts c = [Char.ofNat (shift.image + (c.toNat - shift.run.first))] := by
  unfold mapCase
  split
  next codes found =>
    obtain ⟨before, after, same, _⟩ := List.lookup_eq_some_iff.mp found
    exact .inl ⟨codes, by simp [same], rfl⟩
  next =>
    rcases shifted_cases shifts c.toNat with same | ⟨shift, known, has, image⟩
    · exact .inr (.inl (by rw [same, Char.ofNat_toNat]))
    · exact .inr (.inr ⟨shift, known, has, by rw [image]⟩)

def movedCodes (expansions : List (Nat × List Nat)) (shifts : List Shift) : List Nat :=
  expansions.map (·.1) ++ shifts.flatMap (·.run.codes)

def imageCodes (expansions : List (Nat × List Nat)) (shifts : List Shift) : List Nat :=
  expansions.flatMap (·.2) ++
    shifts.flatMap fun shift => shift.run.codes.map fun code =>
      shift.image + (code - shift.run.first)

/-- The tables leave no character without a form, and what they list for forms are characters from
`low` on. -/
structure FormsFrom (low : Nat) (expansions : List (Nat × List Nat)) (shifts : List Shift) :
    Prop where
  filled : ∀ entry ∈ expansions, entry.2 ≠ []
  images : ∀ code ∈ imageCodes expansions shifts, low ≤ code ∧ code.isValidChar

theorem mapCase_ne_nil (forms : FormsFrom low expansions shifts) (c : Char) :
    mapCase expansions shifts c ≠ [] := by
  rcases mapCase_cases expansions shifts c with ⟨codes, known, form⟩ | form | ⟨shift, _, _, form⟩
  · rw [form]
    simpa using forms.filled _ known
  · rw [form]
    simp
  · rw [form]
    simp

theorem mem_imageCodes_expansion {entry : Nat × List Nat} (known : entry ∈ expansions)
    (listed : code ∈ entry.2) : code ∈ imageCodes expansions shifts :=
  List.mem_append_left _ (List.mem_flatMap.mpr ⟨entry, known, listed⟩)

theorem mem_imageCodes_shift {shift : Shift} (known : shift ∈ shifts)
    (has : shift.run.has code = true) :
    shift.image + (code - shift.run.first) ∈ imageCodes expansions shifts :=
  List.mem_append_right _
    (List.mem_flatMap.mpr ⟨shift, known, List.mem_map.mpr ⟨code, Run.mem_codes has, rfl⟩⟩)

theorem mapCase_unmoved (unmoved : c.toNat ∉ movedCodes expansions shifts) :
    mapCase expansions shifts c = [c] := by
  rw [movedCodes, List.mem_append, not_or] at unmoved
  rcases mapCase_cases expansions shifts c with ⟨codes, known, _⟩ | form | ⟨shift, known, has, _⟩
  · exact absurd (List.mem_map.mpr ⟨_, known, rfl⟩) unmoved.1
  · exact form
  · exact absurd (List.mem_flatMap.mpr ⟨shift, known, Run.mem_codes has⟩) unmoved.2

theorem toNat_ofNat_valid (proper : code.isValidChar) : (Char.ofNat code).toNat = code := by
  rw [Char.ofNat, dif_pos proper]
  rfl

/-- A character is its own form, or all its form was listed in the tables. -/
theorem mapCase_eq_or (forms : FormsFrom low expansions shifts) (c : Char) :
    mapCase expansions shifts c = [c] ∨
      ∀ shown ∈ mapCase expansions shifts c, shown.toNat ∈ imageCodes expansions shifts := by
  rcases mapCase_cases expansions shifts c with
    ⟨codes, known, form⟩ | form | ⟨shift, known, has, form⟩
  · right
    intro shown member
    rw [form] at member
    obtain ⟨code, listed, rfl⟩ := List.mem_map.mp member
    have imaged : code ∈ imageCodes expansions shifts := mem_imageCodes_expansion known listed
    rw [toNat_ofNat_valid (forms.images code imaged).2]
    exact imaged
  · exact .inl form
  · right
    intro shown member
    rw [form, List.mem_singleton] at member
    have imaged : shift.image + (c.toNat - shift.run.first) ∈ imageCodes expansions shifts :=
      mem_imageCodes_shift known has
    rw [member, toNat_ofNat_valid (forms.images _ imaged).2]
    exact imaged

/-- The tables send nothing below `low`, so a low character in a form was not mapped at all. -/
theorem mem_mapCase_low (forms : FormsFrom low expansions shifts) (below : shown.toNat < low)
    (member : shown ∈ mapCase expansions shifts c) : shown = c := by
  rcases mapCase_eq_or forms c with form | imaged
  · rw [form] at member
    exact List.mem_singleton.mp member
  · have bound := (forms.images _ (imaged shown member)).1
    omega

end Forms

section Tables

variable {c shown : Char}

theorem capital_forms : FormsFrom 0x41 capitalExpansions capitalShifts :=
  ⟨by decide +kernel, by decide +kernel⟩

theorem small_forms : FormsFrom 0x61 smallExpansions smallShifts :=
  ⟨by decide +kernel, by decide +kernel⟩

theorem toCapital_ne_nil (c : Char) : toCapital c ≠ [] :=
  mapCase_ne_nil capital_forms c

theorem toSmall_ne_nil (c : Char) : toSmall c ≠ [] :=
  mapCase_ne_nil small_forms c

theorem mem_toCapital_low (below : shown.toNat < 0x41) (member : shown ∈ toCapital c) : shown = c :=
  mem_mapCase_low capital_forms below member

theorem mem_toSmall_low (below : shown.toNat < 0x61) (member : shown ∈ toSmall c) : shown = c :=
  mem_mapCase_low small_forms below member

/-- What capitals are made of stays as it is when capitals are made again. -/
theorem toCapital_stable (member : shown ∈ toCapital c) : toCapital shown = [shown] := by
  have apart : Nat.land (codeBits (imageCodes capitalExpansions capitalShifts))
      (codeBits (movedCodes capitalExpansions capitalShifts)) = 0 := by
    decide +kernel
  rcases mapCase_eq_or capital_forms c with form | imaged
  · have same : shown = c := by
      rw [toCapital, form] at member
      exact List.mem_singleton.mp member
    rw [same]
    exact form
  · exact mapCase_unmoved (not_mem_of_codeBits apart (imaged shown member))

end Tables

section Letters

variable {runs covers : List Run} {code : Nat} {c : Char}

def Run.stretch (run : Run) : Span :=
  ⟨run.first, run.last, .L⟩

theorem anyHas_of_covered (gapless : (covers.all fun run => Nat.beq run.step 1) = true)
    (covered : uncovered [.L] (covers.map Run.stretch) runs = [])
    (found : anyHas runs code = true) :
    anyHas covers code = true := by
  -- Runs are compared with runs by the walk that compares them with categories.
  rcases anyHas_uncovered [.L] (covers.map Run.stretch) found with ⟨span, member, _, has⟩ | left
  · obtain ⟨run, listed, rfl⟩ := List.mem_map.mp member
    have unit : run.step = 1 := by simpa using List.all_eq_true.mp gapless run listed
    have inside := Span.has_iff.mp has
    refine List.any_eq_true.mpr ⟨run, listed, ?_⟩
    obtain ⟨first, last, step⟩ := run
    subst unit
    exact Run.has_unit.mpr inside
  · rw [covered] at left
    cases left

theorem isAlphabetic_of_isUppercase (capital : isUppercase c = true) : isAlphabetic c = true := by
  have gapless : (alphabeticRuns.all fun run => Nat.beq run.step 1) = true := by decide +kernel
  rcases capital_cases capital with letter | enclosed
  · exact anyHas_of_covered gapless (by decide +kernel) letter
  · rw [← anyHas_enclosed] at enclosed
    exact anyHas_of_covered gapless (by decide +kernel) enclosed

theorem not_isBlank_of_anyHas (apart : (runs.all fun run => blankRuns.all fun blank =>
      Nat.blt run.last blank.first || Nat.blt blank.last run.first) = true)
    (found : anyHas runs c.toNat = true) : isBlank c = false := by
  rw [Bool.eq_false_iff]
  intro blank
  obtain ⟨run, member, has⟩ := List.any_eq_true.mp found
  obtain ⟨other, listed, hasToo⟩ := List.any_eq_true.mp blank
  have side := List.all_eq_true.mp (List.all_eq_true.mp apart run member) other listed
  simp only [Bool.or_eq_true, Nat.blt_eq] at side
  have := Run.bounds has
  have := Run.bounds hasToo
  omega

end Letters

end TableReaders.Text
