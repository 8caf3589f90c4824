import TableReaders.Markup.Reference
import TableReaders.Proofs.Outcome

/-!
What references mean, said by how they are written. A number sign and digits mean the character with
that number, a name means one of five characters, and nothing else means anything. The reading of
digits stops at the first one that takes the number out of its word; no character lies that far, so
for characters it is the value of the digits.
-/

namespace TableReaders.Markup

section Digits

variable {base number value : Nat} {digits : List Char} {meant : Char}

def appendDigits (base value : Nat) (digits : List Nat) : Nat :=
  digits.foldl (fun value digit => value * base + digit) value

def Writes (base : Nat) (digits : List Char) (number : Nat) : Prop :=
  ∃ values, digits.mapM (digitValue? base) = some values ∧ appendDigits base 0 values = number

theorem le_appendDigits (positive : 0 < base) (value : Nat) (digits : List Nat) :
    value ≤ appendDigits base value digits := by
  induction digits generalizing value with
  | nil => exact Nat.le_refl value
  | cons digit rest ih =>
      have larger : value ≤ value * base + digit :=
        Nat.le_add_right_of_le (Nat.le_mul_of_pos_right value positive)
      exact Nat.le_trans larger (ih (value * base + digit))

theorem readDigits_eq_ok (positive : 0 < base) (small : number < UInt32.size) (value : Nat)
    (digits : List Char) :
    readDigits base value digits = .ok number ↔
      ∃ values, digits.mapM (digitValue? base) = some values ∧
        appendDigits base value values = number := by
  induction digits generalizing value with
  | nil => simp [readDigits, appendDigits]
  | cons c rest ih =>
      cases read : digitValue? base c with
      | none => simp [readDigits, read, List.mapM_cons]
      | some digit =>
          have written : (∃ values, (c :: rest).mapM (digitValue? base) = some values ∧
              appendDigits base value values = number) ↔
              ∃ values, rest.mapM (digitValue? base) = some values ∧
                appendDigits base (value * base + digit) values = number := by
            rw [List.mapM_cons, read]
            cases rest.mapM (digitValue? base) <;> simp [appendDigits]
          rw [written, ← ih]
          by_cases fits : value * base + digit < UInt32.size
          · simp only [readDigits, read, fits, if_true]
          · -- The number has left its word, and further digits only make it larger.
            simp only [readDigits, read, fits, if_false, reduceCtorEq, false_iff]
            intro later
            obtain ⟨values, _, same⟩ := (ih _).mp later
            have larger := le_appendDigits positive (value * base + digit) values
            omega

theorem characterAt_eq_ok : characterAt number = .ok meant ↔ 0 < number ∧ meant.toNat = number := by
  unfold characterAt
  by_cases zero : number = 0
  · simp [zero]
  · by_cases proper : number.isValidChar
    · have back : (Char.ofNat number).toNat = number := by
        rw [Char.ofNat, dif_pos proper]
        rfl
      rw [if_neg zero, if_pos proper]
      constructor
      · intro same
        cases same
        exact ⟨Nat.pos_of_ne_zero zero, back⟩
      · rintro ⟨_, rfl⟩
        rw [Char.ofNat_toNat]
    · rw [if_neg zero, if_neg proper]
      constructor
      · intro given
        cases given
      · rintro ⟨_, rfl⟩
        exact absurd meant.valid proper

theorem readNumber_eq_ok (plus : digitValue? base '+' = none) (minus : digitValue? base '-' = none)
    (filled : digits ≠ []) :
    readNumber base digits = .ok number ↔ readDigits base 0 digits = .ok number := by
  unfold readNumber
  split
  next => exact absurd rfl filled
  next => simp [readDigits, plus]
  next => simp [readDigits, minus]
  next => exact Iff.rfl

theorem numbered_eq_ok (positive : 0 < base) (plus : digitValue? base '+' = none)
    (minus : digitValue? base '-' = none) :
    readNumber base digits >>= characterAt = .ok meant ↔
      0 < meant.toNat ∧ Writes base digits meant.toNat := by
  have small : meant.toNat < UInt32.size := meant.val.toNat_lt_size
  simp only [bind_eq_ok, characterAt_eq_ok]
  by_cases filled : digits = []
  · subst filled
    simp only [readNumber, Writes, List.mapM_nil]
    constructor
    · rintro ⟨_, given, _⟩
      cases given
    · rintro ⟨above, values, none, same⟩
      cases none
      exact absurd same (Nat.ne_of_lt above)
  · constructor
    · rintro ⟨number, read, above, same⟩
      rw [readNumber_eq_ok plus minus filled, ← same, readDigits_eq_ok positive small] at read
      exact ⟨same ▸ above, read⟩
    · rintro ⟨above, written⟩
      refine ⟨meant.toNat, ?_, above, rfl⟩
      rw [readNumber_eq_ok plus minus filled, readDigits_eq_ok positive small]
      exact written

end Digits

/-- The characters of a reference mean a character: as its name, or as its number in decimal or
hexadecimal digits. -/
inductive Refers : List Char → Char → Prop where
  | named {name : List Char} {meant : Char}
      (found : namedCharacters.lookup (String.ofList name) = some meant) : Refers name meant
  | decimal {digits : List Char} {meant : Char} (positive : 0 < meant.toNat)
      (written : Writes 10 digits meant.toNat) : Refers ('#' :: digits) meant
  | hexadecimal {digits : List Char} {meant : Char} (positive : 0 < meant.toNat)
      (written : Writes 16 digits meant.toNat) : Refers ('#' :: 'x' :: digits) meant

section References

variable {digits name : List Char} {meant : Char}

theorem lookup_sign (digits : List Char) :
    namedCharacters.lookup (String.ofList ('#' :: digits)) = none := by
  have all : (namedCharacters.all fun entry => entry.1.toList.head? != some '#') = true := by decide
  cases found : namedCharacters.lookup (String.ofList ('#' :: digits)) with
  | none => rfl
  | some meant =>
      obtain ⟨before, after, same, _⟩ := List.lookup_eq_some_iff.mp found
      have other :=
        List.all_eq_true.mp all (String.ofList ('#' :: digits), meant) (by rw [same]; simp)
      simp at other

theorem writes_decimal_x (number : Nat) : ¬ Writes 10 ('x' :: digits) number := by
  rintro ⟨values, read, _⟩
  have none : digitValue? 10 'x' = none := by decide
  simp [List.mapM_cons, none] at read

theorem numberedCharacter_eq_ok :
    numberedCharacter digits = .ok meant ↔ Refers ('#' :: digits) meant := by
  unfold numberedCharacter
  split
  next hexadecimal =>
    rw [numbered_eq_ok (by decide) (by decide) (by decide)]
    constructor
    · rintro ⟨positive, written⟩
      exact .hexadecimal positive written
    · rintro (⟨found⟩ | ⟨_, written⟩ | ⟨positive, written⟩)
      · rw [lookup_sign] at found
        cases found
      · exact absurd written (writes_decimal_x _)
      · exact ⟨positive, written⟩
  next decimal =>
    rw [numbered_eq_ok (by decide) (by decide) (by decide)]
    constructor
    · rintro ⟨positive, written⟩
      exact .decimal positive written
    · rintro (⟨found⟩ | ⟨positive, written⟩ | ⟨positive, written⟩)
      · rw [lookup_sign] at found
        cases found
      · exact ⟨positive, written⟩
      · exact absurd rfl (decimal _)

theorem resolveReference_eq_some :
    resolveReference name = .ok (some meant) ↔ Refers name meant := by
  unfold resolveReference
  split
  next digits =>
    rw [← numberedCharacter_eq_ok, map_eq_ok]
    simp
  next unsigned =>
    constructor
    · intro given
      exact .named (Except.ok.inj given)
    · rintro (⟨found⟩ | ⟨_, _⟩ | ⟨_, _⟩)
      · exact congrArg Except.ok found
      · exact absurd rfl (unsigned _)
      · exact absurd rfl (unsigned _)

end References

end TableReaders.Markup
