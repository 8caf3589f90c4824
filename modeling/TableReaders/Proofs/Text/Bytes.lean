import Mathlib.Data.List.Lex

/-!
The order of texts by their bytes. In UTF-8 a character is a lead byte and continuation bytes with
six bits of the code point each. A greater code point has a greater lead byte, or the same one and
greater digits behind it, so texts are in order by their bytes when they are in order by their
characters.
-/

namespace TableReaders.Text

def bytes (text : String) : List UInt8 :=
  text.toUTF8.data.toList

/-- Bytes that come before others, where the first difference decides. -/
def BytesBefore : List UInt8 → List UInt8 → Prop :=
  List.Lex fun first second => first.toNat < second.toNat

section Encoding

variable {code later : Nat}

def continuation (code : Nat) : Nat → List UInt8
  | 0 => []
  | count + 1 => UInt8.ofNat (code / Nat.pow 64 count % 64 + 0x80) :: continuation code count

def trailing (code : Nat) : Nat :=
  if code ≤ 0x7f then 0 else if code ≤ 0x7ff then 1 else if code ≤ 0xffff then 2 else 3

def leadMark : Nat → Nat
  | 0 => 0
  | 1 => 0xc0
  | 2 => 0xe0
  | _ => 0xf0

def leadByte (code : Nat) : Nat :=
  code / Nat.pow 64 (trailing code) + leadMark (trailing code)

theorem leadByte_cases (code : Nat) :
    code ≤ 0x7f ∧ trailing code = 0 ∧ leadByte code = code ∨
      0x7f < code ∧ code ≤ 0x7ff ∧ trailing code = 1 ∧ leadByte code = code / 64 + 0xc0 ∨
      0x7ff < code ∧ code ≤ 0xffff ∧ trailing code = 2 ∧ leadByte code = code / 4096 + 0xe0 ∨
      0xffff < code ∧ trailing code = 3 ∧ leadByte code = code / 262144 + 0xf0 := by
  unfold leadByte
  by_cases one : code ≤ 0x7f
  · have count : trailing code = 0 := if_pos one
    rw [count]
    exact .inl ⟨one, rfl, Nat.div_one code⟩
  by_cases two : code ≤ 0x7ff
  · have count : trailing code = 1 := by rw [trailing, if_neg one, if_pos two]
    rw [count]
    exact .inr (.inl ⟨by omega, two, rfl, rfl⟩)
  by_cases three : code ≤ 0xffff
  · have count : trailing code = 2 := by rw [trailing, if_neg one, if_neg two, if_pos three]
    rw [count]
    exact .inr (.inr (.inl ⟨by omega, three, rfl, rfl⟩))
  · have count : trailing code = 3 := by rw [trailing, if_neg one, if_neg two, if_neg three]
    rw [count]
    exact .inr (.inr (.inr ⟨by omega, rfl, rfl⟩))

theorem toNat_lt (c : Char) : c.toNat < 0x110000 := by
  rcases c.valid with below | ⟨_, above⟩
  · exact Nat.lt_trans below (by decide)
  · exact above

theorem utf8EncodeChar_eq (c : Char) :
    String.utf8EncodeChar c =
      UInt8.ofNat (leadByte c.toNat) :: continuation c.toNat (trailing c.toNat) := by
  have valid := toNat_lt c
  have start : c.val.toNat = c.toNat := rfl
  unfold String.utf8EncodeChar
  rw [start]
  rcases leadByte_cases c.toNat with ⟨one, count, lead⟩ | ⟨one, two, count, lead⟩ |
    ⟨two, three, count, lead⟩ | ⟨three, count, lead⟩
  · rw [count, lead, if_pos one]
    rfl
  · have high : c.toNat / 64 % 0x20 = c.toNat / 64 := Nat.mod_eq_of_lt (by omega)
    rw [count, lead, if_neg (by omega), if_pos two, high]
    simp [continuation]
  · have high : c.toNat / 4096 % 0x10 = c.toNat / 4096 := Nat.mod_eq_of_lt (by omega)
    rw [count, lead, if_neg (by omega), if_neg (by omega), if_pos three, high]
    simp [continuation]
  · have high : c.toNat / 262144 % 0x08 = c.toNat / 262144 := Nat.mod_eq_of_lt (by omega)
    rw [count, lead, if_neg (by omega), if_neg (by omega), if_neg (by omega), high]
    simp [continuation]

theorem leadByte_lt (valid : code < 0x110000) : leadByte code < 0x100 := by
  rcases leadByte_cases code with one | two | three | four <;> omega

theorem leadByte_order (before : code < later) :
    leadByte code < leadByte later ∨
      leadByte code = leadByte later ∧ trailing code = trailing later := by
  rcases leadByte_cases code with one | two | three | four <;>
    rcases leadByte_cases later with oneToo | twoToo | threeToo | fourToo <;> omega

/-- The digits of two numbers with the same front part differ where the numbers do. -/
theorem continuation_before (before : code < later) {count : Nat}
    (same : code / Nat.pow 64 count = later / Nat.pow 64 count) (one other : List UInt8) :
    BytesBefore (continuation code count ++ one) (continuation later count ++ other) := by
  induction count with
  | zero =>
      change code / 1 = later / 1 at same
      omega
  | succ count ih =>
      change code / (Nat.pow 64 count * 64) = later / (Nat.pow 64 count * 64) at same
      rw [← Nat.div_div_eq_div_mul, ← Nat.div_div_eq_div_mul] at same
      have ordered : code / Nat.pow 64 count ≤ later / Nat.pow 64 count :=
        Nat.div_le_div_right (Nat.le_of_lt before)
      rw [continuation, continuation, List.cons_append, List.cons_append]
      by_cases equal : code / Nat.pow 64 count = later / Nat.pow 64 count
      · rw [equal]
        exact .cons (ih equal)
      · apply List.Lex.rel
        rw [UInt8.toNat_ofNat', UInt8.toNat_ofNat']
        omega

theorem utf8EncodeChar_before {c d : Char} (before : c.toNat < d.toNat) (one other : List UInt8) :
    BytesBefore (String.utf8EncodeChar c ++ one) (String.utf8EncodeChar d ++ other) := by
  have valid := leadByte_lt (toNat_lt c)
  have validToo := leadByte_lt (toNat_lt d)
  rw [utf8EncodeChar_eq, utf8EncodeChar_eq, List.cons_append, List.cons_append]
  rcases leadByte_order before with less | ⟨same, count⟩
  · apply List.Lex.rel
    rw [UInt8.toNat_ofNat', UInt8.toNat_ofNat']
    omega
  · have front : c.toNat / Nat.pow 64 (trailing d.toNat) =
        d.toNat / Nat.pow 64 (trailing d.toNat) := by
      unfold leadByte at same
      rw [count] at same
      exact Nat.add_right_cancel same
    rw [same, count]
    exact .cons (continuation_before before front one other)

end Encoding

theorem bytes_eq (text : String) : bytes text = text.toList.flatMap String.utf8EncodeChar := by
  rw [bytes, String.toUTF8_eq_toByteArray, ← String.utf8Encode_toList]
  exact List.toList_data_toByteArray

/-- The first character in which two texts differ decides, and so do its bytes. -/
theorem flatMap_before {one other : List Char}
    (before : List.Lex (fun first second => first.toNat < second.toNat) one other) :
    BytesBefore (one.flatMap String.utf8EncodeChar) (other.flatMap String.utf8EncodeChar) := by
  induction before with
  | nil =>
      rw [List.flatMap_cons, utf8EncodeChar_eq]
      exact .nil
  | rel less =>
      rw [List.flatMap_cons, List.flatMap_cons]
      exact utf8EncodeChar_before less _ _
  | cons rest ih =>
      rw [List.flatMap_cons, List.flatMap_cons]
      exact List.Lex.append_left _ ih _

theorem bytes_before {one other : String} (before : one < other) :
    BytesBefore (bytes one) (bytes other) := by
  rw [bytes_eq, bytes_eq]
  exact flatMap_before before

end TableReaders.Text
