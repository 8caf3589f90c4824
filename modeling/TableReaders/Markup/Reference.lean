import TableReaders.Markup.Fault
import TableReaders.Markup.Split

/-!
References: a character given by its number, or one of five characters given by a name. A value of
an attribute is read by resolving the references in it; nothing else in it is changed.
-/

namespace TableReaders.Markup

def digitValue? (base : Nat) (c : Char) : Option Nat :=
  if c.isDigit then some (c.toNat - '0'.toNat)
  else if base = 16 ∧ 'a' ≤ c ∧ c ≤ 'f' then some (c.toNat - 'a'.toNat + 10)
  else if base = 16 ∧ 'A' ≤ c ∧ c ≤ 'F' then some (c.toNat - 'A'.toNat + 10)
  else none

/-- The number that digits write after `value`. A number is refused at the first digit that takes it
out of 32 bits. -/
def readDigits (base : Nat) (value : Nat) : List Char → Except CharacterFault Nat
  | [] => .ok value
  | c :: rest =>
      match digitValue? base c with
      | none => .error .notADigit
      | some digit =>
          if value * base + digit < UInt32.size then readDigits base (value * base + digit) rest
          else .error .tooLarge

def readNumber (base : Nat) : List Char → Except CharacterFault Nat
  | [] => .error .noDigits
  | '+' :: _ | '-' :: _ => .error .signed
  | digits => readDigits base 0 digits

def characterAt (code : Nat) : Except CharacterFault Char :=
  if code = 0 then .error .zero
  else if code.isValidChar then .ok (Char.ofNat code)
  else .error (.notACharacter code)

def numberedCharacter : List Char → Except CharacterFault Char
  | 'x' :: digits => readNumber 16 digits >>= characterAt
  | digits => readNumber 10 digits >>= characterAt

def namedCharacters : List (String × Char) :=
  [("lt", '<'), ("gt", '>'), ("amp", '&'), ("apos", '\x27'), ("quot", '\x22')]

def resolveReference (name : List Char) : Except CharacterFault (Option Char) :=
  match name with
  | '#' :: digits => some <$> numberedCharacter digits
  | _ => .ok (namedCharacters.lookup (String.ofList name))

def byteLength : List Char → Nat
  | [] => 0
  | c :: rest => c.utf8Size + byteLength rest

/-- The part of a value of `total` bytes that starts at byte `offset`, with its references
resolved. -/
def unescapeFrom (total offset : Nat) : List Char → Except Fault (List Char)
  | [] => .ok []
  | c :: rest =>
      if c = '&' then
        match cut : splitReference? (· == '&') rest with
        | none => .error (.entityOpen offset total)
        | some (name, behind) =>
            have := length_splitReference?_lt cut
            let stop := offset + 1 + byteLength name
            match resolveReference name with
            | .error fault => .error (.character fault)
            | .ok none => .error (.entityUnknown (offset + 1) stop (String.ofList name))
            | .ok (some meant) => (meant :: ·) <$> unescapeFrom total (stop + 1) behind
      else (c :: ·) <$> unescapeFrom total (offset + c.utf8Size) rest
termination_by text => text.length
decreasing_by all_goals grind

def unescape (value : String) : Except Fault String :=
  String.ofList <$> unescapeFrom (byteLength value.toList) 0 value.toList

end TableReaders.Markup
