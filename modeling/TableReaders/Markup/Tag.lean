import TableReaders.Markup.Reference

/-!
Tags: a name and attributes. The attributes of a tag are those that can be read. A piece of a tag
that is no attribute is passed over up to the place where the next attribute may begin, and a second
attribute of one name is no attribute.
-/

namespace TableReaders.Markup

structure Attribute where
  key : String
  value : String
  deriving DecidableEq, Repr

structure Tag where
  name : String
  attributes : List Attribute
  deriving DecidableEq, Repr

def inKey (c : Char) : Bool :=
  c != '=' && !isSpace c

inductive Value where
  | quoted (value rest : List Char)
  | unquoted
  | missing

def Value.ofText : List Char → Value
  | [] => .missing
  | quote :: text =>
      if isQuote quote then
        match text.dropWhile (· != quote) with
        | [] => .missing
        | _ :: rest => .quoted (text.takeWhile (· != quote)) rest
      else .unquoted

theorem Value.length_ofText_lt {text value rest : List Char}
    (found : Value.ofText text = .quoted value rest) :
    rest.length < text.length := by
  unfold Value.ofText at found
  split at found
  next => cases found
  next quote tail =>
    split at found
    next =>
      split at found
      next => cases found
      next first behind cut =>
        cases found
        have shorter := length_dropWhile_le (· != quote) tail
        rw [cut] at shorter
        simp only [List.length_cons] at shorter ⊢
        omega
    next => cases found

/-- The key at the start of a text and what follows it, up to white space. A key is at least one
character long, whatever that character is. -/
def splitKey? (text : List Char) : Option (List Char × List Char) :=
  match text.dropWhile isSpace with
  | [] => none
  | first :: rest =>
      some (first :: rest.takeWhile inKey, (rest.dropWhile inKey).dropWhile isSpace)

theorem length_splitKey?_lt {text key rest : List Char}
    (found : splitKey? text = some (key, rest)) :
    rest.length < text.length := by
  unfold splitKey? at found
  split at found
  next => cases found
  next first tail start =>
    cases found
    have fromStart := length_dropWhile_le isSpace text
    have fromKey := length_dropWhile_le inKey tail
    have fromSign := length_dropWhile_le isSpace (tail.dropWhile inKey)
    rw [start, List.length_cons] at fromStart
    omega

/-- The attributes in a part of a tag, where `seen` holds the keys that were followed by an equals
sign. -/
def attributesFrom (seen : List (List Char)) (text : List Char) : List Attribute :=
  match cut : splitKey? text with
  | none | some (_, []) => []
  | some (key, sign :: behind) =>
      have := length_splitKey?_lt cut
      have := length_dropWhile_le isSpace behind
      if sign ≠ '=' then attributesFrom seen (sign :: behind)
      else if key ∈ seen then
        have := length_dropWhile_le (!isSpace ·) behind
        attributesFrom seen (behind.dropWhile (!isSpace ·))
      else
        match read : Value.ofText (behind.dropWhile isSpace) with
        | .missing => []
        | .quoted value rest =>
            have := Value.length_ofText_lt read
            ⟨String.ofList key, String.ofList value⟩ :: attributesFrom (key :: seen) rest
        | .unquoted =>
            have := length_dropWhile_le (!isSpace ·) (behind.dropWhile isSpace)
            attributesFrom (key :: seen) ((behind.dropWhile isSpace).dropWhile (!isSpace ·))
termination_by text.length
decreasing_by all_goals grind

def Tag.ofText (text : List Char) : Tag where
  name := String.ofList (text.takeWhile (!isSpace ·))
  attributes := attributesFrom [] (text.dropWhile (!isSpace ·))

def Tag.value? (tag : Tag) (key : String) : Option String :=
  (tag.attributes.find? (·.key == key)).map (·.value)

end TableReaders.Markup
