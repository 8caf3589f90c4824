import TableReaders.Markup.Event

/-!
Tags as they are written in full: a name of letters, and attributes each after one space, with the
value between quotation marks. The search for the end of a tag goes through such a text without
stopping, and what is cut off is read as the tag it was written from. So written tags can be put one
after another, and the events of the whole are those of the parts.
-/

namespace TableReaders.Markup

def Word (name : String) : Prop :=
  name.toList ≠ [] ∧ name.toList.all Char.isAlpha = true

instance (name : String) : Decidable (Word name) :=
  inferInstanceAs (Decidable (_ ∧ _))

theorem Word.letter {name : String} {c : Char} (word : Word name) (member : c ∈ name.toList) :
    c.isAlpha = true :=
  List.all_eq_true.mp word.2 c member

def Cuts (text : List Char) (events : List Event) : Prop :=
  ∀ rest, cutEvents (text ++ rest) = events ++ cutEvents rest

def Attribute.written (given : Attribute) : List Char :=
  ' ' :: (given.key.toList ++ '=' :: quotation :: (given.value.toList ++ [quotation]))

structure Attribute.Readable (given : Attribute) : Prop where
  key : Word given.key
  value : quotation ∉ given.value.toList

section Cutting

variable {text more : List Char} {events others : List Event}

theorem cuts_nil : Cuts [] [] :=
  fun _ => rfl

theorem Cuts.append (one : Cuts text events) (other : Cuts more others) :
    Cuts (text ++ more) (events ++ others) := by
  intro rest
  rw [List.append_assoc, one, other, List.append_assoc]

theorem cutEvents_first {c : Char} {rest behind : List Char} {event : Event}
    (found : Cut.first c rest = .ok (event, behind)) :
    cutEvents (c :: rest) = event :: cutEvents behind := by
  rw [cutEvents]
  split
  next failed =>
    rw [found] at failed
    cases failed
  next again =>
    rw [found] at again
    cases again
    rfl

end Cutting

section Letters

variable {c other : Char}

theorem ne_of_isAlpha (letter : c.isAlpha = true) (mark : other.isAlpha = false) : c ≠ other := by
  intro same
  subst same
  rw [letter] at mark
  cases mark

theorem isSpace_of_isAlpha (letter : c.isAlpha = true) : isSpace c = false := by
  have space := ne_of_isAlpha letter (by decide : ' '.isAlpha = false)
  have tab := ne_of_isAlpha letter (by decide : '\t'.isAlpha = false)
  have carriage := ne_of_isAlpha letter (by decide : '\r'.isAlpha = false)
  have feed := ne_of_isAlpha letter (by decide : '\n'.isAlpha = false)
  simp [isSpace, space, tab, carriage, feed]

theorem isQuote_of_isAlpha (letter : c.isAlpha = true) : isQuote c = false := by
  have single := ne_of_isAlpha letter (by decide : apostrophe.isAlpha = false)
  have double := ne_of_isAlpha letter (by decide : quotation.isAlpha = false)
  simp [isQuote, single, double]

theorem inKey_of_isAlpha (letter : c.isAlpha = true) : inKey c = true := by
  have sign := ne_of_isAlpha letter (by decide : '='.isAlpha = false)
  simp [inKey, sign, isSpace_of_isAlpha letter]

end Letters

section Attributes

variable {seen : List (List Char)} {given : Attribute} {attributes : List Attribute}

theorem splitKey?_written {key : String} (word : Word key) (rest : List Char) :
    splitKey? (' ' :: (key.toList ++ '=' :: rest)) = some (key.toList, '=' :: rest) := by
  cases shape : key.toList with
  | nil => exact absurd shape word.1
  | cons first later =>
      have letters : ∀ c ∈ first :: later, c.isAlpha = true := fun c member =>
        word.letter (shape ▸ member)
      have start := isSpace_of_isAlpha (letters first List.mem_cons_self)
      have inside : ∀ c ∈ later, inKey c = true := fun c member =>
        inKey_of_isAlpha (letters c (List.mem_cons_of_mem first member))
      have space : isSpace ' ' = true := by decide
      have sign : isSpace '=' = false := by decide
      have ending : inKey '=' = false := by decide
      simp only [splitKey?, List.cons_append, List.dropWhile_cons, space, start, if_true,
        Bool.false_eq_true, if_false]
      rw [List.takeWhile_append_of_pos inside, List.dropWhile_append_of_pos inside]
      simp [ending, sign]

theorem value_written {value : List Char} (plain : quotation ∉ value) (rest : List Char) :
    Value.ofText (quotation :: (value ++ quotation :: rest)) = .quoted value rest := by
  have inside : ∀ c ∈ value, (c != quotation) = true := by
    intro c member
    rw [bne_iff_ne]
    intro same
    subst same
    exact plain member
  have quote : isQuote quotation = true := by decide
  rw [Value.ofText, if_pos quote, List.dropWhile_append_of_pos inside,
    List.takeWhile_append_of_pos inside]
  simp

theorem attributesFrom_written_cons (readable : given.Readable) (fresh : given.key.toList ∉ seen)
    (rest : List Char) :
    attributesFrom seen (given.written ++ rest) =
      given :: attributesFrom (given.key.toList :: seen) rest := by
  have text : given.written ++ rest = ' ' :: (given.key.toList ++ '=' ::
      quotation :: (given.value.toList ++ quotation :: rest)) := by
    simp [Attribute.written]
  have key :=
    splitKey?_written readable.key (quotation :: (given.value.toList ++ quotation :: rest))
  have value :
      Value.ofText ((quotation :: (given.value.toList ++ quotation :: rest)).dropWhile isSpace) =
      .quoted given.value.toList rest := by
    have space : isSpace quotation = false := by decide
    rw [List.dropWhile_cons, space]
    exact value_written readable.value rest
  -- The reader splits on what it found, and only one of the outcomes agrees with `key` and `value`.
  rw [text, attributesFrom]
  split
  next none =>
    rw [key] at none
    cases none
  next bare =>
    rw [key] at bare
    cases bare
  next found =>
    rw [key] at found
    cases found
    rw [if_neg (fun other => other rfl), if_neg fresh]
    split
    next missing =>
      rw [value] at missing
      cases missing
    next read =>
      rw [value] at read
      cases read
      rw [String.ofList_toList, String.ofList_toList]
    next unquoted =>
      rw [value] at unquoted
      cases unquoted

theorem attributesFrom_written (readable : ∀ given ∈ attributes, given.Readable)
    (distinct : (attributes.map fun given => given.key.toList).Nodup)
    (fresh : ∀ given ∈ attributes, given.key.toList ∉ seen) :
    attributesFrom seen (attributes.flatMap Attribute.written) = attributes := by
  -- Every attribute adds its key to those seen, so keys that differ are all that is needed.
  induction attributes generalizing seen with
  | nil =>
      rw [List.flatMap_nil, attributesFrom]
      rfl
  | cons given rest ih =>
      rw [List.map_cons, List.nodup_cons] at distinct
      rw [List.flatMap_cons, attributesFrom_written_cons (readable given List.mem_cons_self)
        (fresh given List.mem_cons_self)]
      congr 1
      apply ih (fun other member => readable other (List.mem_cons_of_mem given member)) distinct.2
      intro other member known
      rcases List.mem_cons.mp known with same | earlier
      · exact distinct.1 (same ▸ List.mem_map_of_mem member)
      · exact fresh other (List.mem_cons_of_mem given member) earlier

end Attributes

/-- A piece of a tag that leaves no quote open: the search for the end of the tag goes on behind
it. -/
def Passed (piece : List Char) : Prop :=
  ∀ rest before behind, splitUnquoted (· == '>') none rest = .ok (before, behind) →
    splitUnquoted (· == '>') none (piece ++ rest) = .ok (piece ++ before, behind)

section Pieces

variable {piece more : List Char}

theorem Passed.append (one : Passed piece) (other : Passed more) : Passed (piece ++ more) := by
  intro rest before behind found
  rw [List.append_assoc, List.append_assoc]
  exact one _ _ _ (other _ _ _ found)

theorem passed_plain (plain : piece.all (fun c => c != '>' && !isQuote c) = true) :
    Passed piece := by
  intro rest before behind found
  induction piece with
  | nil => exact found
  | cons c later ih =>
      simp only [List.all_cons, Bool.and_eq_true, bne_iff_ne, Bool.not_eq_true'] at plain
      obtain ⟨⟨other, unquoted⟩, others⟩ := plain
      simp [splitUnquoted, other, unquoted, ih others]

theorem splitUnquoted_value {value rest before behind : List Char} (plain : quotation ∉ value)
    (found : splitUnquoted (· == '>') none rest = .ok (before, behind)) :
    splitUnquoted (· == '>') (some quotation) (value ++ quotation :: rest) =
      .ok (value ++ quotation :: before, behind) := by
  induction value with
  | nil => simp [splitUnquoted, found]
  | cons c later ih =>
      have other : c ≠ quotation := fun same => plain (same ▸ List.mem_cons_self)
      have after := ih fun member => plain (List.mem_cons_of_mem c member)
      simp [splitUnquoted, other, after]

theorem passed_quoted {value : List Char} (plain : quotation ∉ value) :
    Passed (quotation :: (value ++ [quotation])) := by
  intro rest before behind found
  have inside := splitUnquoted_value plain found
  have quote : isQuote quotation = true := by decide
  have other : (quotation == '>') = false := by decide
  simp [splitUnquoted, quote, other, inside]

theorem passed_word {name : String} (word : Word name) : Passed name.toList := by
  apply passed_plain
  rw [List.all_eq_true]
  intro c member
  have letter := word.letter member
  have other := ne_of_isAlpha letter (by decide : '>'.isAlpha = false)
  simp [other, isQuote_of_isAlpha letter]

theorem passed_written {given : Attribute} (readable : given.Readable) : Passed given.written := by
  have space : Passed [' '] := passed_plain (by decide)
  have sign : Passed ['='] := passed_plain (by decide)
  have whole := ((space.append (passed_word readable.key)).append sign).append
    (passed_quoted readable.value)
  simpa [Attribute.written] using whole

theorem passed_attributes {attributes : List Attribute}
    (readable : ∀ given ∈ attributes, given.Readable) :
    Passed (attributes.flatMap Attribute.written) := by
  induction attributes with
  | nil => exact passed_plain rfl
  | cons given rest ih =>
      rw [List.flatMap_cons]
      exact (passed_written (readable given List.mem_cons_self)).append
        (ih fun other member => readable other (List.mem_cons_of_mem given member))

theorem tag_of_passed (passed : Passed piece) (rest : List Char) :
    Cut.tag (piece ++ '>' :: rest) = .ok (Cut.tagEvent piece, rest) := by
  have found : splitUnquoted (· == '>') none ('>' :: rest) = .ok ([], '>' :: rest) := by
    simp [splitUnquoted]
  rw [Cut.tag, passed _ _ _ found, List.append_nil]
  rfl

end Pieces

section Tags

variable {name : String} {attributes : List Attribute}

theorem takeWhile_name (word : Word name) {rest : List Char}
    (apart : ∀ c ∈ rest.head?, isSpace c = true) :
    (name.toList ++ rest).takeWhile (!isSpace ·) = name.toList ∧
      (name.toList ++ rest).dropWhile (!isSpace ·) = rest := by
  have inside : ∀ c ∈ name.toList, (!isSpace c) = true := by
    intro c member
    rw [isSpace_of_isAlpha (word.letter member)]
    rfl
  rw [List.takeWhile_append_of_pos inside, List.dropWhile_append_of_pos inside]
  cases rest with
  | nil => simp
  | cons c later => simp [apart c rfl]

theorem getLast?_written (word : Word name) (attributes : List Attribute) :
    (name.toList ++ attributes.flatMap Attribute.written).getLast? ≠ some '/' := by
  rcases List.eq_nil_or_concat attributes with none | ⟨before, last, shape⟩
  · subst none
    rw [List.flatMap_nil, List.append_nil]
    intro ends
    exact absurd (word.letter (List.mem_of_getLast? ends)) (by decide)
  · rw [List.concat_eq_append] at shape
    subst shape
    have ends : name.toList ++ (before ++ [last]).flatMap Attribute.written =
        name.toList ++ before.flatMap Attribute.written ++ ' ' :: (last.key.toList ++
          '=' :: quotation :: last.value.toList) ++ [quotation] := by
      simp [Attribute.written]
    rw [ends, List.getLast?_concat]
    decide

theorem after?_slash {c : Char} (other : c ≠ '/') (rest : List Char) :
    after? "/" (c :: rest) = none := by
  simp [after?, Ne.symm other]

theorem head?_written (attributes : List Attribute) :
    ∀ c ∈ (attributes.flatMap Attribute.written).head?, isSpace c = true := by
  intro c starts
  cases attributes with
  | nil => cases starts
  | cons given rest =>
      cases starts
      decide

theorem tagEvent_start (word : Word name) (readable : ∀ given ∈ attributes, given.Readable)
    (distinct : (attributes.map fun given => given.key.toList).Nodup) :
    Cut.tagEvent (name.toList ++ attributes.flatMap Attribute.written) =
      .start ⟨name, attributes⟩ := by
  have opens : after? "/" (name.toList ++ attributes.flatMap Attribute.written) = none := by
    cases shape : name.toList with
    | nil => exact absurd shape word.1
    | cons first later =>
        have letter := word.letter (shape ▸ List.mem_cons_self : first ∈ name.toList)
        exact after?_slash (ne_of_isAlpha letter (by decide)) _
  -- A letter comes first, so it is no close tag, and no slash comes last, so it is no empty
  -- element.
  obtain ⟨front, back⟩ := takeWhile_name word (head?_written attributes)
  rw [Cut.tagEvent, opens]
  simp only [getLast?_written word attributes, if_false, Tag.ofText, front, back,
    String.ofList_toList]
  rw [attributesFrom_written readable distinct fun _ _ => List.not_mem_nil]

theorem closeName_word (word : Word name) : Cut.closeName name.toList = name.toList := by
  have kept : name.toList.reverse.dropWhile isSpace = name.toList.reverse := by
    cases shape : name.toList.reverse with
    | nil => rfl
    | cons last before =>
        have member : last ∈ name.toList := List.mem_reverse.mp (shape ▸ List.mem_cons_self)
        rw [List.dropWhile_cons, isSpace_of_isAlpha (word.letter member)]
        rfl
  rw [Cut.closeName, kept, List.reverse_reverse]
  exact ite_self _

theorem tagEvent_close (word : Word name) : Cut.tagEvent ('/' :: name.toList) = .close name := by
  have named : after? "/" ('/' :: name.toList) = some name.toList := by simp [after?]
  rw [Cut.tagEvent, named]
  simp only [closeName_word word, String.ofList_toList]

/-- What a tag begins with decides that it is a tag and no other markup. -/
theorem cuts_tag {c : Char} {later : List Char} (passed : Passed (c :: later)) (plain : c ≠ '!')
    (other : c ≠ '?') : Cuts ('<' :: (c :: later ++ ['>'])) [Cut.tagEvent (c :: later)] := by
  intro rest
  have text : '<' :: (c :: later ++ ['>']) ++ rest = '<' :: (c :: later ++ '>' :: rest) := by simp
  rw [text]
  apply cutEvents_first
  rw [Cut.first, if_pos rfl, List.cons_append, Cut.markup, if_neg plain, if_neg other]
  exact tag_of_passed passed rest

theorem cuts_start (word : Word name) (readable : ∀ given ∈ attributes, given.Readable)
    (distinct : (attributes.map fun given => given.key.toList).Nodup) :
    Cuts ('<' :: (name.toList ++ attributes.flatMap Attribute.written ++ ['>']))
      [.start ⟨name, attributes⟩] := by
  have passed := (passed_word word).append (passed_attributes readable)
  rw [← tagEvent_start word readable distinct]
  cases shape : name.toList with
  | nil => exact absurd shape word.1
  | cons first later =>
      have letter := word.letter (shape ▸ List.mem_cons_self : first ∈ name.toList)
      rw [shape] at passed
      exact cuts_tag passed (ne_of_isAlpha letter (by decide)) (ne_of_isAlpha letter (by decide))

theorem cuts_close (word : Word name) :
    Cuts ('<' :: '/' :: (name.toList ++ ['>'])) [.close name] := by
  have slash : Passed ['/'] := passed_plain (by decide)
  rw [← tagEvent_close word]
  exact cuts_tag (slash.append (passed_word word)) (by decide) (by decide)

end Tags

end TableReaders.Markup
