import Mathlib.Data.List.Nodup
import TableReaders.Proofs.Markup.Nested
import TableReaders.Proofs.Markup.Written
import TableReaders.Schema.Printer

/-!
What is written for an application, as events. Every character of a value is written so that no
quotation mark is left and so that reading the references gives the character back. With that, what
is written for a part is cut into a start tag, the events of its content and a close tag, and these
are properly nested.
-/

namespace TableReaders.Schema

open Markup

namespace Printer

section References

variable {total offset : Nat} {c : Char}

theorem splitReference?_name {name : List Char}
    (plain : name.all (fun d => d != ';' && !(d == '&')) = true) (rest : List Char) :
    splitReference? (· == '&') (name ++ ';' :: rest) = some (name, rest) := by
  rw [List.all_eq_true] at plain
  rw [splitReference?, List.dropWhile_append_of_pos plain, List.takeWhile_append_of_pos plain]
  simp

theorem unescapeFrom_reference {name : List Char}
    (plain : name.all (fun d => d != ';' && !(d == '&')) = true)
    (meant : resolveReference name = .ok (some c)) (rest : List Char) :
    unescapeFrom total offset ('&' :: (name ++ ';' :: rest)) =
      (c :: ·) <$> unescapeFrom total (offset + 1 + byteLength name + 1) rest := by
  rw [unescapeFrom, if_pos rfl]
  split
  next none =>
    rw [splitReference?_name plain] at none
    cases none
  next found =>
    rw [splitReference?_name plain] at found
    cases found
    simp only [meant]

end References

structure Names (name : List Char) (c : Char) : Prop where
  plain : name.all (fun d => d != ';' && !(d == '&')) = true
  unquoted : quotation ∉ name
  meant : resolveReference name = .ok (some c)

/-- A character is written as itself or as a reference that means it. -/
theorem escaped_cases (c : Char) :
    (escaped c = [c] ∧ c ≠ '&' ∧ c ≠ quotation) ∨
      ∃ name, escaped c = '&' :: (name ++ [';']) ∧ Names name c := by
  unfold escaped
  split
  next same => exact Or.inr ⟨['a', 'm', 'p'], rfl, by decide, by decide, same ▸ rfl⟩
  next ampersand =>
    split
    next same => exact Or.inr ⟨['l', 't'], rfl, by decide, by decide, same ▸ rfl⟩
    next =>
      split
      next same => exact Or.inr ⟨['g', 't'], rfl, by decide, by decide, same ▸ rfl⟩
      next =>
        split
        next same => exact Or.inr ⟨['q', 'u', 'o', 't'], rfl, by decide, by decide, same ▸ rfl⟩
        next double =>
          split
          next same => exact Or.inr ⟨['a', 'p', 'o', 's'], rfl, by decide, by decide, same ▸ rfl⟩
          next => exact Or.inl ⟨rfl, ampersand, double⟩

theorem quotation_not_mem_escape (text : String) : quotation ∉ (escape text).toList := by
  rw [escape, String.toList_ofList, List.mem_flatMap]
  rintro ⟨c, _, member⟩
  rcases escaped_cases c with ⟨itself, _, other⟩ | ⟨name, written, names⟩
  · rw [itself] at member
    exact other (List.mem_singleton.mp member).symm
  · rw [written] at member
    rcases List.mem_cons.mp member with mark | inside
    · exact absurd mark (by decide)
    · rcases List.mem_append.mp inside with front | last
      · exact names.unquoted front
      · exact absurd (List.mem_singleton.mp last) (by decide)

theorem unescapeFrom_escaped (total offset : Nat) (c : Char) (rest : List Char) :
    ∃ next, unescapeFrom total offset (escaped c ++ rest) =
      (c :: ·) <$> unescapeFrom total next rest := by
  rcases escaped_cases c with ⟨itself, other, _⟩ | ⟨name, written, names⟩
  · rw [itself, List.singleton_append, unescapeFrom, if_neg other]
    exact ⟨_, rfl⟩
  · rw [written, List.cons_append, List.append_assoc, List.singleton_append,
      unescapeFrom_reference names.plain names.meant]
    exact ⟨_, rfl⟩

theorem unescapeFrom_flatMap (total offset : Nat) (text : List Char) :
    unescapeFrom total offset (text.flatMap escaped) = .ok text := by
  induction text generalizing offset with
  | nil =>
      rw [List.flatMap_nil, unescapeFrom]
  | cons c rest ih =>
      obtain ⟨next, step⟩ := unescapeFrom_escaped total offset c (rest.flatMap escaped)
      rw [List.flatMap_cons, step, ih]
      rfl

theorem unescape_escape (text : String) : unescape (escape text) = .ok text := by
  rw [unescape, escape, String.toList_ofList, unescapeFrom_flatMap]
  exact congrArg Except.ok String.ofList_toList

def Keys (keys : List String) : Prop :=
  (∀ key ∈ keys, Word key) ∧ keys.Nodup

instance (keys : List String) : Decidable (Keys keys) :=
  inferInstanceAs (Decidable (_ ∧ _))

def texts? (key : String) (value : Option String) : List (String × String) :=
  (value.map (key, ·)).toList

def attributesOf (texts : List (String × String)) : List Attribute :=
  texts.map fun text => ⟨text.1, escape text.2⟩

def elementEvents (name : String) (texts : List (String × String)) (content : List Event) :
    List Event :=
  .start ⟨name, attributesOf texts⟩ :: (content ++ [.close name])

/-- A text is written for certain events, which are properly nested. -/
structure Written (text : String) (events : List Event) : Prop where
  cuts : Cuts text.toList events
  nested : Nested events

def attrs (texts : List (String × String)) : String :=
  String.join (texts.map fun text => attr text.1 text.2)

section Elements

variable {name first second content : String} {texts : List (String × String)}
  {events others : List Event}

theorem attrs_append (some more : List (String × String)) :
    attrs (some ++ more) = attrs some ++ attrs more := by
  rw [attrs, List.map_append, String.join_append]
  rfl

theorem attrs_texts? (key : String) (value : Option String) :
    attrs (texts? key value) = attr? key value := by
  cases value with
  | none => rfl
  | some text => exact String.join_cons.trans String.append_empty

theorem toList_attr (key value : String) :
    (attr key value).toList = Attribute.written ⟨key, escape value⟩ := by
  simp [attr, Attribute.written, quotation]

theorem toList_attrs (texts : List (String × String)) :
    (attrs texts).toList = (attributesOf texts).flatMap Attribute.written := by
  simp only [attrs, attributesOf, String.toList_join, List.flatMap_map, toList_attr]

theorem written_empty : Written "" [] :=
  ⟨cuts_nil, .nil⟩

theorem Written.append (one : Written first events) (other : Written second others) :
    Written (first ++ second) (events ++ others) := by
  refine ⟨?_, one.nested.append other.nested⟩
  rw [String.toList_append]
  exact one.cuts.append other.cuts

theorem Written.join {α : Type} {items : List α} {write : α → String} {eventsOf : α → List Event}
    (each : ∀ item, Written (write item) (eventsOf item)) :
    Written (String.join (items.map write)) (items.flatMap eventsOf) := by
  induction items with
  | nil => exact written_empty
  | cons item rest ih =>
      rw [List.map_cons, String.join_cons, List.flatMap_cons]
      exact (each item).append ih

theorem readable_attributesOf (keys : Keys (texts.map Prod.fst)) :
    ∀ given ∈ attributesOf texts, given.Readable := by
  intro given member
  obtain ⟨text, listed, same⟩ := List.mem_map.mp member
  subst same
  exact ⟨keys.1 text.1 (List.mem_map_of_mem listed), quotation_not_mem_escape text.2⟩

theorem distinct_attributesOf (keys : Keys (texts.map Prod.fst)) :
    ((attributesOf texts).map fun given => given.key.toList).Nodup := by
  have same : ((attributesOf texts).map fun given => given.key.toList) =
      (texts.map Prod.fst).map String.toList := by
    simp [attributesOf]
  rw [same]
  exact keys.2.map fun _ _ => String.toList_injective

theorem toList_element (name attrs content : String) :
    ∃ rest, (Printer.element name attrs content).toList = '<' :: rest :=
  ⟨(name ++ attrs ++ ">" ++ content ++ "</" ++ name ++ ">").toList, by simp [Printer.element]⟩

theorem Written.element (inner : Written content events) (word : Word name)
    (keys : Keys (texts.map Prod.fst)) :
    Written (Printer.element name (attrs texts) content) (elementEvents name texts events) := by
  constructor
  · -- The start tag, the content and the close tag are cut one after another.
    have start := cuts_start word (readable_attributesOf keys) (distinct_attributesOf keys)
    have whole := start.append (inner.cuts.append (cuts_close word))
    rw [← toList_attrs] at whole
    simpa [Printer.element, elementEvents] using whole
  · exact .element ⟨name, attributesOf texts⟩ inner.nested .nil

end Elements

def documentationTexts (given : Documentation) : List (String × String) :=
  texts? "short" given.short ++ texts? "long" given.long

def documentationEvents : Option Documentation → List Event
  | none => []
  | some given => elementEvents "documentation" (documentationTexts given) []

def fieldTexts (given : Field) : List (String × String) :=
  [("name", given.name), ("type", given.type)] ++ texts? "items" given.items

def fieldEvents (given : Field) : List Event :=
  elementEvents "field" (fieldTexts given) (documentationEvents given.documentation)

def tableEvents (given : Table) : List Event :=
  elementEvents "table" [("name", given.name)]
    (documentationEvents given.documentation ++ given.fields.flatMap fieldEvents)

def itemEvents (name : String) : List Event :=
  elementEvents "item" [("name", name)] []

def groupEvents (given : Group) : List Event :=
  elementEvents "group" [("name", given.name)]
    (documentationEvents given.documentation ++ given.items.flatMap itemEvents)

def enumerationEvents (given : Enumeration) : List Event :=
  elementEvents "enumeration" [("name", given.name)]
    (documentationEvents given.documentation ++ given.groups.flatMap groupEvents)

def definitionEvents (given : Application) : List Event :=
  documentationEvents given.documentation ++ given.tables.flatMap tableEvents ++
    given.enumerations.flatMap enumerationEvents

theorem attrs_name (name : String) : attrs [("name", name)] = attr "name" name :=
  attrs_texts? "name" (some name)

theorem named_written {element name content : String} {events : List Event}
    (inner : Written content events) (word : Word element) :
    Written (Printer.element element (attr "name" name) content)
      (elementEvents element [("name", name)] events) := by
  rw [← attrs_name]
  exact inner.element word (by decide : Keys ["name"])

theorem documentation_written (given : Option Documentation) :
    Written (documentation given) (documentationEvents given) := by
  cases given with
  | none => exact written_empty
  | some given =>
      have keys : Keys ((documentationTexts given).map Prod.fst) := by
        unfold documentationTexts
        cases given.short <;> cases given.long
        · exact (by decide : Keys [])
        · exact (by decide : Keys ["long"])
        · exact (by decide : Keys ["short"])
        · exact (by decide : Keys ["short", "long"])
      rw [documentation, ← attrs_texts?, ← attrs_texts?, ← attrs_append]
      exact written_empty.element (by decide) keys

theorem field_written (given : Field) : Written (field given) (fieldEvents given) := by
  have keys : Keys ((fieldTexts given).map Prod.fst) := by
    unfold fieldTexts
    cases given.items
    · exact (by decide : Keys ["name", "type"])
    · exact (by decide : Keys ["name", "type", "items"])
  have texts : attr "name" given.name ++ attr "type" given.type ++ attr? "items" given.items =
      attrs (fieldTexts given) := by
    rw [fieldTexts, attrs_append, attrs_texts?]
    simp [attrs, String.join_cons]
  rw [field, texts]
  exact (documentation_written given.documentation).element (by decide) keys

theorem table_written (given : Table) : Written (table given) (tableEvents given) :=
  named_written ((documentation_written given.documentation).append (.join field_written))
    (by decide)

theorem item_written (name : String) : Written (item name) (itemEvents name) :=
  named_written written_empty (by decide)

theorem group_written (given : Group) : Written (group given) (groupEvents given) :=
  named_written ((documentation_written given.documentation).append (.join item_written))
    (by decide)

theorem enumeration_written (given : Enumeration) :
    Written (enumeration given) (enumerationEvents given) :=
  named_written ((documentation_written given.documentation).append (.join group_written))
    (by decide)

theorem application_written (given : Application) :
    Written given.toDocument
      (elementEvents "application" [("name", given.name)] (definitionEvents given)) :=
  named_written (((documentation_written given.documentation).append (.join table_written)).append
    (.join enumeration_written)) (by decide)

end Printer

end TableReaders.Schema
