import TableReaders.Proofs.Markup.Reference
import TableReaders.Proofs.Schema.Level
import TableReaders.Proofs.Schema.RoundTrip
import TableReaders.Proofs.Text.Lines

/-!
The body of a documentation is read as its character data. Text stands for itself, marked as
character data or not, and a reference for the character that it means. Comments, instructions and
whole elements add nothing, whatever is in them. So the way in which a text is cut up into such
pieces is of no account, and only a reference that stands in the body itself and means nothing keeps
it from being read.
-/

namespace TableReaders.Markup

def Event.silent : Event → Bool
  | .empty _ | .comment _ | .instruction _ | .declaration _ | .doctype => true
  | _ => false

/-- The characters that properly nested events stand for, outside of the elements in them. -/
inductive CharacterData : List Event → List Char → Prop where
  | nil : CharacterData [] []
  | text {rest : List Event} {data : List Char} (content : String)
      (later : CharacterData rest data) :
      CharacterData (.text content :: rest) (content.toList ++ data)
  | cdata {rest : List Event} {data : List Char} (content : String)
      (later : CharacterData rest data) :
      CharacterData (.cdata content :: rest) (content.toList ++ data)
  | reference {name : String} {meant : Char} {rest : List Event} {data : List Char}
      (refers : Refers name.toList meant) (later : CharacterData rest data) :
      CharacterData (.reference name :: rest) (meant :: data)
  | silent {event : Event} {rest : List Event} {data : List Char} (quiet : event.silent = true)
      (later : CharacterData rest data) : CharacterData (event :: rest) data
  | element {content rest : List Event} {data : List Char} (tag : Tag) (inner : Nested content)
      (later : CharacterData rest data) :
      CharacterData (.start tag :: (content ++ .close tag.name :: rest)) data

/-- A reference that means nothing, behind events that stand for characters. -/
def MeetsUnknown (events : List Event) : Prop :=
  ∃ before name after data, events = before ++ .reference name :: after ∧
    CharacterData before data ∧
    ∀ meant, ¬ Refers name.toList meant

section Events

variable {event : Event} {events rest : List Event} {data : List Char}

theorem Event.alone_of_silent (quiet : event.silent = true) : event.alone = true := by
  cases event with
  | start tag => cases quiet
  | close name => cases quiet
  | _ => rfl

theorem CharacterData.nested (means : CharacterData events data) : Nested events := by
  induction means with
  | nil => exact .nil
  | text content _ ih => exact .alone rfl ih
  | cdata content _ ih => exact .alone rfl ih
  | reference refers _ ih => exact .alone rfl ih
  | silent quiet _ ih => exact .alone (Event.alone_of_silent quiet) ih
  | element tag inner _ ih => exact .element tag inner ih

/-- What can stand in front of any character data does not change how far events can be read. -/
theorem means_or_meets_append (front : List Event)
    (joins : ∀ {rest data}, CharacterData rest data → ∃ more, CharacterData (front ++ rest) more)
    (later : (∃ data, CharacterData rest data) ∨ MeetsUnknown rest) :
    (∃ data, CharacterData (front ++ rest) data) ∨ MeetsUnknown (front ++ rest) := by
  rcases later with ⟨data, means⟩ | ⟨before, name, after, data, split, means, unknown⟩
  · exact .inl (joins means)
  · obtain ⟨more, joined⟩ := joins means
    exact .inr
      ⟨front ++ before, name, after, more, by rw [split, List.append_assoc], joined, unknown⟩

theorem Nested.means_or_meets (nested : Nested events) (sound : ∀ fault, .fault fault ∉ events) :
    (∃ data, CharacterData events data) ∨ MeetsUnknown events := by
  induction nested with
  | nil => exact .inl ⟨[], .nil⟩
  | @alone event rest single _ ih =>
      have later := ih fun fault member => sound fault (List.mem_cons_of_mem _ member)
      cases event with
      | start tag | close name => cases single
      | fault cause => exact absurd List.mem_cons_self (sound cause)
      | text content =>
          exact means_or_meets_append [_] (fun means => ⟨_, .text content means⟩) later
      | cdata content =>
          exact means_or_meets_append [_] (fun means => ⟨_, .cdata content means⟩) later
      | reference name =>
          by_cases known : ∃ meant, Refers name.toList meant
          · obtain ⟨meant, refers⟩ := known
            exact means_or_meets_append [_] (fun means => ⟨_, .reference refers means⟩) later
          · exact .inr ⟨[], name, rest, [], rfl, .nil, fun meant refers => known ⟨meant, refers⟩⟩
      | _ => exact means_or_meets_append [_] (fun means => ⟨_, .silent rfl means⟩) later
  | @element content rest tag inner _ _ ih =>
      have later := ih fun fault member => sound fault (by simp [member])
      have whole := means_or_meets_append (.start tag :: (content ++ [.close tag.name]))
        (fun means => ⟨_, by simpa using .element tag inner means⟩) later
      simpa using whole

end Events

end TableReaders.Markup

namespace TableReaders.Schema

open Markup

namespace Read

inductive Unresolved (name : String) : ReadError → Prop where
  | unknown (unsigned : name.toList.head? ≠ some '#')
      (absent : namedCharacters.lookup name = none) :
      Unresolved name (.misshapen (.entityUnknown name))
  | number {digits : List Char} {cause : CharacterFault} (shape : name.toList = '#' :: digits)
      (fault : numberedCharacter digits = .error cause) :
        Unresolved name (.markup (.character cause))

section References

variable {name : String} {meant : Char} {error : ReadError}

theorem referenced_of_refers (refers : Refers name.toList meant) :
    referenced name = .ok [meant] := by
  rw [referenced, resolveReference_eq_some.mpr refers]

theorem resolveReference_unsigned (unsigned : name.toList.head? ≠ some '#') :
    resolveReference name.toList = .ok (namedCharacters.lookup name) := by
  unfold resolveReference
  split
  next digits shape => exact absurd (by rw [shape]; rfl) unsigned
  next => rw [String.ofList_toList]

theorem referenced_of_unresolved (unresolved : Unresolved name error) :
    referenced name = .error error := by
  cases unresolved with
  | unknown unsigned absent => rw [referenced, resolveReference_unsigned unsigned, absent]
  | number shape fault =>
      rw [referenced, shape, resolveReference, fault]
      rfl

theorem refers_or_unresolved (name : String) :
    (∃ meant, Refers name.toList meant) ∨ ∃ error, Unresolved name error := by
  by_cases signed : name.toList.head? = some '#'
  · obtain ⟨digits, shape⟩ := List.head?_eq_some_iff.mp signed
    cases read : numberedCharacter digits with
    | ok meant => exact .inl ⟨meant, by rw [shape]; exact numberedCharacter_eq_ok.mp read⟩
    | error cause => exact .inr ⟨_, .number shape read⟩
  · cases found : namedCharacters.lookup name with
    | some meant => exact .inl ⟨meant, .named (by rw [String.ofList_toList, found])⟩
    | none => exact .inr ⟨_, .unknown signed found⟩

end References

section Bodies

variable {events before rest : List Event} {item : Item} {data : List Char}

theorem body_cons (first : items events = item :: items rest) :
    body ⟨events, true⟩ = characterData item >>= fun piece =>
      (piece ++ ·) <$> body ⟨rest, true⟩ := by
  simp only [body, first, List.mapM_cons]
  cases characterData item with
  | error cause => rfl
  | ok piece => cases (items rest).mapM characterData <;> rfl

theorem body_piece {piece : List Char} (first : items events = item :: items rest)
    (read : characterData item = .ok piece) :
    body ⟨events, true⟩ = (piece ++ ·) <$> body ⟨rest, true⟩ := by
  rw [body_cons first, read]
  rfl

theorem map_append_append (front more : List Char) (read : Read (List Char)) :
    (front ++ ·) <$> ((more ++ ·) <$> read) = ((front ++ more) ++ ·) <$> read := by
  cases read with
  | error cause => rfl
  | ok text => exact congrArg Except.ok (List.append_assoc front more text).symm

theorem silent_item {event : Event} (quiet : event.silent = true) (rest : List Event) :
    ∃ item, items (event :: rest) = item :: items rest ∧ characterData item = .ok [] := by
  cases event with
  | start tag | close name | text content | cdata content | reference name | fault cause =>
      cases quiet
  | empty tag => exact ⟨.element tag .nothing, by rw [items], rfl⟩
  | _ => exact ⟨_, items_idle rfl rest, rfl⟩

/-- Events that stand for characters add these to what the events after them stand for. -/
theorem body_append (means : CharacterData before data) (sound : ∀ fault, .fault fault ∉ before)
    (rest : List Event) : body ⟨before ++ rest, true⟩ = (data ++ ·) <$> body ⟨rest, true⟩ := by
  induction means with
  | nil =>
      rw [List.nil_append]
      cases body ⟨rest, true⟩ <;> rfl
  | text content _ ih =>
      have later := ih fun fault member => sound fault (List.mem_cons_of_mem _ member)
      rw [List.cons_append, body_piece (items_idle rfl _) rfl, later, map_append_append]
  | cdata content _ ih =>
      have later := ih fun fault member => sound fault (List.mem_cons_of_mem _ member)
      rw [List.cons_append, body_piece (items_idle rfl _) rfl, later, map_append_append]
  | reference refers _ ih =>
      have later := ih fun fault member => sound fault (List.mem_cons_of_mem _ member)
      have known : characterData (.mark (.reference _)) = .ok [_] := referenced_of_refers refers
      rw [List.cons_append, body_piece (items_idle rfl _) known, later, map_append_append]
      rfl
  | silent quiet _ ih =>
      have later := ih fun fault member => sound fault (List.mem_cons_of_mem _ member)
      obtain ⟨item, first, nothing⟩ := silent_item quiet (_ ++ rest)
      rw [List.cons_append, body_piece first nothing, later, map_append_append]
      rfl
  | @element content behind data tag inner _ ih =>
      have later := ih fun fault member => sound fault (by simp [member])
      have skipped : characterData (.element tag ⟨content, true⟩) = .ok [] := by
        have passes : content.forM pass = .ok () :=
          forM_pass_sound fun fault member => sound fault (by simp [member])
        rw [characterData, skip, passes]
        rfl
      rw [List.cons_append, List.append_assoc, List.cons_append,
        body_piece (items_closed (inner.inside 0) tag tag.name _) skipped, later, map_append_append]
      rfl

theorem body_of_means (means : CharacterData events data) (sound : ∀ fault, .fault fault ∉ events) :
    body ⟨events, true⟩ = .ok data := by
  have whole := body_append means sound []
  rw [List.append_nil, body_nil] at whole
  rw [whole]
  exact congrArg Except.ok (List.append_nil data)

theorem body_of_unresolved {name : String} {error : ReadError} (means : CharacterData before data)
    (unresolved : Unresolved name error) {after : List Event}
    (sound : ∀ fault, .fault fault ∉ before ++ .reference name :: after) :
    body ⟨before ++ .reference name :: after, true⟩ = .error error := by
  have earlier : ∀ fault, .fault fault ∉ before :=
    fun fault member => sound fault (by simp [member])
  have failed : characterData (.mark (.reference name)) = .error error :=
    referenced_of_unresolved unresolved
  rw [body_append means earlier, body_cons (items_idle rfl after), failed]
  rfl

/-- A body is read, or its first reference that means nothing is the reason why not. -/
theorem body_cases (nested : Nested events) (sound : ∀ fault, .fault fault ∉ events) :
    (∃ data, CharacterData events data ∧ body ⟨events, true⟩ = .ok data) ∨
    ∃ before name after data error, events = before ++ .reference name :: after ∧
      CharacterData before data ∧ Unresolved name error ∧ body ⟨events, true⟩ = .error error := by
  rcases nested.means_or_meets sound with
    ⟨data, means⟩ | ⟨before, name, after, data, rfl, means, unknown⟩
  · exact .inl ⟨data, means, body_of_means means sound⟩
  · have unmeant : ¬ ∃ meant, Refers name.toList meant :=
      fun ⟨meant, refers⟩ => unknown meant refers
    obtain ⟨error, unresolved⟩ := (refers_or_unresolved name).resolve_left unmeant
    exact .inr ⟨before, name, after, data, error, rfl, means, unresolved,
      body_of_unresolved means unresolved sound⟩

theorem body_eq_ok (nested : Nested events) (sound : ∀ fault, .fault fault ∉ events) :
    body ⟨events, true⟩ = .ok data ↔ CharacterData events data := by
  refine ⟨fun read => ?_, fun means => body_of_means means sound⟩
  rcases body_cases nested sound with ⟨other, means, given⟩ | ⟨_, _, _, _, _, _, _, _, failed⟩
  · rw [given] at read
    cases read
    exact means
  · rw [failed] at read
    cases read

theorem body_eq_error (nested : Nested events) (sound : ∀ fault, .fault fault ∉ events)
    {error : ReadError} :
    body ⟨events, true⟩ = .error error ↔
      ∃ before name after data, events = before ++ .reference name :: after ∧
        CharacterData before data ∧
        Unresolved name error := by
  constructor
  · intro read
    rcases body_cases nested sound with
      ⟨_, _, given⟩ | ⟨before, name, after, data, cause, split, means, unresolved, failed⟩
    · rw [given] at read
      cases read
    · rw [failed] at read
      cases read
      exact ⟨before, name, after, data, split, means, unresolved⟩
  · rintro ⟨before, name, after, data, rfl, means, unresolved⟩
    exact body_of_unresolved means unresolved sound

def HasReference (events : List Event) (name : String) : Prop :=
  ∃ before after, events = before ++ .reference name :: after ∧ Nested before

theorem means_iff_references (nested : Nested events) (sound : ∀ fault, .fault fault ∉ events) :
    (∃ data, CharacterData events data) ↔
      ∀ name, HasReference events name → ∃ meant, Refers name.toList meant := by
  constructor
  · rintro ⟨data, means⟩ name ⟨before, after, rfl, whole⟩
    refine (refers_or_unresolved name).resolve_right fun ⟨error, unresolved⟩ => ?_
    have earlier : ∀ fault, .fault fault ∉ before :=
      fun fault member => sound fault (by simp [member])
    have read := body_of_means means sound
    -- The reference itself is met, or another one before it.
    rcases body_cases whole earlier with
      ⟨front, means, _⟩ | ⟨first, other, behind, front, cause, rfl, means, known, _⟩
    · rw [body_of_unresolved means unresolved sound] at read
      cases read
    · rw [List.append_assoc, List.cons_append] at read sound
      rw [body_of_unresolved means known sound] at read
      cases read
  · intro known
    rcases body_cases nested sound with
      ⟨data, means, _⟩ | ⟨before, name, after, data, error, split, means, failed, _⟩
    · exact ⟨data, means⟩
    · obtain ⟨meant, refers⟩ := known name ⟨before, after, split, means.nested⟩
      have read := referenced_of_refers refers
      rw [referenced_of_unresolved failed] at read
      cases read

end Bodies

section Attributes

variable {tag : Tag} {keys : List String} {key : String} {given : List (String × String)}

def Unescapes (tag : Tag) (keys : List String) : Prop :=
  ∀ attr ∈ tag.attributes, attr.key ∈ keys → ∃ text, unescape attr.value = .ok text

def textOf (tag : Tag) (key : String) : Option String :=
  (tag.value? key).bind fun value => (unescape value).toOption

theorem ofMarkup_eq_ok {α : Type} {result : Except Fault α} {value : α} :
    ofMarkup result = .ok value ↔ result = .ok value := by
  cases result <;> simp [ofMarkup]

theorem values_isOk_iff : (∃ given, values tag keys = .ok given) ↔ Unescapes tag keys := by
  simp only [values, exists_mapM_eq_ok, List.mem_filter, List.contains_iff_mem, bind_eq_ok,
    ofMarkup_eq_ok]
  constructor
  · intro each attr member wanted
    obtain ⟨_, text, read, _⟩ := each attr ⟨member, wanted⟩
    exact ⟨text, read⟩
  · rintro each attr ⟨member, wanted⟩
    obtain ⟨text, read⟩ := each attr member wanted
    exact ⟨_, text, read, rfl⟩

theorem lookup_values (run : values tag keys = .ok given) (wanted : key ∈ keys) :
    given.lookup key = textOf tag key := by
  obtain ⟨name, attributes⟩ := tag
  unfold values at run
  unfold textOf Tag.value?
  simp only at run ⊢
  induction attributes generalizing given with
  | nil =>
      cases run
      rfl
  | cons attr rest ih =>
      by_cases kept : attr.key ∈ keys
      · rw [List.filter_cons_of_pos (by simp [kept]), List.mapM_cons] at run
        obtain ⟨pair, first, others⟩ := bind_eq_ok.mp run
        obtain ⟨text, read, same⟩ := bind_eq_ok.mp first
        obtain ⟨more, later, whole⟩ := bind_eq_ok.mp others
        cases same
        cases whole
        by_cases asked : attr.key = key
        · rw [ofMarkup_eq_ok] at read
          simp [asked, read, Except.toOption]
        · have apart : (key == attr.key) = false := by simp [Ne.symm asked]
          rw [List.lookup_cons, apart, List.find?_cons_of_neg (by simp [asked])]
          exact ih later
      · have other : attr.key ≠ key := fun same => kept (same ▸ wanted)
        rw [List.filter_cons_of_neg (by simp [kept])] at run
        rw [List.find?_cons_of_neg (by simp [other])]
        exact ih run

end Attributes

section Documentation

variable {tag : Tag} {content : Content} {documented : Documentation} {given : Option String}

def shownBody (data : List Char) : Option String :=
  if Text.flushLeft data = [] then none else some (String.ofList (Text.flushLeft data))

theorem filter_flushLeft (data : List Char) :
    (some (String.ofList (Text.flushLeft data))).filter shows = shownBody data := by
  unfold shownBody
  by_cases empty : Text.flushLeft data = []
  · rw [empty]
    rfl
  · have filled : shows (String.ofList (Text.flushLeft data)) = true := by
      have blank : Text.allBlank (Text.flushLeft data) = false := Text.allBlank_trim empty
      rw [shows, String.toList_ofList, blank]
      rfl
    rw [if_neg empty, Option.filter_some, if_pos filled]

theorem filter_or {text : String} :
    ((given.filter shows).or (some text)).filter shows =
      (given.filter shows).or ((some text).filter shows) := by
  cases kept : given.filter shows with
  | none => rfl
  | some shown =>
      have shows := Documentation.shows_of_mem_filter (kept : shown ∈ _)
      simp [shows]

/-- The attributes are kept where they show something. A body takes the place of a long text that
shows nothing. -/
theorem assembled_texts (short long : Option String) (data : List Char) :
    (Documentation.ofTexts short long).short.filter shows = short.filter shows ∧
    ((Documentation.ofTexts short long).long.or
      (some (String.ofList (Text.flushLeft data)))).filter shows =
      (long.filter shows).or (shownBody data) := by
  constructor
  · exact filter_shows (Documentation.ofTexts short long).short_shows
  · rw [← filter_flushLeft]
    exact filter_or

theorem documentation_eq_ok :
    documentation tag content = .ok documented ↔
      Unescapes tag ["short", "long"] ∧ ∃ data, body content = .ok data ∧
        documented.short = (textOf tag "short").filter shows ∧
        documented.long = ((textOf tag "long").filter shows).or (shownBody data) := by
  simp only [documentation, bind_eq_ok]
  constructor
  · rintro ⟨given, run, data, read, same⟩
    cases same
    obtain ⟨short, long⟩ := assembled_texts (given.lookup "short") (given.lookup "long") data
    refine ⟨values_isOk_iff.mp ⟨given, run⟩, data, read, ?_, ?_⟩
    · rw [← lookup_values run (by simp), ← short]
      rfl
    · rw [← lookup_values run (by simp), ← long]
      rfl
  · rintro ⟨unescapes, data, read, sameShort, sameLong⟩
    obtain ⟨given, run⟩ := values_isOk_iff.mpr unescapes
    obtain ⟨short, long⟩ := assembled_texts (given.lookup "short") (given.lookup "long") data
    rw [← lookup_values run (by simp), ← short] at sameShort
    rw [← lookup_values run (by simp), ← long] at sameLong
    exact ⟨given, run, data, read, congrArg Except.ok (ofTexts_eq sameShort.symm sameLong.symm)⟩

theorem documentation_eq_error (unescapes : Unescapes tag ["short", "long"]) {error : ReadError} :
    documentation tag content = .error error ↔ body content = .error error := by
  obtain ⟨given, run⟩ := values_isOk_iff.mpr unescapes
  rw [documentation, run]
  change (body content >>= _) = _ ↔ _
  cases body content <;> simp [bind, Except.bind, pure, Except.pure]

def documentationFrom (tag : Tag) (events : List Event) : Read Documentation :=
  documentation tag (takeContent 0 events).1

theorem documentationFrom_closed {events : List Event} (nested : Nested events) (name : String)
    (rest : List Event) :
    documentationFrom tag (events ++ .close name :: rest) = documentation tag ⟨events, true⟩ := by
  rw [documentationFrom, takeContent_closed (nested.inside 0)]

end Documentation

end Read

open Read

/-- Documentation is read if its attributes can be unescaped and the references of its body mean
something. It then has the texts of the attributes, and for a long text that shows nothing the
character data of the body. -/
theorem documentation_characterData (tag : Tag) (body rest : List Event) (nested : Nested body)
    (sound : ∀ fault, .fault fault ∉ body) :
    ((∃ documented, documentationFrom tag (body ++ .close tag.name :: rest) = .ok documented) ↔
      Unescapes tag ["short", "long"] ∧
        ∀ name, HasReference body name → ∃ meant, Refers name.toList meant) ∧
    (∀ documented, documentationFrom tag (body ++ .close tag.name :: rest) = .ok documented →
      ∃ data, CharacterData body data ∧
        documented.short = (textOf tag "short").filter shows ∧
        documented.long = ((textOf tag "long").filter shows).or (shownBody data)) ∧
    (Unescapes tag ["short", "long"] → ∀ error,
      documentationFrom tag (body ++ .close tag.name :: rest) = .error error ↔
        ∃ before name after data, body = before ++ .reference name :: after ∧
          CharacterData before data ∧
          Unresolved name error) ∧
    ∀ other further data, (∀ fault, .fault fault ∉ other) →
      CharacterData body data → CharacterData other data →
      documentationFrom tag (other ++ .close tag.name :: further) =
        documentationFrom tag (body ++ .close tag.name :: rest) := by
  rw [documentationFrom_closed nested]
  simp only [documentation_eq_ok, body_eq_ok nested sound]
  refine ⟨?_, ?_, ?_, ?_⟩
  · rw [← means_iff_references nested sound]
    constructor
    · rintro ⟨_, unescapes, data, means, _⟩
      exact ⟨unescapes, data, means⟩
    · rintro ⟨unescapes, data, means⟩
      let attributes := Documentation.ofTexts (textOf tag "short") (textOf tag "long")
      exact ⟨.ofTexts attributes.short
        (attributes.long.or (some (String.ofList (Text.flushLeft data)))),
        unescapes, data, means, assembled_texts (textOf tag "short") (textOf tag "long") data⟩
  · rintro documented ⟨_, read⟩
    exact read
  · intro unescapes error
    rw [documentation_eq_error unescapes, body_eq_error nested sound]
  · intro other further data soundToo means same
    rw [documentationFrom_closed same.nested, documentation, documentation,
      body_of_means means sound, body_of_means same soundToo]

def describedTag : Tag :=
  ⟨"documentation", [⟨"short", "A &amp; B"⟩]⟩

def piecewise : List Event :=
  [.text "x ", .reference "lt", .comment "&nbsp;", .cdata " y ", .start ⟨"b", []⟩,
    .reference "nbsp", .close "b", .reference "#x41"]

theorem piecewise_means : CharacterData piecewise "x < y A".toList :=
  .text "x " (.reference (.named (by decide))
    (.silent rfl (.cdata " y " (.element ⟨"b", []⟩ (.alone rfl .nil)
    (.reference (.hexadecimal (by decide) ⟨[4, 1], by decide, by decide⟩) .nil)))))

/-- The body is read like the same text in one piece. A body with the unknown reference in itself is
not read. -/
theorem piecewise_read :
    Nested piecewise ∧
    (∃ documented, documentationFrom describedTag (piecewise ++ [.close "documentation"]) =
      .ok documented ∧
      documented.short = some "A & B" ∧ documented.long = some "x < y A") ∧
    documentationFrom describedTag [.text "x < y A", .close "documentation"] =
      documentationFrom describedTag (piecewise ++ [.close "documentation"]) ∧
    documentationFrom describedTag [.text "x", .reference "nbsp", .reference "#0",
      .close "documentation"] =
      .error (.misshapen (.entityUnknown "nbsp")) := by
  have nested := piecewise_means.nested
  have sound : ∀ fault, .fault fault ∉ piecewise := by simp [piecewise]
  have unescaped : unescape "A &amp; B" = .ok "A & B" := eq_ok_of_toOption (by decide +kernel)
  have unescapes : Unescapes describedTag ["short", "long"] := by
    intro attr member _
    rw [List.mem_singleton.mp member]
    exact ⟨_, unescaped⟩
  obtain ⟨succeeds, texts, _, alike⟩ :=
    documentation_characterData describedTag piecewise [] nested sound
  obtain ⟨documented, read⟩ :=
    succeeds.mpr ⟨unescapes, (means_iff_references nested sound).mp ⟨_, piecewise_means⟩⟩
  obtain ⟨data, means, short, long⟩ := texts documented read
  have same : data = "x < y A".toList :=
    Except.ok.inj ((body_of_means means sound).symm.trans (body_of_means piecewise_means sound))
  refine ⟨nested, ⟨documented, read, ?_, ?_⟩, ?_, ?_⟩
  · exact short.trans (by decide +kernel)
  · rw [same] at long
    exact long.trans (by decide +kernel)
  · exact alike [.text "x < y A"] [] _ (by simp) piecewise_means
      (by simpa using .text "x < y A" .nil)
  · have broken : Nested [.text "x", .reference "nbsp", .reference "#0"] :=
      .alone rfl (.alone rfl (.alone rfl .nil))
    obtain ⟨_, _, fails, _⟩ := documentation_characterData describedTag _ [] broken (by simp)
    exact (fails unescapes _).mpr ⟨[.text "x"], "nbsp", [.reference "#0"], _, rfl, .text "x" .nil,
      .unknown (by decide) (by decide)⟩

end TableReaders.Schema
