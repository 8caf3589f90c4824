import TableReaders.Proofs.Schema.Level
import TableReaders.Proofs.Schema.RoundTrip

/-!
Changes of a document that its reader does not see. A piece of a document may be put in the place of
another if both are properly nested and are read alike at the level of the place, which the elements
open there decide. So it makes no difference whether an element with nothing in it has one tag or
two, and nothing that a level does not know adds to what is read there.
-/

namespace TableReaders.Schema

open Markup Read

namespace Level

variable {level : Level} {events others rest : List Event}

theorem alike_past {item : Item} {later : List Event} (first : items events = item :: items rest)
    (same : items others = item :: items later) (alike : level.Alike rest later) :
    level.Alike events others := by
  intro state
  rw [walk_cons first, walk_cons same]
  exact congrArg _ (funext alike)

theorem alike_into {tag : Tag} {content other : Content}
    (first : items events = .element tag content :: items rest)
    (same : items others = .element tag other :: items rest)
    (alike : (level.enter tag.name).Alike content.events other.events)
    (closed : level = .application → tag.name = "table" → content.closed = other.closed) :
    level.Alike events others := by
  intro state
  rw [walk_cons first, walk_cons same, step_alike level alike closed]

/-- At a place inside a document, pieces that are read alike at the level of the place may stand in
for each other. -/
theorem alike_replace {piece other : List Event} (nested : Nested piece) (nestedToo : Nested other)
    {before : List Event} (after : List Event)
    (alike : ∀ rest, (level.within (opened [] before)).Alike (piece ++ rest) (other ++ rest)) :
    level.Alike (before ++ (piece ++ after)) (before ++ (other ++ after)) := by
  -- The induction goes down the elements that are open at the place. At its end the pieces stand
  -- first.
  induction Path.of before generalizing level after with
  | here => exact alike after
  | @past front rest item whole neutral later ih =>
      rw [opened_append, neutral] at alike
      rw [List.append_assoc, List.append_assoc]
      exact alike_past (whole _) (whole _) (ih after alike)
  | @into rest depth tag inside inner ih =>
      rw [opened_into inside, within_append] at alike
      have first := items_into inside tag (piece ++ after)
      have same := items_into inside tag (other ++ after)
      rw [(nested.inside depth).takeContent_append] at first
      rw [(nestedToo.inside depth).takeContent_append] at same
      exact alike_into first same (ih _ alike) fun _ _ => rfl

theorem alike_idle (undocumented : level ≠ .documentation) {event : Event}
    (idle : event.idle = true) (rest : List Event) : level.Alike (event :: rest) rest :=
  alike_mark undocumented (items_idle idle rest) (pass_idle idle)

theorem nested_pair (tag : Tag) : Nested [.start tag, .close tag.name] :=
  .element tag .nil .nil

/-- One tag or two: the items are the same. -/
theorem alike_pair (level : Level) (tag : Tag) (rest : List Event) :
    level.Alike (.empty tag :: rest) (.start tag :: .close tag.name :: rest) := by
  have same : items (.empty tag :: rest) = items (.start tag :: .close tag.name :: rest) := by
    rw [items, items, takeContent]
  intro state
  exact congrArg (fun given => given.foldlM level.step state) same

theorem alike_unknown {tag : Tag} {element : List Event} (whole : Whole tag element)
    (sound : ∀ fault, .fault fault ∉ element) (unknown : tag.name ∉ level.known)
    (rest : List Event) :
    level.Alike (element ++ rest) rest := by
  intro state
  obtain ⟨content, part, first⟩ := whole.items_append
  have passes : skip content = .ok () :=
    forM_pass_sound fun fault member => sound fault (part member)
  rw [walk_cons (first rest), step_unknown unknown passes]
  rfl

end Level

namespace Read

/-- The application has been opened, or the search for it goes on, or a fault has ended it. -/
theorem root_append (before : List Event) :
    (∃ tag since, root before = .ok (tag, since) ∧
      ∀ more, root (before ++ more) = .ok (tag, since ++ more)) ∨
      (root before = .error (.misshapen .noApplication) ∧
        ∀ more, root (before ++ more) = root more) ∨
      ∃ fault, ∀ more, root (before ++ more) = .error (.markup fault) := by
  induction before with
  | nil => exact .inr (.inl ⟨rfl, fun more => rfl⟩)
  | cons event rest ih =>
      cases event with
      | start tag | empty tag =>
          by_cases named : tag.name = "application"
          · simp only [List.cons_append, root, named, if_true]
            exact .inl ⟨tag, rest, rfl, fun more => rfl⟩
          · simp only [List.cons_append, root, named, if_false]
            exact ih
      | fault cause => exact .inr (.inr ⟨cause, fun more => rfl⟩)
      | _ => exact ih

theorem root_idle {event : Event} (idle : event.idle = true) (rest : List Event) :
    root (event :: rest) = root rest := by
  cases event with
  | start tag | empty tag | fault cause => cases idle
  | _ => rfl

theorem root_split {events since : List Event} {tag : Tag}
    (found : root events = .ok (tag, since)) :
    tag.name = "application" ∧ ∃ lead event, events = lead ++ event :: since := by
  induction events with
  | nil => cases found
  | cons event rest ih =>
      cases event with
      | start other | empty other =>
          by_cases named : other.name = "application"
          · simp only [root, named, if_true] at found
            cases found
            exact ⟨named, [], _, rfl⟩
          · simp only [root, named, if_false] at found
            obtain ⟨same, lead, event, split⟩ := ih found
            exact ⟨same, _ :: lead, event, congrArg _ split⟩
      | fault cause => cases found
      | _ =>
          obtain ⟨same, lead, event, split⟩ := ih found
          exact ⟨same, _ :: lead, event, congrArg _ split⟩

/-- What was opened before the application lies below what has been opened since. -/
theorem opened_since {events since : List Event} {tag : Tag}
    (found : root events = .ok (tag, since)) :
    ∃ kept, opened [] events = opened [] since ++ kept := by
  obtain ⟨_, lead, event, split⟩ := root_split found
  rw [split, List.append_cons, opened_append]
  exact opened_above [] (opened [] (lead ++ [event])) since

/-- Inside the application's own element it lies directly above the application. -/
theorem opened_inside {lead since : List Event} {tag : Tag} {depth : Nat}
    (found : root (lead ++ .start tag :: since) = .ok (tag, since))
    (inside : Inside 0 since depth) :
    opened [] (lead ++ .start tag :: since) =
      opened [] since ++ "application" :: opened [] lead := by
  rw [opened_append, opened, (root_split found).1]
  exact inside.opened_below [] ("application" :: opened [] lead) rfl

/-- An element with nothing in it is what its tag says. -/
structure TagAlone (tag : Tag) : Prop where
  table : ∀ application, Read.table application tag .nothing = do
    return { name := ← required tag "name", application }
  field : Read.field tag .nothing = fieldTag tag
  enumeration : Read.enumeration tag .nothing = do return { name := ← required tag "name" }
  group : Read.group tag .nothing = do return { name := ← required tag "name" }
  documentation : Read.documentation tag .nothing = do
    let given ← values tag ["short", "long"]
    return .ofTexts (given.lookup "short") (given.lookup "long")

theorem documentation_nothing (tag : Tag) :
    documentation tag .nothing = do
      let given ← values tag ["short", "long"]
      return .ofTexts (given.lookup "short") (given.lookup "long") := by
  -- The body of the documentation is an empty text, which is no long text.
  simp only [documentation, Content.nothing, body_nil]
  refine congrArg _ (funext fun given => ?_)
  generalize Documentation.ofTexts (given.lookup "short") (given.lookup "long") = attributes
  exact congrArg Except.ok
    (ofTexts_eq (filter_shows attributes.short_shows) (filter_or_empty attributes.long_shows))

theorem tagAlone (tag : Tag) : TagAlone tag where
  table application := by
    simp only [table, Content.nothing, children_nil]
    rfl
  field := by
    simp only [field, Content.nothing, children_nil]
    exact bind_pure _
  enumeration := by
    simp only [enumeration, Content.nothing, children_nil]
    rfl
  group := by
    simp only [group, Content.nothing, children_nil]
    rfl
  documentation := documentation_nothing tag

end Read

namespace Application

variable {before after : List Event}

theorem ofEvents_opened {events since : List Event} {tag : Tag}
    (found : root events = .ok (tag, since)) :
    ofEvents events = required tag "name" >>= fun name =>
      Level.application.walk { name } since := by
  rw [ofEvents, found]
  rfl

theorem ofEvents_congr {events others : List Event} (same : root events = root others) :
    ofEvents events = ofEvents others := by
  rw [ofEvents, ofEvents, same]

theorem ofEvents_replace {piece other : List Event} (nested : Nested piece)
    (nestedToo : Nested other) (alike : ∀ tag since, root before = .ok (tag, since) →
      ∀ rest, (Level.application.within (opened [] since)).Alike (piece ++ rest) (other ++ rest))
    (unopened : root before = .error (.misshapen .noApplication) →
      ofEvents (piece ++ after) = ofEvents (other ++ after)) :
    ofEvents (before ++ (piece ++ after)) = ofEvents (before ++ (other ++ after)) := by
  rcases root_append before with ⟨tag, since, found, append⟩ | ⟨missing, append⟩ | ⟨fault, append⟩
  · rw [ofEvents_opened (append _), ofEvents_opened (append _)]
    have walks := Level.alike_replace nested nestedToo after (alike tag since found)
    exact congrArg _ (funext fun name => walks { name })
  · rw [ofEvents_congr (append _), ofEvents_congr (append _)]
    exact unopened missing
  · exact ofEvents_congr ((append _).trans (append _).symm)

/-- An application that has one tag itself is read on behind it, and the close tag of one that has
two says nothing. -/
theorem ofEvents_pair (before after : List Event) (tag : Tag) :
    ofEvents (before ++ .empty tag :: after) =
      ofEvents (before ++ .start tag :: .close tag.name :: after) := by
  refine ofEvents_replace (.alone rfl .nil) (Level.nested_pair tag)
    (fun _ _ _ rest => Level.alike_pair _ tag rest) fun _ => ?_
  by_cases named : tag.name = "application"
  · have found : root (.empty tag :: after) = .ok (tag, after) := if_pos named
    have foundToo : root (.start tag :: .close tag.name :: after) =
        .ok (tag, .close tag.name :: after) :=
      if_pos named
    have closed : Level.application.Alike (.close tag.name :: after) after :=
      Level.alike_close Level.noConfusion tag.name after
    refine (ofEvents_opened found).trans (Eq.trans ?_ (ofEvents_opened foundToo).symm)
    exact congrArg _ (funext fun name => (closed { name }).symm)
  · have skipped : root (.empty tag :: after) = root after := if_neg named
    have skippedToo : root (.start tag :: .close tag.name :: after) = root after := if_neg named
    exact ofEvents_congr (skipped.trans skippedToo.symm)

/-- One tag or two: the element is the same. This holds of every name and at every place, also of
the application itself and where nothing is read. -/
theorem ofEvents_empty (before after : List Event) (tag : Tag) :
    ofEvents (before ++ .empty tag :: after) =
      ofEvents (before ++ .start tag :: .close tag.name :: after) ∧ TagAlone tag :=
  ⟨ofEvents_pair before after tag, tagAlone tag⟩

theorem ofEvents_insert {piece : List Event} (nested : Nested piece)
    (alike : ∀ tag since, root before = .ok (tag, since) →
      ∀ rest, (Level.application.within (opened [] since)).Alike (piece ++ rest) rest)
    (unopened : root before = .error (.misshapen .noApplication) →
      ofEvents (piece ++ after) = ofEvents after) :
    ofEvents (before ++ (piece ++ after)) = ofEvents (before ++ after) :=
  ofEvents_replace nested .nil alike unopened

/-- Inside the application what counts is decided by the innermost element. Behind its end, below
whatever stands around it, the application still counts as the innermost. -/
theorem ofEvents_inserted (before after : List Event) :
    (∀ event : Event, event.idle = true → "documentation" ∉ opened [] before →
      ofEvents (before ++ event :: after) = ofEvents (before ++ after)) ∧
    (∀ application since, root before = .ok (application, since) →
      (∀ tag element, Whole tag element → (∀ fault, .fault fault ∉ element) →
        tag.name ∉ (Level.innermost (opened [] since)).known →
        ofEvents (before ++ (element ++ after)) = ofEvents (before ++ after)) ∧
      ∀ lead depth, before = lead ++ .start application :: since → Inside 0 since depth →
        opened [] before = opened [] since ++ "application" :: opened [] lead) := by
  constructor
  · intro event idle undocumented
    refine ofEvents_insert (.alone (Event.alone_of_idle idle) .nil) (fun tag since found rest => ?_)
      fun _ => ?_
    · obtain ⟨kept, below⟩ := opened_since found
      have absent : "documentation" ∉ opened [] since := fun member =>
        undocumented (below ▸ List.mem_append_left kept member)
      exact Level.alike_idle (Level.within_ne_documentation absent) idle rest
    · exact ofEvents_congr (root_idle idle after)
  · intro application since found
    constructor
    · intro tag element whole sound unknown
      refine ofEvents_insert whole.nested (fun other later foundToo rest => ?_) fun missing => ?_
      · rw [found] at foundToo
        cases foundToo
        exact Level.alike_unknown whole sound
          (fun member => unknown (Level.known_within _ member)) rest
      · rw [found] at missing
        cases missing
    · intro lead depth split inside
      subst split
      exact opened_inside found inside

def wrappedInside : List Event :=
  [.start ⟨"table", []⟩, .start ⟨"application", [⟨"name", "store"⟩]⟩,
    .start ⟨"table", [⟨"name", "Item"⟩]⟩]

def wrappedRest : List Event :=
  [.close "table", .close "application", .close "table"]

def wrappedBehind : List Event :=
  [.start ⟨"table", []⟩, .start ⟨"application", [⟨"name", "store"⟩]⟩, .close "application"]

/-- In a table of the application a text or a group leaves no trace. In the table around it an
enumeration does, although an element of that name does not count in a table. -/
theorem wrapped_inserted :
    ofEvents (wrappedInside ++ .text "x" :: wrappedRest) = ofEvents (wrappedInside ++ wrappedRest) ∧
      ofEvents (wrappedInside ++
        ([Event.start ⟨"group", []⟩, .empty ⟨"field", []⟩, .close "group"] ++ wrappedRest)) =
        ofEvents (wrappedInside ++ wrappedRest) ∧
      opened [] wrappedInside = ["table", "application", "table"] ∧
      (opened [] wrappedBehind).head? = some "table" ∧
        "enumeration" ∉ (Level.ofName "table").known ∧
      ofEvents (wrappedBehind ++ [Event.empty ⟨"enumeration", [⟨"name", "E"⟩]⟩, .close "table"]) ≠
        ofEvents (wrappedBehind ++ [Event.close "table"]) := by
  obtain ⟨idle, opening⟩ := ofEvents_inserted wrappedInside wrappedRest
  obtain ⟨insert, around⟩ := opening _ _ rfl
  have sound : ∀ fault,
      Event.fault fault ∉ [.start ⟨"group", []⟩, .empty ⟨"field", []⟩, .close "group"] := by
    intro fault
    simp
  have group := insert ⟨"group", []⟩ _ (.element (.alone rfl .nil)) sound (by decide)
  refine ⟨idle (.text "x") rfl (by decide), group,
    around [.start ⟨"table", []⟩] 1 rfl (.start _ (.nil 1)), rfl, by decide, ?_⟩
  have added :
      ofEvents (wrappedBehind ++ [Event.empty ⟨"enumeration", [⟨"name", "E"⟩]⟩, .close "table"]) =
      .ok (declareEnumeration { name := "store" } { name := "E" }) :=
        eq_ok_of_toOption (by decide +kernel)
  have plain : ofEvents (wrappedBehind ++ [Event.close "table"]) = .ok { name := "store" } :=
    eq_ok_of_toOption (by decide +kernel)
  rw [added, plain]
  intro same
  cases same

end Application

end TableReaders.Schema
