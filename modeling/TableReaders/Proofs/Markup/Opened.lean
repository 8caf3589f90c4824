import TableReaders.Proofs.Markup.Nested

/-!
Which elements are open at a place of a list of events. The list up to that place is taken from its
front: it begins with an item that is whole, whatever follows the place, or with the start tag of an
element that the place is inside of. Statements about a place are inductions over this. Nothing is
asked of the lists: a close tag without a start tag is an item like any other, and an element that
is never closed is open to the end.
-/

namespace TableReaders.Markup

/-- The names of the elements that are open behind a list of events, innermost first, where those of
`outer` are open before it. A close tag ends the innermost element. -/
def opened : List String → List Event → List String
  | outer, [] => outer
  | outer, .start tag :: rest => opened (tag.name :: outer) rest
  | outer, .close _ :: rest => opened outer.tail rest
  | outer, _ :: rest => opened outer rest

theorem opened_append (outer : List String) (events more : List Event) :
    opened outer (events ++ more) = opened (opened outer events) more := by
  fun_induction opened outer events with
  | case1 => rfl
  | case2 outer tag rest ih => exact ih
  | case3 outer name rest ih => exact ih
  | case4 outer event rest notStart notClose ih =>
      rw [List.cons_append, opened]
      · exact ih
      · exact notStart
      · exact notClose

/-- What was open before lies below what has been opened since, as far as it has not been closed. -/
theorem opened_above (inner outer : List String) (events : List Event) :
    ∃ kept, opened (inner ++ outer) events = opened inner events ++ kept := by
  induction events generalizing inner outer with
  | nil => exact ⟨outer, rfl⟩
  | cons event rest ih =>
      cases event with
      | start tag => exact ih (tag.name :: inner) outer
      | close name =>
          cases inner with
          | nil => exact ih [] outer.tail
          | cons innermost inner => exact ih inner outer
      | _ => exact ih inner outer

theorem opened_alone {event : Event} (single : event.alone = true) (outer : List String)
    (rest : List Event) :
    opened outer (event :: rest) = opened outer rest := by
  cases event with
  | start tag => cases single
  | close name => cases single
  | _ => rfl

namespace Inside

variable {depth after : Nat} {events : List Event}

theorem length_opened (inside : Inside depth events after) (inner : List String)
    (deep : inner.length = depth) : (opened inner events).length = after := by
  induction inside generalizing inner with
  | nil depth => exact deep
  | alone single later ih =>
      rw [opened_alone single]
      exact ih inner deep
  | start tag later ih => exact ih (tag.name :: inner) (congrArg Nat.succ deep)
  | close name later ih => exact ih inner.tail (by rw [List.length_tail, deep, Nat.add_sub_cancel])

/-- The elements around stay open, so they lie below. -/
theorem opened_below (inside : Inside depth events after) (inner outer : List String)
    (deep : inner.length = depth) :
    opened (inner ++ outer) events = opened inner events ++ outer := by
  induction inside generalizing inner with
  | nil depth => rfl
  | alone single later ih =>
      rw [opened_alone single, opened_alone single]
      exact ih inner deep
  | start tag later ih => exact ih (tag.name :: inner) (congrArg Nat.succ deep)
  | close name later ih =>
      obtain ⟨innermost, others, same⟩ := List.exists_cons_of_length_eq_add_one deep
      subst same
      exact ih others (Nat.succ.inj deep)

theorem deeper (inside : Inside depth events after) : Inside (depth + 1) events (after + 1) := by
  induction inside with
  | nil depth => exact .nil (depth + 1)
  | alone single _ ih => exact .alone single ih
  | start tag _ ih => exact .start tag ih
  | close name _ ih => exact .close name ih

end Inside

/-- Either the element is closed in the list, or the list stays inside it. -/
theorem inside_or_closed (depth : Nat) (events : List Event) :
    (∃ after, Inside depth events after) ∨
      ∃ content name rest, events = content ++ .close name :: rest ∧ Inside depth content 0 := by
  induction events generalizing depth with
  | nil => exact .inl ⟨depth, .nil depth⟩
  | cons event rest ih =>
      cases event with
      | start tag =>
          rcases ih (depth + 1) with ⟨after, inside⟩ | ⟨content, name, behind, split, inside⟩
          · exact .inl ⟨after, .start tag inside⟩
          · exact .inr ⟨_, name, behind, congrArg _ split, .start tag inside⟩
      | close found =>
          cases depth with
          | zero => exact .inr ⟨[], found, rest, rfl, .nil 0⟩
          | succ depth =>
              rcases ih depth with ⟨after, inside⟩ | ⟨content, name, behind, split, inside⟩
              · exact .inl ⟨after, .close found inside⟩
              · exact .inr ⟨_, name, behind, congrArg _ split, .close found inside⟩
      | _ =>
          rcases ih depth with ⟨after, inside⟩ | ⟨content, name, behind, split, inside⟩
          · exact .inl ⟨after, .alone rfl inside⟩
          · exact .inr ⟨_, name, behind, congrArg _ split, .alone rfl inside⟩

section Elements

variable {content : List Event}

theorem opened_closed (inside : Inside 0 content 0) (outer : List String) :
    opened outer content = outer := by
  have level : opened [] content = [] := List.length_eq_zero_iff.mp (inside.length_opened [] rfl)
  have below := inside.opened_below [] outer rfl
  rw [level] at below
  exact below

theorem opened_into {depth : Nat} (inside : Inside 0 content depth) (tag : Tag) :
    opened [] (.start tag :: content) = opened [] content ++ [tag.name] :=
  inside.opened_below [] [tag.name] rfl

theorem items_into {depth : Nat} (inside : Inside 0 content depth) (tag : Tag) (more : List Event) :
    items (.start tag :: content ++ more) =
      .element tag ((takeContent depth more).1.prepend content) ::
        items (takeContent depth more).2 := by
  rw [List.cons_append, items, inside.takeContent_append]

theorem takeContent_open {depth : Nat} (inside : Inside 0 content depth) :
    takeContent 0 content = (⟨content, false⟩, []) := by
  have taken := inside.takeContent_append []
  rw [List.append_nil, takeContent] at taken
  simpa [Content.prepend] using taken

/-- An element at the front of a content is taken first, and then the rest of the content. -/
theorem takeContent_start (tag : Tag) (rest : List Event) :
    ∃ events,
      takeContent 0 (.start tag :: rest) =
        (⟨events, (takeContent 0 (takeContent 0 rest).2).1.closed⟩,
          (takeContent 0 (takeContent 0 rest).2).2) ∧
      items events =
        .element tag (takeContent 0 rest).1 ::
          items (takeContent 0 (takeContent 0 rest).2).1.events := by
  rcases inside_or_closed 0 rest with ⟨after, inside⟩ | ⟨content, name, behind, split, inside⟩
  · have opened : Inside 0 (.start tag :: rest) (after + 1) := .start tag inside.deeper
    refine ⟨.start tag :: rest, ?_, ?_⟩
    · rw [takeContent_open opened, takeContent_open inside, takeContent]
    · rw [items, takeContent_open inside, takeContent]
  · have whole : Inside 0 (.start tag :: (content ++ [.close name])) 0 :=
      .start tag (inside.deeper.append (.close name (.nil 0)))
    subst split
    rw [takeContent_closed inside]
    refine ⟨.start tag :: (content ++ .close name :: (takeContent 0 behind).1.events), ?_,
      items_closed inside ..⟩
    have taken := whole.takeContent_append behind
    simpa [Content.prepend] using taken

end Elements

def Event.item : Event → Item
  | .empty tag => .element tag .nothing
  | event => .mark event

theorem Event.item_mark {event : Event} (full : ∀ tag, event ≠ .empty tag) :
    event.item = .mark event := by
  cases event with
  | empty tag => exact absurd rfl (full tag)
  | _ => rfl

theorem items_single {event : Event} (single : ∀ tag, event ≠ .start tag) (rest : List Event) :
    items (event :: rest) = event.item :: items rest := by
  cases event with
  | start tag => exact absurd rfl (single tag)
  | _ => simp [items, Event.item]

theorem items_start (tag : Tag) (rest : List Event) :
    items (.start tag :: rest) =
      .element tag (takeContent 0 rest).1 :: items (takeContent 0 rest).2 := by
  rw [items]

theorem items_close (name : String) (rest : List Event) :
    items (.close name :: rest) = .mark (.close name) :: items rest :=
  items_single (fun _ => Event.noConfusion) rest

inductive Path : List Event → Prop where
  | here : Path []
  | past {front rest : List Event} (item : Item)
      (whole : ∀ more, items (front ++ more) = item :: items more)
      (level : opened [] front = []) (later : Path rest) : Path (front ++ rest)
  | into {rest : List Event} {after : Nat} (tag : Tag) (inside : Inside 0 rest after)
      (inner : Path rest) : Path (.start tag :: rest)

namespace Path

theorem single {event : Event} {rest : List Event} (single : ∀ tag, event ≠ .start tag)
    (later : Path rest) : Path (event :: rest) := by
  have level : opened [] [event] = [] := by
    cases event with
    | start tag => exact absurd rfl (single tag)
    | _ => rfl
  exact .past event.item (items_single single) level later

theorem element {content rest : List Event} (tag : Tag) (name : String)
    (inside : Inside 0 content 0)
    (later : Path rest) : Path (.start tag :: (content ++ .close name :: rest)) := by
  have level : opened [] (.start tag :: (content ++ [.close name])) = [] := by
    rw [opened, opened_append, opened_closed inside]
    rfl
  have whole : ∀ more, items (.start tag :: (content ++ [.close name]) ++ more) =
      .element tag ⟨content, true⟩ :: items more := by
    intro more
    rw [List.cons_append, List.append_assoc]
    exact items_closed inside tag name more
  have path := Path.past _ whole level later
  rw [List.cons_append, List.append_assoc] at path
  exact path

theorem of (events : List Event) : Path events :=
  match events with
  | [] => .here
  | event :: rest => by
      by_cases starts : ∃ tag, event = .start tag
      · obtain ⟨tag, same⟩ := starts
        subst same
        rcases inside_or_closed 0 rest with ⟨after, inside⟩ | ⟨content, name, behind, split, inside⟩
        · exact .into tag inside (of rest)
        · rw [split]
          exact element tag name inside (of behind)
      · exact single (fun tag same => starts ⟨tag, same⟩) (of rest)
termination_by events.length
decreasing_by all_goals grind

end Path

/-- Where nothing is open the items of what follows begin. -/
theorem items_append {before : List Event} (level : opened [] before = []) (after : List Event) :
    items (before ++ after) = items before ++ items after := by
  induction Path.of before with
  | here => rw [List.nil_append, items, List.nil_append]
  | @past front rest item whole neutral later ih =>
      rw [opened_append, neutral] at level
      rw [List.append_assoc, whole, whole, ih level, List.cons_append]
  | into tag inside inner ih =>
      rw [opened_into inside] at level
      exact absurd level (List.append_ne_nil_of_right_ne_nil _ (List.cons_ne_nil _ _))

end TableReaders.Markup
