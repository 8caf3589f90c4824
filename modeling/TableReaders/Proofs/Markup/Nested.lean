import TableReaders.Markup.Element

/-!
Properly nested events. Every start tag of such a list has its close tag in the list, after a
content that is properly nested itself. Whatever stands around it, matching lets the list pass as it
is, and an element that is open before the list is still open after it. So the items of such a list
are its elements with their whole contents. The walk that looks for the close tag of an element is
followed for all lists that stay inside an element, whether or not the names of their tags agree.
-/

namespace TableReaders.Markup

def Event.alone : Event → Bool
  | .start _ | .close _ => false
  | _ => true

inductive Nested : List Event → Prop where
  | nil : Nested []
  | alone {event : Event} {rest : List Event} (single : event.alone = true) (later : Nested rest) :
      Nested (event :: rest)
  | element {content rest : List Event} (tag : Tag) (inner : Nested content) (later : Nested rest) :
      Nested (.start tag :: (content ++ .close tag.name :: rest))

section Alone

variable {event : Event} (single : event.alone = true)

include single

theorem matchTags_alone (opened : List String) (rest : List Event) :
    matchTags opened (event :: rest) = event :: matchTags opened rest := by
  cases event with
  | start tag => cases single
  | close name => cases single
  | _ => simp [matchTags]

theorem takeContent_alone (depth : Nat) (rest : List Event) :
    takeContent depth (event :: rest) =
      ((takeContent depth rest).1.cons event, (takeContent depth rest).2) := by
  cases event with
  | start tag => cases single
  | close name => cases single
  | _ => simp [takeContent]

end Alone

section Lists

variable {content before : List Event}

theorem Nested.append (nested : Nested content) (more : Nested before) :
    Nested (content ++ before) := by
  induction nested with
  | nil => exact more
  | alone single _ ih => exact .alone single ih
  | element tag inner _ _ ih =>
      rw [List.cons_append, List.append_assoc, List.cons_append]
      exact .element tag inner ih

/-- Every close tag of the list meets its own start tag, so the names open before it are left
alone. -/
theorem matchTags_nested (nested : Nested content) (opened : List String) (rest : List Event) :
    matchTags opened (content ++ rest) = content ++ matchTags opened rest := by
  induction nested generalizing opened rest with
  | nil => rfl
  | alone single _ ih => rw [List.cons_append, matchTags_alone single, ih, List.cons_append]
  | element tag _ _ inside after =>
      simp only [List.cons_append, List.append_assoc, matchTags]
      rw [inside, matchTags, if_pos rfl, after]

end Lists

/-- The events stay inside an element: where `depth` further elements are open before them, `after`
are open behind them, and none of them closes the element itself. -/
inductive Inside : Nat → List Event → Nat → Prop where
  | nil (depth : Nat) : Inside depth [] depth
  | alone {event : Event} {depth after : Nat} {rest : List Event} (single : event.alone = true)
      (later : Inside depth rest after) : Inside depth (event :: rest) after
  | start {depth after : Nat} {rest : List Event} (tag : Tag)
      (later : Inside (depth + 1) rest after) :
      Inside depth (.start tag :: rest) after
  | close {depth after : Nat} {rest : List Event} (name : String)
      (later : Inside depth rest after) :
      Inside (depth + 1) (.close name :: rest) after

def Content.prepend (before : List Event) (content : Content) : Content :=
  { content with events := before ++ content.events }

section Walks

variable {depth middle after : Nat} {content : List Event}

theorem Inside.append {more : List Event} (inside : Inside depth content middle)
    (later : Inside middle more after) : Inside depth (content ++ more) after := by
  induction inside with
  | nil depth => exact later
  | alone single _ ih => exact .alone single (ih later)
  | start tag _ ih => exact .start tag (ih later)
  | close name _ ih => exact .close name (ih later)

theorem Inside.takeContent_append (inside : Inside depth content after) (more : List Event) :
    takeContent depth (content ++ more) =
      ((takeContent after more).1.prepend content, (takeContent after more).2) := by
  induction inside with
  | nil depth => rfl
  | alone single later ih =>
      rw [List.cons_append, takeContent_alone single, ih]
      rfl
  | start tag later ih =>
      rw [List.cons_append, takeContent, ih]
      rfl
  | close name later ih =>
      rw [List.cons_append, takeContent, ih]
      rfl

theorem takeContent_closed (inside : Inside depth content 0) (name : String) (rest : List Event) :
    takeContent depth (content ++ .close name :: rest) = (⟨content, true⟩, rest) := by
  rw [inside.takeContent_append, takeContent]
  simp [Content.prepend, Content.nothing]

theorem items_closed (inside : Inside 0 content 0) (tag : Tag) (name : String) (rest : List Event) :
    items (.start tag :: (content ++ .close name :: rest)) =
      .element tag ⟨content, true⟩ :: items rest := by
  rw [items, takeContent_closed inside]

/-- However deep the walk stands when the list begins, it stands as deep when the list ends. -/
theorem Nested.inside (nested : Nested content) (depth : Nat) : Inside depth content depth := by
  induction nested generalizing depth with
  | nil => exact .nil depth
  | alone single _ ih => exact .alone single (ih depth)
  | element tag _ _ inner later =>
      exact .start tag ((inner (depth + 1)).append (.close tag.name (later depth)))

end Walks

def Event.idle : Event → Bool
  | .start _ | .empty _ | .close _ | .fault _ => false
  | _ => true

theorem Event.alone_of_idle {event : Event} (idle : event.idle = true) : event.alone = true := by
  cases event with
  | start tag => cases idle
  | close name => cases idle
  | _ => rfl

theorem items_idle {event : Event} (idle : event.idle = true) (rest : List Event) :
    items (event :: rest) = .mark event :: items rest := by
  cases event with
  | start tag | empty tag => cases idle
  | _ => simp [items]

/-- The events of one element: a tag that stands for all of it, or two tags and a properly nested
content. -/
inductive Whole (tag : Tag) : List Event → Prop where
  | empty : Whole tag [.empty tag]
  | element {content : List Event} (nested : Nested content) :
      Whole tag (.start tag :: (content ++ [.close tag.name]))

namespace Whole

variable {tag : Tag} {element : List Event}

theorem nested (whole : Whole tag element) : Nested element := by
  cases whole with
  | empty => exact .alone rfl .nil
  | element nested => exact .element tag nested .nil

theorem items_append (whole : Whole tag element) :
    ∃ content : Content, content.events ⊆ element ∧
      ∀ rest, items (element ++ rest) = .element tag content :: items rest := by
  cases whole with
  | empty => exact ⟨.nothing, List.nil_subset _, fun rest => by rw [List.cons_append, items]; rfl⟩
  | @element content nested =>
      refine ⟨⟨content, true⟩, ?_, fun rest => ?_⟩
      · exact List.Subset.trans (List.subset_append_left content _) (List.subset_cons_self _ _)
      · rw [List.cons_append, List.append_assoc]
        exact items_closed (nested.inside 0) tag tag.name rest

end Whole

end TableReaders.Markup
