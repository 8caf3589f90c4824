import TableReaders.Proofs.Markup.Opened

/-!
Lists of events that break off. Close tags for all the elements that are open at the end complete
such a list. The first element that was left open then has the same content, completed in the same
way. What a text is cut into is completed to a properly nested list, since every close tag in it was
held against its start tag.
-/

namespace TableReaders.Markup

def completed (events : List Event) : List Event :=
  events ++ (opened [] events).map .close

theorem completed_past {front : List Event} (level : opened [] front = []) (rest : List Event) :
    completed (front ++ rest) = front ++ completed rest := by
  rw [completed, opened_append, level, List.append_assoc]
  rfl

theorem opened_closes (names : List String) : opened names (names.map .close) = [] := by
  induction names with
  | nil => rfl
  | cons name outer ih => exact ih

theorem opened_completed (events : List Event) : opened [] (completed events) = [] := by
  rw [completed, opened_append, opened_closes]

theorem inside_closes (names : List String) : Inside names.length (names.map .close) 0 := by
  induction names with
  | nil => exact .nil 0
  | cons name outer ih => exact .close name ih

section Truncated

variable {content : List Event} {depth : Nat} (inside : Inside 0 content depth) (tag : Tag)

include inside

theorem items_open : items (.start tag :: content) = .element tag ⟨content, false⟩ :: items [] := by
  simp only [items, takeContent_open inside]

theorem inside_completed : Inside 0 (completed content) 0 := by
  have closes := inside_closes (opened [] content)
  rw [inside.length_opened [] rfl] at closes
  exact inside.append closes

theorem items_completed :
    items (completed (.start tag :: content)) =
      .element tag ⟨completed content, true⟩ :: items [] := by
  have closed : completed (.start tag :: content) =
      .start tag :: (completed content ++ [.close tag.name]) := by
    simp [completed, opened_into inside]
  rw [closed, items_closed (inside_completed inside)]

end Truncated

/-- The events close the elements of the names given, one after another, and are otherwise properly
nested. -/
def NestedIn : List String → List Event → Prop
  | [], events => Nested events
  | name :: outer, events =>
      ∃ content rest, events = content ++ .close name :: rest ∧ Nested content ∧ NestedIn outer rest

theorem NestedIn.prepend {names : List String} {front rest : List Event} (nested : Nested front)
    (later : NestedIn names rest) : NestedIn names (front ++ rest) := by
  cases names with
  | nil => exact nested.append later
  | cons name outer =>
      obtain ⟨content, behind, split, inner, outside⟩ := later
      exact ⟨front ++ content, behind, by rw [split, List.append_assoc], nested.append inner,
        outside⟩

theorem NestedIn.alone {names : List String} {event : Event} {rest : List Event}
    (single : event.alone = true) (later : NestedIn names rest) : NestedIn names (event :: rest) :=
  later.prepend (.alone single .nil)

theorem nestedIn_closes (names : List String) : NestedIn names (names.map .close) := by
  induction names with
  | nil => exact .nil
  | cons name outer ih => exact ⟨[], outer.map .close, rfl, .nil, ih⟩

/-- Completed by the close tags that are missing, the events of a text close the elements around. -/
theorem nestedIn_matchTags (names : List String) (events : List Event) :
    NestedIn names
      (matchTags names events ++ (opened names (matchTags names events)).map .close) := by
  -- The induction is over all names around, because a start tag puts one more element around the
  -- events behind it.
  fun_induction matchTags names events with
  | case1 names => exact nestedIn_closes names
  | case2 names tag rest ih =>
      obtain ⟨content, behind, split, inner, outside⟩ := ih
      have element : Nested (.start tag :: (content ++ [.close tag.name])) :=
        .element tag inner .nil
      rw [List.cons_append, opened, split, List.append_cons, ← List.cons_append]
      exact outside.prepend element
  | case3 name rest => exact .alone rfl .nil
  | case4 name outer rest ih => exact ⟨[], _, rfl, .nil, ih⟩
  | case5 innermost outer name rest differs =>
      exact (nestedIn_closes (innermost :: outer)).alone rfl
  | case6 names event rest notStart unmatched matched ih =>
      cases event with
      | start tag => exact absurd rfl (notStart tag)
      | close name =>
          cases names with
          | nil => exact absurd rfl (unmatched name rfl)
          | cons innermost outer => exact absurd rfl (matched innermost outer name rfl)
      | _ => exact ih.alone rfl

theorem nested_completed (text : String) : Nested (completed (events text)) :=
  nestedIn_matchTags [] (cutEvents (withoutMark text.toList))

end TableReaders.Markup
