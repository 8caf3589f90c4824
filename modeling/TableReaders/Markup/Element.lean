import TableReaders.Markup.Event

/-!
Elements in a list of events. What follows a start tag is cut in two: the content of the element, up
to the close tag that ends it, and what comes after that close tag. A list of events is thus read as
a list of items, each a whole element or an event by itself, and a reader of elements never sees the
events of another.
-/

namespace TableReaders.Markup

/-- The events between a start tag and its close tag. An element that the end of the text leaves
open has all the rest for its content and is not closed. -/
structure Content where
  events : List Event
  closed : Bool
  deriving DecidableEq, Repr

def Content.nothing : Content :=
  ⟨[], true⟩

def Content.cons (event : Event) (content : Content) : Content :=
  { content with events := event :: content.events }

/-- The content of the element whose start tag has just been read and the events after its close
tag, where `depth` further elements are open inside it. -/
def takeContent : Nat → List Event → Content × List Event
  | _, [] => (⟨[], false⟩, [])
  | 0, .close _ :: rest => (.nothing, rest)
  | depth + 1, .close name :: rest =>
      let taken := takeContent depth rest
      (taken.1.cons (.close name), taken.2)
  | depth, .start tag :: rest =>
      let taken := takeContent (depth + 1) rest
      (taken.1.cons (.start tag), taken.2)
  | depth, event :: rest =>
      let taken := takeContent depth rest
      (taken.1.cons event, taken.2)

theorem length_takeContent_le (depth : Nat) (events : List Event) :
    (takeContent depth events).2.length ≤ events.length := by
  fun_induction takeContent depth events with
  | case1 => exact Nat.le_refl _
  | case2 name rest => exact Nat.le_succ _
  | case3 depth name rest taken ih => exact Nat.le_succ_of_le ih
  | case4 depth tag rest taken ih => exact Nat.le_succ_of_le ih
  | case5 depth event rest _ _ _ taken ih => exact Nat.le_succ_of_le ih

inductive Item where
  | element (tag : Tag) (content : Content)
  | mark (event : Event)
  deriving DecidableEq, Repr

def items : List Event → List Item
  | [] => []
  | .start tag :: rest =>
      have := length_takeContent_le 0 rest
      .element tag (takeContent 0 rest).1 :: items (takeContent 0 rest).2
  | .empty tag :: rest => .element tag .nothing :: items rest
  | event :: rest => .mark event :: items rest
termination_by events => events.length
decreasing_by all_goals grind

end TableReaders.Markup
