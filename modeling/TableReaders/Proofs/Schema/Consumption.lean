import TableReaders.Proofs.Outcome
import TableReaders.Proofs.Schema.Replacement

/-!
Readers that take their element off a stream of events. Such a reader begins behind the start tag of
the element and goes from one event to the next. It hands the stream over where another element
begins, and it stops at the first close tag that it meets itself, whatever that names: nothing tells
it where its element ends. What it meets is its own close tag, because whoever had the stream in
between took one close tag for each start tag. So each of these readers reads what the content of
its element stands for, and leaves the events behind the element.

A tag that is a whole element by itself is read by an arm of its own, from its attributes alone. It
gives what the two tags of an element with nothing in it give, at every place.
-/

namespace TableReaders.Schema

open Markup

structure Unread (stream : List Event) where
  events : List Event
  suffix : events <:+ stream

namespace Unread

variable {α β : Type} {stream rest : List Event}

def resume (suffix : rest <:+ stream) (taken : Read (α × Unread rest)) :
    Read (α × Unread stream) := do
  let (value, left) ← taken
  return (value, ⟨left.events, left.suffix.trans suffix⟩)

def plain (taken : Read (α × Unread stream)) : Read (α × List Event) := do
  let (value, left) ← taken
  return (value, left.events)

theorem length_lt (left : Unread rest) (event : Event) :
    left.events.length < (event :: rest).length :=
  Nat.lt_succ_of_le left.suffix.length_le

@[simp] theorem plain_resume (suffix : rest <:+ stream) (taken : Read (α × Unread rest)) :
    plain (resume suffix taken) = plain taken := by
  cases taken <;> rfl

@[simp] theorem plain_bind (first : Read β) (next : β → Read (α × Unread stream)) :
    plain (first >>= next) = first >>= fun value => plain (next value) := by
  cases first <;> rfl

end Unread

abbrev Consumer (α : Type) : Type :=
  (stream : List Event) → Read (α × Unread stream)

namespace Consumer

variable {α β : Type}

def map (change : α → β) (reader : Consumer α) : Consumer β := fun stream => do
  let (value, left) ← reader stream
  return (change value, left)

def run (reader : Consumer α) (stream : List Event) : Read (α × List Event) :=
  Unread.plain (reader stream)

end Consumer

namespace Consume

def skipFrom : Nat → Consumer Unit
  | _, [] => .ok ((), ⟨[], List.suffix_refl []⟩)
  | 0, .close _ :: rest => .ok ((), ⟨rest, List.suffix_cons _ rest⟩)
  | depth + 1, .close _ :: rest => Unread.resume (List.suffix_cons _ rest) (skipFrom depth rest)
  | depth, .start _ :: rest => Unread.resume (List.suffix_cons _ rest) (skipFrom (depth + 1) rest)
  | depth, event :: rest => do
      Read.pass event
      Unread.resume (List.suffix_cons event rest) (skipFrom depth rest)

def skip : Consumer Unit :=
  skipFrom 0

/-- Reads an element: `onStart` has the stream where another element begins, `onEmpty` sees a tag
that is a whole element, `onMark` any other event, and `onEnd` decides if the stream ends before a
close tag. -/
def loop {σ : Type} (onStart : σ → Tag → Consumer σ) (onEmpty : σ → Tag → Read σ)
    (onMark : σ → Event → Read σ) (onEnd : σ → Read σ) : σ → Consumer σ
  | state, [] => do return (← onEnd state, ⟨[], List.suffix_refl []⟩)
  | state, .close _ :: rest => .ok (state, ⟨rest, List.suffix_cons _ rest⟩)
  | state, .start tag :: rest => do
      let (next, left) ← onStart state tag rest
      Unread.resume (left.suffix.trans (List.suffix_cons _ rest))
        (loop onStart onEmpty onMark onEnd next left.events)
  | state, .empty tag :: rest => do
      let next ← onEmpty state tag
      Unread.resume (List.suffix_cons _ rest) (loop onStart onEmpty onMark onEnd next rest)
  | state, event :: rest => do
      let next ← onMark state event
      Unread.resume (List.suffix_cons event rest) (loop onStart onEmpty onMark onEnd next rest)
termination_by _ stream => stream.length
decreasing_by
  · exact left.length_lt _
  all_goals exact Nat.lt_succ_self _

def mark {σ : Type} (state : σ) (event : Event) : Read σ := do
  Read.pass event
  return state

def body : Consumer (List Char) :=
  loop (fun text _ => skip.map fun _ => text) (fun text _ => .ok text)
    (fun text event => (text ++ ·) <$> Read.characterData (.mark event)) .ok []

def documentationTag (tag : Tag) : Read Documentation := do
  let given ← Read.values tag ["short", "long"]
  return .ofTexts (given.lookup "short") (given.lookup "long")

def documentation (tag : Tag) : Consumer Documentation := fun stream => do
  let attributes ← documentationTag tag
  body.map (fun text => .ofTexts attributes.short
    (attributes.long.or (String.ofList (Text.flushLeft text)))) stream

def fieldPart (field : Field) (tag : Tag) : Consumer Field :=
  if tag.name = "documentation" then
    (documentation tag).map fun given => { field with documentation := some given }
  else skip.map fun _ => field

def fieldEmpty (field : Field) (tag : Tag) : Read Field :=
  if tag.name = "documentation" then do
    return { field with documentation := some (← documentationTag tag) }
  else .ok field

def field (tag : Tag) : Consumer Field := fun stream => do
  loop fieldPart fieldEmpty mark .ok (← Read.fieldTag tag) stream

def tablePart (table : Table) (tag : Tag) : Consumer Table :=
  if tag.name = "field" then (field tag).map table.extend
  else if tag.name = "documentation" then
    (documentation tag).map fun given => { table with documentation := some given }
  else skip.map fun _ => table

def tableEmpty (table : Table) (tag : Tag) : Read Table :=
  if tag.name = "field" then do
    return table.extend (← Read.fieldTag tag)
  else if tag.name = "documentation" then do
    return { table with documentation := some (← documentationTag tag) }
  else .ok table

def table (application : String) (tag : Tag) : Consumer Table := fun stream => do
  loop tablePart tableEmpty mark (fun table => .error (.misshapen (.tableOpen table.name)))
    { name := ← Read.required tag "name", application } stream

def groupPart (group : Group) (tag : Tag) : Consumer Group :=
  if tag.name = "item" then fun stream => do
    let name ← Read.required tag "name"
    skip.map (fun _ => group.extend name) stream
  else if tag.name = "documentation" then
    (documentation tag).map fun given => { group with documentation := some given }
  else skip.map fun _ => group

def groupEmpty (group : Group) (tag : Tag) : Read Group :=
  if tag.name = "item" then do
    return group.extend (← Read.required tag "name")
  else if tag.name = "documentation" then do
    return { group with documentation := some (← documentationTag tag) }
  else .ok group

def group (tag : Tag) : Consumer Group := fun stream => do
  loop groupPart groupEmpty mark .ok { name := ← Read.required tag "name" } stream

def enumerationPart (enumeration : Enumeration) (tag : Tag) : Consumer Enumeration :=
  if tag.name = "group" then (group tag).map enumeration.extend
  else if tag.name = "documentation" then
    (documentation tag).map fun given => { enumeration with documentation := some given }
  else skip.map fun _ => enumeration

def enumerationEmpty (enumeration : Enumeration) (tag : Tag) : Read Enumeration :=
  if tag.name = "group" then do
    return enumeration.extend { name := ← Read.required tag "name" }
  else if tag.name = "documentation" then do
    return { enumeration with documentation := some (← documentationTag tag) }
  else .ok enumeration

def enumeration (tag : Tag) : Consumer Enumeration := fun stream => do
  loop enumerationPart enumerationEmpty mark .ok { name := ← Read.required tag "name" } stream

def applicationPart (application : Application) (tag : Tag) : Consumer Application :=
  if tag.name = "documentation" then
    (documentation tag).map fun given => { application with documentation := some given }
  else if tag.name = "table" then (table application.name tag).map application.declareTable
  else if tag.name = "enumeration" then (enumeration tag).map application.declareEnumeration
  else if tag.name = "application" then fun _ => .error (.misshapen .severalApplications)
  else skip.map fun _ => application

def applicationEmpty (application : Application) (tag : Tag) : Read Application :=
  if tag.name = "documentation" then do
    return { application with documentation := some (← documentationTag tag) }
  else if tag.name = "table" then do
    let name ← Read.required tag "name"
    return application.declareTable { name, application := application.name }
  else if tag.name = "enumeration" then do
    return application.declareEnumeration { name := ← Read.required tag "name" }
  else if tag.name = "application" then .error (.misshapen .severalApplications)
  else .ok application

def parts : Application → List Event → Read Application
  | application, [] => .ok application
  | application, .start tag :: rest => do
      let (next, left) ← applicationPart application tag rest
      parts next left.events
  | application, .empty tag :: rest => do
      let next ← applicationEmpty application tag
      parts next rest
  | application, event :: rest => do
      let next ← mark application event
      parts next rest
termination_by _ stream => stream.length
decreasing_by
  · exact left.length_lt _
  all_goals exact Nat.lt_succ_self _

def application (stream : List Event) : Read Application := do
  let (tag, rest) ← Read.root stream
  parts { name := ← Read.required tag "name" } rest

end Consume

namespace Consumer

variable {α β : Type} {reader : Consumer α} {read : Content → Read α}

/-- The reader reads the content of its element and leaves the events behind the element. -/
def Takes (reader : Consumer α) (read : Content → Read α) : Prop :=
  ∀ stream, reader.run stream = (·, (takeContent 0 stream).2) <$> read (takeContent 0 stream).1

theorem Takes.outcome (takes : reader.Takes read) (stream : List Event) :
    (∃ cause, reader stream = .error cause ∧ read (takeContent 0 stream).1 = .error cause) ∨
      ∃ value left, reader stream = .ok (value, left) ∧ read (takeContent 0 stream).1 = .ok value ∧
        left.events = (takeContent 0 stream).2 := by
  have same := takes stream
  rw [run] at same
  cases given : read (takeContent 0 stream).1 with
  | error cause =>
      rw [given] at same
      cases taken : reader stream with
      | error other =>
          rw [taken] at same
          cases same
          exact .inl ⟨cause, rfl, rfl⟩
      | ok pair =>
          rw [taken] at same
          cases same
  | ok value =>
      rw [given] at same
      obtain ⟨⟨other, left⟩, taken, equal⟩ := bind_eq_ok.mp same
      obtain ⟨rfl, behind⟩ := Prod.mk.inj (Except.ok.inj equal)
      exact .inr ⟨other, left, taken, rfl, behind⟩

theorem Takes.map (takes : reader.Takes read) (change : α → β) :
    (reader.map change).Takes fun content => do return change (← read content) := by
  intro stream
  rcases takes.outcome stream with ⟨cause, failed, given⟩ | ⟨value, left, taken, given, behind⟩
  · simp only [run, Consumer.map, failed, given]
    rfl
  · simp only [run, Consumer.map, taken, given, ← behind]
    rfl

theorem Takes.congr {other : Content → Read α} (takes : reader.Takes read)
    (same : ∀ content, read content = other content) : reader.Takes other :=
  funext same ▸ takes

theorem Takes.run_closed (takes : reader.Takes read) {content : List Event}
    (nested : Nested content) (name : String) (rest : List Event) :
    reader.run (content ++ .close name :: rest) = (·, rest) <$> read ⟨content, true⟩ := by
  rw [takes, takeContent_closed (nested.inside 0)]

/-- Inside an element pieces that are read alike there may stand in for each other: what is left
behind the element is the same. -/
theorem Takes.run_replace {level : Level} (takes : reader.Takes read)
    (reads : ∀ {content other : Content}, level.Alike content.events other.events →
      content.closed = other.closed → read content = read other)
    {before piece other : List Event} {depth : Nat} (inside : Inside 0 before depth)
    (nested : Nested piece) (nestedToo : Nested other)
    (alike : ∀ rest, (level.within (opened [] before)).Alike (piece ++ rest) (other ++ rest))
    (after : List Event) :
    reader.run (before ++ (piece ++ after)) = reader.run (before ++ (other ++ after)) := by
  have taken : ∀ {part : List Event}, Nested part → takeContent 0 (before ++ (part ++ after)) =
      (((takeContent depth after).1.prepend part).prepend before, (takeContent depth after).2) := by
    intro part whole
    rw [inside.takeContent_append, (whole.inside depth).takeContent_append]
  have content := Level.alike_replace nested nestedToo (takeContent depth after).1.events alike
  have same : read (((takeContent depth after).1.prepend piece).prepend before) =
      read (((takeContent depth after).1.prepend other).prepend before) := reads content rfl
  rw [takes, takes, taken nested, taken nestedToo]
  exact congrArg _ same

theorem Takes.run_pair {level : Level} (takes : reader.Takes read)
    (reads : ∀ {content other : Content}, level.Alike content.events other.events →
      content.closed = other.closed → read content = read other)
    {before : List Event} {depth : Nat} (inside : Inside 0 before depth) (tag : Tag)
    (after : List Event) :
    reader.run (before ++ .empty tag :: after) =
      reader.run (before ++ .start tag :: .close tag.name :: after) :=
  takes.run_replace reads inside (.alone rfl .nil) (Level.nested_pair tag)
    (fun rest => Level.alike_pair _ tag rest) after

/-- What the start tag says is read before any of the events behind it. -/
theorem takes_bind {first : Read α} {next : α → Consumer β} {inner : α → Content → Read β}
    (takes : ∀ value, (next value).Takes (inner value)) :
    Takes (fun stream => first >>= fun value => next value stream) fun content =>
      first >>= fun value => inner value content := by
  intro stream
  cases first with
  | error cause => rfl
  | ok value => exact takes value stream

theorem takes_error (cause : ReadError) :
    Takes (fun _ => .error cause : Consumer α) fun _ => .error cause :=
  fun _ => rfl

theorem takes_ite {condition : Prop} [Decidable condition] {other : Consumer α}
    {others : Content → Read α} (here : reader.Takes read) (there : other.Takes others) :
    Takes (if condition then reader else other) fun content =>
      if condition then read content else others content := by
  by_cases holds : condition
  · simpa only [holds, if_true] using here
  · simpa only [holds, if_false] using there

end Consumer

namespace Consume

open Consumer

theorem run_skipFrom (depth : Nat) (stream : List Event) :
    (skipFrom depth).run stream =
      (·, (takeContent depth stream).2) <$> Read.skip (takeContent depth stream).1 := by
  fun_induction takeContent depth stream with
  | case1 depth =>
      rw [run, skipFrom]
      rfl
  | case2 name rest => rfl
  | case3 depth name rest taken ih =>
      rw [run, skipFrom, Unread.plain_resume]
      exact ih
  | case4 depth tag rest taken ih =>
      rw [run, skipFrom, Unread.plain_resume]
      exact ih
  | case5 depth event rest notEnd notClose notStart taken ih =>
      rw [run, skipFrom, Unread.plain_bind]
      · simp only [Unread.plain_resume]
        change (Read.pass event >>= fun _ => (skipFrom depth).run rest) = _
        rw [ih]
        cases event <;> rfl
      · exact notStart
      · exact notEnd
      · exact notClose

theorem skip_takes : skip.Takes Read.skip :=
  run_skipFrom 0

section Loops

variable {σ : Type} {onStart : σ → Tag → Consumer σ} {onEmpty : σ → Tag → Read σ}
  {onMark : σ → Event → Read σ} {onItem : σ → Item → Read σ} {onEnd : σ → Read σ}

def ofItems (onItem : σ → Item → Read σ) (onEnd : σ → Read σ) (state : σ) (content : Content) :
    Read σ := do
  let last ← (items content.events).foldlM onItem state
  if content.closed then return last else onEnd last

theorem ofItems_nil (state : σ) (closed : Bool) :
    ofItems onItem onEnd state ⟨[], closed⟩ = if closed then .ok state else onEnd state := by
  rw [ofItems, items]
  rfl

theorem ofItems_cons {item : Item} {events rest : List Event}
    (first : items events = item :: items rest) (state : σ) (closed : Bool) :
    ofItems onItem onEnd state ⟨events, closed⟩ =
      onItem state item >>= fun next => ofItems onItem onEnd next ⟨rest, closed⟩ := by
  simp only [ofItems, first, List.foldlM_cons]
  cases onItem state item <;> rfl

structure Arms (onStart : σ → Tag → Consumer σ) (onEmpty : σ → Tag → Read σ)
    (onMark : σ → Event → Read σ) (onItem : σ → Item → Read σ) : Prop where
  starts : ∀ state tag, (onStart state tag).Takes fun content => onItem state (.element tag content)
  empties : ∀ state tag, onEmpty state tag = onItem state (.element tag .nothing)
  marks : ∀ state event, onMark state event = onItem state (.mark event)

theorem ofItems_single {event : Event} (single : event.alone = true) {taken : Read σ} {state : σ}
    (same : taken = onItem state event.item) {stream : List Event}
    {behind : σ → Read (σ × Unread (event :: stream))}
    (later : ∀ next, Unread.plain (behind next) =
      (·, (takeContent 0 stream).2) <$> ofItems onItem onEnd next (takeContent 0 stream).1) :
    Unread.plain (taken >>= behind) =
      (·, (takeContent 0 (event :: stream)).2) <$>
        ofItems onItem onEnd state (takeContent 0 (event :: stream)).1 := by
  have notStart : ∀ tag, event ≠ .start tag := by
    rintro tag rfl
    cases single
  have first := items_single notStart (takeContent 0 stream).1.events
  rw [Unread.plain_bind, takeContent_alone single, Content.cons, ofItems_cons first, same]
  cases onItem state event.item with
  | error cause => rfl
  | ok next => exact later next

/-- A loop whose arms read what stands for one item reads the items of its element. -/
theorem loop_takes (arms : Arms onStart onEmpty onMark onItem) (state : σ) :
    (loop onStart onEmpty onMark onEnd state).Takes (ofItems onItem onEnd state) := by
  intro stream
  -- From each event to where the reader goes on: behind the event, or behind the element that
  -- begins with it.
  fun_induction loop onStart onEmpty onMark onEnd state stream with
  | case1 state =>
      rw [run, loop, Unread.plain_bind, takeContent, ofItems_nil]
      rfl
  | case2 state name rest =>
      rw [run, loop, takeContent, Content.nothing, ofItems_nil]
      rfl
  | case3 state tag rest ih =>
      obtain ⟨events, taken, first⟩ := takeContent_start tag rest
      rw [run, loop, Unread.plain_bind, taken, ofItems_cons first]
      rcases (arms.starts state tag).outcome rest with
        ⟨cause, failed, given⟩ | ⟨next, left, done, given, behind⟩
      · rw [failed, given]
        rfl
      · rw [done, given, ← behind]
        exact (Unread.plain_resume _ _).trans (ih next left)
  | case4 state tag rest ih =>
      rw [run, loop]
      exact ofItems_single rfl (arms.empties state tag) fun next =>
        (Unread.plain_resume _ _).trans (ih next)
  | case5 state event rest notClose notStart notEmpty ih =>
      have single : event.alone = true := by
        cases event with
        | start tag => exact absurd rfl (notStart tag)
        | close name => exact absurd rfl (notClose name)
        | _ => rfl
      have same : onMark state event = onItem state event.item := by
        rw [arms.marks, Event.item_mark notEmpty]
      rw [run, loop]
      · exact ofItems_single single same fun next => (Unread.plain_resume _ _).trans (ih next)
      · exact notClose
      · exact notStart
      · exact notEmpty

/-- Where the end of the stream is as good as a close tag only the items count. -/
theorem ofItems_lenient (state : σ) (content : Content) :
    ofItems onItem .ok state content = (items content.events).foldlM onItem state := by
  rw [ofItems]
  cases (items content.events).foldlM onItem state with
  | error cause => rfl
  | ok last => exact ite_self _

end Loops

/-- An element adds no character data, but what is in it must be in order. -/
theorem body_arms :
    Arms (fun text _ => skip.map fun _ => text) (fun text _ => .ok text)
      (fun text event => (text ++ ·) <$> Read.characterData (.mark event)) Level.gather where
  starts text tag := by
    refine (skip_takes.map fun _ => text).congr fun content => ?_
    rw [Level.gather, Read.characterData]
    cases Read.skip content with
    | error cause => rfl
    | ok _ => exact congrArg Except.ok (List.append_nil text).symm
  empties text tag := congrArg Except.ok (List.append_nil text).symm
  marks _ _ := rfl

theorem body_takes : body.Takes Read.body := by
  refine (loop_takes body_arms []).congr fun content => ?_
  rw [ofItems_lenient, Read.body_eq_walk]
  rfl

theorem documentation_takes (tag : Tag) : (documentation tag).Takes (Read.documentation tag) := by
  refine (takes_bind fun _ => body_takes.map _).congr fun content => ?_
  simp only [documentationTag, Read.documentation, bind_assoc, pure_bind]

theorem fieldPart_takes (state : Field) (tag : Tag) :
    (fieldPart state tag).Takes (Read.fieldPart state tag) :=
  takes_ite ((documentation_takes tag).map _) (skip_takes.map _)

theorem fieldEmpty_eq (state : Field) (tag : Tag) :
    fieldEmpty state tag = Read.fieldPart state tag .nothing := by
  refine ite_congr rfl (fun _ => ?_) fun _ => rfl
  rw [Read.documentation_nothing]
  rfl

theorem field_arms : Arms fieldPart fieldEmpty mark (Level.part Read.fieldPart) :=
  ⟨fieldPart_takes, fieldEmpty_eq, fun _ _ => rfl⟩

theorem field_takes (tag : Tag) : (field tag).Takes (Read.field tag) :=
  takes_bind fun start => (loop_takes field_arms start).congr (ofItems_lenient start)

theorem tablePart_takes (state : Table) (tag : Tag) :
    (tablePart state tag).Takes (Read.tablePart state tag) :=
  takes_ite ((field_takes tag).map _)
    (takes_ite ((documentation_takes tag).map _) (skip_takes.map _))

theorem tableEmpty_eq (state : Table) (tag : Tag) :
    tableEmpty state tag = Read.tablePart state tag .nothing := by
  refine ite_congr rfl (fun _ => ?_) fun _ => ite_congr rfl (fun _ => ?_) fun _ => rfl
  · rw [(Read.tagAlone tag).field]
  · rw [Read.documentation_nothing]
    rfl

theorem table_arms : Arms tablePart tableEmpty mark (Level.part Read.tablePart) :=
  ⟨tablePart_takes, tableEmpty_eq, fun _ _ => rfl⟩

theorem table_takes (application : String) (tag : Tag) :
    (table application tag).Takes (Read.table application tag) :=
  takes_bind fun _ => loop_takes table_arms _

theorem groupPart_takes (state : Group) (tag : Tag) :
    (groupPart state tag).Takes (Read.groupPart state tag) :=
  takes_ite (takes_bind fun _ => skip_takes.map _)
    (takes_ite ((documentation_takes tag).map _) (skip_takes.map _))

theorem groupEmpty_eq (state : Group) (tag : Tag) :
    groupEmpty state tag = Read.groupPart state tag .nothing := by
  refine ite_congr rfl (fun _ => rfl) fun _ => ite_congr rfl (fun _ => ?_) fun _ => rfl
  rw [Read.documentation_nothing]
  rfl

theorem group_arms : Arms groupPart groupEmpty mark (Level.part Read.groupPart) :=
  ⟨groupPart_takes, groupEmpty_eq, fun _ _ => rfl⟩

theorem group_takes (tag : Tag) : (group tag).Takes (Read.group tag) :=
  takes_bind fun _ => (loop_takes group_arms _).congr (ofItems_lenient _)

theorem enumerationPart_takes (state : Enumeration) (tag : Tag) :
    (enumerationPart state tag).Takes (Read.enumerationPart state tag) :=
  takes_ite ((group_takes tag).map _)
    (takes_ite ((documentation_takes tag).map _) (skip_takes.map _))

theorem enumerationEmpty_eq (state : Enumeration) (tag : Tag) :
    enumerationEmpty state tag = Read.enumerationPart state tag .nothing := by
  refine ite_congr rfl (fun _ => ?_) fun _ => ite_congr rfl (fun _ => ?_) fun _ => rfl
  · rw [(Read.tagAlone tag).group]
    simp only [bind_assoc, pure_bind]
  · rw [Read.documentation_nothing]
    rfl

theorem enumeration_arms :
    Arms enumerationPart enumerationEmpty mark (Level.part Read.enumerationPart) :=
  ⟨enumerationPart_takes, enumerationEmpty_eq, fun _ _ => rfl⟩

theorem enumeration_takes (tag : Tag) : (enumeration tag).Takes (Read.enumeration tag) :=
  takes_bind fun _ => (loop_takes enumeration_arms _).congr (ofItems_lenient _)

theorem applicationPart_takes (state : Application) (tag : Tag) :
    (applicationPart state tag).Takes (Read.applicationPart state tag) :=
  takes_ite ((documentation_takes tag).map _) <| takes_ite ((table_takes state.name tag).map _) <|
    takes_ite ((enumeration_takes tag).map _) <| takes_ite (takes_error _) (skip_takes.map _)

theorem applicationEmpty_eq (state : Application) (tag : Tag) :
    applicationEmpty state tag = Read.applicationPart state tag .nothing := by
  refine ite_congr rfl (fun _ => ?_) fun _ => ite_congr rfl (fun _ => ?_) fun _ =>
    ite_congr rfl (fun _ => ?_) fun _ => rfl
  · rw [Read.documentation_nothing]
    rfl
  · rw [(Read.tagAlone tag).table]
    simp only [bind_assoc, pure_bind]
  · rw [(Read.tagAlone tag).enumeration]
    simp only [bind_assoc, pure_bind]

theorem parts_eq (state : Application) (stream : List Event) :
    parts state stream = Level.application.walk state stream := by
  fun_induction parts state stream with
  | case1 state => exact (Level.application.walk_nil state).symm
  | case2 state tag rest ih =>
      rw [Level.walk_cons (items_start tag rest)]
      change _ = Read.applicationPart state tag (takeContent 0 rest).1 >>= _
      rcases (applicationPart_takes state tag).outcome rest with
        ⟨cause, failed, given⟩ | ⟨next, left, done, given, behind⟩
      · rw [failed, given]
        rfl
      · rw [done, given, ← behind]
        exact ih next left
  | case3 state tag rest ih =>
      rw [Level.walk_cons (items_single (fun _ => Event.noConfusion) rest), applicationEmpty_eq]
      exact congrArg (_ >>= ·) (funext ih)
  | case4 state event rest notStart notEmpty ih =>
      rw [Level.walk_cons (items_single notStart rest), Event.item_mark notEmpty]
      exact congrArg (_ >>= ·) (funext ih)

theorem application_eq (stream : List Event) :
    application stream = Application.ofEvents stream := by
  simp only [application, parts_eq]
  rfl

/-- Whatever stands behind an element, its reader stops there, and the result is that of the
content. The readers together read what the items of a document do. -/
theorem elements_consumed (content : List Event) (nested : Nested content) (name : String)
    (rest : List Event) :
    (∀ application tag, (table application tag).run (content ++ .close name :: rest) =
      (·, rest) <$> Read.table application tag ⟨content, true⟩) ∧
    (∀ tag, (field tag).run (content ++ .close name :: rest) =
      (·, rest) <$> Read.field tag ⟨content, true⟩) ∧
    (∀ tag, (enumeration tag).run (content ++ .close name :: rest) =
      (·, rest) <$> Read.enumeration tag ⟨content, true⟩) ∧
    (∀ tag, (group tag).run (content ++ .close name :: rest) =
      (·, rest) <$> Read.group tag ⟨content, true⟩) ∧
    (∀ tag, (documentation tag).run (content ++ .close name :: rest) =
      (·, rest) <$> Read.documentation tag ⟨content, true⟩) ∧
    skip.run (content ++ .close name :: rest) = (·, rest) <$> Read.skip ⟨content, true⟩ ∧
    ((∀ fault, .fault fault ∉ content) →
      skip.run (content ++ .close name :: rest) = .ok ((), rest)) ∧
    ∀ events, application events = Application.ofEvents events := by
  have skipped := skip_takes.run_closed nested name rest
  refine ⟨?_, ?_, ?_, ?_, ?_, skipped, ?_, application_eq⟩
  · intro application tag
    exact (table_takes application tag).run_closed nested name rest
  · intro tag
    exact (field_takes tag).run_closed nested name rest
  · intro tag
    exact (enumeration_takes tag).run_closed nested name rest
  · intro tag
    exact (group_takes tag).run_closed nested name rest
  · intro tag
    exact (documentation_takes tag).run_closed nested name rest
  · intro sound
    rw [skipped, Read.skip, Read.forM_pass_sound sound]
    rfl

/-- An element of one tag is read from its attributes, and an element of two tags with nothing
between them as any other. Wherever the tag stands in the content of an element, no reader of the
element sees which of the two it is, and neither does the reader of a document. -/
theorem empty_consumed (before after : List Event) (tag : Tag) :
    (∀ depth, Inside 0 before depth →
      (∀ application owner, (table application owner).run (before ++ .empty tag :: after) =
        (table application owner).run (before ++ .start tag :: .close tag.name :: after)) ∧
      (∀ owner, (field owner).run (before ++ .empty tag :: after) =
        (field owner).run (before ++ .start tag :: .close tag.name :: after)) ∧
      (∀ owner, (enumeration owner).run (before ++ .empty tag :: after) =
        (enumeration owner).run (before ++ .start tag :: .close tag.name :: after)) ∧
      (∀ owner, (group owner).run (before ++ .empty tag :: after) =
        (group owner).run (before ++ .start tag :: .close tag.name :: after)) ∧
      (∀ owner, (documentation owner).run (before ++ .empty tag :: after) =
        (documentation owner).run (before ++ .start tag :: .close tag.name :: after)) ∧
      skip.run (before ++ .empty tag :: after) =
        skip.run (before ++ .start tag :: .close tag.name :: after)) ∧
    application (before ++ .empty tag :: after) =
      application (before ++ .start tag :: .close tag.name :: after) := by
  constructor
  · intro depth inside
    refine ⟨?_, ?_, ?_, ?_, ?_, ?_⟩
    · intro application owner
      exact (table_takes application owner).run_pair Read.table_alike inside tag after
    · intro owner
      exact (field_takes owner).run_pair (fun same _ => Read.field_alike same) inside tag after
    · intro owner
      exact (enumeration_takes owner).run_pair
        (fun same _ => Read.enumeration_alike same) inside tag after
    · intro owner
      exact (group_takes owner).run_pair (fun same _ => Read.group_alike same) inside tag after
    · intro owner
      exact (documentation_takes owner).run_pair
        (fun same _ => Read.documentation_alike same) inside tag after
    · exact skip_takes.run_pair (fun same _ => Read.skip_alike same) inside tag after
  · rw [application_eq, application_eq, Application.ofEvents_pair]

def crowded : List Event :=
  [Event.start ⟨"field", [⟨"name", "Code"⟩, ⟨"type", "String"⟩]⟩, .start ⟨"note", []⟩,
    .start ⟨"field", []⟩,
    .empty ⟨"documentation", []⟩, .close "field", .close "note", .close "field",
    .empty ⟨"field", [⟨"name", "Size"⟩, ⟨"type", "String"⟩]⟩]

def neighbours : List Event :=
  [Event.start ⟨"field", [⟨"name", "Lost"⟩, ⟨"type", "String"⟩]⟩, .close "field",
    .close "application"]

/-- The table has its own two fields, and the third is left with all that follows. -/
theorem crowded_consumed :
    Nested crowded ∧
    (table "store" ⟨"table", [⟨"name", "Item"⟩]⟩).run (crowded ++ .close "table" :: neighbours) =
      .ok ({ name := "Item", application := "store", fields := [.text "Code", .text "Size"] },
        neighbours) ∧
    skip.run (crowded ++ .close "table" :: neighbours) = .ok ((), neighbours) := by
  have nested : Nested crowded :=
    .element _ (.element ⟨"note", []⟩ (.element ⟨"field", []⟩ (.alone rfl .nil) .nil) .nil)
      (.alone rfl .nil)
  have sound : ∀ fault, .fault fault ∉ crowded := by simp [crowded]
  have read : Read.table "store" ⟨"table", [⟨"name", "Item"⟩]⟩ ⟨crowded, true⟩ =
      .ok { name := "Item", application := "store", fields := [.text "Code", .text "Size"] } :=
    eq_ok_of_toOption (by decide +kernel)
  obtain ⟨tables, _, _, _, _, _, skips, _⟩ := elements_consumed crowded nested "table" neighbours
  refine ⟨nested, ?_, skips sound⟩
  rw [tables, read]
  rfl

end Consume

end TableReaders.Schema
