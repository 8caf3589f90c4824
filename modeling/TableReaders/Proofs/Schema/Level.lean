import TableReaders.Proofs.Markup.Opened
import TableReaders.Schema.Document

/-!
Levels of a schema document. All readers of a document walk over items in the same way and differ in
what they hold and in the elements that they know. A level is one such reader. An element that a
level knows is read at a level of its own, and any other is ignored with all that is in it, so the
elements that are open at a place say at which level the place is read. A list of events that is
changed inside an element is read alike if the content of the element is, at the level inside it.
-/

namespace TableReaders.Schema

open Markup Read

inductive Level where
  | application
  | table
  | field
  | enumeration
  | group
  | documentation
  | ignored
  deriving DecidableEq

namespace Level

def known : Level → List String
  | .application => ["application", "documentation", "table", "enumeration"]
  | .table => ["field", "documentation"]
  | .field => ["documentation"]
  | .enumeration => ["group", "documentation"]
  | .group => ["item", "documentation"]
  | .documentation | .ignored => []

/-- The level inside an element that counts. Nothing counts inside an item, and a second application
is refused whatever it holds. -/
def ofName : String → Level
  | "table" => .table
  | "field" => .field
  | "enumeration" => .enumeration
  | "group" => .group
  | "documentation" => .documentation
  | _ => .ignored

def enter (level : Level) (name : String) : Level :=
  if name ∈ level.known then ofName name else .ignored

def within (level : Level) (names : List String) : Level :=
  names.foldr (fun name outer => outer.enter name) level

def innermost : List String → Level
  | [] => .application
  | name :: _ => ofName name

/-- An element is read at its own level or ignored, so what counts in it is at most what counts by
its name. -/
theorem known_within (names : List String) :
    (Level.application.within names).known ⊆ (innermost names).known := by
  cases names with
  | nil => exact List.Subset.refl _
  | cons name outer =>
      change ((Level.application.within outer).enter name).known ⊆ (ofName name).known
      by_cases counts : name ∈ (Level.application.within outer).known
      · rw [enter, if_pos counts]
        exact List.Subset.refl _
      · rw [enter, if_neg counts]
        exact List.nil_subset _

theorem eq_of_ofName {name : String} (inside : ofName name = .documentation) :
    name = "documentation" := by
  unfold ofName at inside
  split at inside <;> simp_all

theorem ofName_ne_application (name : String) : ofName name ≠ .application := by
  unfold ofName
  split <;> exact Level.noConfusion

theorem enter_ne_application (level : Level) (name : String) : level.enter name ≠ .application := by
  by_cases counts : name ∈ level.known
  · rw [enter, if_pos counts]
    exact ofName_ne_application name
  · rw [enter, if_neg counts]
    exact Level.noConfusion

theorem within_ne_documentation {names : List String} (absent : "documentation" ∉ names) :
    Level.application.within names ≠ .documentation := by
  cases names with
  | nil => exact Level.noConfusion
  | cons name outer =>
      change (Level.application.within outer).enter name ≠ .documentation
      intro inside
      by_cases counts : name ∈ (Level.application.within outer).known
      · rw [enter, if_pos counts] at inside
        exact absent (eq_of_ofName inside ▸ List.mem_cons_self)
      · rw [enter, if_neg counts] at inside
        cases inside

abbrev State : Level → Type
  | .application => Application
  | .table => Table
  | .field => Field
  | .enumeration => Enumeration
  | .group => Group
  | .documentation => List Char
  | .ignored => Unit

def part {σ : Type} (onElement : σ → Tag → Content → Read σ) (state : σ) : Item → Read σ
  | .element tag content => onElement state tag content
  | .mark event => do
      pass event
      return state

def gather (text : List Char) (item : Item) : Read (List Char) :=
  (text ++ ·) <$> characterData item

def step : (level : Level) → level.State → Item → Read level.State
  | .application => part applicationPart
  | .table => part tablePart
  | .field => part fieldPart
  | .enumeration => part enumerationPart
  | .group => part groupPart
  | .documentation => gather
  | .ignored => part fun _ _ content => skip content

def walk (level : Level) (state : level.State) (events : List Event) : Read level.State :=
  (items events).foldlM level.step state

/-- The two lists are read alike, whatever has been read before them. -/
def Alike (level : Level) (events others : List Event) : Prop :=
  ∀ state, level.walk state events = level.walk state others

theorem walk_cons {level : Level} {item : Item} {events rest : List Event}
    (first : items events = item :: items rest) (state : level.State) :
    level.walk state events = level.step state item >>= fun next => level.walk next rest := by
  rw [walk, first, List.foldlM_cons]
  rfl

theorem walk_nil (level : Level) (state : level.State) : level.walk state [] = .ok state := by
  rw [walk, items]
  rfl

theorem walk_append {level : Level} {before : List Event} (outside : opened [] before = [])
    (after : List Event) (state : level.State) :
    level.walk state (before ++ after) = level.walk state before >>= fun next =>
      level.walk next after := by
  rw [walk, items_append outside, List.foldlM_append]
  rfl

theorem walk_last {level : Level} {item : Item} {events : List Event}
    (only : items events = item :: items [])
    (state : level.State) : level.walk state events = level.step state item := by
  rw [walk_cons only]
  simp only [walk_nil]
  exact bind_pure _

theorem enter_unknown {level : Level} {name : String} (unknown : name ∉ level.known) :
    level.enter name = .ignored :=
  if_neg unknown

theorem within_append (level : Level) (names : List String) (outermost : String) :
    level.within (names ++ [outermost]) = (level.enter outermost).within names := by
  rw [within, List.foldr_append]
  rfl

end Level

namespace Read

theorem forM_pass_append (events more : List Event) :
    (events ++ more).forM pass = events.forM pass >>= fun _ => more.forM pass := by
  simp only [List.forM_eq_forM, List.forM_append]

theorem pass_idle {event : Event} (idle : event.idle = true) : pass event = .ok () := by
  cases event with
  | fault cause => cases idle
  | _ => rfl

theorem forM_pass_sound {events : List Event} (sound : ∀ fault, .fault fault ∉ events) :
    events.forM pass = .ok () := by
  induction events with
  | nil => rfl
  | cons event rest ih =>
      have later := ih fun fault member => sound fault (List.mem_cons_of_mem event member)
      cases event with
      | fault cause => exact absurd List.mem_cons_self (sound cause)
      | _ => exact later

/-- An element lets through what its content lets through. -/
theorem forM_pass_start (tag : Tag) (rest : List Event) :
    (Event.start tag :: rest).forM pass =
      skip (takeContent 0 rest).1 >>= fun _ => (takeContent 0 rest).2.forM pass := by
  have passed : (Event.start tag :: rest).forM pass = rest.forM pass := rfl
  rw [passed]
  rcases inside_or_closed 0 rest with ⟨after, inside⟩ | ⟨content, name, behind, split, inside⟩
  · rw [takeContent_open inside, skip]
    cases rest.forM pass <;> rfl
  · rw [split, takeContent_closed inside, skip, forM_pass_append]
    rfl

theorem forM_pass_eq_walk (events : List Event) :
    events.forM pass = Level.ignored.walk () events := by
  fun_induction items events with
  | case1 =>
      rw [Level.walk, items]
      rfl
  | case2 tag rest _ ih =>
      rw [Level.walk_cons (items_start tag rest), forM_pass_start, ih]
      rfl
  | case3 tag rest ih =>
      rw [Level.walk_cons (items_single (fun _ => Event.noConfusion) rest)]
      exact ih
  | case4 event rest notStart notEmpty ih =>
      rw [Level.walk_cons (items_single notStart rest)]
      cases event with
      | fault cause => rfl
      | _ => exact ih

/-- Character data is put together piece by piece. -/
theorem foldlM_gather (given : List Item) (text : List Char) :
    given.foldlM Level.gather text =
      (fun pieces => text ++ pieces.flatten) <$> given.mapM characterData := by
  induction given generalizing text with
  | nil => simp
  | cons item rest ih =>
      rw [List.foldlM_cons, List.mapM_cons, Level.gather]
      cases characterData item with
      | error cause => rfl
      | ok piece =>
          change rest.foldlM Level.gather (text ++ piece) = _
          rw [ih]
          cases rest.mapM characterData with
          | error cause => rfl
          | ok pieces => exact congrArg Except.ok (List.append_assoc text piece pieces.flatten)

theorem body_eq_walk (content : Content) :
    body content = Level.documentation.walk [] content.events :=
  (foldlM_gather (items content.events) []).symm

section Contents

variable {content other : Content} {tag : Tag}

theorem skip_alike (alike : Level.ignored.Alike content.events other.events) :
    skip content = skip other := by
  rw [skip, skip, forM_pass_eq_walk, forM_pass_eq_walk]
  exact alike ()

theorem body_alike (alike : Level.documentation.Alike content.events other.events) :
    body content = body other := by
  rw [body_eq_walk, body_eq_walk]
  exact alike []

theorem documentation_alike (alike : Level.documentation.Alike content.events other.events) :
    documentation tag content = documentation tag other := by
  rw [documentation, documentation, body_alike alike]

theorem field_alike (alike : Level.field.Alike content.events other.events) :
    field tag content = field tag other :=
  congrArg (fieldTag tag >>= ·) (funext alike)

theorem group_alike (alike : Level.group.Alike content.events other.events) :
    group tag content = group tag other :=
  congrArg (required tag "name" >>= ·) (funext fun name => alike { name })

theorem enumeration_alike (alike : Level.enumeration.Alike content.events other.events) :
    enumeration tag content = enumeration tag other :=
  congrArg (required tag "name" >>= ·) (funext fun name => alike { name })

/-- Only a table asks whether it was closed. -/
theorem table_alike {application : String} (alike : Level.table.Alike content.events other.events)
    (closed : content.closed = other.closed) :
    table application tag content = table application tag other := by
  have parts : ∀ start, children tablePart start content.events =
      children tablePart start other.events := alike
  simp only [table, parts, closed]

end Contents

section Parts

variable {content other : Content} {tag : Tag}

theorem skipped_alike {level : Level} (unknown : tag.name ∉ level.known)
    (alike : (level.enter tag.name).Alike content.events other.events) :
    skip content = skip other := by
  rw [Level.enter_unknown unknown] at alike
  exact skip_alike alike

theorem fieldPart_alike {state : Field}
    (alike : (Level.field.enter tag.name).Alike content.events other.events) :
    fieldPart state tag content = fieldPart state tag other := by
  refine ite_congr rfl (fun documents => ?_) fun notDocuments => ?_
  · rw [documents] at alike
    rw [documentation_alike alike]
  · rw [skipped_alike (by simp [Level.known, notDocuments]) alike]

theorem tablePart_alike {state : Table}
    (alike : (Level.table.enter tag.name).Alike content.events other.events) :
    tablePart state tag content = tablePart state tag other := by
  refine ite_congr rfl (fun isField => ?_) fun notField =>
    ite_congr rfl (fun documents => ?_) fun notDocuments => ?_
  · rw [isField] at alike
    rw [field_alike alike]
  · rw [documents] at alike
    rw [documentation_alike alike]
  · rw [skipped_alike (by simp [Level.known, notField, notDocuments]) alike]

theorem groupPart_alike {state : Group}
    (alike : (Level.group.enter tag.name).Alike content.events other.events) :
    groupPart state tag content = groupPart state tag other := by
  refine ite_congr rfl (fun isItem => ?_) fun notItem =>
    ite_congr rfl (fun documents => ?_) fun notDocuments => ?_
  · rw [isItem] at alike
    rw [skip_alike alike]
  · rw [documents] at alike
    rw [documentation_alike alike]
  · rw [skipped_alike (by simp [Level.known, notItem, notDocuments]) alike]

theorem enumerationPart_alike {state : Enumeration}
    (alike : (Level.enumeration.enter tag.name).Alike content.events other.events) :
    enumerationPart state tag content = enumerationPart state tag other := by
  refine ite_congr rfl (fun isGroup => ?_) fun notGroup =>
    ite_congr rfl (fun documents => ?_) fun notDocuments => ?_
  · rw [isGroup] at alike
    rw [group_alike alike]
  · rw [documents] at alike
    rw [documentation_alike alike]
  · rw [skipped_alike (by simp [Level.known, notGroup, notDocuments]) alike]

theorem applicationPart_alike {state : Application}
    (alike : (Level.application.enter tag.name).Alike content.events other.events)
    (closed : tag.name = "table" → content.closed = other.closed) :
    applicationPart state tag content = applicationPart state tag other := by
  refine ite_congr rfl (fun documents => ?_) fun notDocuments =>
    ite_congr rfl (fun isTable => ?_) fun notTable =>
    ite_congr rfl (fun isEnumeration => ?_) fun notEnumeration =>
    ite_congr rfl (fun isApplication => rfl) fun notApplication => ?_
  · rw [documents] at alike
    rw [documentation_alike alike]
  · rw [isTable] at alike
    rw [table_alike alike (closed isTable)]
  · rw [isEnumeration] at alike
    rw [enumeration_alike alike]
  · rw [skipped_alike (by simp [Level.known, *]) alike]

end Parts

end Read

namespace Level

/-- An element is read alike if its content is, at the level inside it. -/
theorem step_alike (level : Level) {tag : Tag} {content other : Content}
    (alike : (level.enter tag.name).Alike content.events other.events)
    (closed : level = .application → tag.name = "table" → content.closed = other.closed)
    (state : level.State) :
    level.step state (.element tag content) = level.step state (.element tag other) := by
  cases level with
  | application => exact applicationPart_alike alike (closed rfl)
  | table => exact tablePart_alike alike
  | field => exact fieldPart_alike alike
  | enumeration => exact enumerationPart_alike alike
  | group => exact groupPart_alike alike
  | documentation =>
      have skipped : skip content = skip other := skip_alike alike
      simp only [step, gather, characterData, skipped]
  | ignored => exact skip_alike alike

/-- An element that a level does not know leaves no trace. -/
theorem step_unknown {level : Level} {tag : Tag} (unknown : tag.name ∉ level.known)
    {content : Content} (passes : skip content = .ok ()) (state : level.State) :
    level.step state (.element tag content) = .ok state := by
  cases level with
  | application =>
      have others : tag.name ≠ "application" ∧ tag.name ≠ "documentation" ∧ tag.name ≠ "table" ∧
          tag.name ≠ "enumeration" := by simpa [known] using unknown
      simp only [step, part, applicationPart, others, if_false, passes]
      rfl
  | table =>
      have others : tag.name ≠ "field" ∧ tag.name ≠ "documentation" := by
        simpa [known] using unknown
      simp only [step, part, tablePart, others, if_false, passes]
      rfl
  | field =>
      have others : tag.name ≠ "documentation" := by simpa [known] using unknown
      simp only [step, part, fieldPart, others, if_false, passes]
      rfl
  | enumeration =>
      have others : tag.name ≠ "group" ∧ tag.name ≠ "documentation" := by
        simpa [known] using unknown
      simp only [step, part, enumerationPart, others, if_false, passes]
      rfl
  | group =>
      have others : tag.name ≠ "item" ∧ tag.name ≠ "documentation" := by simpa [known] using unknown
      simp only [step, part, groupPart, others, if_false, passes]
      rfl
  | documentation =>
      simp only [step, gather, characterData, passes]
      exact congrArg Except.ok (List.append_nil state)
  | ignored => exact passes

theorem step_mark {level : Level} (undocumented : level ≠ .documentation) {event : Event}
    (passes : pass event = .ok ()) (state : level.State) :
    level.step state (.mark event) = .ok state := by
  cases level with
  | documentation => exact absurd rfl undocumented
  | _ =>
      simp only [step, part, passes]
      rfl

theorem alike_mark {level : Level} (undocumented : level ≠ .documentation) {event : Event}
    {rest : List Event}
    (first : items (event :: rest) = .mark event :: items rest) (passes : pass event = .ok ()) :
    level.Alike (event :: rest) rest := by
  intro state
  rw [walk_cons first, step_mark undocumented passes]
  rfl

/-- A close tag that belongs to no element of the list says nothing. -/
theorem alike_close {level : Level} (undocumented : level ≠ .documentation) (name : String)
    (rest : List Event) :
    level.Alike (.close name :: rest) rest :=
  alike_mark undocumented (items_close name rest) rfl

end Level

end TableReaders.Schema
