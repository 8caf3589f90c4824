import TableReaders.Proofs.Markup.Completed
import TableReaders.Proofs.Schema.Replacement

/-!
Documents that break off. A document that ends while elements are open is read as if it closed them
there, with one exception: a table of the application has to be closed.
-/

namespace TableReaders.Schema

open Markup Read

namespace Level

/-- Below the application no reader asks whether an element was closed. -/
theorem alike_completed {level : Level} (below : level ≠ .application) (events : List Event) :
    level.Alike events (completed events) := by
  induction Path.of events generalizing level with
  | here => exact fun _ => rfl
  | @past front rest item whole neutral later ih =>
      rw [completed_past neutral]
      exact alike_past (whole _) (whole _) (ih below)
  | @into rest depth tag inside inner ih =>
      exact alike_into (items_open inside tag) (items_completed inside tag)
        (ih (enter_ne_application level tag.name)) fun top => absurd top below

end Level

namespace Read

/-- The table is read to its end before it is refused. -/
theorem table_completed (application : String) (tag : Tag) (events : List Event) :
    table application tag ⟨events, false⟩ =
      table application tag ⟨completed events, true⟩ >>= fun given =>
        .error (.misshapen (.tableOpen given.name)) := by
  have alike : Level.table.Alike events (completed events) :=
    Level.alike_completed Level.noConfusion events
  have parts : ∀ start, children tablePart start events =
      children tablePart start (completed events) := alike
  simp only [table, parts]
  cases required tag "name" with
  | error cause => rfl
  | ok name =>
      change children tablePart { name, application } (completed events) >>= _ =
        (children tablePart { name, application } (completed events) >>= _) >>= _
      cases children tablePart { name, application } (completed events) with
      | error cause => rfl
      | ok given => rfl

end Read

namespace Application

def lastTable (application : Application) : String :=
  (application.tables.getLast?.map (·.name)).getD ""

theorem lastTable_declareTable (application : Application) (table : Table) :
    (application.declareTable table).lastTable = table.name := by
  simp [lastTable, declareTable]

/-- What becomes of an application at the end of its document, where the elements of the names given
are open. If the outermost of them is a table the document is refused. -/
def atEnd (names : List String) (application : Application) : Read Application :=
  if names.getLast? = some "table" then .error (.misshapen (.tableOpen application.lastTable))
  else .ok application

theorem atEnd_table {names : List String} (broken : names.getLast? = some "table")
    (application : Application) :
    atEnd names application = .error (.misshapen (.tableOpen application.lastTable)) :=
  if_pos broken

theorem atEnd_other {names : List String} (unbroken : names.getLast? ≠ some "table") :
    atEnd names = .ok :=
  funext fun _ => if_neg unbroken

/-- An application is read like the same events with all elements closed, and then asked what it
makes of those that were open. -/
theorem walk_completed (state : Application) (events : List Event) :
    Level.application.walk state events =
      Level.application.walk state (completed events) >>= atEnd (opened [] events) := by
  -- The induction is over the elements of the application. Only the last of them can be open.
  induction Path.of events generalizing state with
  | here =>
      rw [completed, List.nil_append, opened, List.map_nil, Level.walk_nil]
      rfl
  | @past front rest item whole neutral later ih =>
      rw [completed_past neutral, Level.walk_cons (whole _), Level.walk_cons (whole _),
        opened_append, neutral, bind_assoc]
      exact congrArg _ (funext ih)
  | @into rest depth tag inside inner ih =>
      have outermost : (opened [] (.start tag :: rest)).getLast? = some tag.name := by
        rw [opened_into inside, List.getLast?_concat]
      rw [Level.walk_last (items_open inside tag), Level.walk_last (items_completed inside tag)]
      by_cases broken : tag.name = "table"
      · have declares : ∀ content, Level.application.step state (.element tag content) =
            table state.name tag content >>= fun given => .ok (state.declareTable given) := by
          intro content
          simp only [Level.step, Level.part, applicationPart, broken]
          rfl
        rw [declares, declares, table_completed]
        rw [broken] at outermost
        cases table state.name tag ⟨completed rest, true⟩ with
        | error cause => rfl
        | ok given =>
            refine Eq.trans ?_ (atEnd_table outermost (state.declareTable given)).symm
            rw [lastTable_declareTable]
            rfl
      · have alike : (Level.application.enter tag.name).Alike rest (completed rest) :=
          Level.alike_completed (Level.enter_ne_application _ _) rest
        have unbroken : (opened [] (.start tag :: rest)).getLast? ≠ some "table" := by
          rw [outermost]
          exact fun same => broken (Option.some.inj same)
        have stepped : Level.application.step state (.element tag ⟨rest, false⟩) =
            Level.application.step state (.element tag ⟨completed rest, true⟩) :=
          Level.step_alike .application alike (fun _ named => absurd named broken) state
        rw [atEnd_other unbroken, stepped]
        exact (bind_pure _).symm

/-- The elements that are open at the end of a document, as far as they were opened since the
application was. -/
def openedSince (events : List Event) : List String :=
  match root events with
  | .ok (_, since) => opened [] since
  | .error _ => []

theorem walk_closes (names : List String) (state : Application) :
    Level.application.walk state (names.map .close) = .ok state := by
  induction names with
  | nil => exact Level.walk_nil .application state
  | cons name outer ih =>
      have closed : Level.application.Alike (.close name :: outer.map .close) (outer.map .close) :=
        Level.alike_close Level.noConfusion name _
      exact (closed state).trans ih

/-- What was opened before the application is closed behind all that is read. -/
theorem walk_closes_since {events since : List Event} {tag : Tag}
    (found : root events = .ok (tag, since)) (state : Application) :
    Level.application.walk state (since ++ (opened [] events).map .close) =
      Level.application.walk state (completed since) := by
  obtain ⟨kept, below⟩ := opened_since found
  rw [below, List.map_append, ← List.append_assoc]
  change Level.application.walk state (completed since ++ kept.map .close) = _
  rw [Level.walk_append (opened_completed since)]
  simp only [walk_closes]
  exact bind_pure _

theorem root_closes (names : List String) :
    root (names.map .close) = .error (.misshapen .noApplication) := by
  induction names with
  | nil => rfl
  | cons name outer ih => exact ih

theorem ofEvents_completed (events : List Event) :
    ofEvents events = ofEvents (completed events) >>= atEnd (openedSince events) := by
  rcases root_append events with ⟨tag, since, found, append⟩ | ⟨missing, append⟩ | ⟨fault, append⟩
  · have names : openedSince events = opened [] since := by rw [openedSince, found]
    have foundToo : root (completed events) = .ok (tag, since ++ (opened [] events).map .close) :=
      append _
    rw [ofEvents_opened found, ofEvents_opened foundToo, names, bind_assoc]
    refine congrArg _ (funext fun name => ?_)
    rw [walk_completed, walk_closes_since found]
  · have missingToo : root (completed events) = .error (.misshapen .noApplication) :=
      (append _).trans (root_closes _)
    rw [ofEvents, ofEvents, missing, missingToo]
    rfl
  · have faulty : root events = .error (.markup fault) := by simpa using append []
    have faultyToo : root (completed events) = .error (.markup fault) := append _
    rw [ofEvents, ofEvents, faulty, faultyToo]
    rfl

/-- A text that breaks off is read like the same text with a close tag for every element that it
leaves open, unless the outermost of those inside the application is a table. -/
theorem ofDocument_truncated (text : String) :
    Nested (completed (Markup.events text)) ∧
      ofDocument text =
        ofEvents (completed (Markup.events text)) >>= atEnd (openedSince (Markup.events text)) :=
  ⟨nested_completed text, ofEvents_completed (Markup.events text)⟩

def brokenOff : String :=
  "<application name=\x22store\x22><enumeration name=\x22E\x22>" ++
    "<group name=\x22G\x22><item name=\x22I\x22>"

/-- Four elements are open at the end, and the document is read like the whole one. -/
theorem brokenOff_read :
    ∃ application, ofDocument brokenOff = .ok application ∧
      opened [] (Markup.events brokenOff) = ["item", "group", "enumeration", "application"] ∧
      ofDocument brokenOff = ofEvents (completed (Markup.events brokenOff)) := by
  have read : ofDocument brokenOff = .ok (declareEnumeration { name := "store" }
      { name := "E", groups := [{ name := "G", items := ["I"] }] }) :=
        eq_ok_of_toOption (by decide +kernel)
  have names : opened [] (Markup.events brokenOff) =
      ["item", "group", "enumeration", "application"] := by
    decide +kernel
  have since : openedSince (Markup.events brokenOff) = ["item", "group", "enumeration"] := by
    decide +kernel
  obtain ⟨_, same⟩ := ofDocument_truncated brokenOff
  refine ⟨_, read, names, ?_⟩
  rw [same, since, atEnd_other (by decide)]
  exact bind_pure _

end Application

end TableReaders.Schema
