import TableReaders.Proofs.Package.Declarations

/-!
Comments read back. Every line of a comment is the indent, the marker and a line of a text, so what
is left when these are taken off are the lines of the texts that the comment shows, all of them and
in order. Blanks at the end of a line are lost, and with them the carriage return of a line end.
-/

namespace TableReaders.Package

open Schema

def shownTexts (name : String) (documentation : Option Documentation) : List String :=
  match documentation.bind (·.short), documentation.bind (·.long) with
  | some short, some long => [Identifier.exported name ++ " " ++ short, long]
  | some only, none | none, some only => [Identifier.exported name ++ " " ++ only]
  | none, none => [Identifier.exported name ++ " ..."]

/-- A line of a comment without its indent, its marker and the blank behind the marker. -/
def unmarked (indent : String) (line : List Char) : List Char :=
  match line.drop (indent.toList.length + 2) with
  | ' ' :: shown => shown
  | shown => shown

section Lines

variable {indent : String} {shown : List Char}

def marked (indent : String) (shown : List Char) : List Char :=
  indent.toList ++ ['/', '/'] ++ if shown = [] then [] else ' ' :: shown

theorem toList_commentLine (indent : String) (line : List Char) :
    (commentLine indent line).toList = marked indent (Text.trimEnd line) ++ ['\n'] := by
  unfold commentLine marked
  split
  next blank => simp [blank]
  next filled =>
    rw [if_neg filled]
    simp

theorem marked_single (margin : SingleLine indent) (single : '\n' ∉ shown) :
    '\n' ∉ marked indent shown := by
  have bare : '\n' ∉ indent.toList := margin
  unfold marked
  split <;> simp [bare, single]

theorem marked_front (indent : String) (shown : List Char) :
    (indent ++ "//").toList <+: marked indent shown :=
  ⟨_, by rw [String.toList_append]; rfl⟩

theorem unmarked_marked (indent : String) (shown : List Char) :
    unmarked indent (marked indent shown) = shown := by
  have front : (indent.toList ++ ['/', '/']).length = indent.toList.length + 2 := List.length_append
  unfold unmarked marked
  rw [← front, List.drop_left]
  cases shown <;> rfl

/-- Lines that a line feed ends are the pieces between line feeds, and an empty piece follows the
last one. -/
theorem splitOn_ended {written : List (List Char)} (single : ∀ line ∈ written, '\n' ∉ line) :
    (written.flatMap (· ++ ['\n'])).splitOn '\n' = written ++ [[]] := by
  induction written with
  | nil => rfl
  | cons line rest ih =>
      rw [List.forall_mem_cons] at single
      rw [List.flatMap_cons, List.append_assoc, List.singleton_append,
        List.splitOn_append_cons_self_of_not_mem single.1, ih single.2]
      rfl

end Lines

section Comments

variable (name : String) (documentation : Option Documentation)

theorem docLines_eq :
    docLines name documentation =
      (shownTexts name documentation).flatMap fun text => Text.lines text.toList := by
  unfold docLines shownTexts
  cases documentation.bind (·.short) <;> cases documentation.bind (·.long) <;> simp

theorem docLines_cut :
    (docLines name documentation).map Text.trimEnd =
      (shownTexts name documentation).flatMap fun text => Text.cutLines text.toList := by
  rw [docLines_eq, List.map_flatMap]
  simp only [Text.map_trimEnd_lines]

theorem docLines_ne_nil : docLines name documentation ≠ [] := by
  -- There is a name at least.
  have first : ∃ text more, shownTexts name documentation = text :: more ∧ text.toList ≠ [] := by
    unfold shownTexts
    cases documentation.bind (·.short) <;> cases documentation.bind (·.long) <;>
      exact ⟨_, _, rfl, by simp⟩
  obtain ⟨text, more, shown, filled⟩ := first
  rw [docLines_eq, shown, List.flatMap_cons]
  exact List.append_ne_nil_of_left_ne_nil (Text.lines_ne_nil filled) _

theorem toList_docComment (indent : String) :
    (docComment name documentation indent).toList =
      (((docLines name documentation).map Text.trimEnd).map (marked indent)).flatMap
        (· ++ ['\n']) := by
  rw [docComment_eq]
  induction docLines name documentation with
  | nil => rfl
  | cons line rest ih =>
      rw [List.map_cons, String.join_cons, String.toList_append, toList_commentLine, ih,
        List.map_cons, List.map_cons, List.flatMap_cons]

/-- Every line of a comment is marked, and behind the marks stand the lines of the texts that it
shows. -/
theorem docComment_shows (indent : String) (margin : SingleLine indent) :
    (docComment name documentation indent).toList.getLast? = some '\n' ∧
    ∃ written : List (List Char),
      (docComment name documentation indent).toList.splitOn '\n' = written ++ [[]] ∧
      (∀ line ∈ written, (indent ++ "//").toList <+: line) ∧
      written.map (unmarked indent) =
        (shownTexts name documentation).flatMap fun text => Text.cutLines text.toList := by
  have whole := toList_docComment name documentation indent
  constructor
  · rw [whole, ← List.dropLast_append_getLast (docLines_ne_nil name documentation)]
    simp
  · refine ⟨((docLines name documentation).map Text.trimEnd).map (marked indent), ?_, ?_, ?_⟩
    · rw [whole]
      apply splitOn_ended
      intro line listed
      obtain ⟨shown, cut, rfl⟩ := List.mem_map.mp listed
      obtain ⟨origin, given, rfl⟩ := List.mem_map.mp cut
      exact marked_single margin fun member =>
        feed_not_mem_docLines given (Text.mem_of_mem_trimEnd member)
    · intro line listed
      obtain ⟨shown, _, rfl⟩ := List.mem_map.mp listed
      exact marked_front indent shown
    · rw [← docLines_cut, List.map_map]
      exact List.map_id'' (unmarked_marked indent) _

def layered : Documentation :=
  .ofTexts (some "is\r\n  kept  ") (some "\nfor\tlater\n")

theorem layered_shown :
    SingleLine "\t" ∧ ∃ written : List (List Char),
      (docComment "item" (some layered) "\t").toList.splitOn '\n' = written ++ [[]] ∧
      (∀ line ∈ written, "\t//".toList <+: line) ∧
      written.map (unmarked "\t") =
        ["Item is".toList, "  kept".toList, [], "for\tlater".toList] := by
  obtain ⟨_, written, pieces, marked, shown⟩ :=
    docComment_shows "item" (some layered) "\t" (by decide)
  refine ⟨by decide, written, pieces, marked, ?_⟩
  rw [shown]
  decide +kernel

end Comments

end TableReaders.Package
