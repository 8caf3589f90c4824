import TableReaders.Text.Lines

/-!
The lines of texts put together from pieces. A piece that ends with a line feed keeps its lines
whatever follows it, and no line holds a line feed. This is so whatever is made of a line at its
end: the line end may be taken off or kept. Lines cut at their ends are the pieces between line
feeds, cut alike: a carriage return before a line feed is a blank.
-/

namespace TableReaders.Text

variable {text rest line held : List Char} {c : Char}

section Reading

variable {finish : List Char → List Char}

theorem linesWith_ended (held text rest : List Char) :
    linesWith finish held (text ++ '\n' :: rest) =
      linesWith finish held (text ++ ['\n']) ++ linesWith finish [] rest := by
  induction text generalizing held with
  | nil => simp [linesWith]
  | cons c text ih =>
      by_cases feed : c = '\n'
      · simp only [List.cons_append, linesWith, feed, if_true, ih]
      · simp only [List.cons_append, linesWith, feed, if_false, ih]

theorem linesWith_single (single : '\n' ∉ text) (held rest : List Char) :
    linesWith finish held (text ++ '\n' :: rest) =
      finish (held.reverse ++ text) :: linesWith finish [] rest := by
  induction text generalizing held with
  | nil => simp [linesWith]
  | cons c text ih =>
      have other : c ≠ '\n' := fun feed => single (feed ▸ List.mem_cons_self)
      have later : '\n' ∉ text := fun member => single (List.mem_cons_of_mem c member)
      simp only [List.cons_append, linesWith, other, if_false, ih later, List.reverse_cons,
        List.append_assoc, List.nil_append]

theorem linesWith_last (single : '\n' ∉ line) (held : List Char) :
    linesWith finish held line =
      if held.reverse ++ line = [] then [] else [held.reverse ++ line] := by
  induction line generalizing held with
  | nil => cases held <;> simp [linesWith]
  | cons c rest ih =>
      rw [List.mem_cons, not_or] at single
      rw [linesWith, if_neg (Ne.symm single.1), ih single.2, List.reverse_cons, List.append_assoc]
      rfl

theorem eq_nil_of_linesWith (nothing : linesWith finish held text = []) :
    held = [] ∧ text = [] := by
  induction text generalizing held with
  | nil =>
      cases held with
      | nil => exact ⟨rfl, rfl⟩
      | cons c held => cases nothing
  | cons c text ih =>
      unfold linesWith at nothing
      split at nothing
      · cases nothing
      · cases (ih nothing).1

theorem lines_single (single : '\n' ∉ line) (rest : List Char) :
    lines (line ++ '\n' :: rest) = withoutReturn line :: lines rest :=
  linesWith_single single [] rest

theorem lines_ne_nil (filled : text ≠ []) : lines text ≠ [] :=
  fun nothing => filled (eq_nil_of_linesWith nothing).2

end Reading

theorem mem_of_mem_withoutReturn (member : c ∈ withoutReturn line) : c ∈ line := by
  unfold withoutReturn at member
  split at member
  · exact (List.dropLast_sublist line).subset member
  · exact member

theorem feed_not_mem_linesWith (single : '\n' ∉ held)
    (listed : line ∈ linesWith withoutReturn held text) :
    '\n' ∉ line := by
  induction text generalizing held with
  | nil =>
      unfold linesWith at listed
      split at listed
      · cases listed
      · rw [List.mem_singleton] at listed
        subst listed
        simpa using single
  | cons c text ih =>
      unfold linesWith at listed
      split at listed
      · rcases List.mem_cons.mp listed with same | later
        · subst same
          intro member
          exact single (List.mem_reverse.mp (mem_of_mem_withoutReturn member))
        · exact ih (by simp) later
      · next other =>
        apply ih _ listed
        intro member
        rcases List.mem_cons.mp member with same | earlier
        · exact other same.symm
        · exact single earlier

theorem feed_not_mem_of_mem_lines (listed : line ∈ lines text) : '\n' ∉ line :=
  feed_not_mem_linesWith (by simp) listed

theorem mem_of_mem_trimEnd (member : c ∈ trimEnd text) : c ∈ text := by
  have kept := (List.dropWhile_sublist isBlank).subset (List.mem_reverse.mp member)
  exact List.mem_reverse.mp kept

/-- Something that is left after the blanks at the end are cut off ends with no blank. -/
theorem allBlank_trimEnd (filled : trimEnd text ≠ []) : allBlank (trimEnd text) = false := by
  have last := List.head?_dropWhile_not isBlank text.reverse
  unfold trimEnd trimStart at filled ⊢
  cases kept : text.reverse.dropWhile isBlank with
  | nil => exact absurd (by rw [kept]; rfl) filled
  | cons c rest =>
      rw [kept] at last
      simp only [List.head?_cons] at last
      simp [allBlank, last]

theorem allBlank_trim (filled : trim text ≠ []) : allBlank (trim text) = false :=
  allBlank_trimEnd filled

section Pieces

variable {α : Type} {read : List Char → List α} {first second : String} {entries more : List α}

/-- A piece of text adds entries to what is read off a text, the same ones whatever follows it. -/
def Adds (read : List Char → List α) (piece : String) (entries : List α) : Prop :=
  ∀ rest, read (piece.toList ++ rest) = entries ++ read rest

theorem adds_empty : Adds read "" [] :=
  fun _ => rfl

theorem Adds.append (one : Adds read first entries) (other : Adds read second more) :
    Adds read (first ++ second) (entries ++ more) := by
  intro rest
  rw [String.toList_append, List.append_assoc, one, other, List.append_assoc]

/-- What pieces of text are said to have, each with entries of its own, is had by pieces put
together, with the entries of all. -/
structure Additive (holds : String → List α → Prop) : Prop where
  empty : holds "" []
  append {first second : String} {entries more : List α} (one : holds first entries)
    (other : holds second more) : holds (first ++ second) (entries ++ more)

theorem Additive.join {holds : String → List α → Prop} (additive : Additive holds)
    {pieces : List String}
    (silent : ∀ piece ∈ pieces, holds piece []) : holds (String.join pieces) [] := by
  induction pieces with
  | nil => exact additive.empty
  | cons piece pieces ih =>
      rw [List.forall_mem_cons] at silent
      rw [String.join_cons]
      exact additive.append silent.1 (ih silent.2)

theorem Additive.intercalate {ι : Type} {holds : String → List α → Prop} (additive : Additive holds)
    {separator : String} {gap : List α} (between : holds separator gap) {text : ι → String}
    {entries : ι → List α} {items : List ι}
    (each : ∀ item ∈ items, holds (text item) (entries item)) :
    holds (separator.intercalate (items.map text)) (gap.intercalate (items.map entries)) := by
  induction items with
  | nil => exact additive.empty
  | cons item rest ih =>
      rw [List.forall_mem_cons] at each
      cases rest with
      | nil => simpa using each.1
      | cons next rest =>
          have further := ih each.2
          simp only [List.map_cons, String.intercalate_cons_cons,
            List.intercalate_cons_cons] at further ⊢
          exact additive.append (additive.append each.1 between) further

theorem nil_intercalate (pieces : List (List α)) : [].intercalate pieces = pieces.flatten := by
  induction pieces with
  | nil => rfl
  | cons piece rest ih =>
      cases rest with
      | nil => simp
      | cons next rest =>
          rw [List.intercalate_cons_cons, List.append_nil, ih]
          rfl

theorem additive_adds (read : List Char → List α) : Additive (Adds read) :=
  ⟨adds_empty, Adds.append⟩

/-- What is made of the entries of a piece is added in the same way, if it can be made of them piece
by piece. -/
theorem Adds.change {β : Type} (adds : Adds read first entries) (make : List α → List β)
    (split : ∀ front back, make (front ++ back) = make front ++ make back) :
    Adds (fun text => make (read text)) first (make entries) := by
  intro rest
  simp only [adds rest, split]

theorem toList_feed (piece : String) : (piece ++ "\n").toList = piece.toList ++ ['\n'] :=
  String.toList_append

/-- A piece that ends its last line adds the lines that it has by itself. -/
theorem adds_ended (finish : List Char → List Char) (piece : String) :
    Adds (linesWith finish []) (piece ++ "\n") (linesWith finish [] (piece ++ "\n").toList) := by
  intro rest
  rw [toList_feed, List.append_assoc, List.singleton_append, linesWith_ended]

theorem adds_line (finish : List Char → List Char) {line : String} (single : '\n' ∉ line.toList) :
    Adds (linesWith finish []) (line ++ "\n") [finish line.toList] := by
  intro rest
  rw [toList_feed, List.append_assoc, List.singleton_append, linesWith_single single]
  rfl

theorem Adds.read_eq (adds : Adds read first entries) (nothing : read [] = []) :
    read first.toList = entries := by
  have whole := adds []
  rw [List.append_nil] at whole
  rw [whole, nothing, List.append_nil]

def wholeLines (text : List Char) : List (List Char) :=
  linesWith (· ++ ['\n']) [] text

end Pieces

section Cut

/-- The pieces of a text between its line feeds that are lines. What follows the last line feed is a
line only if there is something. -/
def lineParts (pieces : List (List Char)) : List (List Char) :=
  if pieces.getLast? = some [] then pieces.dropLast else pieces

def cutLines (text : List Char) : List (List Char) :=
  (lineParts (text.splitOn '\n')).map trimEnd

theorem lineParts_cons {pieces : List (List Char)} (more : pieces ≠ []) (piece : List Char) :
    lineParts (piece :: pieces) = piece :: lineParts pieces := by
  obtain ⟨next, others, rfl⟩ := List.exists_cons_of_ne_nil more
  unfold lineParts
  rw [List.getLast?_cons_cons, List.dropLast_cons_cons]
  split <;> rfl

theorem trimEnd_blank (blank : isBlank c = true) (text : List Char) :
    trimEnd (text ++ [c]) = trimEnd text := by
  simp [trimEnd, trimStart, blank]

theorem trimEnd_isPrefix (text : List Char) : trimEnd text <+: text := by
  have kept : text.reverse.dropWhile isBlank <:+ text.reverse := List.dropWhile_suffix isBlank
  rw [← List.reverse_prefix, List.reverse_reverse] at kept
  exact kept

/-- What is cut off the end stops at a character that is no blank. -/
theorem trimEnd_append (solid : isBlank c = false) (front text : List Char) :
    trimEnd (front ++ [c] ++ text) = front ++ [c] ++ trimEnd text := by
  have stopped : (front ++ [c]).reverse.dropWhile isBlank = (front ++ [c]).reverse := by
    simp [solid]
  unfold trimEnd trimStart
  rw [List.reverse_append, List.dropWhile_append, stopped]
  cases blank : text.reverse.dropWhile isBlank with
  | nil => simp
  | cons d rest => simp

/-- The carriage return of a line end is a blank at the end of its line. -/
theorem trimEnd_withoutReturn (line : List Char) : trimEnd (withoutReturn line) = trimEnd line := by
  by_cases ended : line.getLast? = some '\r'
  · obtain ⟨front, rfl⟩ := List.getLast?_eq_some_iff.mp ended
    rw [withoutReturn, if_pos ended, List.dropLast_concat, trimEnd_blank (by decide)]
  · rw [withoutReturn, if_neg ended]

/-- A way to cut lines that makes nothing of what is done at their ends does not see the line
ends. -/
theorem map_linesWith {finish cut : List Char → List Char}
    (same : ∀ line, cut (finish line) = cut line) (held text : List Char) :
    (linesWith finish held text).map cut =
      (lineParts (List.splitOnPPrepend (· == '\n') text held)).map cut := by
  induction text generalizing held with
  | nil => cases held <;> simp [linesWith, lineParts]
  | cons c text ih =>
      by_cases feed : c = '\n'
      · rw [linesWith, if_pos feed, List.map_cons, ih, same,
          List.splitOnPPrepend_cons_pos (by simp [feed]), List.splitOnPPrepend_nil_right,
          lineParts_cons (List.splitOnP_ne_nil _ _), List.map_cons]
      · rw [linesWith, if_neg feed, ih, List.splitOnPPrepend_cons_neg (by simp [feed])]

theorem map_lines {cut : List Char → List Char} (same : ∀ line, cut (withoutReturn line) = cut line)
    (text : List Char) : (lines text).map cut = (lineParts (text.splitOn '\n')).map cut := by
  rw [lines, map_linesWith same, List.splitOnPPrepend_nil_right, List.splitOn_eq_splitOnP]

theorem map_trimEnd_lines (text : List Char) : (lines text).map trimEnd = cutLines text :=
  map_lines trimEnd_withoutReturn text

theorem splitOn_front {front : List Char} (single : '\n' ∉ front) (text : List Char) :
    (front ++ text).splitOn '\n' = (text.splitOn '\n').modifyHead (front ++ ·) := by
  induction front with
  | nil =>
      rw [List.nil_append]
      cases text.splitOn '\n' <;> rfl
  | cons c front ih =>
      rw [List.mem_cons, not_or] at single
      rw [List.cons_append, List.splitOn_cons_eq_if_modifyHead,
        if_neg (by simpa using single.1 ∘ Eq.symm), ih single.2]
      cases text.splitOn '\n' <;> rfl

/-- A text without a line feed that stands at the front of another is the front of its first
line. -/
theorem cutLines_front {front : List Char} (single : '\n' ∉ front) (filled : front ≠ [])
    (text : List Char) :
    ∃ rest more, cutLines (front ++ text) = trimEnd (front ++ rest) :: more := by
  obtain ⟨rest, others, pieces⟩ := List.exists_cons_of_ne_nil (List.splitOn_ne_nil '\n' text)
  have shape : ∃ more, lineParts ((front ++ rest) :: others) = (front ++ rest) :: more := by
    cases others with
    | nil => exact ⟨[], by simp [lineParts, filled]⟩
    | cons next others => exact ⟨_, lineParts_cons (List.cons_ne_nil next others) _⟩
  obtain ⟨more, shape⟩ := shape
  refine ⟨rest, more.map trimEnd, ?_⟩
  rw [cutLines, splitOn_front single, pieces, List.modifyHead_cons, shape, List.map_cons]

end Cut

end TableReaders.Text
