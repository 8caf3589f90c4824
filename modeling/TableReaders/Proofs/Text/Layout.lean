import Mathlib.Data.List.TakeWhile
import TableReaders.Proofs.Text.Lines

/-!
The layout of a text: the blanks at the ends of its lines, and the blank lines in front and behind.
Setting a text flush left takes its layout off and nothing else. Every line has lost its blanks
before the ends of the whole are cut, so that cut meets line feeds only, and it stops at the first
and at the last line that shows something. What is left has no layout, so doing it again changes
nothing, and layout that is added to a line goes again.
-/

namespace TableReaders.Text

section Middles

variable {α β : Type} {gone : α → Bool} {list part front behind : List α}

def inner (gone : α → Bool) (list : List α) : List α :=
  ((list.dropWhile gone).reverse.dropWhile gone).reverse

structure Solid (gone : α → Bool) (list : List α) : Prop where
  first : ∀ item ∈ list.head?, gone item = false
  last : ∀ item ∈ list.getLast?, gone item = false

/-- A part of a list in one piece, such that everything around it goes and its own ends stay. -/
structure Middle (gone : α → Bool) (list part : List α) : Prop extends Solid gone part where
  around : ∃ front behind, list = front ++ part ++ behind ∧
    ∀ item ∈ front ++ behind, gone item = true

theorem stays_of_dropWhile {item : α} (first : item ∈ (list.dropWhile gone).head?) :
    gone item = false := by
  have stays := List.head?_dropWhile_not gone list
  rw [Option.mem_def.mp first] at stays
  exact stays

theorem dropWhile_of_stays (first : ∀ item ∈ list.head?, gone item = false) :
    list.dropWhile gone = list := by
  cases list with
  | nil => rfl
  | cons item rest => exact List.dropWhile_cons_of_neg (by simp [first item rfl])

theorem middle_inner (gone : α → Bool) (list : List α) : Middle gone list (inner gone list) := by
  have ended : inner gone list ++ ((list.dropWhile gone).reverse.takeWhile gone).reverse =
      list.dropWhile gone := by
    rw [inner, ← List.reverse_append, List.takeWhile_append_dropWhile, List.reverse_reverse]
  refine ⟨⟨?_, ?_⟩, list.takeWhile gone,
    ((list.dropWhile gone).reverse.takeWhile gone).reverse, ?_, ?_⟩
  · intro item first
    have start : item ∈ (list.dropWhile gone).head? := by
      rw [← ended, List.head?_append, Option.mem_def.mp first]
      rfl
    exact stays_of_dropWhile start
  · intro item last
    rw [inner, List.getLast?_reverse] at last
    exact stays_of_dropWhile last
  · rw [List.append_assoc, ended, List.takeWhile_append_dropWhile]
  · intro item member
    rcases List.mem_append.mp member with before | after
    · exact List.mem_takeWhile_imp before
    · exact List.mem_takeWhile_imp (List.mem_reverse.mp after)

theorem Middle.inner_eq (middle : Middle gone list part) : inner gone list = part := by
  obtain ⟨front, behind, split, goes⟩ := middle.around
  rw [List.forall_mem_append] at goes
  have started : list.dropWhile gone = (part ++ behind).dropWhile gone := by
    rw [split, List.append_assoc, List.dropWhile_append_of_pos goes.1]
  cases part with
  | nil =>
      have nothing : (behind ++ []).dropWhile gone = [] := List.dropWhile_append_of_pos goes.2
      rw [List.append_nil] at nothing
      rw [inner, started, List.nil_append, nothing]
      rfl
  | cons item rest =>
      have stopped : (item :: rest ++ behind).dropWhile gone = item :: rest ++ behind :=
        dropWhile_of_stays middle.first
      have last : ∀ other ∈ (item :: rest).reverse.head?, gone other = false := by
        rw [List.head?_reverse]
        exact middle.last
      have goesBack : ∀ other ∈ behind.reverse, gone other = true :=
        fun other member => goes.2 other (List.mem_reverse.mp member)
      rw [inner, started, stopped, List.reverse_append, List.dropWhile_append_of_pos goesBack,
        dropWhile_of_stays last, List.reverse_reverse]

theorem Middle.pads (middle : Middle gone list part)
    (goes : ∀ item ∈ front ++ behind, gone item = true) :
    Middle gone (front ++ list ++ behind) part := by
  obtain ⟨before, after, split, around⟩ := middle.around
  refine ⟨middle.toSolid, front ++ before, after ++ behind, by simp [split], fun item member => ?_⟩
  simp only [List.mem_append] at member goes around
  rcases member with (inFront | inBefore) | (inAfter | inBehind)
  · exact goes item (.inl inFront)
  · exact around item (.inl inBefore)
  · exact around item (.inr inAfter)
  · exact goes item (.inr inBehind)

theorem inner_pads (goes : ∀ item ∈ front ++ behind, gone item = true) (list : List α) :
    inner gone (front ++ list ++ behind) = inner gone list :=
  ((middle_inner gone list).pads goes).inner_eq

theorem Solid.inner_eq (solid : Solid gone list) : inner gone list = list :=
  Middle.inner_eq ⟨solid, [], [], by simp, by simp⟩

theorem Middle.subset (middle : Middle gone list part) : part ⊆ list := by
  obtain ⟨front, behind, split, _⟩ := middle.around
  intro item member
  simp [split, member]

theorem Middle.map {still : β → Bool} {change : α → β}
    (same : ∀ item, still (change item) = gone item)
    (middle : Middle gone list part) : Middle still (list.map change) (part.map change) := by
  obtain ⟨front, behind, split, goes⟩ := middle.around
  refine ⟨⟨?_, ?_⟩, front.map change, behind.map change, by simp [split], ?_⟩
  · rw [List.head?_map]
    intro item first
    obtain ⟨before, member, rfl⟩ := Option.map_eq_some_iff.mp first
    rw [same]
    exact middle.first before member
  · rw [List.getLast?_map]
    intro item last
    obtain ⟨before, member, rfl⟩ := Option.map_eq_some_iff.mp last
    rw [same]
    exact middle.last before member
  · rw [← List.map_append, List.forall_mem_map]
    intro item member
    rw [same]
    exact goes item member

end Middles

section Blanks

variable {front behind : List Char}

theorem middle_trim (text : List Char) : Middle isBlank text (trim text) :=
  middle_inner isBlank text

theorem trim_pads (blank : ∀ c ∈ front ++ behind, isBlank c = true) (text : List Char) :
    trim (front ++ text ++ behind) = trim text :=
  inner_pads blank text

theorem trim_trim (text : List Char) : trim (trim text) = trim text :=
  (middle_trim text).toSolid.inner_eq

theorem allBlank_trim_eq (text : List Char) : allBlank (trim text) = allBlank text := by
  obtain ⟨front, behind, split, blank⟩ := (middle_trim text).around
  rw [List.forall_mem_append, ← List.all_eq_true, ← List.all_eq_true] at blank
  have parts := congrArg allBlank split
  simp only [allBlank, List.all_append, blank, Bool.true_and, Bool.and_true] at parts
  exact parts.symm

theorem trim_withoutReturn (line : List Char) : trim (withoutReturn line) = trim line := by
  by_cases ended : line.getLast? = some '\r'
  · obtain ⟨front, rfl⟩ := List.getLast?_eq_some_iff.mp ended
    have blank : ∀ c ∈ [] ++ ['\r'], isBlank c = true := by simp; decide
    rw [withoutReturn, if_pos ended, List.dropLast_concat]
    exact (trim_pads blank front).symm
  · rw [withoutReturn, if_neg ended]

end Blanks

section Joined

variable {line : List Char} {given kept : List (List Char)}

theorem joinLines_cons (more : given ≠ []) (line : List Char) :
    joinLines (line :: given) = line ++ '\n' :: joinLines given := by
  rw [joinLines, List.intercalate_cons_of_ne_nil more, List.append_assoc]
  rfl

theorem joinLines_append (some : given ≠ []) (more : kept ≠ []) :
    joinLines (given ++ kept) = joinLines given ++ '\n' :: joinLines kept := by
  induction given with
  | nil => exact absurd rfl some
  | cons line others ih =>
      cases others with
      | nil => exact (joinLines_cons more line).trans (by simp [joinLines])
      | cons next others =>
          have rest : next :: others ≠ [] := List.cons_ne_nil next others
          rw [List.cons_append, joinLines_cons (by simp), ih rest, joinLines_cons rest,
            List.append_assoc]
          rfl

theorem blank_joinLines (blank : ∀ line ∈ given, allBlank line = true) :
    ∀ c ∈ joinLines given, isBlank c = true := by
  induction given with
  | nil => simp [joinLines]
  | cons line others ih =>
      rw [List.forall_mem_cons] at blank
      have here := List.all_eq_true.mp blank.1
      cases others with
      | nil => simpa [joinLines] using here
      | cons next others =>
          have feed : isBlank '\n' = true := by decide
          rw [joinLines_cons (List.cons_ne_nil next others), List.forall_mem_append,
            List.forall_mem_cons]
          exact ⟨here, feed, ih blank.2⟩

theorem ne_nil_of_shows (shows : allBlank line = false) : line ≠ [] := by
  rintro rfl
  cases shows

theorem head?_joinLines (filled : line ≠ []) (others : List (List Char)) :
    (joinLines (line :: others)).head? = line.head? := by
  cases others with
  | nil => simp [joinLines]
  | cons next others =>
      obtain ⟨c, rest, rfl⟩ := List.exists_cons_of_ne_nil filled
      rw [joinLines_cons (List.cons_ne_nil next others)]
      rfl

theorem getLast?_joinLines (filled : line ≠ []) (others : List (List Char)) :
    (joinLines (others ++ [line])).getLast? = line.getLast? := by
  cases others with
  | nil => simp [joinLines]
  | cons first others =>
      obtain ⟨c, rest, rfl⟩ := List.exists_cons_of_ne_nil filled
      rw [joinLines_append (List.cons_ne_nil first others) (List.cons_ne_nil (c :: rest) []),
        List.getLast?_append]
      simp [joinLines, List.getLast?_cons]

theorem solid_joinLines (solid : ∀ line ∈ kept, Solid isBlank line) (ends : Solid allBlank kept) :
    Solid isBlank (joinLines kept) := by
  constructor
  · cases kept with
    | nil => simp [joinLines]
    | cons line others =>
        rw [head?_joinLines (ne_nil_of_shows (ends.first line rfl))]
        exact (solid line List.mem_cons_self).first
  · cases found : kept.getLast? with
    | none => simp [List.getLast?_eq_none_iff.mp found, joinLines]
    | some line =>
        have shows := ends.last line found
        obtain ⟨others, rfl⟩ := List.getLast?_eq_some_iff.mp found
        rw [getLast?_joinLines (ne_nil_of_shows shows)]
        exact (solid line (by simp)).last

theorem joinLines_leading (blank : ∀ line ∈ given, allBlank line = true) (more : kept ≠ []) :
    ∃ front, joinLines (given ++ kept) = front ++ joinLines kept ∧
      ∀ c ∈ front, isBlank c = true := by
  by_cases none : given = []
  · exact ⟨[], by simp [none], by simp⟩
  · have feed : isBlank '\n' = true := by decide
    refine ⟨joinLines given ++ ['\n'], by simp [joinLines_append none more], ?_⟩
    rw [List.forall_mem_append, List.forall_mem_singleton]
    exact ⟨blank_joinLines blank, feed⟩

theorem joinLines_trailing (blank : ∀ line ∈ given, allBlank line = true) (some : kept ≠ []) :
    ∃ behind, joinLines (kept ++ given) = joinLines kept ++ behind ∧
      ∀ c ∈ behind, isBlank c = true := by
  by_cases none : given = []
  · exact ⟨[], by simp [none], by simp⟩
  · have feed : isBlank '\n' = true := by decide
    refine ⟨'\n' :: joinLines given, joinLines_append some none, ?_⟩
    rw [List.forall_mem_cons]
    exact ⟨feed, blank_joinLines blank⟩

/-- Blank lines around other lines are blanks around the text of these. -/
theorem middle_joinLines (solid : ∀ line ∈ given, Solid isBlank line)
    (middle : Middle allBlank given kept) :
    Middle isBlank (joinLines given) (joinLines kept) := by
  obtain ⟨leading, trailing, rfl, blank⟩ := middle.around
  have kernel : Solid isBlank (joinLines kept) :=
    solid_joinLines (fun line member => solid line (by simp [member])) middle.toSolid
  by_cases nothing : kept = []
  · subst nothing
    refine ⟨kernel, joinLines (leading ++ trailing), [], by simp [joinLines], ?_⟩
    simpa using blank_joinLines blank
  · rw [List.forall_mem_append] at blank
    have some : kept ++ trailing ≠ [] := List.append_ne_nil_of_left_ne_nil nothing trailing
    obtain ⟨front, started, blankFront⟩ := joinLines_leading blank.1 some
    obtain ⟨behind, ended, blankBehind⟩ := joinLines_trailing blank.2 nothing
    refine ⟨kernel, front, behind, ?_, List.forall_mem_append.mpr ⟨blankFront, blankBehind⟩⟩
    rw [List.append_assoc, started, ended, List.append_assoc]

theorem solid_of_mem_map_trim (member : line ∈ given.map trim) : Solid isBlank line := by
  obtain ⟨before, _, rfl⟩ := List.mem_map.mp member
  exact (middle_trim before).toSolid

/-- The cut at the ends of the whole takes the blank lines around and nothing of the others. -/
theorem trim_joinLines (given : List (List Char)) :
    trim (joinLines (given.map trim)) = joinLines (inner allBlank (given.map trim)) :=
  (middle_joinLines (fun _ => solid_of_mem_map_trim) (middle_inner allBlank _)).inner_eq

theorem flushLeft_eq {text : List Char} (middle : Middle allBlank (lines text) kept) :
    flushLeft text = joinLines (kept.map trim) := by
  have kernel : inner allBlank ((lines text).map trim) = kept.map trim :=
    (middle.map allBlank_trim_eq).inner_eq
  rw [flushLeft, trim_joinLines, kernel]

end Joined

section Result

variable {line : List Char} {kept : List (List Char)}

theorem withoutReturn_solid (solid : Solid isBlank line) : withoutReturn line = line := by
  refine if_neg fun ended => ?_
  have shows := solid.last '\r' ended
  revert shows
  decide

theorem lines_joinLines (single : ∀ line ∈ kept, '\n' ∉ line)
    (solid : ∀ line ∈ kept, Solid isBlank line)
    (last : ∀ line ∈ kept.getLast?, line ≠ []) : lines (joinLines kept) = kept := by
  induction kept with
  | nil => rfl
  | cons line others ih =>
      rw [List.forall_mem_cons] at single solid
      cases others with
      | nil =>
          have filled : line ≠ [] := last line rfl
          have only : lines line = [line] := by simp [lines, linesWith_last single.1, filled]
          simpa [joinLines] using only
      | cons next others =>
          rw [joinLines_cons (List.cons_ne_nil next others), lines_single single.1,
            withoutReturn_solid solid.1, ih single.2 solid.2 (by simpa using last)]

theorem lines_flushLeft {text : List Char} (middle : Middle allBlank (lines text) kept) :
    lines (flushLeft text) = kept.map trim := by
  rw [flushLeft_eq middle]
  refine lines_joinLines (fun line member => ?_) (fun _ => solid_of_mem_map_trim) fun line last =>
    ?_
  · obtain ⟨before, listed, rfl⟩ := List.mem_map.mp member
    intro feed
    exact feed_not_mem_of_mem_lines (middle.subset listed) ((middle_trim before).subset feed)
  · exact ne_nil_of_shows ((middle.map allBlank_trim_eq).last line last)

theorem solid_lines_flushLeft {text : List Char} (middle : Middle allBlank (lines text) kept) :
    Solid allBlank (lines (flushLeft text)) := by
  rw [lines_flushLeft middle]
  exact (middle.map allBlank_trim_eq).toSolid

theorem flushLeft_flushLeft {text : List Char} (middle : Middle allBlank (lines text) kept) :
    flushLeft (flushLeft text) = flushLeft text := by
  have again : Middle allBlank (lines (flushLeft text)) (kept.map trim) := by
    rw [lines_flushLeft middle]
    exact ⟨(middle.map allBlank_trim_eq).toSolid, [], [], by simp, by simp⟩
  have same : trim ∘ trim = trim := funext trim_trim
  rw [flushLeft_eq again, List.map_map, same, flushLeft_eq middle]

end Result

section Edges

variable {before pad after : List Char}

/-- The place between two parts of a text is where a line starts or where one ends. -/
inductive LineEdge : List Char → List Char → Prop where
  | start (after : List Char) : LineEdge [] after
  | behindFeed (before after : List Char) : LineEdge (before ++ ['\n']) after
  | finish (before : List Char) : LineEdge before []
  | beforeFeed (before after : List Char) : LineEdge before ('\n' :: after)
  | beforeReturn (before after : List Char) : LineEdge before ('\r' :: '\n' :: after)

def pieces (text : List Char) : List (List Char) :=
  (text.splitOn '\n').map trim

theorem flushLeft_pieces (text : List Char) :
    flushLeft text = joinLines (inner allBlank (pieces text)) := by
  -- The piece behind the last line feed is no line if it is empty, and then it is a blank line
  -- less.
  rw [flushLeft, trim_joinLines, map_lines trim_withoutReturn, pieces]
  by_cases ended : (text.splitOn '\n').getLast? = some []
  · obtain ⟨others, split⟩ := List.getLast?_eq_some_iff.mp ended
    have blank : ∀ line ∈ [] ++ [[]], allBlank line = true := by simp [allBlank]
    have dropped := inner_pads blank (others.map trim)
    rw [lineParts, if_pos ended, split, List.dropLast_concat, List.map_append]
    exact congrArg joinLines dropped.symm
  · rw [lineParts, if_neg ended]

theorem pieces_behind (front rest : List Char) :
    pieces (front ++ '\n' :: rest) = pieces front ++ pieces rest := by
  rw [pieces, List.splitOn_append_cons_self, List.map_append]
  rfl

theorem pieces_single (single : '\n' ∉ before) : pieces before = [trim before] := by
  rw [pieces, List.splitOn_eq_singleton single]
  rfl

section Pads

variable (blank : ∀ c ∈ pad, isBlank c = true) (single : '\n' ∉ pad)

include blank single

theorem pieces_pad_front (after : List Char) : pieces (pad ++ after) = pieces after := by
  obtain ⟨first, others, split⟩ := List.exists_cons_of_ne_nil (List.splitOn_ne_nil '\n' after)
  have gone : trim (pad ++ first ++ []) = trim first := trim_pads (by simpa using blank) first
  rw [List.append_nil] at gone
  rw [pieces, pieces, splitOn_front single, split, List.modifyHead_cons, List.map_cons,
    List.map_cons, gone]

theorem pieces_pad_last (unbroken : '\n' ∉ before) : pieces (before ++ pad) = pieces before := by
  have gone : trim ([] ++ before ++ pad) = trim before := trim_pads (by simpa using blank) before
  rw [List.nil_append] at gone
  have alone : '\n' ∉ before ++ pad := by simp [unbroken, single]
  rw [pieces_single alone, pieces_single unbroken, gone]

theorem pieces_pad_behind (before : List Char) : pieces (before ++ pad) = pieces before := by
  by_cases broken : '\n' ∈ before
  · -- The pad is behind what follows the last line feed.
    obtain ⟨last, front, split, unbroken⟩ :=
      List.eq_append_cons_of_mem (List.mem_reverse.mpr broken)
    have shape : before = front.reverse ++ '\n' :: last.reverse := by
      rw [← List.reverse_reverse before, split, List.reverse_append, List.reverse_cons,
        List.append_assoc]
      rfl
    have clear : '\n' ∉ last.reverse := by simpa using unbroken
    rw [shape, List.append_assoc, List.cons_append, pieces_behind, pieces_behind,
      pieces_pad_last blank single clear]
  · exact pieces_pad_last blank single broken

theorem pieces_pad (edge : LineEdge before after) :
    pieces (before ++ pad ++ after) = pieces (before ++ after) := by
  cases edge with
  | start after => exact pieces_pad_front blank single after
  | behindFeed before after =>
      simp only [List.append_assoc, List.cons_append, List.nil_append, pieces_behind,
        pieces_pad_front blank single after]
  | finish before =>
      rw [List.append_nil, List.append_nil]
      exact pieces_pad_behind blank single before
  | beforeFeed before after => rw [pieces_behind, pieces_behind, pieces_pad_behind blank single]
  | beforeReturn before after =>
      -- The carriage return is one more blank at the end of the line.
      have returned : ∀ c ∈ ['\r'], isBlank c = true := by simp; decide
      have whole (line : List Char) : pieces (line ++ '\r' :: '\n' :: after) =
          pieces line ++ pieces after := by
        rw [List.append_cons, pieces_behind, pieces_pad_behind returned (by simp)]
      rw [whole, whole, pieces_pad_behind blank single]

end Pads

end Edges

/-- Only layout goes: the blank lines in front and behind, and the blanks at the ends of the other
lines. Hence none is left, and it does not matter how much there was. -/
theorem flushLeft_layout (text : List Char) :
    (∃ kept, Middle allBlank (lines text) kept ∧ flushLeft text = joinLines (kept.map trim) ∧
      lines (flushLeft text) = kept.map trim) ∧
    flushLeft (flushLeft text) = flushLeft text ∧
    (∀ line ∈ lines (flushLeft text), Solid isBlank line) ∧
    (flushLeft text ≠ [] → lines (flushLeft text) ≠ []) ∧ Solid allBlank (lines (flushLeft text)) ∧
    ∀ before pad after, text = before ++ after → LineEdge before after →
      (∀ c ∈ pad, isBlank c = true) → '\n' ∉ pad →
        flushLeft (before ++ pad ++ after) = flushLeft text := by
  have middle := middle_inner allBlank (lines text)
  refine ⟨⟨_, middle, flushLeft_eq middle, lines_flushLeft middle⟩, flushLeft_flushLeft middle, ?_,
    lines_ne_nil, solid_lines_flushLeft middle, ?_⟩
  · intro line member
    rw [lines_flushLeft middle] at member
    exact solid_of_mem_map_trim member
  · rintro before pad after rfl edge blank single
    rw [flushLeft_pieces, flushLeft_pieces, pieces_pad blank single edge]

def indented : List Char :=
  "\r\n  First\u2003".toList ++ "\r\n\t\r\n\u00a0second\r".toList

/-- The two lines are left, and the blank line between them. Blanks in front of a line end change
nothing. -/
theorem indented_layout :
    (∃ kept, Middle allBlank (lines indented) kept ∧
      kept.map trim = ["First".toList, [], "second".toList]) ∧
    flushLeft indented = "First\n\nsecond".toList ∧
    flushLeft "First\n\nsecond".toList = "First\n\nsecond".toList ∧
    flushLeft
      ("\r\n  First\u2003".toList ++ " \r\u3000".toList ++ "\r\n\t\r\n\u00a0second\r".toList) =
      "First\n\nsecond".toList := by
  have shown : flushLeft indented = "First\n\nsecond".toList := by decide +kernel
  have read : lines "First\n\nsecond".toList = ["First".toList, [], "second".toList] := by
    decide +kernel
  obtain ⟨⟨kept, middle, _, cut⟩, again, _, _, _, unmoved⟩ := flushLeft_layout indented
  have edge : LineEdge "\r\n  First\u2003".toList "\r\n\t\r\n\u00a0second\r".toList :=
    .beforeReturn _ "\t\r\n\u00a0second\r".toList
  have blank : (" \r\u3000".toList).all isBlank = true := by decide +kernel
  rw [shown] at cut again
  refine ⟨⟨kept, middle, cut.symm.trans read⟩, shown, again, ?_⟩
  rw [unmoved _ _ _ rfl edge (List.all_eq_true.mp blank) (by decide +kernel), shown]

end TableReaders.Text
