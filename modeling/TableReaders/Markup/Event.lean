import TableReaders.Markup.Doctype
import TableReaders.Markup.Tag

/-!
A marked-up text as a list of events. Reading goes in two passes: the text is first cut into events,
each by the characters it begins with, and then every close tag is held against the innermost open
tag. A fault is the last event of a list: what follows it in the text is not read. A text that ends
with tags still open is no fault, it is for the reader of the events to judge.

A run of text is one event with all its blanks. Blanks at its ends could be cut off, or a run of
nothing but blanks left out, wherever text is passed over, and that is everywhere but in the body of
a documentation. There they have to stay, because a reference parts a line into several events. So
nothing has to be switched between the two, and the events of a text do not depend on who reads
them.
-/

namespace TableReaders.Markup

inductive Event where
  | start (tag : Tag)
  | empty (tag : Tag)
  | close (name : String)
  | text (content : String)
  | cdata (content : String)
  | reference (name : String)
  | comment (content : String)
  | instruction (content : String)
  | declaration (content : String)
  | doctype
  | fault (fault : Fault)
  deriving DecidableEq, Repr

abbrev Cut := Except Fault (Event × List Char)

namespace Cut

def reference (text : List Char) : Cut :=
  match splitReference? (fun c => c == '&' || c == '<') text with
  | some (name, rest) => .ok (.reference (String.ofList name), rest)
  | none => .error .referenceOpen

def cdata (text : List Char) : Cut :=
  match (after? "[CDATA[" text).bind (splitAt? "]]>") with
  | some (content, rest) => .ok (.cdata (String.ofList content), rest)
  | none => .error .cdataOpen

def comment (text : List Char) : Cut :=
  match (after? "--" text).bind (splitAt? "-->") with
  | some (content, rest) => .ok (.comment (String.ofList content), rest)
  | none => .error .commentOpen

def doctypeKeyword : List Char :=
  ['D', 'O', 'C', 'T', 'Y', 'P', 'E']

def doctype (text : List Char) : Cut :=
  if (text.take 7).map Char.toUpper = doctypeKeyword then
    match pastDoctype? (text.drop 7) with
    | none => .error .doctypeOpen
    | some rest =>
        if unnamed (text.drop 7) then .error .doctypeUnnamed else .ok (.doctype, rest)
  else .error .doctypeOpen

def exclamation : List Char → Cut
  | [] => .error .unknownMarkup
  | c :: rest =>
      if c = '[' then cdata (c :: rest)
      else if c = '-' then comment (c :: rest)
      else if c.toUpper = 'D' then doctype (c :: rest)
      else .error .unknownMarkup

def declares (text : List Char) : Bool :=
  match after? "xml" text with
  | none => false
  | some [] => true
  | some (c :: _) => isSpace c || c == '?'

/-- Markup after a question mark. That mark may also be the one that ends it, but then nothing is
left of the instruction. -/
def question (text : List Char) : Cut :=
  match splitAt? "?>" ('?' :: text) with
  | none => .error (if declares text then .declarationOpen else .instructionOpen)
  | some ([], _) => .error .instructionOpen
  | some (_ :: content, rest) =>
      if declares text then .ok (.declaration (String.ofList content), rest)
      else .ok (.instruction (String.ofList content), rest)

def closeName (text : List Char) : List Char :=
  let name := (text.reverse.dropWhile isSpace).reverse
  -- White space is kept if it is all there is.
  if name.isEmpty then text else name

def tagEvent (text : List Char) : Event :=
  match after? "/" text with
  | some name => .close (String.ofList (closeName name))
  | none =>
      if text.getLast? = some '/' then .empty (Tag.ofText text.dropLast)
      else .start (Tag.ofText text)

def tag (text : List Char) : Cut :=
  match splitUnquoted (· == '>') none text with
  | .error none => .error .tagOpen
  | .error (some quote) => .error (.valueOpen quote)
  | .ok (content, rest) => .ok (tagEvent content, rest.drop 1)

def markup : List Char → Cut
  | [] => .error .tagOpen
  | c :: rest =>
      if c = '!' then exclamation rest
      else if c = '?' then question rest
      else tag (c :: rest)

def inText (c : Char) : Bool :=
  c != '<' && c != '&'

def first (c : Char) (rest : List Char) : Cut :=
  if c = '<' then markup rest
  else if c = '&' then reference rest
  else .ok (.text (String.ofList (c :: rest.takeWhile inText)), rest.dropWhile inText)

end Cut

section Shorter

variable {text rest : List Char} {event : Event}

theorem Cut.length_reference_le (found : Cut.reference text = .ok (event, rest)) :
    rest.length ≤ text.length := by
  unfold Cut.reference at found
  split at found
  next cut =>
    cases found
    exact Nat.le_of_lt (length_splitReference?_lt cut)
  next => cases found

theorem Cut.length_cdata_le (found : Cut.cdata text = .ok (event, rest)) :
    rest.length ≤ text.length := by
  unfold Cut.cdata at found
  split at found
  next cut =>
    cases found
    obtain ⟨body, lead, split⟩ := Option.bind_eq_some_iff.mp cut
    exact Nat.le_trans (length_splitAt?_le split) (length_after?_le lead)
  next => cases found

theorem Cut.length_comment_le (found : Cut.comment text = .ok (event, rest)) :
    rest.length ≤ text.length := by
  unfold Cut.comment at found
  split at found
  next cut =>
    cases found
    obtain ⟨body, lead, split⟩ := Option.bind_eq_some_iff.mp cut
    exact Nat.le_trans (length_splitAt?_le split) (length_after?_le lead)
  next => cases found

theorem Cut.length_doctype_le (found : Cut.doctype text = .ok (event, rest)) :
    rest.length ≤ text.length := by
  unfold Cut.doctype at found
  split at found
  next =>
    split at found
    next => cases found
    next behind ended =>
      split at found
      next => cases found
      next =>
        cases found
        have shorter := length_pastDoctype?_le ended
        simp only [List.length_drop] at shorter
        omega
  next => cases found

theorem Cut.length_exclamation_le (found : Cut.exclamation text = .ok (event, rest)) :
    rest.length ≤ text.length := by
  unfold Cut.exclamation at found
  split at found
  next => cases found
  next c tail =>
    split at found
    next => exact Cut.length_cdata_le found
    next =>
      split at found
      next => exact Cut.length_comment_le found
      next =>
        split at found
        next => exact Cut.length_doctype_le found
        next => cases found

theorem Cut.length_question_le (found : Cut.question text = .ok (event, rest)) :
    rest.length ≤ text.length + 1 := by
  unfold Cut.question at found
  split at found
  next => cases found
  next => cases found
  next cut =>
    have shorter := length_splitAt?_le cut
    split at found <;> cases found <;> exact shorter

theorem Cut.length_tag_le (found : Cut.tag text = .ok (event, rest)) :
    rest.length ≤ text.length := by
  unfold Cut.tag at found
  split at found
  next => cases found
  next => cases found
  next cut =>
    cases found
    have shorter := length_splitUnquoted_le cut
    simp only [List.length_drop]
    omega

theorem Cut.length_markup_le (found : Cut.markup text = .ok (event, rest)) :
    rest.length ≤ text.length := by
  unfold Cut.markup at found
  split at found
  next => cases found
  next c tail =>
    split at found
    next => exact Nat.le_succ_of_le (Cut.length_exclamation_le found)
    next =>
      split at found
      next => exact Cut.length_question_le found
      next => exact Cut.length_tag_le found

theorem Cut.length_first_le {c : Char} (found : Cut.first c text = .ok (event, rest)) :
    rest.length ≤ text.length := by
  unfold Cut.first at found
  split at found
  next => exact Cut.length_markup_le found
  next =>
    split at found
    next => exact Cut.length_reference_le found
    next =>
      cases found
      exact length_dropWhile_le Cut.inText text

end Shorter

def cutEvents : List Char → List Event
  | [] => []
  | c :: rest =>
      match found : Cut.first c rest with
      | .error fault => [.fault fault]
      | .ok (event, behind) =>
          have := Cut.length_first_le found
          event :: cutEvents behind
termination_by text => text.length
decreasing_by grind

/-- Every close tag must name the innermost open tag, where `opened` holds the names of the open
tags, innermost first. The list ends in a fault at the first close tag that does not. -/
def matchTags : List String → List Event → List Event
  | _, [] => []
  | opened, .start tag :: rest => .start tag :: matchTags (tag.name :: opened) rest
  | [], .close name :: _ => [.fault (.closeUnmatched name)]
  | innermost :: opened, .close name :: rest =>
      if innermost = name then .close name :: matchTags opened rest
      else [.fault (.closeMismatched innermost name)]
  | opened, event :: rest => event :: matchTags opened rest

def withoutMark (text : List Char) : List Char :=
  match text with
  | '\ufeff' :: rest => rest
  | _ => text

def events (text : String) : List Event :=
  matchTags [] (cutEvents (withoutMark text.toList))

end TableReaders.Markup
