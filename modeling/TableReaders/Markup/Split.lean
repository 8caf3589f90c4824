/-!
Cutting a text at a mark. Every function here gives back a rest that is no longer than the text it
was given, and the lemma beside it says so: readers that call one another on the rest end because of
these lemmas.
-/

namespace TableReaders.Markup

def isSpace (c : Char) : Bool :=
  c == ' ' || c == '\t' || c == '\r' || c == '\n'

def apostrophe : Char := '\x27'

def quotation : Char := '\x22'

def isQuote (c : Char) : Bool :=
  c == apostrophe || c == quotation

def after? (lead : String) (text : List Char) : Option (List Char) :=
  if lead.toList.isPrefixOf text then some (text.drop lead.toList.length) else none

def splitAt? (mark : String) : List Char → Option (List Char × List Char)
  | [] => none
  | c :: rest =>
      match after? mark (c :: rest) with
      | some behind => some ([], behind)
      | none => (splitAt? mark rest).map fun (before, behind) => (c :: before, behind)

def past? (mark : String) (text : List Char) : Option (List Char) :=
  (splitAt? mark text).map Prod.snd

/-- The text before the first character outside quotes that `stop` holds of, and the text from that
character on. When there is none, the quote that is still open at the end, if any. -/
def splitUnquoted (stop : Char → Bool) : Option Char → List Char →
    Except (Option Char) (List Char × List Char)
  | quote, [] => .error quote
  | none, c :: rest =>
      if stop c then .ok ([], c :: rest)
      else
        match splitUnquoted stop (if isQuote c then some c else none) rest with
        | .ok (before, behind) => .ok (c :: before, behind)
        | .error quote => .error quote
  | some quote, c :: rest =>
      match splitUnquoted stop (if c = quote then none else some quote) rest with
      | .ok (before, behind) => .ok (c :: before, behind)
      | .error quote => .error quote

/-- The name of a reference, given what follows its ampersand, and the text after its semicolon.
There is no such name when the text ends or a character comes first that `stop` holds of. -/
def splitReference? (stop : Char → Bool) (text : List Char) : Option (List Char × List Char) :=
  match text.dropWhile fun c => c != ';' && !stop c with
  | ';' :: rest => some (text.takeWhile fun c => c != ';' && !stop c, rest)
  | _ => none

theorem length_after?_le {lead : String} {text rest : List Char}
    (found : after? lead text = some rest) : rest.length ≤ text.length := by
  unfold after? at found
  split at found
  · cases found
    simp
  · cases found

theorem length_splitAt?_le {mark : String} {text before rest : List Char}
    (found : splitAt? mark text = some (before, rest)) : rest.length ≤ text.length := by
  induction text generalizing before with
  | nil => simp [splitAt?] at found
  | cons c tail ih =>
      rw [splitAt?] at found
      split at found
      next behind here =>
        cases found
        exact length_after?_le here
      next =>
        obtain ⟨⟨front, behind⟩, inner, same⟩ := Option.map_eq_some_iff.mp found
        cases same
        exact Nat.le_succ_of_le (ih inner)

theorem length_past?_le {mark : String} {text rest : List Char}
    (found : past? mark text = some rest) : rest.length ≤ text.length := by
  obtain ⟨⟨before, behind⟩, split, same⟩ := Option.map_eq_some_iff.mp found
  cases same
  exact length_splitAt?_le split

theorem length_splitUnquoted_le {stop : Char → Bool} {quote : Option Char}
    {text before rest : List Char} (found : splitUnquoted stop quote text = .ok (before, rest)) :
    rest.length ≤ text.length := by
  induction text generalizing quote before with
  | nil => cases quote <;> simp [splitUnquoted] at found
  | cons c tail ih =>
      cases quote with
      | none =>
          rw [splitUnquoted] at found
          split at found
          · cases found
            exact Nat.le_refl _
          · split at found
            next inner =>
              cases found
              exact Nat.le_succ_of_le (ih inner)
            next => cases found
      | some quote =>
          rw [splitUnquoted] at found
          split at found
          next inner =>
            cases found
            exact Nat.le_succ_of_le (ih inner)
          next => cases found

theorem length_dropWhile_le {α : Type} (test : α → Bool) (items : List α) :
    (items.dropWhile test).length ≤ items.length :=
  (List.dropWhile_suffix test).length_le

theorem length_splitReference?_lt {stop : Char → Bool} {text name rest : List Char}
    (found : splitReference? stop text = some (name, rest)) : rest.length < text.length := by
  unfold splitReference? at found
  split at found
  next behind cut =>
    cases found
    have shorter := length_dropWhile_le (fun c => c != ';' && !stop c) text
    rw [cut] at shorter
    exact shorter
  next => cases found

end TableReaders.Markup
