import TableReaders.Markup.Split

/-!
Where a document type declaration ends. Before its subset, quotes hide everything. Inside the subset
only the ends of the single declarations count, so that a bracket or an angle bracket in one of them
ends nothing. No declaration is interpreted.
-/

namespace TableReaders.Markup

def pastUnquoted? (text : List Char) : Option (List Char) :=
  match splitUnquoted (· == '>') none text with
  | .ok (_, rest) => some (rest.drop 1)
  | .error _ => none

def quotedDeclarations : List String :=
  ["!ENTITY", "!ATTLIST", "!NOTATION"]

def pastDeclaration? (text : List Char) : Option (List Char) :=
  match after? "?" text with
  | some rest => past? "?>" rest
  | none =>
      match after? "!--" text with
      | some rest => past? "-->" rest
      | none =>
          match quotedDeclarations.findSome? (after? · text) with
          | some rest => pastUnquoted? rest
          | none => past? ">" text

theorem length_pastUnquoted?_le {text rest : List Char} (found : pastUnquoted? text = some rest) :
    rest.length ≤ text.length := by
  unfold pastUnquoted? at found
  split at found
  next behind cut =>
    cases found
    have shorter := length_splitUnquoted_le cut
    simp only [List.length_drop]
    omega
  next => cases found

theorem length_pastDeclaration?_le {text rest : List Char}
    (found : pastDeclaration? text = some rest) : rest.length ≤ text.length := by
  unfold pastDeclaration? at found
  split at found
  next behind lead => exact Nat.le_trans (length_past?_le found) (length_after?_le lead)
  next =>
    split at found
    next behind lead => exact Nat.le_trans (length_past?_le found) (length_after?_le lead)
    next =>
      split at found
      next behind lead =>
        obtain ⟨keyword, _, lead⟩ := List.exists_of_findSome?_eq_some lead
        exact Nat.le_trans (length_pastUnquoted?_le found) (length_after?_le lead)
      next => exact length_past?_le found

def pastSubset? : List Char → Option (List Char)
  | [] => none
  | c :: rest =>
      if c = ']' then past? ">" rest
      else if c = '<' then
        match found : pastDeclaration? rest with
        | some behind =>
            have := length_pastDeclaration?_le found
            pastSubset? behind
        | none => none
      else pastSubset? rest
termination_by text => text.length
decreasing_by all_goals grind

def pastDoctype? (text : List Char) : Option (List Char) :=
  match splitUnquoted (fun c => c == '[' || c == '>') none text with
  | .error _ => none
  | .ok (_, rest) =>
      match after? "[" rest with
      | some subset => pastSubset? subset
      | none => some (rest.drop 1)

def unnamed (text : List Char) : Bool :=
  (text.dropWhile isSpace).head? == some '>'

theorem length_pastSubset?_le {text rest : List Char} (found : pastSubset? text = some rest) :
    rest.length ≤ text.length := by
  fun_induction pastSubset? text with
  | case1 => cases found
  | case2 tail => exact Nat.le_succ_of_le (length_past?_le found)
  | case3 tail notClose behind inner shorter ih =>
      have onward := ih found
      simp only [List.length_cons]
      omega
  | case4 => cases found
  | case5 c tail notClose notOpen ih => exact Nat.le_succ_of_le (ih found)

theorem length_pastDoctype?_le {text rest : List Char} (found : pastDoctype? text = some rest) :
    rest.length ≤ text.length := by
  unfold pastDoctype? at found
  split at found
  next => cases found
  next behind cut =>
    have shorter := length_splitUnquoted_le cut
    split at found
    next subset lead =>
      exact Nat.le_trans (length_pastSubset?_le found)
        (Nat.le_trans (length_after?_le lead) shorter)
    next =>
      cases found
      simp only [List.length_drop]
      omega

end TableReaders.Markup
