/-!
What can be wrong with a marked-up text, and how it is said. A fault of the syntax ends the reading.
A fault of a character reference is met only when the reference is resolved.
-/

namespace TableReaders.Markup

inductive CharacterFault where
  | signed
  | noDigits
  | notADigit
  | tooLarge
  | zero
  | notACharacter (code : Nat)
  deriving DecidableEq, Repr

def CharacterFault.message : CharacterFault → String
  | .signed => "unexpected number sign"
  | .noDigits => "cannot parse integer from empty string"
  | .notADigit => "invalid digit found in string"
  | .tooLarge => "number too large to fit in target type"
  | .zero => "0x0 character is not permitted in XML"
  | .notACharacter code => "`" ++ toString code ++ "` is not a valid codepoint"

/-- What is wrong with a marked-up text. Positions inside an attribute value count bytes of
UTF-8. -/
inductive Fault where
  | unknownMarkup
  | instructionOpen
  | declarationOpen
  | commentOpen
  | doctypeOpen
  | cdataOpen
  | tagOpen
  | valueOpen (quote : Char)
  | doctypeUnnamed
  | closeUnmatched (found : String)
  | closeMismatched (expected found : String)
  | referenceOpen
  | entityUnknown (first last : Nat) (name : String)
  | entityOpen (first last : Nat)
  | character (fault : CharacterFault)
  deriving DecidableEq, Repr

def leftOpen (construct ending : String) : String :=
  construct ++ " not closed: `" ++ ending ++ "` not found before end of input"

def range (first last : Nat) : String :=
  toString first ++ ".." ++ toString last

def Fault.message : Fault → String
  | .unknownMarkup => "syntax error: unknown or missed symbol in markup"
  | .instructionOpen => "syntax error: " ++ leftOpen "processing instruction" "?>"
  | .declarationOpen => "syntax error: " ++ leftOpen "XML declaration" "?>"
  | .commentOpen => "syntax error: " ++ leftOpen "comment" "-->"
  | .doctypeOpen => "syntax error: " ++ leftOpen "DOCTYPE" ">"
  | .cdataOpen => "syntax error: " ++ leftOpen "CDATA" "]]>"
  | .tagOpen => "syntax error: " ++ leftOpen "tag" ">"
  | .valueOpen quote => "syntax error: " ++ leftOpen "attribute value" (String.singleton quote)
  | .doctypeUnnamed =>
      "ill-formed document: `<!DOCTYPE>` declaration does not contain a name of a document type"
  | .closeUnmatched found =>
      "ill-formed document: close tag `</" ++ found ++ ">` does not match any open tag"
  | .closeMismatched expected found =>
      "ill-formed document: expected `</" ++ expected ++ ">`, but `</" ++ found ++ ">` was found"
  | .referenceOpen => "ill-formed document: " ++ leftOpen "entity or character reference" ";"
  | .entityUnknown first last name =>
      "at " ++ range first last ++ ": unrecognized entity `" ++ name ++ "`"
  | .entityOpen first last =>
      "Error while escaping character at range " ++ range first last ++
        ": Cannot find ';' after '&'"
  | .character fault => "invalid character reference: " ++ fault.message

end TableReaders.Markup
