import TableReaders.Text.Blank

/-!
The lines of a text, and the text with its layout taken off. A line ends at a line feed, and a
carriage return right before that line feed belongs to the line end. The last line needs no line
feed; without one it keeps its carriage return, and after a final line feed no further line starts.
-/

namespace TableReaders.Text

def withoutReturn (line : List Char) : List Char :=
  if line.getLast? = some '\r' then line.dropLast else line

/-- The lines of a text, where `line` holds what the current line has so far, last character first.
A line that a line feed ends is made into what `finish` says. -/
def linesWith (finish : List Char → List Char) (line : List Char) : List Char → List (List Char)
  | [] => if line.isEmpty then [] else [line.reverse]
  | c :: rest =>
      if c = '\n' then finish line.reverse :: linesWith finish [] rest
      else linesWith finish (c :: line) rest

def lines (text : List Char) : List (List Char) :=
  linesWith withoutReturn [] text

def joinLines (lines : List (List Char)) : List Char :=
  ['\n'].intercalate lines

def flushLeft (text : List Char) : List Char :=
  trim (joinLines ((lines text).map trim))

end TableReaders.Text
