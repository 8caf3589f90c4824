import TableReaders.Text.Blank

/-!
Documentation of a definition: a short and a long text, each of which may be missing and never
blank.
-/

namespace TableReaders.Schema

def shows (text : String) : Bool :=
  !Text.allBlank text.toList

structure Documentation where
  short : Option String
  long : Option String
  short_shows : ∀ text ∈ short, shows text = true
  long_shows : ∀ text ∈ long, shows text = true
  deriving DecidableEq

namespace Documentation

theorem shows_of_mem_filter {given : Option String} {text : String}
    (kept : text ∈ given.filter shows) :
    shows text = true :=
  (Option.filter_eq_some_iff.mp kept).2

/-- The documentation with the texts given, where a blank text counts as missing. -/
def ofTexts (short long : Option String) : Documentation where
  short := short.filter shows
  long := long.filter shows
  short_shows _ kept := shows_of_mem_filter kept
  long_shows _ kept := shows_of_mem_filter kept

def isEmpty (documentation : Documentation) : Bool :=
  documentation.short.isNone && documentation.long.isNone

end Documentation

end TableReaders.Schema
