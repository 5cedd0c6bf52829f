/-!
# Separated texts

A text cut at every place of a mark.  There is one part more than there are
marks, and putting the mark between the parts gives the text back.
-/

namespace RelayPool.Text

/-- The parts of a text between its marks, where `taken` holds the characters
before the text in reverse order. -/
def separateAfter (mark : Char) (taken : List Char) : List Char → List (List Char)
  | [] => [taken.reverse]
  | character :: rest =>
      if character = mark then taken.reverse :: separateAfter mark [] rest
      else separateAfter mark (character :: taken) rest

/-- The parts of a text between its marks. -/
def separate (mark : Char) (text : List Char) : List (List Char) :=
  separateAfter mark [] text

end RelayPool.Text
