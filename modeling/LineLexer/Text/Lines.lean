/-!
# Lines of a document

A document is cut at every line feed.  A carriage return at the end of a line belongs to
the line's end and not to its text, so that both common styles of line ends give the same
lines.
-/

namespace LineLexer.Text

/-- The pieces between line feeds; there is one more of them than there are line feeds. -/
def splitAtLineFeeds : List Char → List (List Char)
  | [] => [[]]
  | char :: rest =>
      if char = '\n' then
        [] :: splitAtLineFeeds rest
      else
        match splitAtLineFeeds rest with
        | [] => [[char]]
        | piece :: pieces => (char :: piece) :: pieces

/-- A piece without the one carriage return that may end it. -/
def dropFinalReturn : List Char → List Char
  | [] => []
  | ['\r'] => []
  | char :: rest => char :: dropFinalReturn rest

/-- The lines of a document, without their ends. -/
def documentLines (text : String) : List String :=
  (splitAtLineFeeds text.toList).map fun piece => String.ofList (dropFinalReturn piece)

end LineLexer.Text
