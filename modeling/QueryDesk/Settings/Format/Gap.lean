/-!
# Gaps

What stands between the parts of a text without a meaning of its own: blanks and comments.
-/

namespace QueryDesk

/-- What a format has for gaps. -/
structure GapStyle where
  isBlank : Char → Bool
  /-- whether a comment that begins with two slashes ends here -/
  isLineEnd : Char → Bool
  /-- whether comments can stand inside each other -/
  nests : Bool

/-- Where in a gap something stands. -/
inductive GapPlace
  | blank
  | lineComment
  /-- in a comment with an end, inside of so many others -/
  | comment (outer : Nat)

/-- What follows a gap, unless a comment is left open. -/
def GapStyle.skip (g : GapStyle) : GapPlace → List Char → Option (List Char)
  | .blank, '/' :: '/' :: rest => g.skip .lineComment rest
  | .blank, '/' :: '*' :: rest => g.skip (.comment 0) rest
  | .blank, c :: rest => if g.isBlank c then g.skip .blank rest else some (c :: rest)
  | .lineComment, c :: rest => if g.isLineEnd c then g.skip .blank rest else g.skip .lineComment rest
  | .comment outer, '*' :: '/' :: rest =>
    match outer with
    | 0 => g.skip .blank rest
    | n + 1 => g.skip (.comment n) rest
  | .comment outer, '/' :: '*' :: rest => g.skip (.comment (if g.nests then outer + 1 else outer)) rest
  | .comment outer, _ :: rest => g.skip (.comment outer) rest
  | .blank, [] | .lineComment, [] => some []
  | .comment _, [] => none

end QueryDesk
