import Tollgate.Text.Case

set_option autoImplicit false

/-!
# Route globs

A glob describes paths: `*` stands for any run of characters on one line, `[name]` for one
segment, and everything else for itself up to letter case. A glob is cut into pieces from left
to right, and it matches a path that can be cut into consecutive parts, one for each piece.
-/

namespace Tollgate.Route

open Tollgate.Text

/-- A piece of a glob. -/
inductive Piece where
  /-- Any run of characters without a line feed, also the empty one. -/
  | anyRun
  /-- One or more characters other than a slash. -/
  | segment
  /-- The characters themselves, up to letter case. -/
  | literal (run : List Char)
deriving Repr, DecidableEq

/-- A glob, cut into pieces. -/
structure Glob where
  pieces : List Piece
deriving Repr, DecidableEq

/-- Whether the text after an opening bracket holds a name and a closing bracket. -/
def opensGroup (cs : List Char) : Bool :=
  cs.head? != some ']' && cs.contains ']'

/-- The pieces of a run between two special pieces. A run that begins with an opening and ends
with a closing bracket counts as a segment. -/
def runPieces (run : List Char) : List Piece :=
  if run.isEmpty then []
  else if run.head? == some '[' && run.getLast? == some ']' then [.segment]
  else [.literal run]

/-- The pieces of a text. `inGroup` tells that an opening bracket has been read whose group is
not closed yet; `run` is the literal run so far in reverse. -/
def cut : (inGroup : Bool) → (run : List Char) → List Char → List Piece
  | _, run, [] => runPieces run.reverse
  | true, run, c :: rest =>
    if c = ']' then .segment :: cut false [] rest else cut true run rest
  | false, run, c :: rest =>
    if c = '*' then runPieces run.reverse ++ .anyRun :: cut false [] rest
    else if c = '[' ∧ opensGroup rest then runPieces run.reverse ++ cut true [] rest
    else cut false (c :: run) rest

/-- The glob that a text describes. -/
def Glob.ofText (cs : List Char) : Glob :=
  ⟨cut false [] cs⟩

/-- What follows a run of given characters at the front of a text, up to letter case. -/
def afterLiteral? : List Char → List Char → Option (List Char)
  | [], cs => some cs
  | _ :: _, [] => none
  | l :: run, c :: rest => if SameLetter l c then afterLiteral? run rest else none

/-- Whether a text is a run of characters of a class, also the empty run, and something that
the test accepts. -/
def acceptsRun (p : Char → Bool) (test : List Char → Bool) : List Char → Bool
  | [] => test []
  | c :: rest => test (c :: rest) || (p c && acceptsRun p test rest)

/-- Whether a text is a part for the piece and something that the test accepts. -/
def Piece.accepts (test : List Char → Bool) : Piece → List Char → Bool
  | .anyRun, cs => acceptsRun (· != '\n') test cs
  | .segment, [] => false
  | .segment, c :: rest => c != '/' && acceptsRun (· != '/') test rest
  | .literal run, cs =>
    match afterLiteral? run cs with
    | some rest => test rest
    | none => false

/-- Whether a text can be cut into parts for the pieces in order. -/
def acceptsAll : List Piece → List Char → Bool
  | [], cs => cs.isEmpty
  | piece :: pieces, cs => piece.accepts (acceptsAll pieces) cs

/-- Whether a glob matches a path. -/
def Glob.accepts (g : Glob) (path : String) : Bool :=
  acceptsAll g.pieces path.toList

end Tollgate.Route
