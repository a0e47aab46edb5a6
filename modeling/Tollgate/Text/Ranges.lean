import Tollgate.Text.Hex
import Tollgate.Text.Split

set_option autoImplicit false

/-!
# Tables of code points

Properties of characters are kept as runs of code points in increasing order. A table is written
as text, in which blanks and line ends separate the entries and numbers are hexadecimal: `41`
and `41-5a` are a point and a run; `41-5a+20` and `100-12e/2+1` are runs that are shifted up, in
steps of one and of two, and `131~c8` is a point that is shifted down; `df:73.73` is a point that
stands for others, and `300-314:e6` a run that has a number. A point is found by bisection.
-/

namespace Tollgate.Text

/-- The entries of the text of a table. -/
def tableEntries (text : String) : List (List Char) :=
  (split ' ' (text.toList.map (fun c => if c = '\n' then ' ' else c))).filter (!·.isEmpty)

/-- The number of an entry's part. -/
def tableNumber (cs : List Char) : Nat :=
  (hexNumber? cs).getD 0

/-- How many of the items `low`, …, `high - 1` and of those in front come before what is looked
for, where those that come before it stand in front of all others. -/
def bisect {α : Type} (items : Array α) (isBefore : α → Bool) (low high : Nat) : Nat :=
  if low < high then
    match items[(low + high) / 2]? with
    | some item =>
      if isBefore item then bisect items isBefore ((low + high) / 2 + 1) high
      else bisect items isBefore low ((low + high) / 2)
    | none => low
  else low
termination_by high - low
decreasing_by all_goals omega

/-- The first item that does not come before what is looked for. -/
def firstNotBefore? {α : Type} (items : Array α) (isBefore : α → Bool) : Option α :=
  items[bisect items isBefore 0 items.size]?

/-! ## Sets -/

/-- A run of code points, both ends included. -/
structure PointRun where
  first : Nat
  last : Nat
deriving Repr, DecidableEq, Inhabited

/-- The run of an entry. -/
def PointRun.ofEntry (cs : List Char) : PointRun :=
  match split '-' cs with
  | [first, last] => ⟨tableNumber first, tableNumber last⟩
  | _ => ⟨tableNumber cs, tableNumber cs⟩

/-- A set of code points. -/
structure PointSet where
  runs : Array PointRun
deriving Repr

namespace PointSet

/-- The set that a text lists. -/
def ofText (text : String) : PointSet :=
  ⟨((tableEntries text).map PointRun.ofEntry).toArray⟩

/-- Whether a code point is in the set. -/
def contains (s : PointSet) (n : Nat) : Bool :=
  match firstNotBefore? s.runs (·.last < n) with
  | some run => run.first ≤ n
  | none => false

end PointSet

/-! ## Maps -/

/-- The code points `first`, `first + step`, …, `last`, each mapped `shift` places further. -/
structure ShiftRun where
  first : Nat
  last : Nat
  step : Nat
  shift : Int
deriving Repr, DecidableEq, Inhabited

/-- Whether a code point is one of the run. -/
def ShiftRun.covers (r : ShiftRun) (n : Nat) : Bool :=
  r.first ≤ n && n ≤ r.last && (n - r.first) % r.step == 0

/-- The shifted run of an entry. -/
def ShiftRun.ofEntry (cs : List Char) : ShiftRun :=
  let sign (c : Char) : Bool := c == '+' || c == '~'
  let ends := cs.takeWhile (!sign ·)
  let shift := tableNumber ((cs.dropWhile (!sign ·)).drop 1)
  let (run, step) :=
    match split '/' ends with
    | [run, step] => (PointRun.ofEntry run, tableNumber step)
    | _ => (PointRun.ofEntry ends, 1)
  ⟨run.first, run.last, step, if cs.contains '~' then -(shift : Int) else shift⟩

/-- A map that shifts code points by runs. -/
structure ShiftMap where
  runs : Array ShiftRun
deriving Repr

namespace ShiftMap

/-- The map that a text lists. -/
def ofText (text : String) : ShiftMap :=
  ⟨((tableEntries text).map ShiftRun.ofEntry).toArray⟩

/-- What a code point is mapped to, if a run covers it. -/
def find? (m : ShiftMap) (n : Nat) : Option Nat :=
  match firstNotBefore? m.runs (·.last < n) with
  | some run => if run.covers n then some (n + run.shift).toNat else none
  | none => none

end ShiftMap

/-- The code points from `first` to `last`, which all have one number. -/
structure NumberedRun where
  first : Nat
  last : Nat
  number : Nat
deriving Repr, DecidableEq, Inhabited

/-- The numbered run of an entry. -/
def NumberedRun.ofEntry (cs : List Char) : NumberedRun :=
  let run := PointRun.ofEntry (cs.takeWhile (· != ':'))
  ⟨run.first, run.last, tableNumber ((cs.dropWhile (· != ':')).drop 1)⟩

/-- A map from code points to numbers; where nothing else is said the number is zero. -/
structure NumberMap where
  runs : Array NumberedRun
deriving Repr

namespace NumberMap

/-- The map that a text lists. -/
def ofText (text : String) : NumberMap :=
  ⟨((tableEntries text).map NumberedRun.ofEntry).toArray⟩

/-- The number of a code point. -/
def get (m : NumberMap) (n : Nat) : Nat :=
  match firstNotBefore? m.runs (·.last < n) with
  | some run => if run.first ≤ n then run.number else 0
  | none => 0

end NumberMap

/-- A code point that stands for others. -/
structure Spelling where
  point : Nat
  spelling : List Nat
deriving Repr, DecidableEq, Inhabited

/-- The spelling of an entry. -/
def Spelling.ofEntry (cs : List Char) : Spelling :=
  let spelling := (cs.dropWhile (· != ':')).drop 1
  ⟨tableNumber (cs.takeWhile (· != ':')),
    if spelling.isEmpty then [] else (split '.' spelling).map tableNumber⟩

/-- A map that spells code points by others. -/
structure SpellingMap where
  entries : Array Spelling
deriving Repr

namespace SpellingMap

/-- The map that a text lists. -/
def ofText (text : String) : SpellingMap :=
  ⟨((tableEntries text).map Spelling.ofEntry).toArray⟩

/-- How a code point is spelled, if it has an entry. -/
def find? (m : SpellingMap) (n : Nat) : Option (List Nat) :=
  match firstNotBefore? m.entries (·.point < n) with
  | some entry => if entry.point = n then some entry.spelling else none
  | none => none

end SpellingMap

end Tollgate.Text
