import Tollgate.Failure
import Tollgate.Route.Config
import Tollgate.Route.Glob
import Tollgate.Text.Blank

set_option autoImplicit false

/-!
# Route tables

A table gives a configuration to keys of the form `VERB glob` or `glob`. It is compiled to
patterns in the order of its rows; the first pattern that fits a request protects it. Setting up
stops at the first problem: the configurations of all rows are read before any key is looked at.
-/

namespace Tollgate.Route

open Tollgate.Text Tollgate.Json Tollgate.Schema Tollgate.Chain Tollgate.Payment

/-- What stands at a key of a table: a configuration that is ready, or a value to read one
from. -/
inductive Entry where
  | config (c : Config)
  | value (v : Value)
deriving Repr

/-- A row of a table. -/
abbrev Row := String × Entry

/-- The routes to protect: all by one configuration, or those of a table. -/
inductive Routes where
  | single (c : Config)
  | table (rows : List Row)
deriving Repr

/-- A table in which a row takes the place of an earlier one with the same key. -/
def putRow (rows : List Row) (row : Row) : List Row :=
  match rows with
  | [] => [row]
  | first :: rest => if first.1 = row.1 then row :: rest else first :: putRow rest row

/-- The table of rows in which a later row counts instead of an earlier one with its key. -/
def Routes.ofRows (rows : List Row) : Routes :=
  .table (rows.foldl putRow [])

/-- The methods that a pattern is for. -/
inductive Verb where
  | any
  | only (name : String)
deriving Repr, DecidableEq

/-- The mark of a pattern for every method, and of the route that takes all paths. -/
def anyMark : String := "*"

/-- The verb of a text. -/
def Verb.ofText (text : String) : Verb :=
  if upper text = anyMark then .any else .only (upper text)

/-- The text of a verb. -/
def Verb.text : Verb → String
  | .any => anyMark
  | .only name => name

/-- The method that a verb restricts to, if it does. -/
def Verb.method? : Verb → Option String
  | .any => none
  | .only name => some name

/-- Whether a verb admits a method, given in upper case. -/
def Verb.admits (v : Verb) (method : String) : Bool :=
  match v with
  | .any => true
  | .only name => name = method

/-- A compiled row. -/
structure Pattern where
  verb : Verb
  glob : Glob
  config : Config
deriving Repr

/-- Whether a pattern fits a path and a method. -/
def Pattern.fits (p : Pattern) (path method : String) : Bool :=
  p.verb.admits (upper method) && p.glob.accepts path

/-- The verb and the glob text of a key. The first run of blanks divides them; a key without
blanks is a glob for every method. -/
def splitKey (key : String) : Verb × List Char :=
  let cs := key.toList
  match cs.dropWhile (!isBlank ·) with
  | [] => (.any, cs)
  | rest => (.ofText (String.ofList (cs.takeWhile (!isBlank ·))), rest.dropWhile isBlank)

/-- The value of an entry that stands where a field of a configuration is wanted. A configuration
that is ready is neither text nor number nor object there. -/
def Entry.fieldValue : Entry → Value
  | .value v => v
  | .config _ => .array []

/-- The configuration of a value, under a key. -/
def readConfig (key : String) (v : Value) : Except SetupError Config :=
  ((Config.read v).orReject "RouteConfig").mapError (SetupError.invalidConfig key)

/-- A bare price as a configuration on the default network. -/
def shorthand (v : Value) : Value :=
  match v with
  | .text _ | .bool _ | .int _ | .float _ | .broken _ =>
    .object [("price", v), ("network", .text Network.baseSepolia.name)]
  | _ => v

/-- The configuration of an entry, under its key. -/
def Entry.toConfig (key : String) : Entry → Except SetupError Config
  | .config c => .ok c
  | .value v => readConfig key (shorthand v)

/-- The configurations of a table under their keys. A table with a row `price` is itself one
configuration, for all routes. -/
def Routes.normalize : Routes → Except SetupError (List (String × Config))
  | .single c => .ok [(anyMark, c)]
  | .table rows =>
    if rows.any (·.1 = "price") then do
      let members := rows.map (fun (name, entry) => (name, entry.fieldValue))
      let c ← readConfig anyMark (.object members)
      return [(anyMark, c)]
    else
      rows.mapM (fun (key, entry) => (entry.toConfig key).map (fun c => (key, c)))

/-- The pattern of a key and its configuration. -/
def compileRow (key : String) (c : Config) : Except SetupError Pattern :=
  let (verb, glob) := splitKey key
  if glob.isEmpty then .error (.invalidPattern key)
  else .ok ⟨verb, Glob.ofText glob, c⟩

/-- The patterns of the routes, in the order of the table. -/
def Routes.compile (routes : Routes) : Except SetupError (List Pattern) := do
  let rows ← routes.normalize
  rows.mapM (fun (key, c) => compileRow key c)

/-- The index of the first pattern that fits a path and a method. -/
def findPattern (patterns : List Pattern) (path method : String) : Option Nat :=
  patterns.findIdx? (·.fits path method)

end Tollgate.Route
