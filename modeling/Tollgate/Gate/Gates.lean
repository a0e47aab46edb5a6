import Tollgate.Gate.Basic
import Tollgate.Route.Table

set_option autoImplicit false

/-!
# The gates of a table

One gate for every row of a route table, in its order. The gate of a request is that of the
first pattern that fits.
-/

namespace Tollgate.Gate

open Tollgate.Route

variable {Request : Type}

/-- Gates with the patterns of the requests that they guard. -/
structure Gates (Request : Type) where
  entries : List (Pattern × Gate Request)

namespace Gates

/-- Builds the gate of a pattern. -/
def buildEntry (hooks : Hooks Request) (payTo : String) (p : Pattern) :
    Except Failure (Pattern × Gate Request) :=
  (Gate.build hooks payTo p.config p.verb.method?).map (fun g => (p, g))

/-- Builds the gates of routes. All patterns are compiled before a gate is built, and the gates
are built in the order of the table. -/
def build (hooks : Hooks Request) (payTo : String) (routes : Routes) :
    Except Failure (Gates Request) := do
  let patterns ← routes.compile.mapError Failure.setup
  let entries ← patterns.mapM (buildEntry hooks payTo)
  return ⟨entries⟩

/-- The patterns in order. -/
def patterns (gates : Gates Request) : List Pattern :=
  gates.entries.map Prod.fst

/-- The gate that guards a path and a method, if one does. -/
def find? (gates : Gates Request) (path method : String) : Option (Gate Request) :=
  (gates.entries.find? (fun (p, _) => p.fits path method)).map Prod.snd

end Gates

end Tollgate.Gate
