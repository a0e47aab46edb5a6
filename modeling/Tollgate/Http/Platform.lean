import Tollgate.Http.Request
import Tollgate.Json.Writer

set_option autoImplicit false

/-!
# Platforms

What enforcement is given by its surroundings and has no say in. The framework puts together the
URL of a request. The interpreter has only so many calls left when JSON is read or written, and one
goes into each container that stands inside another.
-/

namespace Tollgate.Http

open Tollgate.Url

/-- What surrounds a program: how the URL of a request is put together, and how deeply values may be
nested in JSON that is read and in JSON that is written. -/
structure Platform where
  url : Request → Except Failure String
  readingDepth : Nat
  writingDepth : Nat

namespace Platform

/-- The path that the URL of a request shows, on which routes are matched. The URL is split for
it again. -/
def shownPath (p : Platform) (r : Request) : Except Failure String := do
  let url ← p.url r
  let path ← (pathOf url.toList).mapError Failure.unsplit
  return String.ofList path

/-- A platform whose URLs are plain, with room for what a stack of a thousand calls leaves. -/
def plain : Platform where
  url := Request.plainUrl
  readingDepth := 960
  writingDepth := 990

/-- The same platform with URLs that are checked. -/
def checked : Platform :=
  { plain with url := Request.checkedUrl }

end Platform

end Tollgate.Http
