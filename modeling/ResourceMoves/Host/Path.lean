/-!
# Paths

Paths as texts, with slashes between their parts.  A part that is a single dot, or nothing, says
nothing; the parent of a path is what stands before its last part that says something.
-/

namespace ResourceMoves.Path

/-- The path of `part` seen from `base`.  An absolute part stays as it is. -/
def join (base part : String) : String :=
  match part.toList.head?, base.toList.getLast? with
  | some '/', _        => part
  | _,        none     => part
  | _,        some '/' => base ++ part
  | _,        some _   => base ++ "/" ++ part

/-- A path in reverse, without the slashes and single dots at its end.  The slash of the root stays,
and so does a dot that is the whole path. -/
def stripped : List Char → List Char
  | ['/']            => ['/']
  | '/' :: r         => stripped r
  | '.' :: '/' :: r  => stripped ('/' :: r)
  | r                => r

/-- The parent of a path; the root and the empty path have none. -/
def parent? (p : String) : Option String :=
  match stripped p.toList.reverse with
  | []    => none
  | ['/'] => none
  | r     =>
      match r.dropWhile (· != '/') with
      | []    => some ""
      | above => some (.ofList (stripped above).reverse)

/-- A path and the paths above it, the nearest first; there are at most `fuel`. -/
def upward : (fuel : Nat) → String → List String
  | 0, _ => []
  | fuel + 1, p => p :: (parent? p).elim [] (upward fuel)

/-- A path and all paths above it, the nearest first. -/
def ancestors (p : String) : List String := upward (p.length + 2) p

end ResourceMoves.Path
