import CatalogCache.Text.Fields

/-!
# File paths

A path is a row of segments with slashes between them. Two spellings lead to the same file
when they differ in doubled slashes, slashes at the end and segments that are one point. Two
slashes in front are not the same as one, three or more are.

`normal` drops what makes no difference. `resolved` also takes away each segment that a
segment of two points after it leaves again.
-/

namespace CatalogCache.Text.Path

/-- The slashes in front of a path that make a difference. -/
def root : List Char → List Char
  | '/' :: '/' :: '/' :: _ => ['/']
  | '/' :: '/' :: _ => ['/', '/']
  | '/' :: _ => ['/']
  | _ => []

/-- The segments of a path that make a difference. -/
def segments (path : List Char) : List (List Char) :=
  (fields '/' path).filter fun segment => segment != [] && segment != ['.']

/-- The path of some segments. A path without any is a point. -/
def ofSegments (root : List Char) (segments : List (List Char)) : String :=
  let path := root ++ joinFields '/' segments
  if path.isEmpty then "." else String.ofList path

/-- A path in its shortest spelling. -/
def normal (path : String) : String := ofSegments (root path.toList) (segments path.toList)

/-- Segments with those taken away that are left again. The segments already kept are given
last one first. At the root there is nothing to leave. -/
def leave (atRoot : Bool) : (kept : List (List Char)) → List (List Char) → List (List Char)
  | kept, [] => kept.reverse
  | kept, segment :: rest =>
    if segment = ['.', '.'] then
      match kept with
      | [] => leave atRoot (if atRoot then [] else [segment]) rest
      | last :: before =>
        if last = ['.', '.'] then leave atRoot (segment :: last :: before) rest
        else leave atRoot before rest
    else leave atRoot (segment :: kept) rest

/-- A path in its shortest spelling without steps back. -/
def resolved (path : String) : String :=
  let start := root path.toList
  ofSegments start (leave (!start.isEmpty) [] (segments path.toList))

end CatalogCache.Text.Path
