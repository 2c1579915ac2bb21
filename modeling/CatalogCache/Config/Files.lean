import CatalogCache.Bytes
import CatalogCache.Keyed
import CatalogCache.Text.Path
import CatalogCache.Text.Quoted

/-!
# Files

A process runs in a folder and reaches files by paths that start there. A path is followed
segment by segment, and each segment but the last has to lead to a folder. So a step into a
folder that is not there and back again leads nowhere, although it is a way round to where it
started.

Folders are those that files are in. Of what is outside the folder of the process, only the
folders above it are known to be there.
-/

namespace CatalogCache

/-- The contents of files, each under the segments that lead to it. -/
abbrev Files := Table (List (List Char)) Bytes

/-- Why a path cannot be read, other than that it leads nowhere. -/
inductive ReachError where
  | isFolder (path : String)
  /-- It is longer than a path may be, or a segment of it is. -/
  | tooLong (path : String)
  deriving DecidableEq, Repr

def ReachError.message : ReachError → String
  | .isFolder path => "[Errno 21] Is a directory: " ++ Text.quoted path
  | .tooLong path => "[Errno 36] File name too long: " ++ Text.quoted path

namespace Files

/-- The segment that stands for the root. -/
def rootSegment : List Char := ['/']

/-- The segment that leads to the folder above. -/
def above : List Char := ['.', '.']

/-- The segments of a path, the root among them. -/
def route (path : String) : List (List Char) :=
  let segments := Text.Path.segments path.toList
  if (Text.Path.root path.toList).isEmpty then segments else rootSegment :: segments

/-- The place above a place. Above the root is the root. -/
def up (place : List (List Char)) : List (List Char) :=
  match place.getLast? with
  | none => [above]
  | some last =>
    if last = above then place ++ [above]
    else if last = rootSegment then place
    else place.dropLast

/-- The place that segments lead to if all folders on the way are there. -/
def placeOf (segments : List (List Char)) : List (List Char) :=
  segments.foldl (fun place segment => if segment = above then up place else place ++ [segment]) []

/-- Writes a file, with the folders on the way to it. -/
def write (files : Files) (path : String) (content : Bytes) : Files :=
  files.insert (placeOf (route path)) content

/-- Whether there is a folder at a place. -/
def hasFolder (files : Files) (place : List (List Char)) : Bool :=
  place.all (· == above) || place == [rootSegment] ||
    files.keys.any fun other => place.length < other.length && place.isPrefixOf other

/-- What a path leads to. -/
inductive Found where
  | nothing
  | folder
  | file (content : Bytes)
  /-- Nothing, for a segment on the way is too long for a name. -/
  | tooLong
  deriving DecidableEq, Repr

/-- How many bytes the name of a file or folder may have. -/
def maxName : Nat := 255

/-- How many bytes a path may have. -/
def maxPath : Nat := 4095

/-- What segments lead to from a folder. -/
def follow (files : Files) (place : List (List Char)) : List (List Char) → Found
  | [] => .folder
  | segment :: rest =>
    if segment = above then follow files (up place) rest
    else if maxName < (String.ofList segment).utf8ByteSize then .tooLong
    else
      let next := place ++ [segment]
      match files.find? next with
      | some content => if rest.isEmpty then .file content else .nothing
      | none => if files.hasFolder next then follow files next rest else .nothing

/-- The content of the file that a path leads to, if it leads to anything. No path with a NUL
does. -/
def read (files : Files) (path : String) : Except ReachError (Option Bytes) :=
  let normal := Text.Path.normal path
  if path.toList.contains '\x00' then .ok none
  else if maxPath < normal.utf8ByteSize then .error (.tooLong normal)
  else
    match files.follow [] (route path) with
    | .nothing => .ok none
    | .folder => .error (.isFolder normal)
    | .file content => .ok (some content)
    | .tooLong => .error (.tooLong normal)

end Files

end CatalogCache
