import CatalogCache.Config.Environment
import CatalogCache.Config.Files
import CatalogCache.Encoding.Utf8Defect
import CatalogCache.Text.Blank
import CatalogCache.Text.Lines

/-!
# Environment files

A file can supply variables: each line `NAME=value` is one. Blank space around the name and
around the value does not count, nor does one pair of quotes around the value. Blank lines,
lines that begin with a number sign and lines without an equals sign are passed over.

A variable that is set already keeps its value, so the process wins over the file and an
earlier line over a later one. A line that cannot be set ends the reading; the lines before
it stay in force.

A file is read once: after a reading that went through to the end, further ones do nothing.
-/

namespace CatalogCache

namespace DotEnv

/-- A text without the quotes around it. -/
def unquote (cs : List Char) : List Char :=
  match cs with
  | mark :: rest =>
    -- a lone quote is a value, not a pair of quotes
    if (mark = '\'' ∨ mark = '"') ∧ rest.getLast? = some mark then rest.dropLast else cs
  | [] => []

/-- The variable that a line sets. -/
def pair? (line : List Char) : Option (String × String) :=
  let text := Text.trim line
  if text.head? = some '#' then none
  else
    match text.dropWhile (· != '=') with
    | [] => none
    | _ :: value =>
      some (String.ofList (Text.trim (text.takeWhile (· != '='))),
        String.ofList (unquote (Text.trim value)))

/-- The variables that a text sets, in order. -/
def pairs (text : List Char) : List (String × String) := (Text.lines text).filterMap pair?

/-- Why a file cannot be read to its end. -/
inductive LoadError where
  /-- The file is not UTF-8. -/
  | notText (defect : Utf8.Defect)
  /-- A variable cannot be set. -/
  | refused (cause : BindError)
  deriving DecidableEq, Repr

def LoadError.message : LoadError → String
  | .notText defect => defect.message
  | .refused cause => cause.message

/-- Sets variables in order, as far as they are not set already and up to the first that
cannot be set. -/
def bindAll (env : Environment) : List (String × String) → Environment × Option BindError
  | [] => (env, none)
  | (name, value) :: rest =>
    -- a name that is set is not looked at again, so it cannot be refused either
    if env.contains name then bindAll env rest
    else
      match Environment.bind env name value with
      | .ok env => bindAll env rest
      -- the pairs in front of it stay set
      | .error cause => (env, some cause)

/-- Sets the variables of a file. -/
def load (env : Environment) (file : Bytes) : Environment × Option LoadError :=
  match Utf8.defect? file with
  | some defect => (env, some (.notText defect))
  | none =>
    match bindAll env (pairs (Utf8.decodeLossy file)) with
    | (env, cause) => (env, cause.map .refused)

end DotEnv

/-- The variables of a process, and whether a file was read into them. -/
@[ext] structure Variables where
  environment : Environment
  /-- Whether a file was read to its end, or found missing. -/
  fileRead : Bool

namespace Variables

/-- Reads a file into the variables, if none was read yet. A missing file counts as read. -/
def load (vars : Variables) (file : Option Bytes) : Variables × Option DotEnv.LoadError :=
  if vars.fileRead then (vars, none)
  else
    match file with
    | none => (⟨vars.environment, true⟩, none)
    | some bytes =>
      match DotEnv.load vars.environment bytes with
      | (environment, error) => (⟨environment, error.isNone⟩, error)

/-- Reads the file that a path leads to into the variables, if none was read yet. -/
def loadAt (vars : Variables) (files : Files) (path : String) :
    Except ReachError (Variables × Option DotEnv.LoadError) :=
  if vars.fileRead then .ok (vars, none)
  else
    match files.read path with
    | .error error => .error error
    | .ok file => .ok (vars.load file)

end Variables

end CatalogCache
