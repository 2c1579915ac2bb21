import CatalogCache.Keyed

/-!
# The environment

The variables of a process: texts under names. Not every text can be a name or a value. A
name must not be empty and must not hold an equals sign, and neither a name nor a value can
hold the character that ends texts in the operating system.
-/

namespace CatalogCache

/-- Values of variables under their names. -/
abbrev Environment := Table String String

/-- Why a variable cannot be set. -/
inductive BindError where
  /-- The name or the value holds a NUL. -/
  | embeddedNul
  /-- The name holds an equals sign. -/
  | illegalName
  | emptyName
  deriving DecidableEq, Repr

def BindError.message : BindError → String
  | .embeddedNul => "embedded null byte"
  | .illegalName => "illegal environment variable name"
  | .emptyName => "[Errno 22] Invalid argument"

namespace Environment

/-- What is wrong with a name and a value, if anything is. -/
def bindError? (name value : String) : Option BindError :=
  if name.toList.contains '\x00' || value.toList.contains '\x00' then some .embeddedNul
  else if name.toList.contains '=' then some .illegalName
  else if name.isEmpty then some .emptyName
  else none

/-- Sets a variable. -/
def bind (env : Environment) (name value : String) : Except BindError Environment :=
  match bindError? name value with
  | some error => .error error
  | none => .ok (env.insert name value)

end Environment

end CatalogCache
