import CatalogCache.Text

/-!
# Log records

What the service reports while it works: records with a level, the name of the part that
speaks, and a message. A pure operation returns the records it emits, in order; the outer
layer decides where they go.
-/

namespace CatalogCache

/-- How much a record matters. -/
inductive Level where
  | debug
  | info
  | warning
  | error
  deriving DecidableEq, Repr

namespace Level

/-- The levels from the least to the greatest. -/
def all : List Level := [.debug, .info, .warning, .error]

/-- The place of a level among the levels. -/
def rank : Level → Nat
  | .debug => 0
  | .info => 1
  | .warning => 2
  | .error => 3

def name : Level → String
  | .debug => "DEBUG"
  | .info => "INFO"
  | .warning => "WARNING"
  | .error => "ERROR"

end Level

/-- One report. -/
@[ext] structure Record where
  level : Level
  /-- The part of the service that speaks. -/
  logger : String
  message : Text
  deriving DecidableEq, Repr

/-- Reports in the order in which they were made. -/
abbrev Log := List Record

end CatalogCache
