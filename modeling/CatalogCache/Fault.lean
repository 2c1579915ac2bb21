/-!
# Faults

A fault is a failure below the service that no part of it answers for: it ends whatever was
going on. What was done up to then stays done.
-/

namespace CatalogCache

/-- A failure that is passed on as it is. -/
inductive Fault where
  /-- The operating system refused something. -/
  | system (message : String)
  /-- Something that should not happen did. -/
  | internal (message : String)
  /-- Two things of different kinds were compared. -/
  | incomparable (message : String)
  deriving DecidableEq, Repr

def Fault.message : Fault → String
  | .system message | .internal message | .incomparable message => message

end CatalogCache
