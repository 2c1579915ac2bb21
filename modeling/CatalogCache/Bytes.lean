/-!
# Byte strings

Documents, request bodies and files are byte strings. They are kept as plain lists of
bytes, so that what a codec does to them can be said by recursion on the list.
-/

namespace CatalogCache

/-- A byte string: its bytes in order. -/
abbrev Bytes := List UInt8

end CatalogCache
