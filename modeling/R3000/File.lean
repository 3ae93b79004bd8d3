/-!
Files: what is found at a path.
-/

namespace R3000

/-- What is found at a path. -/
inductive FileContent where
  | missing
  | unreadable
  | bytes (contents : ByteArray)

end R3000
