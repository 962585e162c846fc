import LeakcheckHub.Foundation.PyText
import Mathlib.Data.Int.Notation

/-!
# JSON values

What `json.loads` returns and a `JSONB` column is given: an object is a Python
`dict`, its keys in insertion order. A float is its bit pattern; nothing here
computes with it.
-/

namespace LeakcheckHub.Foundation

inductive Json where
  | null
  | bool (b : Bool)
  | int (n : ℤ)
  | float (bits : BitVec 64)
  | str (s : PyStr)
  | arr (items : List Json)
  | obj (entries : List (PyStr × Json))

end LeakcheckHub.Foundation
