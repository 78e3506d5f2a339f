import PageRoutes.Decimal.Binary64
/-!
# JSON values

A JSON value keeps the members of an object in the order of the text. Integers that fit into 64 bits
are kept exactly, and every other number is a floating-point number.
-/

namespace PageRoutes

/-- A number as it is kept after reading. -/
inductive JsonNumber where
  /-- An integer from `0` to `2 ^ 64 - 1`. -/
  | natural (n : Nat)
  /-- The integer `-n`, from `-1` to `-2 ^ 63`. -/
  | negative (n : Nat)
  | float (isNegative : Bool) (magnitude : Binary64)
  deriving DecidableEq, Repr

/-- A JSON value. -/
inductive Json where
  | null
  | bool (b : Bool)
  | number (n : JsonNumber)
  | string (s : String)
  | array (items : List Json)
  | object (members : List (String × Json))
  deriving Repr

namespace Json

/-- Adds a member to an object. A key that is already there keeps its place and takes the new
value. -/
def insertMember (key : String) (value : Json) : List (String × Json) → List (String × Json)
  | [] => [(key, value)]
  | (k, v) :: rest =>
    if k = key then (k, value) :: rest else (k, v) :: insertMember key value rest

end Json

end PageRoutes
