import Mathlib.Algebra.Order.Field.Rat
import IndustrialReliability.Lib.Table
import IndustrialReliability.Runtime.Ids

/-!
The numbers of the virtual lab and the text of its JSON.

The simulator computes with doubles and hands its linear systems to
`numpy.linalg.solve`. Both enter through `LabNumber`: what is said for any such type
holds whatever rounding the arithmetic does. The exact numbers of an ordered field
are another instance, with the solution by Cramer's rule.
-/

namespace IndustrialReliability

class LabNumber (R : Type) extends Add R, Sub R, Mul R, Div R, LT R, LE R where
  decidableLT : ∀ a b : R, Decidable (a < b)
  decidableLE : ∀ a b : R, Decidable (a ≤ b)
  /-- A literal. -/
  num : ℚ → R
  isFinite : R → Bool
  repr : R → String
  /-- `np.linalg.solve`; `none` is a `LinAlgError`. -/
  solve : (size : Nat) → (Nat → Nat → R) → (Nat → R) → Option (Nat → R)
  /-- `np.sum`. -/
  sum : List R → R
  /-- The normal sample of two 64-bit integers. -/
  boxMuller : Nat → Nat → R

export LabNumber (num)

namespace LabNumber

variable {R : Type} [LabNumber R]

instance (a b : R) : Decidable (a < b) := decidableLT a b

instance (a b : R) : Decidable (a ≤ b) := decidableLE a b

/-- `min(a, b)`. -/
def pyMin (a b : R) : R := if b < a then b else a

/-- `max(a, b)`. -/
def pyMax (a b : R) : R := if a < b then b else a

/-- `abs(a)`. -/
def pyAbs (a : R) : R := if a < num 0 then num 0 - a else a

/-- `a == b`. -/
def pyEq (a b : R) : Bool := decide (a ≤ b ∧ b ≤ a)

/-- `low <= a <= high`. -/
def between (low : ℚ) (a : R) (high : ℚ) : Bool := decide (num low ≤ a ∧ a ≤ num high)

end LabNumber

/-- A value of type `float | bool`. -/
inductive ParamValue (R : Type) where
  | number (value : R)
  | flag (value : Bool)

namespace ParamValue

variable {R : Type} [LabNumber R]

/-- `float(value)`. -/
def toFloat : ParamValue R → R
  | number value => value
  | flag value => if value then num 1 else num 0

/-- `bool(value)`. -/
def toBool : ParamValue R → Bool
  | number value => !LabNumber.pyEq value (num 0)
  | flag value => value

/-- `str(value)`. -/
def str : ParamValue R → String
  | number value => LabNumber.repr value
  | flag value => if value then "True" else "False"

/-- `isinstance(value, bool)`. -/
def isBool : ParamValue R → Bool
  | number _ => false
  | flag _ => true

end ParamValue

/-! ### Canonical JSON -/

namespace Json

/-- `separators=(",", ":")`. -/
def array (items : List String) : String := "[" ++ ",".intercalate items ++ "]"

/-- The members in the order of their keys. -/
def object (members : List (String × String)) : String :=
  "\x7b" ++ ",".intercalate (members.map fun (key, value) => "\"" ++ key ++ "\":" ++ value) ++ "\x7d"

/-- The characters as `ensure_ascii` writes them. -/
def escaped (text : String) : String := String.ofList (text.toList.flatMap Lib.JsonText.escape)

def string (text : String) : String := "\"" ++ escaped text ++ "\""

def uuid (id : UUID) : String := "\"" ++ id.str ++ "\""

def bool (value : Bool) : String := if value then "true" else "false"

def option {α : Type} (text : α → String) : Option α → String
  | some value => text value
  | none => "null"

end Json

end IndustrialReliability
