import Mathlib.Data.Rat.Defs

/-!
# JSON values

The values of JSON with the accessors a reader of untyped parameters needs. A number is one of
the three kinds that parsers tell apart, and an object keeps the order of its members.
-/

inductive JsonNumber
  | natural (n : Nat)
  | negative (n : Int)
  | decimal (q : ℚ)
deriving DecidableEq

inductive Json
  | null
  | bool (b : Bool)
  | number (n : JsonNumber)
  | string (s : String)
  | array (items : List Json)
  | object (members : List (String × Json))

namespace Json

/-- The member of an object; none if the value is not an object. -/
def get (key : String) : Json → Option Json
  | object members => (members.find? fun entry => entry.1 == key).map (·.2)
  | _ => none

def asStr : Json → Option String
  | string s => some s
  | _ => none

def asBool : Json → Option Bool
  | bool b => some b
  | _ => none

def asNat : Json → Option Nat
  | number (.natural n) => some n
  | _ => none

def ofNat (n : Nat) : Json := number (.natural n)

@[simp] theorem asNat_ofNat (n : Nat) : (ofNat n).asNat = some n := rfl

end Json
