/-
  File:      Gem5Sc/Json.lean
  Subject:   JSON values and the accesses of `nlohmann::json` the program makes, with their
             exceptions.

  Every number the program reads from a configuration is converted to an integer, so a number is
  an integer here. The accesses follow the documented ones: `[]` and `value` on a value that is
  no object, and a conversion to the wrong type, throw `type_error`; a range-for runs over the
  elements of an array, the values of an object, nothing for null, and the value itself otherwise.
-/
import Mathlib.Algebra.Order.Ring.Int
import Mathlib.Data.List.Basic

namespace Gem5Sc

inductive Json where
  | null
  | bool (b : Bool)
  | num (n : Int)
  | str (s : String)
  | arr (xs : List Json)
  | obj (kvs : List (String × Json))
  deriving Repr, Inhabited

/-- How the construction of a system can end early. -/
inductive ConfigError where
  /-- `nlohmann::json::type_error`. -/
  | typeError
  /-- `nlohmann::json::parse_error`. -/
  | parseError
  /-- `std::runtime_error("Cannot open config file: ..")`. -/
  | cannotOpen
  /-- A member function is called through a null pointer. -/
  | nullCall
  /-- The recursion is deeper than the fuel. -/
  | outOfFuel
  deriving DecidableEq, Repr

namespace Json

/-- The member `k` of an object. -/
def field? (j : Json) (k : String) : Option Json :=
  match j with
  | .obj kvs => kvs.lookup k
  | _ => none

/-- `j.contains(k)`. -/
def contains (j : Json) (k : String) : Bool := (j.field? k).isSome

/-- What `for (auto& x : j)` runs over. -/
def elems : Json → List Json
  | .null => []
  | .arr xs => xs
  | .obj kvs => kvs.map Prod.snd
  | j => [j]

/-- What `for (auto& [key, value] : j.items())` runs over. -/
def items : Json → List (String × Json)
  | .null => []
  | .arr xs => xs.mapIdx fun i x => (toString i, x)
  | .obj kvs => kvs
  | j => [("", j)]

/-- The conversion to `std::string`. -/
def asString : Json → Except ConfigError String
  | .str s => .ok s
  | _ => .error .typeError

/-- The conversion to an integer type narrower than the ones the library stores, before the value
    is cut to its width. A boolean counts as a number here. -/
def asInteger : Json → Except ConfigError Int
  | .num n => .ok n
  | .bool b => .ok (if b then 1 else 0)
  | _ => .error .typeError

/-- The conversion to `int`. -/
def asInt (j : Json) : Except ConfigError Int := do
  let n ← j.asInteger
  return n.bmod (2 ^ 32)

/-- The conversion to `size_t`, which is the type the library itself stores unsigned numbers in:
    `from_json` for `number_unsigned_t` takes numbers only. -/
def asSize : Json → Except ConfigError Nat
  | .num n => .ok (n % 2 ^ 64).toNat
  | _ => .error .typeError

/-- `std::string s = j[k]`. -/
def stringAt (j : Json) (k : String) : Except ConfigError String :=
  match j.field? k with
  | some v => v.asString
  | none => .error .typeError

/-- The value `j.value(k, d)` returns before its conversion. -/
def valueOr (j : Json) (k : String) (d : Json) : Except ConfigError Json :=
  match j with
  | .obj kvs => .ok ((kvs.lookup k).getD d)
  | _ => .error .typeError

/-- `j.value(k, d)` for an `int` `d`. -/
def valueInt (j : Json) (k : String) (d : Int) : Except ConfigError Int := do
  let v ← j.valueOr k (.num d)
  v.asInt

/-- `j.value(k, d)` for a string `d`. -/
def valueString (j : Json) (k : String) (d : String) : Except ConfigError String := do
  let v ← j.valueOr k (.str d)
  v.asString

/-- `for (auto& x : j[k])`; a missing member is created as null. -/
def elemsAt (j : Json) (k : String) : Except ConfigError (List Json) :=
  match j with
  | .obj kvs => .ok (((kvs.lookup k).getD .null).elems)
  | .null => .ok []
  | _ => .error .typeError

/-- The same under `if (j.contains(k))`. -/
def elemsIf (j : Json) (k : String) : List Json := ((j.field? k).getD .null).elems

theorem contains_of_stringAt {j : Json} {k s : String} (h : j.stringAt k = .ok s) :
    j.contains k = true := by
  unfold stringAt at h
  unfold contains
  cases hf : j.field? k with
  | none => rw [hf] at h; cases h
  | some v => rfl

/-- A `for` over a member of an object runs over its elements. -/
theorem elemsIf_of_elemsAt {j : Json} {k : String} {xs : List Json} (h : j.elemsAt k = .ok xs) :
    j.elemsIf k = xs := by
  cases j with
  | obj kvs => cases h; rfl
  | null => cases h; rfl
  | _ => cases h

end Json

end Gem5Sc
