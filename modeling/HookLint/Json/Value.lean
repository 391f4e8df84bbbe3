import HookLint.Number.Double

/-!
JSON values. The members of an object that was read are in ascending order of their keys, each key once.
-/
namespace HookLint.Json

open HookLint.Number

inductive Number where
  | natural (n : Nat)
  /-- The number `-n`. -/
  | negative (n : Nat)
  | real (negative : Bool) (size : Double)
deriving DecidableEq, Repr, Inhabited

inductive Value where
  | null
  | bool (b : Bool)
  | number (n : Number)
  | string (s : String)
  | array (items : List Value)
  | object (members : List (String × Value))

instance : Inhabited Value := ⟨.null⟩

abbrev Members := List (String × Value)

inductive Kind where
  | null
  | boolean
  | number
  | string
  | array
  | object
deriving DecidableEq, Repr

def Kind.name : Kind → String
  | null => "null"
  | boolean => "boolean"
  | number => "number"
  | string => "string"
  | array => "array"
  | object => "object"

def Value.kind : Value → Kind
  | null => .null
  | bool _ => .boolean
  | number _ => .number
  | string _ => .string
  | array _ => .array
  | object _ => .object

/-- Puts a member in its place. The last value of a key wins. -/
def insert (key : String) (value : Value) : Members → Members
  | [] => [(key, value)]
  | (k, v) :: ms =>
    if key < k then (key, value) :: (k, v) :: ms
    else if key = k then (key, value) :: ms
    else (k, v) :: insert key value ms

def lookup (key : String) : Members → Option Value
  | [] => none
  | (k, v) :: ms => if key = k then some v else lookup key ms

end HookLint.Json
