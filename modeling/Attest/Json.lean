import Attest.Double
import Attest.Table

/-!
# JSON values

A number is an integer of at most 64 bits or a double; the two kinds are never
equal.  An object lists its members.  A document may repeat a member's name;
`settle` keeps the last value of each name at the place of the first, in every
object of the value, and the values that tokens and keys are made of are
settled ones.
-/

namespace Attest

/-- A JSON value. -/
inductive Json where
  | null
  | bool (value : Bool)
  | int (value : Int)
  | float (value : Double)
  | string (value : String)
  | array (items : List Json)
  | object (members : List (String × Json))
  deriving Repr, Inhabited

namespace Json

mutual

/-- Keep the last value of every repeated member at the place of the first. -/
def settle : Json → Json
  | .array items => .array (settleItems items)
  | .object members => .object (Table.ofEntries (settleMembers members))
  | other => other

/-- Settle every item of a list. -/
def settleItems : List Json → List Json
  | [] => []
  | item :: rest => settle item :: settleItems rest

/-- Settle the value of every member. -/
def settleMembers : List (String × Json) → List (String × Json)
  | [] => []
  | (name, value) :: rest => (name, settle value) :: settleMembers rest

end

mutual

/-- Equality of values: members count as a set, doubles as numbers. -/
def same : Json → Json → Bool
  | .null, .null => true
  | .bool a, .bool b => a == b
  | .int a, .int b => a == b
  | .float a, .float b => a.sameNumber b
  | .string a, .string b => a == b
  | .array as, .array bs => sameItems as bs
  | .object as, .object bs => as.length == bs.length && sameMembers as bs
  | _, _ => false

/-- Equality of lists, item by item. -/
def sameItems : List Json → List Json → Bool
  | [], [] => true
  | a :: as, b :: bs => same a b && sameItems as bs
  | _, _ => false

/-- Whether every member is found, with an equal value, among others. -/
def sameMembers : List (String × Json) → List (String × Json) → Bool
  | [], _ => true
  | (name, a) :: rest, others =>
      (match Table.find? name others with
        | some b => same a b
        | none => false) && sameMembers rest others

end

/-- Whether the value is `null`. -/
def isNull : Json → Bool
  | .null => true
  | _ => false

/-- The text of a string value. -/
def string? : Json → Option String
  | .string text => some text
  | _ => none

/-- The integer of an integer value. -/
def int? : Json → Option Int
  | .int i => some i
  | _ => none

/-- The members of an object. -/
def object? : Json → Option (List (String × Json))
  | .object members => some members
  | _ => none

/-- The member of an object with the given name. -/
def member? (name : String) : Json → Option Json
  | .object members => Table.find? name members
  | _ => none

/-- The items of an array of strings. -/
def strings? : Json → Option (List String)
  | .array items => items.mapM string?
  | _ => none

end Json

end Attest
