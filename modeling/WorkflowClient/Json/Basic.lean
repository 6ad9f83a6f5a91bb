import WorkflowClient.Dictionary
import WorkflowClient.Number.Binary64

/-!
# JSON values

A value is null, a truth value, a number, a text, a list or an object. Numbers without fraction and exponent
are integers; all others are floating-point numbers. The members of an object form a dictionary.

A value is *ordered* when the keys of each of its objects ascend: this is how objects come out of
reading and of writing entries. It is *whole* when its numbers are integers of 64 bits, signed or
unsigned. Its depth is the number of lists and objects around its innermost part, itself included.
-/

namespace WorkflowClient

/-- A JSON number. -/
inductive Json.Number where
  | integer (value : Int)
  | float (value : Binary64)
deriving DecidableEq, Repr

/-- A JSON value. -/
inductive Json where
  | null
  | bool (value : Bool)
  | number (value : Json.Number)
  | string (value : String)
  | list (items : List Json)
  | object (members : List (String × Json))
deriving Repr, Inhabited

namespace Json

/-- The least integer that is kept as an integer, `-2 ^ 63`. -/
def leastInteger : Int := -0x8000000000000000

/-- The greatest integer that is kept as an integer, `2 ^ 64 - 1`. -/
def greatestInteger : Int := 0xffffffffffffffff

/-- An integer of 64 bits, signed or unsigned. -/
def Number.IsWhole : Number → Prop
  | .integer value => leastInteger ≤ value ∧ value ≤ greatestInteger
  | .float _ => False

mutual

/-- The keys of every object within the value ascend. -/
def Ordered : Json → Prop
  | .list items => AllOrdered items
  | .object members => Dictionary.Ascending members ∧ MembersOrdered members
  | _ => True

/-- Every item is ordered. -/
def AllOrdered : List Json → Prop
  | [] => True
  | item :: rest => Ordered item ∧ AllOrdered rest

/-- Every member's value is ordered. -/
def MembersOrdered : List (String × Json) → Prop
  | [] => True
  | (_, value) :: rest => Ordered value ∧ MembersOrdered rest

end

mutual

/-- Every number within the value is an integer of 64 bits. -/
def Whole : Json → Prop
  | .number value => value.IsWhole
  | .list items => AllWhole items
  | .object members => MembersWhole members
  | _ => True

/-- Every item is whole. -/
def AllWhole : List Json → Prop
  | [] => True
  | item :: rest => Whole item ∧ AllWhole rest

/-- Every member's value is whole. -/
def MembersWhole : List (String × Json) → Prop
  | [] => True
  | (_, value) :: rest => Whole value ∧ MembersWhole rest

end

mutual

/-- How many lists and objects are open at the innermost part. -/
def depth : Json → Nat
  | .list items => depthOfItems items + 1
  | .object members => depthOfMembers members + 1
  | _ => 0

/-- The greatest depth of an item. -/
def depthOfItems : List Json → Nat
  | [] => 0
  | item :: rest => max (depth item) (depthOfItems rest)

/-- The greatest depth of a member's value. -/
def depthOfMembers : List (String × Json) → Nat
  | [] => 0
  | (_, value) :: rest => max (depth value) (depthOfMembers rest)

end

/-- The members of an object; other values have none. -/
def members? : Json → Option (Dictionary Json)
  | .object members => some members
  | _ => none

/-- The content of a text; other values have none. -/
def string? : Json → Option String
  | .string value => some value
  | _ => none

/-- The value of a key of an object. -/
def get? (value : Json) (key : String) : Option Json := value.members?.bind (·.find? key)

/-- An integer as a value. -/
def integer (value : Int) : Json := .number (.integer value)

end Json

end WorkflowClient
