/-! # JSON values

A document as a tree. Whole numbers and fractions are kept apart, and an object lists its members
in the order in which their keys first appear; what is read from a text never repeats a key.
-/
namespace AutomatonChart

inductive Json.Number where
  | integer (value : Int)
  | fraction (value : Float)

inductive Json where
  | null
  | bool (value : Bool)
  | number (value : Json.Number)
  | string (value : String)
  | array (items : List Json)
  | object (members : List (String × Json))

namespace Json

instance : Inhabited Json := ⟨.null⟩

def isObject : Json → Bool
  | .object _ => true
  | _ => false

def string? : Json → Option String
  | .string s => some s
  | _ => none

def members : Json → List (String × Json)
  | .object ms => ms
  | _ => []

def member? (v : Json) (key : String) : Option Json := v.members.lookup key

end Json
end AutomatonChart
