import DocPress.Text.Blank

namespace DocPress

inductive Json where
  | null
  | bool (b : Bool)
  | int (i : Int)
  | real (x : Float)
  | string (t : Text)
  | array (items : List Json)
  | object (members : List (Text × Json))
deriving Inhabited

namespace Json

/-- Puts a value under a key: in its place if the key is there, at the end if not. -/
def put (key : Text) (value : Json) : List (Text × Json) → List (Text × Json)
  | [] => [(key, value)]
  | (k, v) :: rest => if k = key then (k, value) :: rest else (k, v) :: put key value rest

def get? (members : List (Text × Json)) (key : Text) : Option Json := members.lookup key

/-- A value counts as empty when it is null, false, zero or has nothing in it. -/
def isEmpty : Json → Bool
  | null => true
  | bool b => !b
  | int i => i == 0
  | real x => x == 0
  | string t => t.isEmpty
  | array items => items.isEmpty
  | object members => members.isEmpty

end Json

end DocPress
