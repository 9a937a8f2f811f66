/-!
# JSON values

Objects keep the order of their fields.
-/

namespace PropertyQuote

/-- A JSON value.  Whole numbers are kept apart from those with a fraction or an exponent. -/
inductive Json where
  | null
  | bool (b : Bool)
  | int (n : Int)
  | float (x : Float)
  | str (s : String)
  | arr (items : List Json)
  | obj (fields : List (String × Json))

namespace Json

/-- The value of a field of an object. -/
def field? (name : String) : Json → Option Json
  | obj fields => (fields.find? (·.1 == name)).map (·.2)
  | _ => none

/-- Sets a field: a name that is already there keeps its place and gets the new value. -/
def setField (name : String) (value : Json) : List (String × Json) → List (String × Json)
  | [] => [(name, value)]
  | (n, v) :: rest =>
    if n == name then (n, value) :: rest else (n, v) :: setField name value rest

mutual

/-- Whether a number in a value is infinite or none at all. -/
def isEndless : Json → Bool
  | float x => x.isNaN || x.isInf
  | arr items => anyEndless items
  | obj fields => anyFieldEndless fields
  | _ => false

/-- `isEndless` for some items. -/
def anyEndless : List Json → Bool
  | [] => false
  | item :: rest => item.isEndless || anyEndless rest

/-- `isEndless` for some fields. -/
def anyFieldEndless : List (String × Json) → Bool
  | [] => false
  | (_, value) :: rest => value.isEndless || anyFieldEndless rest

end

end Json

end PropertyQuote
