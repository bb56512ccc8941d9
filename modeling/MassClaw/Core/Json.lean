import Mathlib.Data.Rat.Defs
import Mathlib.Tactic.Common

/-!
# JSON values as Python holds them

`Json` is the type of a decoded JSON document (`json.loads`), of a JSONB
column, and of the free-form dictionaries the services pass around.  A float
is an exact rational or one of the special values that Python's decoder also
accepts; a dictionary is its list of entries in insertion order.
-/

namespace MassClaw

/-- A Python `float`: a finite value or one of the special values. -/
inductive PyFloat
  | finite (q : ℚ)
  | nan
  | infinite (negative : Bool)
  deriving DecidableEq

namespace PyFloat

/-- `x <= y` on floats.  Every comparison with `nan` is false. -/
def le : PyFloat → PyFloat → Bool
  | finite a, finite b => decide (a ≤ b)
  | nan, _ => false
  | _, nan => false
  | infinite true, _ => true
  | _, infinite false => true
  | _, _ => false

@[simp] theorem le_finite (a b : ℚ) : le (finite a) (finite b) = decide (a ≤ b) := rfl

end PyFloat

inductive Json
  | null
  | bool (b : Bool)
  | int (n : Int)
  | float (x : PyFloat)
  | str (s : String)
  | list (items : List Json)
  | dict (entries : List (String × Json))

namespace Json

/-- `bool(value)`: what Python's `or`, `if` and `and` look at. -/
def truthy : Json → Bool
  | null => false
  | bool b => b
  | int n => n ≠ 0
  | float (.finite q) => q ≠ 0
  | float _ => true
  | str s => s ≠ ""
  | list items => !items.isEmpty
  | dict entries => !entries.isEmpty

/-- `a or b`. -/
def or (a b : Json) : Json := if a.truthy then a else b

/-- `d.get(key, default)` on the entries of a dictionary. -/
def getD (entries : List (String × Json)) (key : String) (default : Json) : Json :=
  ((entries.find? (fun entry => entry.1 == key)).map Prod.snd).getD default

/-- `d.get(key)`. -/
def lookup (entries : List (String × Json)) (key : String) : Json := getD entries key .null

/-- The string a JSON string holds. -/
def asString? : Json → Option String
  | str s => some s
  | _ => none

@[simp] theorem asString?_str (s : String) : (str s).asString? = some s := rfl

/-- The value of a finite number; `True` and `False` count as 1 and 0. -/
def number? : Json → Option ℚ
  | bool b => some (if b then 1 else 0)
  | int n => some n
  | float (.finite q) => some q
  | _ => none

mutual

/-- What a JSONB column accepts: no NUL in a text, no NaN and no infinity. -/
def storable : Json → Bool
  | float (.finite _) => true
  | float _ => false
  | str s => !s.toList.contains '\x00'
  | list items => storableItems items
  | dict entries => storableEntries entries
  | _ => true

/-- `storable` on the items of a list. -/
def storableItems : List Json → Bool
  | [] => true
  | item :: rest => storable item && storableItems rest

/-- `storable` on the entries of a dictionary. -/
def storableEntries : List (String × Json) → Bool
  | [] => true
  | (key, value) :: rest =>
    !key.toList.contains '\x00' && storable value && storableEntries rest

end

/-- `str(value)`, with `repr` for floats, lists and dictionaries. -/
def pyStr (repr : Json → String) : Json → String
  | null => "None"
  | bool b => if b then "True" else "False"
  | int n => toString n
  | str s => s
  | value => repr value

end Json

/-! ## Dictionaries with arbitrary keys -/

/-- A key that `dict(value)` can take from a decoded JSON value. -/
inductive DictKey
  | null
  | bool (b : Bool)
  | int (n : Int)
  | float (x : PyFloat)
  | str (s : String)

namespace DictKey

/-- The key as a value. -/
def toJson : DictKey → Json
  | null => .null
  | bool b => .bool b
  | int n => .int n
  | float x => .float x
  | str s => .str s

/-- `a == b` on keys: numbers are compared by value, and no NaN equals another. -/
def same : DictKey → DictKey → Bool
  | null, null => true
  | str s, str t => s == t
  | float (.infinite a), float (.infinite b) => a == b
  | a, b =>
    match a.toJson.number?, b.toJson.number? with
    | some x, some y => x == y
    | _, _ => false

/-- The member name `json.dumps` writes for a key. -/
def jsonName (repr : Json → String) : DictKey → String
  | null => "null"
  | bool b => if b then "true" else "false"
  | float .nan => "NaN"
  | float (.infinite negative) => if negative then "-Infinity" else "Infinity"
  | key => key.toJson.pyStr repr

/-- A key that `str` and `json.dumps` spell differently. -/
def IsKeyword : DictKey → Prop
  | null => True
  | bool _ => True
  | float (.finite _) => False
  | float _ => True
  | _ => False

/-- The two spellings agree on every other key. -/
theorem jsonName_eq_pyStr {repr : Json → String} {key : DictKey} (h : ¬key.IsKeyword) :
    key.jsonName repr = key.toJson.pyStr repr := by
  cases key with
  | null => exact absurd trivial h
  | bool b => exact absurd trivial h
  | int n => rfl
  | float x =>
    cases x with
    | finite q => rfl
    | nan => exact absurd trivial h
    | infinite negative => exact absurd trivial h
  | str s => rfl

end DictKey

namespace Json

/-- A value as a dictionary key; lists and dictionaries are not hashable. -/
def asKey? : Json → Option DictKey
  | null => some .null
  | bool b => some (.bool b)
  | int n => some (.int n)
  | float x => some (.float x)
  | str s => some (.str s)
  | _ => none

/-- An element of the argument of `dict`: anything iterable of length two. -/
def asPair? : Json → Option (DictKey × Json)
  | list [key, value] => key.asKey?.map (fun key => (key, value))
  | str s =>
    match s.toList with
    | [a, b] => some (.str (String.singleton a), str (String.singleton b))
    | _ => none
  | dict [(a, _), (b, _)] => some (.str a, str b)
  | _ => none

/-- The assignment `d[key] = value` on such a dictionary. -/
def assignKey (entries : List (DictKey × Json)) (entry : DictKey × Json) :
    List (DictKey × Json) :=
  if entries.any (fun old => old.1.same entry.1) then
    entries.map (fun old => if old.1.same entry.1 then (old.1, entry.2) else old)
  else entries ++ [entry]

/-- `dict(value)`; `none` is the `TypeError` or `ValueError`. -/
def toDict? : Json → Option (List (DictKey × Json))
  | dict entries => some (entries.map (fun entry => (.str entry.1, entry.2)))
  | list items => (items.mapM asPair?).map (fun pairs => pairs.foldl assignKey [])
  | str s => if s = "" then some [] else none
  | _ => none

end Json

end MassClaw
