import Mathlib.Data.Int.Cast.Lemmas
import Mathlib.Data.List.Infix
import Mathlib.Data.Rat.Cast.Defs
import MassClaw.Core.Json

/-!
# Python's operators on JSON values

`==`, the four orderings, `in` and `float()`.  Integers and floats are compared
by value, `True` and `False` as 1 and 0; `none` is a `TypeError`.

`float()` rounds an integer to 53 bits, which is what tells a comparison of the
values from one of their floats.  What it reads out of a text is a parameter.
-/

namespace MassClaw

/-- One of `<`, `<=`, `>`, `>=`. -/
inductive Order
  | lt | le | gt | ge
  deriving DecidableEq

namespace Order

/-- What it says of two numbers. -/
def numbers (order : Order) (a b : PyFloat) : Bool :=
  match order with
  | lt => a.le b && !b.le a
  | le => a.le b
  | gt => b.le a && !a.le b
  | ge => b.le a

/-- What it says of two texts, which are ordered by their code points. -/
def texts (order : Order) (s t : String) : Bool :=
  match order with
  | lt => s.toList < t.toList
  | le => ¬t.toList < s.toList
  | gt => t.toList < s.toList
  | ge => ¬s.toList < t.toList

/-- What it says of two lists of which one, or both, have ended. -/
def ends (order : Order) (leftEnded rightEnded : Bool) : Bool :=
  match order with
  | lt => leftEnded && !rightEnded
  | le => leftEnded
  | gt => rightEnded && !leftEnded
  | ge => rightEnded

end Order

namespace Json

/-- `value is None`. -/
def isNull : Json → Bool
  | null => true
  | _ => false

/-- `d[key]`, when the key is there. -/
def get? (entries : List (String × Json)) (key : String) : Option Json :=
  (entries.find? (fun entry => entry.1 == key)).map Prod.snd

theorem lookup_eq (entries : List (String × Json)) (key : String) :
    lookup entries key = (get? entries key).getD .null := rfl

/-- A value of a dictionary is smaller than the dictionary. -/
theorem sizeOf_get?_lt {entries : List (String × Json)} {key : String} {value : Json}
    (h : get? entries key = some value) : sizeOf value < sizeOf entries := by
  obtain ⟨entry, hentry, heq⟩ := Option.map_eq_some_iff.1 h
  have hmem : sizeOf entry < sizeOf entries :=
    List.sizeOf_lt_of_mem (List.mem_of_find?_eq_some hentry)
  have hpair : sizeOf entry = 1 + sizeOf entry.1 + sizeOf entry.2 := rfl
  rw [heq] at hpair
  omega

theorem sizeOf_get?_lt_dict {entries : List (String × Json)} {key : String} {value : Json}
    (h : get? entries key = some value) : sizeOf value < sizeOf (dict entries) := by
  have hentries := sizeOf_get?_lt h
  have hdict : sizeOf (dict entries) = 1 + sizeOf entries := by simp
  omega

theorem sizeOf_items_lt_dict {entries : List (String × Json)} {key : String} {items : List Json}
    (h : get? entries key = some (list items)) : sizeOf items < sizeOf (dict entries) := by
  have hlist := sizeOf_get?_lt_dict h
  have hitems : sizeOf (list items) = 1 + sizeOf items := by simp
  omega

/-- The value of a number; infinities and NaN included. -/
def numeric? : Json → Option PyFloat
  | bool b => some (.finite (if b then 1 else 0))
  | int n => some (.finite n)
  | float x => some x
  | _ => none

mutual

/-- `a == b`. -/
def pyEq : Json → Json → Bool
  | null, null => true
  | str s, str t => s == t
  | list items, list others => pyEqItems items others
  | dict entries, dict others => entries.length == others.length && pyEqEntries entries others
  | a, b =>
    match a.numeric?, b.numeric? with
    | some x, some y => x.le y && y.le x
    | _, _ => false

/-- `==` on lists. -/
def pyEqItems : List Json → List Json → Bool
  | [], [] => true
  | a :: items, b :: others => pyEq a b && pyEqItems items others
  | _, _ => false

/-- The entries are entries of the other dictionary. -/
def pyEqEntries : List (String × Json) → List (String × Json) → Bool
  | [], _ => true
  | (key, value) :: entries, others =>
    (match get? others key with
      | some other => pyEq value other
      | none => false) && pyEqEntries entries others

end

mutual

/-- `a < b`, `a <= b`, `a > b` or `a >= b`. -/
def ordered (order : Order) : Json → Json → Option Bool
  | str s, str t => some (order.texts s t)
  | list items, list others => orderedItems order items others
  | a, b =>
    match a.numeric?, b.numeric? with
    | some x, some y => some (order.numbers x y)
    | _, _ => none

/-- The order of two lists is that of the first items that differ. -/
def orderedItems (order : Order) : List Json → List Json → Option Bool
  | [], others => some (order.ends true others.isEmpty)
  | _ :: _, [] => some (order.ends false true)
  | a :: items, b :: others => if pyEq a b then orderedItems order items others else ordered order a b

end

/-- `item in container`. -/
def isIn (item : Json) : Json → Option Bool
  | list items => some (items.any (pyEq item))
  | str text =>
    match item with
    | str part => some (part.toList <:+: text.toList)
    | _ => none
  | dict entries =>
    match item with
    | str key => some (get? entries key).isSome
    | list _ => none
    | dict _ => none
    | _ => some false
  | _ => none

end Json

/-! ## `float()` -/

/-- The natural number, rounded half to even to 53 bits. -/
def roundNat (n : Nat) : Nat :=
  if n < 2 ^ 53 then n
  else
    let unit := 2 ^ (n.log2 - 52)
    let quotient := n / unit
    let remainder := n % unit
    let up := unit < 2 * remainder ∨ (unit = 2 * remainder ∧ quotient % 2 = 1)
    (if up then quotient + 1 else quotient) * unit

/-- The finite floats stay below this number. -/
def floatLimit : Nat := 2 ^ 1024

theorem lt_floatLimit {n : Nat} (h : n < 2 ^ 53) : n < floatLimit := by
  have hpow : ∀ k, 53 ≤ k → n < 2 ^ k :=
    fun k hk => h.trans_le (Nat.pow_le_pow_right Nat.two_pos hk)
  exact hpow 1024 (by decide)

/-- What `float()` raises: a `TypeError` or `ValueError`, or an `OverflowError`. -/
inductive FloatError
  | typeOrValue | overflow
  deriving DecidableEq

namespace Json

/-- `float(value)`. -/
def toFloat (floatOfText : String → Option PyFloat) : Json → Except FloatError PyFloat
  | bool b => .ok (.finite (if b then 1 else 0))
  | int n =>
    let rounded := roundNat n.natAbs
    if rounded < floatLimit then .ok (.finite (n.sign * rounded)) else .error .overflow
  | float x => .ok x
  | str text =>
    match floatOfText text with
    | some x => .ok x
    | none => .error .typeOrValue
  | _ => .error .typeOrValue

variable {floatOfText : String → Option PyFloat}

/-- Integers of 53 bits are their floats. -/
theorem toFloat_int {n : Int} (h : n.natAbs < 2 ^ 53) :
    toFloat floatOfText (.int n) = .ok (.finite n) := by
  have hround : roundNat n.natAbs = n.natAbs := if_pos h
  have hlt : n.natAbs < floatLimit := lt_floatLimit h
  have hsign : (n.sign : ℚ) * (n.natAbs : ℚ) = n := by
    rw [← Int.cast_natCast n.natAbs, ← Int.cast_mul, Int.sign_mul_natAbs]
  simp only [toFloat, hround, if_pos hlt, hsign]

/-- A number that is its own float. -/
def Exact (value : Json) : Prop :=
  match value with
  | bool _ => True
  | int n => n.natAbs < 2 ^ 53
  | float _ => True
  | _ => False

theorem Exact.toFloat {value : Json} (h : value.Exact) :
    ∃ x, value.numeric? = some x ∧ value.toFloat floatOfText = .ok x := by
  cases value with
  | bool b => exact ⟨_, rfl, rfl⟩
  | int n => exact ⟨_, rfl, toFloat_int h⟩
  | float x => exact ⟨_, rfl, rfl⟩
  | null => exact h.elim
  | str s => exact h.elim
  | list items => exact h.elim
  | dict entries => exact h.elim

theorem ordered_of_numeric {order : Order} {a b : Json} {x y : PyFloat} (ha : a.numeric? = some x)
    (hb : b.numeric? = some y) : ordered order a b = some (order.numbers x y) := by
  cases a with
  | null => cases ha
  | str s => cases ha
  | list items => cases ha
  | dict entries => cases ha
  | bool p => simp only [ordered, ha, hb]
  | int n => simp only [ordered, ha, hb]
  | float z => simp only [ordered, ha, hb]

end Json

end MassClaw
