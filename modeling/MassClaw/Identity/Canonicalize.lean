import MassClaw.Core.Basic
import MassClaw.Core.Json
import MassClaw.Identity.Did
import Mathlib.Data.List.Sort

/-!
# Canonical JSON, `app/identity/canonicalize.py`

One rigid serialisation, so that a document has one byte form to sign: sorted
keys, no blanks, the shortest escapes, integral floats as integers.  NaN and
the infinities are refused.

`Host` is what the model takes from outside the program: the cryptographic
primitives, and Python's conversions between text and floats or containers.
-/

namespace MassClaw

/-- The primitives of the host. -/
structure Host where
  /-- `hashlib.sha256(data).digest()`. -/
  sha256 : Bytes → Bytes
  /-- `sign_bytes(message, private_seed)`. -/
  sign : Bytes → Bytes → Bytes
  /-- `verify_bytes(message, signature, public_bytes)`. -/
  verify : Bytes → Bytes → Bytes → Bool
  /-- `str` of a float, a list or a dictionary. -/
  repr : Json → String
  /-- `float(text)`; `none` is the `ValueError`. -/
  parseFloat? : String → Option PyFloat
  /-- `int(text)`; `none` is the `ValueError`. -/
  parseInt? : String → Option Int
  /-- `datetime.isoformat`. -/
  isoformat : Time → String
  /-- `datetime.fromisoformat`; `none` is the `ValueError`. -/
  fromIsoformat? : String → Option Time

namespace Canonical

/-- `_escape_string` on one character. -/
def escapeChar (ch : Char) : List Char :=
  if ch = '"' then ['\\', '"']
  else if ch = '\\' then ['\\', '\\']
  else if ch = '\x08' then ['\\', 'b']
  else if ch = '\x0c' then ['\\', 'f']
  else if ch = '\n' then ['\\', 'n']
  else if ch = '\r' then ['\\', 'r']
  else if ch = '\t' then ['\\', 't']
  else if ch.toNat < 0x20 then ['\\', 'u'] ++ UUID.hexDigits 4 ch.toNat
  else [ch]

/-- `_escape_string`. -/
def escapeString (s : String) : List Char := '"' :: s.toList.flatMap escapeChar ++ ['"']

/-- The parts with commas between them. -/
def joined : List (List Char) → List Char
  | [] => []
  | [part] => part
  | part :: rest => part ++ ',' :: joined rest

/-- `sorted(value.items())`, on entries whose values are written already. -/
def sortEntries (entries : List (String × List Char)) : List (String × List Char) :=
  entries.insertionSort (fun a b => a.1 ≤ b.1)

variable (host : Host)

mutual

/-- `_emit`; `none` is the `CanonicalizationError`. -/
def emit : Json → Option (List Char)
  | .null => some "null".toList
  | .bool true => some "true".toList
  | .bool false => some "false".toList
  | .str s => some (escapeString s)
  | .int n => some (toString n).toList
  | .float (.finite q) =>
    if q.den = 1 then some (toString q.num).toList
    else some (host.repr (.float (.finite q))).toList
  | .float _ => none
  | .list items => (emitItems items).map (fun parts => '[' :: joined parts ++ [']'])
  | .dict entries =>
    (emitEntries entries).map (fun parts =>
      '\x7b' :: joined ((sortEntries parts).map
        (fun entry => escapeString entry.1 ++ ':' :: entry.2)) ++ ['\x7d'])

/-- The items of a list. -/
def emitItems : List Json → Option (List (List Char))
  | [] => some []
  | item :: rest => do return (← emit item) :: (← emitItems rest)

/-- The values of a dictionary, each with its key. -/
def emitEntries : List (String × Json) → Option (List (String × List Char))
  | [] => some []
  | (key, value) :: rest => do return (key, ← emit value) :: (← emitEntries rest)

end

/-! ## The bytes of a text -/

private theorem toList_loop (data : ByteArray) (i : Nat) (acc : List UInt8) :
    ByteArray.toList.loop data i acc = acc.reverse ++ data.data.toList.drop i := by
  rw [ByteArray.toList.loop.eq_def]
  have hsize : data.size = data.data.toList.length := (Array.length_toList).symm
  split
  · rename_i hlt
    rw [toList_loop data (i + 1) (data.get! i :: acc), List.reverse_cons, List.append_assoc,
      List.drop_eq_getElem_cons (i := i) (hsize ▸ hlt)]
    have hget : data.get! i = data.data.toList.get ⟨i, hsize ▸ hlt⟩ := by
      rw [List.get_eq_getElem, Array.getElem_toList]
      exact getElem!_pos data.data i hlt
    rw [hget]
    rfl
  · rw [List.drop_eq_nil_of_le (by omega), List.append_nil]
termination_by data.size - i

/-- The bytes of a text are the bytes of its characters. -/
theorem toUTF8_eq_flatMap (s : String) :
    s.toUTF8.toList = s.toList.flatMap String.utf8EncodeChar := by
  have hbytes : s.toUTF8 = (s.toList.flatMap String.utf8EncodeChar).toByteArray :=
    String.utf8Encode_toList.symm
  rw [hbytes, ByteArray.toList, toList_loop, List.reverse_nil, List.nil_append, List.drop_zero,
    List.data_toByteArray]

/-- Different texts have different bytes. -/
theorem toUTF8_inj {s t : String} (h : s.toUTF8.toList = t.toUTF8.toList) : s = t := by
  rw [ByteArray.toList, ByteArray.toList, toList_loop, toList_loop] at h
  simp only [List.reverse_nil, List.nil_append, List.drop_zero] at h
  have hdata : s.toUTF8 = t.toUTF8 := ByteArray.ext (Array.toList_inj.1 h)
  exact String.toByteArray_inj.1 hdata

end Canonical

/-- `canonicalize`. -/
def canonicalize (host : Host) (value : Json) : Option Bytes :=
  (Canonical.emit host value).map (fun chars => (String.ofList chars).toUTF8.toList)

/-- The canonical bytes, character by character. -/
theorem canonicalize_eq_flatMap (host : Host) : canonicalize host = fun value =>
    (Canonical.emit host value).map (fun chars => chars.flatMap String.utf8EncodeChar) := by
  funext value
  simp only [canonicalize, Canonical.toUTF8_eq_flatMap, String.toList_ofList]

/-- A host for examples.  Its digest is the length of the data; a key pair
whose two halves are equal signs every message with them. -/
def Host.lengths : Host where
  sha256 data := List.replicate 30 0 ++ [UInt8.ofNat (data.length / 256), UInt8.ofNat data.length]
  sign _ seed := seed
  verify _ signature key := signature == key
  repr _ := "0.5"
  parseFloat? _ := none
  parseInt? _ := none
  isoformat _ := ""
  fromIsoformat? _ := none

end MassClaw
