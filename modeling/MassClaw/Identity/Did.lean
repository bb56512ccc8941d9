import Mathlib.Data.List.GetD
import Mathlib.Data.Nat.Digits.Lemmas
import Mathlib.Tactic.Common

/-!
# Keys in text form, `app/identity/_base58.py`, `signer.py` and `did.py`

Bytes are written in base58 (Bitcoin alphabet) behind the multibase prefix
`z`, and a `did:key` or `did:nanda` identifier embeds an Ed25519 public key
that way.  Decoding fails on every malformed input; the error is the check
that raised it.
-/

namespace MassClaw

/-- Python `bytes`. -/
abbrev Bytes := List UInt8

/-- `int.from_bytes(data, "big")`. -/
def Bytes.toNat (data : Bytes) : Nat := data.foldl (fun acc byte => acc * 256 + byte.toNat) 0

theorem Bytes.toNat_lt (data : Bytes) : data.toNat < 256 ^ data.length := by
  have haux : ∀ (rest : Bytes) (acc : Nat),
      rest.foldl (fun acc byte => acc * 256 + byte.toNat) acc < (acc + 1) * 256 ^ rest.length := by
    intro rest
    induction rest with
    | nil => intro acc; simp
    | cons byte rest ih =>
      intro acc
      have hbyte := byte.toNat_lt
      calc rest.foldl (fun acc byte => acc * 256 + byte.toNat) (acc * 256 + byte.toNat)
          < (acc * 256 + byte.toNat + 1) * 256 ^ rest.length := ih _
        _ ≤ ((acc + 1) * 256) * 256 ^ rest.length :=
          Nat.mul_le_mul_right _ (by omega)
        _ = (acc + 1) * 256 ^ (byte :: rest).length := by
          rw [List.length_cons, pow_succ]
          ring
  simpa [Bytes.toNat] using haux data 0

/-- `num.to_bytes((num.bit_length() + 7) // 8, "big")`. -/
def Bytes.ofNat (num : Nat) : Bytes := (Nat.digits 256 num).reverse.map UInt8.ofNat

/-! ## Base58 -/

namespace Base58

/-- `_ALPHABET`. -/
def alphabet : List Char := "123456789ABCDEFGHJKLMNPQRSTUVWXYZabcdefghijkmnopqrstuvwxyz".toList

/-- The character of a base58 digit. -/
def digitChar (digit : Nat) : Char := alphabet.getD digit '1'

/-- `_ALPHABET_MAP.get(ch)`. -/
def charDigit? (ch : Char) : Option Nat := alphabet.findIdx? (· == ch)

/-- `b58encode`: a leading zero byte becomes a leading `1`, the rest is the
number in base 58. -/
def encode (data : Bytes) : List Char :=
  List.replicate (data.takeWhile (· == 0)).length '1' ++
    (Nat.digits 58 data.toNat).reverse.map digitChar

theorem digitChar_mem (digit : Nat) : digitChar digit ∈ alphabet := by
  unfold digitChar
  rcases Nat.lt_or_ge digit alphabet.length with hlt | hge
  · rw [List.getD_eq_getElem _ _ hlt]
    exact List.getElem_mem hlt
  · rw [List.getD_eq_default _ _ hge]
    decide

/-- The text is over the alphabet. -/
theorem mem_encode {data : Bytes} {ch : Char} (h : ch ∈ encode data) : ch ∈ alphabet := by
  rcases List.mem_append.1 h with hzero | hdigit
  · rw [List.eq_of_mem_replicate hzero]
    decide
  · obtain ⟨digit, -, rfl⟩ := List.mem_map.1 hdigit
    exact digitChar_mem digit

/-- A byte takes at most two digits, or one character when it is a leading zero. -/
theorem length_encode_le (data : Bytes) : (encode data).length ≤ 3 * data.length := by
  have hzeros : (data.takeWhile (· == 0)).length ≤ data.length :=
    (List.takeWhile_prefix (· == 0)).length_le
  have hdigits : (Nat.digits 58 data.toNat).length ≤ 2 * data.length := by
    rw [Nat.digits_length_le_iff (by norm_num), pow_mul]
    exact lt_of_lt_of_le (Bytes.toNat_lt data) (Nat.pow_le_pow_left (by norm_num) _)
  rw [encode, List.length_append, List.length_replicate, List.length_map, List.length_reverse]
  omega

/-- `b58decode`; `none` is the `ValueError` for a character outside the
alphabet. -/
def decode? (encoded : List Char) : Option Bytes :=
  (encoded.mapM charDigit?).map (fun digits =>
    List.replicate (encoded.takeWhile (· == '1')).length 0 ++
      Bytes.ofNat (digits.foldl (fun acc digit => acc * 58 + digit) 0))

end Base58

/-- `encode_multibase`. -/
def encodeMultibase (raw : Bytes) : String := String.ofList ('z' :: Base58.encode raw)

/-- `decode_multibase` on the characters of the text. -/
def decodeMultibaseChars? : List Char → Option Bytes
  | 'z' :: encoded => Base58.decode? encoded
  | _ => none

/-- `decode_multibase`; `none` is the `SignatureError` or `ValueError`. -/
def decodeMultibase? (encoded : String) : Option Bytes := decodeMultibaseChars? encoded.toList

/-! ## DIDs -/

/-- `MalformedDIDError`, by the check that raises it. -/
inductive MalformedDIDError
  | notAString
  | badPrefix
  | badForm
  | wrongMethod (expected got : List Char)
  | undecodable
  | badMulticodec
  | badLength (length : Nat)
  deriving DecidableEq

/-- `ParsedDID`. -/
structure ParsedDID where
  method : List Char
  identifier : List Char
  deriving DecidableEq

/-- `as_str`. -/
def ParsedDID.asStr (parsed : ParsedDID) : String :=
  String.ofList ("did:".toList ++ parsed.method ++ ':' :: parsed.identifier)

/-- `str.lower` on one character.  Outside ASCII only the Kelvin sign has an
ASCII lower-case form. -/
def lowerChar (ch : Char) : Char := if ch = '\u212a' then 'k' else ch.toLower

/-- `parse_did`: the prefix, the method up to the next colon, the rest. -/
def parseDid (did : String) : Except MalformedDIDError ParsedDID :=
  match did.toList with
  | 'd' :: 'i' :: 'd' :: ':' :: rest =>
    match rest.dropWhile (· != ':') with
    | ':' :: identifier =>
      let method := rest.takeWhile (· != ':')
      if method.isEmpty || identifier.isEmpty then .error .badForm
      else .ok { method := method.map lowerChar, identifier }
    | _ => .error .badForm
  | _ => .error .badPrefix

/-- `_ED25519_MULTICODEC_PREFIX`. -/
def ed25519MulticodecPrefix : Bytes := [0xed, 0x01]

/-- `build_did_key`. -/
def buildDidKey (publicBytes : Bytes) : Except MalformedDIDError String :=
  if publicBytes.length ≠ 32 then .error (.badLength publicBytes.length)
  else .ok ("did:key:" ++ encodeMultibase (ed25519MulticodecPrefix ++ publicBytes))

/-- `decode_did_key`. -/
def decodeDidKey (did : String) : Except MalformedDIDError Bytes := do
  let parsed ← parseDid did
  if parsed.method ≠ "key".toList then throw (.wrongMethod "key".toList parsed.method)
  match decodeMultibaseChars? parsed.identifier with
  | none => throw .undecodable
  | some (0xed :: 0x01 :: body) =>
    if body.length ≠ 32 then throw (.badLength body.length) else return body
  | some _ => throw .badMulticodec

/-- `build_did_nanda`. -/
def buildDidNanda (publicBytes : Bytes) : Except MalformedDIDError String :=
  if publicBytes.length ≠ 32 then .error (.badLength publicBytes.length)
  else .ok ("did:nanda:" ++ encodeMultibase publicBytes)

/-- `decode_did_nanda`. -/
def decodeDidNanda (did : String) : Except MalformedDIDError Bytes := do
  let parsed ← parseDid did
  if parsed.method ≠ "nanda".toList then throw (.wrongMethod "nanda".toList parsed.method)
  match decodeMultibaseChars? parsed.identifier with
  | none => throw .undecodable
  | some body => if body.length ≠ 32 then throw (.badLength body.length) else return body

/-- `public_key_from_did`, which `_public_key_for_did` of the store repeats:
the key a `did:key` or `did:nanda` embeds; `none` for the other methods. -/
def publicKeyForDid (did : String) : Except MalformedDIDError (Option Bytes) := do
  let parsed ← parseDid did
  if parsed.method = "key".toList then return some (← decodeDidKey did)
  if parsed.method = "nanda".toList then return some (← decodeDidNanda did)
  return none

end MassClaw
