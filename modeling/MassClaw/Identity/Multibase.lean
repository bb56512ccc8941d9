import MassClaw.Identity.Did
import MassClaw.Lib.Codec
import Mathlib.Data.List.TakeWhile

/-!
# Reading multibase texts back

Decoding undoes encoding, so different bytes have different texts, and encoding
undoes decoding, so a text that is accepted is the only one of its bytes.  The
leading zero bytes and the number that the other bytes form are recovered one
after the other: `1` is the digit zero, and the first digit of a number is not
zero.
-/

namespace MassClaw

/-! ## Digits -/

private theorem foldl_digits (base : Nat) {digits : List Nat} {acc : Nat} :
    digits.foldl (fun acc digit => acc * base + digit) acc =
      acc * base ^ digits.length + Nat.ofDigits base digits.reverse := by
  induction digits generalizing acc with
  | nil => simp
  | cons digit rest ih =>
    rw [List.foldl_cons, ih, List.reverse_cons, Nat.ofDigits_append, Nat.ofDigits_singleton,
      List.length_reverse, List.length_cons, pow_succ]
    ring

/-- The first digit of a number is not zero. -/
private theorem head?_digits {base num : Nat} : (Nat.digits base num).reverse.head? ≠ some 0 := by
  intro hhead
  rw [List.head?_reverse] at hhead
  have hmem : 0 ∈ Nat.digits base num := List.mem_of_mem_getLast? hhead
  have hnum : num ≠ 0 := by
    intro hnum
    rw [hnum, Nat.digits_zero] at hmem
    cases hmem
  have hlast := Nat.getLast_digit_ne_zero base hnum
  rw [List.getLast?_eq_some_getLast (Nat.digits_ne_nil_iff_ne_zero.2 hnum)] at hhead
  exact hlast (Option.some.inj hhead)

namespace Bytes

/-- The number of the bytes, least significant first. -/
theorem toNat_eq_ofDigits (data : Bytes) :
    data.toNat = Nat.ofDigits 256 (data.reverse.map UInt8.toNat) := by
  have hfold : data.toNat =
      (data.map UInt8.toNat).foldl (fun acc digit => acc * 256 + digit) 0 := by
    rw [Bytes.toNat, List.foldl_map]
  rw [hfold, foldl_digits, Nat.zero_mul, Nat.zero_add, ← List.map_reverse]

/-- Leading zeros do not count. -/
theorem toNat_zeros (count : Nat) (data : Bytes) :
    Bytes.toNat (List.replicate count 0 ++ data) = data.toNat := by
  unfold Bytes.toNat
  rw [List.foldl_append]
  have hzeros : List.foldl (fun acc (byte : UInt8) => acc * 256 + byte.toNat) 0
      (List.replicate count 0) = 0 := by
    induction count with
    | zero => rfl
    | succ count ih =>
      rw [List.replicate_succ, List.foldl_cons]
      exact ih
  rw [hzeros]

/-- Bytes that do not start with a zero are those of their number. -/
theorem ofNat_toNat {data : Bytes} (h : data.head? ≠ some 0) : Bytes.ofNat data.toNat = data := by
  have hdigits : Nat.digits 256 data.toNat = data.reverse.map UInt8.toNat := by
    rw [toNat_eq_ofDigits]
    refine Nat.digits_ofDigits 256 (by omega) _ (fun digit hdigit => ?_) (fun hne => ?_)
    · obtain ⟨byte, -, rfl⟩ := List.mem_map.1 hdigit
      exact byte.toNat_lt
    · cases data with
      | nil => exact absurd rfl hne
      | cons byte rest =>
        have hbyte : byte ≠ 0 := fun hzero => h (by rw [hzero]; rfl)
        simp only [List.reverse_cons, List.map_append, List.map_cons, List.map_nil,
          List.getLast_append_singleton]
        intro hzero
        exact hbyte (UInt8.toNat_inj.1 hzero)
  have hback : (data.map UInt8.toNat).map UInt8.ofNat = data := by
    rw [List.map_map]
    refine (List.map_congr_left (fun byte _ => ?_)).trans (List.map_id data)
    exact UInt8.ofNat_toNat
  rw [Bytes.ofNat, hdigits, ← List.map_reverse, List.reverse_reverse, hback]

private theorem toNat_ofNat_digit {num digit : Nat} (h : digit ∈ Nat.digits 256 num) :
    (UInt8.ofNat digit).toNat = digit := by
  have hlt : digit < 256 := Nat.digits_lt_base (by omega) h
  rw [UInt8.toNat_ofNat', Nat.mod_eq_of_lt hlt]

/-- The bytes of a number have this number. -/
@[simp] theorem toNat_ofNat (num : Nat) : (Bytes.ofNat num).toNat = num := by
  have hdigits : (Bytes.ofNat num).reverse.map UInt8.toNat = Nat.digits 256 num := by
    rw [Bytes.ofNat, ← List.map_reverse, List.reverse_reverse, List.map_map]
    refine (List.map_congr_left (fun digit hdigit => ?_)).trans (List.map_id _)
    exact toNat_ofNat_digit hdigit
  rw [toNat_eq_ofDigits, hdigits, Nat.ofDigits_digits]

/-- They do not start with a zero. -/
theorem head?_ofNat (num : Nat) : (Bytes.ofNat num).head? ≠ some 0 := by
  intro hhead
  rw [Bytes.ofNat, List.head?_map, Option.map_eq_some_iff] at hhead
  obtain ⟨digit, hfirst, hzero⟩ := hhead
  have hmem : digit ∈ Nat.digits 256 num :=
    List.mem_reverse.1 (List.mem_of_mem_head? hfirst)
  have hdigit : digit = 0 := by
    rw [← toNat_ofNat_digit hmem, hzero]
    rfl
  rw [hdigit] at hfirst
  exact head?_digits hfirst

end Bytes

/-! ## Base58 -/

namespace Base58

private theorem digitChar_spec : ∀ digit : Fin 58,
    charDigit? (digitChar digit) = some digit.1 ∧ (digitChar digit = '1' → digit.1 = 0) := by
  decide +kernel

theorem charDigit?_digitChar {digit : Nat} (h : digit < 58) :
    charDigit? (digitChar digit) = some digit :=
  (digitChar_spec ⟨digit, h⟩).1

private theorem mapM_charDigit? {digits : List Nat} (h : ∀ digit ∈ digits, digit < 58) :
    (digits.map digitChar).mapM charDigit? = some digits := by
  induction digits with
  | nil => rfl
  | cons digit rest ih =>
    rw [List.map_cons, List.mapM_cons, charDigit?_digitChar (h digit List.mem_cons_self),
      ih (fun other hother => h other (List.mem_cons_of_mem _ hother))]
    rfl

/-- `takeWhile` counts the copies of a value before another one. -/
private theorem takeWhile_replicate {α : Type} [BEq α] [LawfulBEq α] {a : α} {count : Nat}
    {rest : List α} (h : rest.head? ≠ some a) :
    ((List.replicate count a ++ rest).takeWhile (· == a)).length = count := by
  induction count with
  | zero =>
    cases rest with
    | nil => rfl
    | cons b rest =>
      have hne : ¬(b == a) = true := fun heq => h (by rw [eq_of_beq heq]; rfl)
      simp [hne]
  | succ count ih =>
    rw [List.replicate_succ, List.cons_append, List.takeWhile_cons_of_pos (by simp),
      List.length_cons, ih]

/-- A text of digits is read back: the leading zeros, then the number. -/
private theorem decode?_digits {count num : Nat} :
    decode? (List.replicate count '1' ++ (Nat.digits 58 num).reverse.map digitChar) =
      some (List.replicate count 0 ++ Bytes.ofNat num) := by
  have hchars : List.replicate count '1' ++ (Nat.digits 58 num).reverse.map digitChar =
      (List.replicate count 0 ++ (Nat.digits 58 num).reverse).map digitChar := by
    rw [List.map_append, List.map_replicate]
    rfl
  have hlt : ∀ digit ∈ List.replicate count 0 ++ (Nat.digits 58 num).reverse, digit < 58 := by
    intro digit hdigit
    rcases List.mem_append.1 hdigit with hzero | hdigit
    · rw [List.eq_of_mem_replicate hzero]
      omega
    · exact Nat.digits_lt_base (by omega) (List.mem_reverse.1 hdigit)
  have hnumber : (List.replicate count 0 ++ (Nat.digits 58 num).reverse).foldl
      (fun acc digit => acc * 58 + digit) 0 = num := by
    rw [foldl_digits, List.reverse_append, List.reverse_reverse, List.reverse_replicate,
      Nat.ofDigits_append_replicate_zero, Nat.ofDigits_digits]
    omega
  have hones : ((List.replicate count '1' ++
      (Nat.digits 58 num).reverse.map digitChar).takeWhile (· == '1')).length = count := by
    refine takeWhile_replicate (fun hhead => ?_)
    rw [List.head?_map, Option.map_eq_some_iff] at hhead
    obtain ⟨digit, hdigit, hone⟩ := hhead
    have hmem : digit ∈ Nat.digits 58 num := List.mem_reverse.1 (List.mem_of_mem_head? hdigit)
    have hzero : digit = 0 :=
      (digitChar_spec ⟨digit, Nat.digits_lt_base (by omega) hmem⟩).2 hone
    rw [hzero] at hdigit
    exact head?_digits hdigit
  unfold decode?
  rw [hones, hchars, mapM_charDigit? hlt, Option.map_some, hnumber]

/-- Decoding undoes encoding. -/
@[simp] theorem decode?_encode (data : Bytes) : decode? (encode data) = some data := by
  have hsplit : List.replicate (data.takeWhile (· == 0)).length 0 ++ data.dropWhile (· == 0) =
      data := by
    have hzeros : data.takeWhile (· == 0) =
        List.replicate (data.takeWhile (· == 0)).length 0 := by
      refine List.eq_replicate_iff.2 ⟨rfl, fun byte hbyte => ?_⟩
      simpa using List.mem_takeWhile_imp hbyte
    rw [← hzeros]
    exact List.takeWhile_append_dropWhile
  have hhead : (data.dropWhile (· == 0)).head? ≠ some 0 := by
    intro hzero
    have hnot := List.head?_dropWhile_not (· == (0 : UInt8)) data
    rw [hzero] at hnot
    simp at hnot
  have hnumber : Bytes.ofNat data.toNat = data.dropWhile (· == 0) := by
    have htoNat : data.toNat = Bytes.toNat (data.dropWhile (· == 0)) := by
      conv_lhs => rw [← hsplit]
      exact Bytes.toNat_zeros _ _
    rw [htoNat, Bytes.ofNat_toNat hhead]
  rw [encode, decode?_digits, hnumber, hsplit]

/-! ### The text of what was decoded -/

/-- A character of the alphabet is that of its digit. -/
theorem digitChar_charDigit? {ch : Char} {digit : Nat} (h : charDigit? ch = some digit) :
    digit < 58 ∧ digitChar digit = ch := by
  unfold charDigit? at h
  obtain ⟨hlt, hch⟩ := List.findIdx?_eq_some_iff_getElem.1 h
  refine ⟨hlt, ?_⟩
  rw [digitChar, List.getD_eq_getElem _ _ hlt]
  simpa using hch.1

/-- The digits of an accepted text. -/
private theorem of_mapM_charDigit? {encoded : List Char} {digits : List Nat}
    (h : encoded.mapM charDigit? = some digits) :
    (∀ digit ∈ digits, digit < 58) ∧ encoded = digits.map digitChar := by
  induction encoded generalizing digits with
  | nil =>
    cases h
    exact ⟨by simp, rfl⟩
  | cons ch rest ih =>
    rw [List.mapM_cons] at h
    obtain ⟨digit, hdigit, h⟩ := Option.bind_eq_some_iff.1 h
    obtain ⟨others, hothers, h⟩ := Option.bind_eq_some_iff.1 h
    cases h
    obtain ⟨hlt, hch⟩ := digitChar_charDigit? hdigit
    obtain ⟨hrest, htext⟩ := ih hothers
    refine ⟨?_, by rw [List.map_cons, hch, ← htext]⟩
    intro other hother
    rcases List.mem_cons.1 hother with rfl | hmem
    · exact hlt
    · exact hrest other hmem

/-- Digits are their leading zeros and the digits of their number. -/
private theorem zeros_append_digits {digits : List Nat} (h : ∀ digit ∈ digits, digit < 58) :
    List.replicate (digits.takeWhile (· == 0)).length 0 ++
      (Nat.digits 58 (digits.foldl (fun acc digit => acc * 58 + digit) 0)).reverse = digits := by
  have hzeros : List.replicate (digits.takeWhile (· == 0)).length 0 =
      digits.takeWhile (· == 0) := by
    refine (List.eq_replicate_iff.2 ⟨rfl, fun digit hdigit => ?_⟩).symm
    simpa using List.mem_takeWhile_imp hdigit
  have hsplit : digits = digits.takeWhile (· == 0) ++ digits.dropWhile (· == 0) :=
    List.takeWhile_append_dropWhile.symm
  have hhead : (digits.dropWhile (· == 0)).head? ≠ some 0 := by
    intro hzero
    have hnot := List.head?_dropWhile_not (· == (0 : Nat)) digits
    rw [hzero] at hnot
    simp at hnot
  have hnumber : digits.foldl (fun acc digit => acc * 58 + digit) 0 =
      Nat.ofDigits 58 (digits.dropWhile (· == 0)).reverse := by
    conv_lhs => rw [hsplit, ← hzeros]
    rw [foldl_digits, List.reverse_append, List.reverse_replicate,
      Nat.ofDigits_append_replicate_zero]
    omega
  have hdigits : Nat.digits 58 (Nat.ofDigits 58 (digits.dropWhile (· == 0)).reverse) =
      (digits.dropWhile (· == 0)).reverse := by
    refine Nat.digits_ofDigits 58 (by omega) _ (fun digit hdigit => ?_) (fun hne hlast => ?_)
    · exact h digit ((List.dropWhile_suffix _).subset (List.mem_reverse.1 hdigit))
    · have hfirst := List.getLast?_eq_some_getLast hne
      rw [hlast, List.getLast?_reverse] at hfirst
      exact hhead hfirst
  rw [hnumber, hdigits, List.reverse_reverse, hzeros, ← hsplit]

/-- The character `1` is the digit zero, and no other digit. -/
private theorem length_ones {digits : List Nat} (h : ∀ digit ∈ digits, digit < 58) :
    ((digits.map digitChar).takeWhile (· == '1')).length =
      (digits.takeWhile (· == 0)).length := by
  induction digits with
  | nil => rfl
  | cons digit rest ih =>
    have hrest := ih (fun other hother => h other (List.mem_cons_of_mem _ hother))
    rw [List.map_cons]
    by_cases hzero : digit = 0
    · subst hzero
      rw [List.takeWhile_cons_of_pos (by decide), List.takeWhile_cons_of_pos (by decide),
        List.length_cons, List.length_cons, hrest]
    · have hone : digitChar digit ≠ '1' := fun hone =>
        hzero ((digitChar_spec ⟨digit, h digit List.mem_cons_self⟩).2 hone)
      simp [hone, hzero]

/-- Encoding undoes decoding: an accepted text is the one of its bytes. -/
theorem encode_of_decode? {encoded : List Char} {data : Bytes} (h : decode? encoded = some data) :
    encode data = encoded := by
  unfold decode? at h
  obtain ⟨digits, hmapM, rfl⟩ := Option.map_eq_some_iff.1 h
  obtain ⟨hlt, rfl⟩ := of_mapM_charDigit? hmapM
  rw [length_ones hlt, encode, Bytes.toNat_zeros, Bytes.toNat_ofNat,
    takeWhile_replicate (Bytes.head?_ofNat _)]
  have hone : digitChar 0 = '1' := by decide
  rw [← hone, ← List.map_replicate, ← List.map_append, zeros_append_digits hlt]

/-- A text is accepted exactly if it is the text of its bytes. -/
theorem exact : Codec.Exact encode decode? :=
  Codec.Exact.of_inverse decode?_encode (fun _ _ => encode_of_decode?)

end Base58

/-! ## Multibase -/

/-- The prefix in front of a text. -/
private theorem multibaseChars_exact :
    Codec.Exact (fun raw => 'z' :: Base58.encode raw) decodeMultibaseChars? := by
  intro raw text
  cases text with
  | nil =>
    constructor
    · intro h
      cases h
    · intro h
      cases h
  | cons ch encoded =>
    by_cases hz : ch = 'z'
    · subst hz
      show Base58.decode? encoded = some raw ↔ 'z' :: Base58.encode raw = 'z' :: encoded
      rw [Base58.exact raw encoded, List.cons.injEq, eq_self, true_and]
    · constructor
      · intro h
        unfold decodeMultibaseChars? at h
        split at h
        · rename_i heq
          cases heq
          exact absurd rfl hz
        · cases h
      · intro h
        cases h
        exact absurd rfl hz

theorem multibase_exact : Codec.Exact encodeMultibase decodeMultibase? := by
  have hstring : Codec.Exact String.ofList (fun text => some text.toList) := by
    refine Codec.Exact.of_inverse (fun chars => ?_) (fun chars text h => ?_)
    · rw [String.toList_ofList]
    · cases h
      exact String.ofList_toList
  exact hstring.comp multibaseChars_exact

@[simp] theorem decodeMultibase?_encodeMultibase (raw : Bytes) :
    decodeMultibase? (encodeMultibase raw) = some raw :=
  multibase_exact.decode_encode raw

/-- Different bytes have different texts. -/
theorem encodeMultibase_inj {a b : Bytes} : encodeMultibase a = encodeMultibase b ↔ a = b :=
  multibase_exact.injective.eq_iff

/-- The two pairs of functions are inverse to each other, on all bytes and on
all texts that are accepted. -/
theorem base58_inverse :
    (∀ data, Base58.decode? (Base58.encode data) = some data) ∧
      (∀ encoded data, Base58.decode? encoded = some data → Base58.encode data = encoded) ∧
      (∀ raw, decodeMultibase? (encodeMultibase raw) = some raw) ∧
      ∀ encoded raw, decodeMultibase? encoded = some raw → encodeMultibase raw = encoded := by
  refine ⟨Base58.decode?_encode, fun encoded data => Base58.encode_of_decode?,
    decodeMultibase?_encodeMultibase, fun encoded raw => ?_⟩
  exact multibase_exact.encode_decode

end MassClaw
