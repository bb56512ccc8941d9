import Mathlib.Data.Nat.Digits.Defs
import Mathlib.Tactic.DeriveFintype

/-!
# Identifiers and status enumerations

The enumerations of `app/models/base.py` and the two kinds of identifier the
services use.

* `UUID` is a 128-bit value.  `UUID.str` is `str(u)`, the lower-case
  hyphenated form, and `UUID.parse?` is the constructor `uuid.UUID(hex)`.
* `RowId` stands for the keys PostgreSQL generates with `gen_random_uuid()`
  (wallet events, tasks, memory records, approval requests).  Only their
  distinctness matters to the program, so they are row numbers here.
-/

namespace MassClaw

/-- A 128-bit identifier, `uuid.UUID`. -/
structure UUID where
  int : Nat
  isLt : int < 2 ^ 128
  deriving DecidableEq

namespace UUID

/-- The identifier with the given integer value, modulo `2 ^ 128`. -/
def ofNat (n : Nat) : UUID := ⟨n % 2 ^ 128, Nat.mod_lt n (by decide)⟩

/-- The lower-case hexadecimal digit of a value below 16. -/
def hexDigit (n : Nat) : Char :=
  if n < 10 then Char.ofNat (48 + n) else Char.ofNat (87 + n)

/-- The `count` low hexadecimal digits of `n`, most significant first. -/
def hexDigits : Nat → Nat → List Char
  | 0, _ => []
  | count + 1, n => hexDigits count (n / 16) ++ [hexDigit (n % 16)]

/-- `str(u)`: five groups of hexadecimal digits, 8-4-4-4-12. -/
def str (u : UUID) : String :=
  let digits := hexDigits 32 u.int
  String.ofList <|
    digits.take 8 ++ ['-'] ++ (digits.drop 8).take 4 ++ ['-'] ++ (digits.drop 12).take 4 ++
      ['-'] ++ (digits.drop 16).take 4 ++ ['-'] ++ digits.drop 20

/-- The value of a hexadecimal digit of either case. -/
def hexValue? (c : Char) : Option Nat :=
  if '0' ≤ c ∧ c ≤ '9' then some (c.toNat - 48)
  else if 'a' ≤ c ∧ c ≤ 'f' then some (c.toNat - 87)
  else if 'A' ≤ c ∧ c ≤ 'F' then some (c.toNat - 55)
  else none

/-- `text.replace(pattern, "")`, the first `skip` characters being part of an
occurrence already found. -/
def removeAll (pattern : List Char) : Nat → List Char → List Char
  | _, [] => []
  | skip + 1, _ :: rest => removeAll pattern skip rest
  | 0, c :: rest =>
    if pattern.isPrefixOf (c :: rest) then removeAll pattern (pattern.length - 1) rest
    else c :: removeAll pattern 0 rest

/-- `text.strip(chars)`. -/
def strip (drop : Char → Bool) (text : List Char) : List Char :=
  ((text.dropWhile drop).reverse.dropWhile drop).reverse

/-- The digits of `int(text, 16)`, with single underscores between them. -/
def hexNumber? : Nat → Bool → List Char → Option Nat
  | acc, afterDigit, [] => if afterDigit then some acc else none
  | acc, afterDigit, c :: rest =>
    if c = '_' then if afterDigit then hexNumber? acc false rest else none
    else (hexValue? c).bind (fun digit => hexNumber? (acc * 16 + digit) true rest)

/-- `int(text, 16)` for a text without a minus sign: blanks around it, a plus
sign and the prefix `0x` are optional. -/
def int16? (text : List Char) : Option Nat :=
  let stripped := strip Char.isWhitespace text
  let unsigned := if stripped.head? = some '+' then stripped.tail else stripped
  match unsigned with
  | '0' :: 'x' :: '_' :: digits | '0' :: 'X' :: '_' :: digits => hexNumber? 0 false digits
  | '0' :: 'x' :: digits | '0' :: 'X' :: digits => hexNumber? 0 false digits
  | digits => hexNumber? 0 false digits

/-- `uuid.UUID(s)`: the URN prefix, curly braces and hyphens are optional, and
32 characters that denote a hexadecimal number must remain.  `none` is the
`ValueError`. -/
def parse? (s : String) : Option UUID :=
  let stripped := removeAll "uuid:".toList 0 (removeAll "urn:".toList 0 s.toList)
  let digits := (strip (fun c => c = '\x7b' ∨ c = '\x7d') stripped).filter (· ≠ '-')
  if digits.length = 32 then (int16? digits).map ofNat else none

/-! ### Reading back the text form -/

private theorem hexDigit_spec : ∀ n : Fin 16,
    hexValue? (hexDigit n) = some n.1 ∧ hexDigit n ≠ '_' ∧ hexDigit n ≠ '-' ∧
      hexDigit n ≠ '+' ∧ hexDigit n ≠ 'u' ∧ hexDigit n ≠ 'x' ∧ hexDigit n ≠ 'X' ∧
      hexDigit n ≠ '\x7b' ∧ hexDigit n ≠ '\x7d' ∧ (hexDigit n).isWhitespace = false := by
  decide

/-- Every character of the digits is a hexadecimal digit. -/
theorem mem_hexDigits {count n : Nat} {c : Char} (h : c ∈ hexDigits count n) :
    ∃ k : Fin 16, c = hexDigit k := by
  induction count generalizing n with
  | zero => cases h
  | succ count ih =>
    rcases List.mem_append.1 h with hhigh | hlow
    · exact ih hhigh
    · exact ⟨⟨n % 16, Nat.mod_lt _ (by decide)⟩, List.mem_singleton.1 hlow⟩

@[simp] theorem length_hexDigits (count n : Nat) : (hexDigits count n).length = count := by
  induction count generalizing n with
  | zero => rfl
  | succ count ih => simp [hexDigits, ih]

private theorem removeAll_eq_self {first : Char} {pattern text : List Char}
    (h : ∀ c ∈ text, c ≠ first) : removeAll (first :: pattern) 0 text = text := by
  induction text with
  | nil => rfl
  | cons c rest ih =>
    have hc : first ≠ c := fun heq => h c List.mem_cons_self heq.symm
    rw [removeAll, if_neg (by simp [hc]), ih (fun d hd => h d (List.mem_cons_of_mem c hd))]

private theorem strip_eq_self {drop : Char → Bool} {text : List Char}
    (h : ∀ c ∈ text, drop c = false) : strip drop text = text := by
  have haux : ∀ l : List Char, (∀ c ∈ l, drop c = false) → l.dropWhile drop = l := by
    intro l hl
    cases l with
    | nil => rfl
    | cons c rest => rw [List.dropWhile_cons_of_neg (by simp [hl c List.mem_cons_self])]
  rw [strip, haux text h, haux text.reverse (fun c hc => h c (List.mem_reverse.1 hc)),
    List.reverse_reverse]

/-- Reading digits adds them to the number read so far. -/
theorem hexNumber?_hexDigits (count n acc : Nat) (afterDigit : Bool) (rest : List Char) :
    hexNumber? acc afterDigit (hexDigits count n ++ rest) =
      hexNumber? (acc * 16 ^ count + n % 16 ^ count) (afterDigit || decide (0 < count)) rest := by
  induction count generalizing n rest with
  | zero => simp [hexDigits, Nat.mod_one]
  | succ count ih =>
    obtain ⟨hvalue, hunderscore, -⟩ := hexDigit_spec ⟨n % 16, Nat.mod_lt _ (by decide)⟩
    rw [hexDigits, List.append_assoc, ih, List.singleton_append, hexNumber?, if_neg hunderscore,
      hvalue]
    have hmod : n % 16 ^ (count + 1) = n / 16 % 16 ^ count * 16 + n % 16 := by
      rw [Nat.pow_succ, Nat.mul_comm (16 ^ count) 16, Nat.mod_mul]
      omega
    have hsum : (acc * 16 ^ count + n / 16 % 16 ^ count) * 16 + n % 16 =
        acc * 16 ^ (count + 1) + n % 16 ^ (count + 1) := by
      rw [hmod, Nat.pow_succ]
      ring
    simp only [Option.bind_some, hsum]
    simp

private theorem filter_str (u : UUID) :
    u.str.toList.filter (· ≠ '-') = hexDigits 32 u.int := by
  have hkeep : ∀ l : List Char, (∀ c ∈ l, c ∈ hexDigits 32 u.int) →
      l.filter (· ≠ '-') = l := by
    intro l hl
    refine List.filter_eq_self.2 (fun c hc => ?_)
    obtain ⟨k, rfl⟩ := mem_hexDigits (hl c hc)
    simpa using (hexDigit_spec k).2.2.1
  have htake : ∀ (l : List Char) (k : Nat), (∀ c ∈ l, c ∈ hexDigits 32 u.int) →
      ∀ c ∈ l.take k, c ∈ hexDigits 32 u.int := fun l k hl c hc => hl c (List.mem_of_mem_take hc)
  have hdrop : ∀ (k : Nat), ∀ c ∈ (hexDigits 32 u.int).drop k, c ∈ hexDigits 32 u.int :=
    fun k c hc => List.mem_of_mem_drop hc
  have hdash : ['-'].filter (· ≠ '-') = ([] : List Char) := by decide
  rw [str, String.toList_ofList]
  simp only [List.filter_append, hdash, List.append_nil]
  rw [hkeep _ (htake _ 8 (fun c hc => hc)), hkeep _ (htake _ 4 (hdrop 8)),
    hkeep _ (htake _ 4 (hdrop 12)), hkeep _ (htake _ 4 (hdrop 16)), hkeep _ (hdrop 20)]
  -- the groups put together again are the digits
  have h16 := List.take_append_drop 4 ((hexDigits 32 u.int).drop 16)
  have h12 := List.take_append_drop 4 ((hexDigits 32 u.int).drop 12)
  have h8 := List.take_append_drop 4 ((hexDigits 32 u.int).drop 8)
  have h0 := List.take_append_drop 8 (hexDigits 32 u.int)
  rw [List.drop_drop] at h16 h12 h8
  rw [List.append_assoc, List.append_assoc, List.append_assoc, h16, h12, h8, h0]

private theorem mem_str {u : UUID} {c : Char} (h : c ∈ u.str.toList) :
    c = '-' ∨ ∃ k : Fin 16, c = hexDigit k := by
  by_cases hc : c = '-'
  · exact Or.inl hc
  · have hdigit : c ∈ hexDigits 32 u.int := by
      rw [← filter_str u]
      exact List.mem_filter.2 ⟨h, by simpa using hc⟩
    exact Or.inr (mem_hexDigits hdigit)

/-- `uuid.UUID(str(u))` is `u`. -/
@[simp] theorem parse?_str (u : UUID) : parse? u.str = some u := by
  have hnot : ∀ c ∈ u.str.toList, c ≠ 'u' := by
    intro c hc
    rcases mem_str hc with rfl | ⟨k, rfl⟩
    · decide
    · exact (hexDigit_spec k).2.2.2.2.1
  have hbrace : ∀ c ∈ u.str.toList, decide (c = '\x7b' ∨ c = '\x7d') = false := by
    intro c hc
    rcases mem_str hc with rfl | ⟨k, rfl⟩
    · decide
    · simpa using ⟨(hexDigit_spec k).2.2.2.2.2.2.2.1, (hexDigit_spec k).2.2.2.2.2.2.2.2.1⟩
  have hblank : ∀ c ∈ hexDigits 32 u.int, c.isWhitespace = false := by
    intro c hc
    obtain ⟨k, rfl⟩ := mem_hexDigits hc
    exact (hexDigit_spec k).2.2.2.2.2.2.2.2.2
  have hread : int16? (hexDigits 32 u.int) = some u.int := by
    have hne : ∀ k c, c ∈ (hexDigits 32 u.int).drop k → c ≠ '+' ∧ c ≠ 'x' ∧ c ≠ 'X' := by
      intro k c hc
      obtain ⟨d, rfl⟩ := mem_hexDigits (List.mem_of_mem_drop hc)
      exact ⟨(hexDigit_spec d).2.2.2.1, (hexDigit_spec d).2.2.2.2.2.1,
        (hexDigit_spec d).2.2.2.2.2.2.1⟩
    have hnumber : hexNumber? 0 false (hexDigits 32 u.int) = some u.int := by
      have hall := hexNumber?_hexDigits 32 u.int 0 false []
      rw [List.append_nil] at hall
      have hlt : u.int < 16 ^ 32 := u.isLt
      rw [hall, Nat.mod_eq_of_lt hlt]
      simp [hexNumber?]
    have hsign : (hexDigits 32 u.int).head? ≠ some '+' := by
      intro hhead
      exact (hne 0 '+' (List.mem_of_mem_head? hhead)).1 rfl
    unfold int16?
    rw [strip_eq_self hblank]
    simp only [if_neg hsign]
    split
    · rename_i heq
      exact absurd rfl (hne 1 'x' (by rw [heq]; simp)).2.1
    · rename_i heq
      exact absurd rfl (hne 1 'X' (by rw [heq]; simp)).2.2
    · rename_i heq
      exact absurd rfl (hne 1 'x' (by rw [heq]; simp)).2.1
    · rename_i heq
      exact absurd rfl (hne 1 'X' (by rw [heq]; simp)).2.2
    · exact hnumber
  unfold parse?
  have hurn : removeAll "urn:".toList 0 u.str.toList = u.str.toList := removeAll_eq_self hnot
  have huuid : removeAll "uuid:".toList 0 u.str.toList = u.str.toList := removeAll_eq_self hnot
  simp only [hurn, huuid, strip_eq_self hbrace, filter_str, length_hexDigits, if_true, hread,
    Option.map_some]
  cases u with
  | mk n hn =>
    have hmod : n % 2 ^ 128 = n := Nat.mod_eq_of_lt hn
    simp only [ofNat, hmod]

end UUID

/-- A key the database generates for a new row. -/
abbrev RowId := Nat

/-- A timestamp, in microseconds since the epoch. -/
abbrev Time := Int

/-! ## Enumerations of `app/models/base.py` -/

inductive WorkflowStatus
  | pending | decomposing | running | paused | completed | failed | cancelled | awaitingApproval
  deriving DecidableEq, Repr

inductive TaskStatus
  | todo | pending | assigned | running | retrying | completed | failed | skipped | blocked
  | awaitingApproval
  deriving DecidableEq, Repr

namespace TaskStatus

/-- The wire string of a status, `status.value`. -/
def value : TaskStatus → String
  | todo => "todo"
  | pending => "pending"
  | assigned => "assigned"
  | running => "running"
  | retrying => "retrying"
  | completed => "completed"
  | failed => "failed"
  | skipped => "skipped"
  | blocked => "blocked"
  | awaitingApproval => "awaiting_approval"

/-- Every status, in declaration order. -/
def all : List TaskStatus :=
  [todo, pending, assigned, running, retrying, completed, failed, skipped, blocked,
    awaitingApproval]

/-- `TaskStatus(value)`; `none` is the `ValueError` of an unknown value. -/
def ofValue? (s : String) : Option TaskStatus := all.find? (fun status => status.value == s)

/-- Decoding a status value gives the status back. -/
@[simp] theorem ofValue?_value (status : TaskStatus) : ofValue? status.value = some status := by
  cases status <;> decide +kernel

/-- The statuses `DAG.is_complete` counts as terminal. -/
def IsTerminal (status : TaskStatus) : Prop :=
  status = completed ∨ status = failed ∨ status = skipped

/-- The statuses `DAG.get_ready_nodes` starts from. -/
def IsStartable (status : TaskStatus) : Prop := status = pending ∨ status = todo

instance (status : TaskStatus) : Decidable status.IsTerminal := by
  unfold IsTerminal; infer_instance

instance (status : TaskStatus) : Decidable status.IsStartable := by
  unfold IsStartable; infer_instance

end TaskStatus

inductive MemoryType
  | fact | context | result | reasoning | metaType | cache
  deriving DecidableEq, Repr

namespace MemoryType

/-- The wire string, `memory_type.value`. -/
def value : MemoryType → String
  | fact => "fact"
  | context => "context"
  | result => "result"
  | reasoning => "reasoning"
  | metaType => "meta"
  | cache => "cache"

/-- `str(memory_type)`: the members are `(str, Enum)`, so `str` gives the
qualified member name and not the wire value. -/
def str : MemoryType → String
  | fact => "MemoryType.FACT"
  | context => "MemoryType.CONTEXT"
  | result => "MemoryType.RESULT"
  | reasoning => "MemoryType.REASONING"
  | metaType => "MemoryType.META"
  | cache => "MemoryType.CACHE"

/-- `MemoryType(value)`. -/
def ofValue? (s : String) : Option MemoryType :=
  [fact, context, result, reasoning, metaType, cache].find? (fun t => t.value == s)

@[simp] theorem ofValue?_value (memoryType : MemoryType) :
    ofValue? memoryType.value = some memoryType := by
  cases memoryType <;> decide +kernel

end MemoryType

inductive WalletActionType
  | credit | debit | reserve | release
  deriving DecidableEq, Repr

inductive RecordState
  | active | superseded | historical | tombstoned
  deriving DecidableEq, Repr

namespace RecordState

/-- The wire string, `record_state.value`. -/
def value : RecordState → String
  | active => "active"
  | superseded => "superseded"
  | historical => "historical"
  | tombstoned => "tombstoned"

/-- `RecordState(value)`. -/
def ofValue? (s : String) : Option RecordState :=
  [active, superseded, historical, tombstoned].find? (fun state => state.value == s)

@[simp] theorem ofValue?_value (state : RecordState) : ofValue? state.value = some state := by
  cases state <;> decide +kernel

end RecordState

end MassClaw
