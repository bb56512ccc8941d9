import Mathlib.Algebra.Order.Floor.Ring
import Mathlib.Data.Rat.Floor
import Mathlib.Tactic.Linarith
import Mathlib.Tactic.FieldSimp
import Mathlib.Tactic.NormNum

/-!
# Credits, prices and the `Numeric(12, 4)` columns

Amounts the services compute are exact rationals, in credits or in US dollars.
The ledger columns are `Numeric(12, 4)`: PostgreSQL rounds every stored amount
to four decimals, ties away from zero.  `numeric4` is that rounding, and a
stored amount is the integer number of ten-thousandths of a credit, so the
sums over the ledger are integer sums.

The rounding lemmas below are what carries a budget check on an unrounded
amount over to the amount that is stored.
-/

namespace MassClaw

/-- A stored amount, in ten-thousandths of a credit. -/
abbrev Numeric := Int

/-- The rounding of a `Numeric(12, 4)` column: to four decimals, ties away from
zero. -/
def numeric4 (amount : ℚ) : Numeric :=
  if 0 ≤ amount then ⌊amount * 10000 + 1 / 2⌋ else -⌊-amount * 10000 + 1 / 2⌋

/-- `float(stored)`: the stored amount in credits. -/
def toFloat (stored : Numeric) : ℚ := (stored : ℚ) / 10000

@[simp] theorem numeric4_zero : numeric4 0 = 0 := by decide +kernel

@[simp] theorem toFloat_zero : toFloat 0 = 0 := by simp [toFloat]

theorem toFloat_add (a b : Numeric) : toFloat (a + b) = toFloat a + toFloat b := by
  unfold toFloat
  push_cast
  ring

/-- The rounding is symmetric around zero. -/
@[simp] theorem numeric4_neg (amount : ℚ) : numeric4 (-amount) = -numeric4 amount := by
  unfold numeric4
  rcases lt_trichotomy amount 0 with h | rfl | h
  · rw [if_pos (by linarith), if_neg (by linarith), neg_neg]
  · decide +kernel
  · rw [if_neg (by linarith), if_pos h.le, neg_neg]

/-- A stored amount is not changed by storing it again. -/
@[simp] theorem numeric4_toFloat (stored : Numeric) : numeric4 (toFloat stored) = stored := by
  have hfloor : ∀ n : Int, ⌊(n : ℚ) + 1 / 2⌋ = n := by
    intro n
    rw [Int.floor_intCast_add]
    norm_num
  unfold numeric4 toFloat
  split_ifs with h
  · rw [div_mul_cancel₀ _ (by norm_num : (10000 : ℚ) ≠ 0), hfloor]
  · rw [neg_mul, div_mul_cancel₀ _ (by norm_num : (10000 : ℚ) ≠ 0)]
    have := hfloor (-stored)
    push_cast at this
    rw [this, neg_neg]

theorem numeric4_nonneg {amount : ℚ} (h : 0 ≤ amount) : 0 ≤ numeric4 amount := by
  rw [numeric4, if_pos h]
  exact Int.floor_nonneg.mpr (by linarith)

/-- Rounding never takes an amount past a bound that is itself storable. -/
theorem numeric4_le_of_le {amount : ℚ} {bound : Numeric} (hamount : 0 ≤ amount)
    (h : amount ≤ toFloat bound) : numeric4 amount ≤ bound := by
  have hbound : amount * 10000 ≤ bound := by
    have := mul_le_mul_of_nonneg_right h (by norm_num : (0 : ℚ) ≤ 10000)
    rwa [toFloat, div_mul_cancel₀ _ (by norm_num : (10000 : ℚ) ≠ 0)] at this
  rw [numeric4, if_pos hamount, ← Int.lt_add_one_iff, Int.floor_lt]
  push_cast
  linarith

/-! ## Prices, `app/llm/token_counter.py` -/

/-- The price of one model, in dollars per million tokens. -/
structure Pricing where
  input : ℚ
  output : ℚ

/-- `PRICING_TABLE`. -/
def pricingTable : List (String × Pricing) :=
  [ ("claude-opus-5", ⟨15, 75⟩)
  , ("claude-sonnet-5", ⟨3, 15⟩)
  , ("claude-fable-5", ⟨3, 15⟩)
  , ("claude-haiku-4-5-20251001", ⟨8 / 10, 4⟩)
  , ("claude-opus-4-20250514", ⟨15, 75⟩)
  , ("claude-sonnet-4-20250514", ⟨3, 15⟩)
  , ("claude-haiku-3-5-20241022", ⟨8 / 10, 4⟩)
  , ("claude-opus", ⟨15, 75⟩)
  , ("claude-sonnet", ⟨3, 15⟩)
  , ("claude-haiku", ⟨8 / 10, 4⟩)
  , ("cache", ⟨0, 0⟩)
  , ("gpt-4o", ⟨25 / 10, 10⟩)
  , ("gpt-4o-mini", ⟨15 / 100, 6 / 10⟩)
  , ("gpt-4-turbo", ⟨10, 30⟩)
  , ("local", ⟨0, 0⟩)
  , ("default", ⟨3, 15⟩) ]

/-- The price of a model, with the fallback for unknown ids. -/
def pricingFor (model : String) : Pricing :=
  ((pricingTable.find? (fun entry => entry.1 == model)).map Prod.snd).getD ⟨3, 15⟩

/-- `estimate_cost`: the dollar cost of a call. -/
def estimateCost (inputTokens outputTokens : Nat) (model : String) : ℚ :=
  inputTokens * (pricingFor model).input / 1000000 +
    outputTokens * (pricingFor model).output / 1000000

/-- `tokens_to_credits`: one credit is a thousandth of a dollar. -/
def tokensToCredits (costUsd : ℚ) : ℚ := costUsd / (1 / 1000)

@[simp] theorem tokensToCredits_zero : tokensToCredits 0 = 0 := by simp [tokensToCredits]

theorem tokensToCredits_nonneg {cost : ℚ} (h : 0 ≤ cost) : 0 ≤ tokensToCredits cost := by
  unfold tokensToCredits
  positivity

end MassClaw
