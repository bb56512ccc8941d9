import Mathlib.Logic.Function.Basic
import Mathlib.Tactic.Common

/-!
# Codecs with one text for each value

A decoder that accepts several texts of a value gives that value several names.
`Exact` excludes it: a text is read as a value exactly if it is the text that
the encoder writes.  Codecs that are stacked on each other stay exact.
-/

namespace Codec

universe u v w

variable {α : Type u} {β : Type v} {γ : Type w}

/-- A text is read as a value exactly if it is the text of that value. -/
def Exact (encode : α → β) (decode : β → Option α) : Prop :=
  ∀ value text, decode text = some value ↔ encode value = text

namespace Exact

variable {encode : α → β} {decode : β → Option α}

/-- The two inverse laws are enough. -/
theorem of_inverse (hdecode : ∀ value, decode (encode value) = some value)
    (hencode : ∀ value text, decode text = some value → encode value = text) :
    Exact encode decode := by
  intro value text
  constructor
  · exact hencode value text
  · intro htext
    rw [← htext]
    exact hdecode value

theorem decode_encode (h : Exact encode decode) (value : α) : decode (encode value) = some value :=
  (h value (encode value)).2 rfl

theorem encode_decode (h : Exact encode decode) {value : α} {text : β}
    (hdecode : decode text = some value) : encode value = text :=
  (h value text).1 hdecode

/-- Different values have different texts. -/
theorem injective (h : Exact encode decode) : Function.Injective encode := by
  intro a b hsame
  have ha := h.decode_encode a
  rw [hsame, h.decode_encode b] at ha
  exact (Option.some.inj ha).symm

/-- One codec on top of another. -/
theorem comp {encode' : β → γ} {decode' : γ → Option β} (outer : Exact encode' decode')
    (inner : Exact encode decode) :
    Exact (fun value => encode' (encode value)) (fun text => (decode' text).bind decode) := by
  intro value text
  rw [Option.bind_eq_some_iff]
  constructor
  · intro hread
    obtain ⟨middle, houter, hinner⟩ := hread
    show encode' (encode value) = text
    rw [inner.encode_decode hinner]
    exact outer.encode_decode houter
  · intro htext
    rw [← htext]
    exact ⟨encode value, outer.decode_encode _, inner.decode_encode value⟩

end Exact

end Codec
