import Mathlib.Data.Set.Basic

/-!
# Reconciliation by buckets

Two parties hold sets of keys, and each key falls into at most one bucket.  A
client that lists the buckets in which the sets differ, and takes from each of
them the keys it does not have, gets everything that it misses.

What the client compares with may be an older state of the server, as long as
that state had every key that the client misses.
-/

namespace Buckets

universe u v

variable {κ : Type u} {ι : Type v} (bucket : κ → Option ι)

/-- The keys of one bucket. -/
def part (keys : Set κ) (i : ι) : Set κ := {key | key ∈ keys ∧ bucket key = some i}

/-- The keys that the client does not have, in the listed buckets of the
server. -/
def missing (listed : Set ι) (client server : Set κ) : Set κ :=
  {key | ∃ i ∈ listed, key ∈ part bucket server i ∧ key ∉ part bucket client i}

variable {bucket} {listed : Set ι} {client server seen : Set κ}

@[simp] theorem mem_part {keys : Set κ} {i : ι} {key : κ} :
    key ∈ part bucket keys i ↔ key ∈ keys ∧ bucket key = some i := Iff.rfl

/-- What is listed as missing is missing. -/
theorem missing_subset : missing bucket listed client server ⊆ server \ client := by
  rintro key ⟨i, -, ⟨hserver, hbucket⟩, hnot⟩
  exact ⟨hserver, fun hclient => hnot ⟨hclient, hbucket⟩⟩

/-- What is missing is listed, when every bucket that is not listed is the same
on both sides. -/
theorem missing_eq (htotal : ∀ key ∈ server, (bucket key).isSome)
    (hseen : server \ client ⊆ seen)
    (hlisted : ∀ i, i ∉ listed → part bucket client i = part bucket seen i) :
    missing bucket listed client server = server \ client := by
  refine Set.Subset.antisymm missing_subset (fun key hkey => ?_)
  obtain ⟨i, hbucket⟩ := Option.isSome_iff_exists.1 (htotal key hkey.1)
  by_cases hmem : i ∈ listed
  · exact ⟨i, hmem, ⟨hkey.1, hbucket⟩, fun hclient => hkey.2 hclient.1⟩
  · have hpart : key ∈ part bucket client i := by
      rw [hlisted i hmem]
      exact ⟨hseen hkey, hbucket⟩
    exact absurd hpart.1 hkey.2

end Buckets
