import Mathlib.Data.List.GetD
import PageFilters.Text.Hex

/-!
# Reading hexadecimal text

Digits tell values apart, two of them octets, and so the texts of lists of
octets are told apart as well.
-/

namespace PageFilters.Text

theorem hexDigit_injective {left right : Nat} (leftSmall : left < 16) (rightSmall : right < 16)
    (same : hexDigit left = hexDigit right) : left = right := by
  have distinct : ∀ left < 16, ∀ right < 16, hexDigit left = hexDigit right → left = right := by
    decide
  exact distinct left leftSmall right rightSmall same

theorem hexDigit_mem (value : Nat) : hexDigit value ∈ "0123456789abcdef".toList := by
  by_cases small : value < "0123456789abcdef".toList.length
  · rw [hexDigit, List.getD_eq_getElem _ _ small]
    exact List.getElem_mem small
  · rw [hexDigit, List.getD_eq_default _ _ (Nat.le_of_not_lt small)]
    decide

theorem hexPair_injective {left right : UInt8} (same : hexPair left = hexPair right) :
    left = right := by
  have leftBound := left.toNat_lt
  have rightBound := right.toNat_lt
  obtain ⟨sameHigh, sameLow⟩ : hexDigit (left.toNat / 16) = hexDigit (right.toNat / 16) ∧
      hexDigit (left.toNat % 16) = hexDigit (right.toNat % 16) := by
    simpa [hexPair] using same
  have high := hexDigit_injective (by omega) (by omega) sameHigh
  have low := hexDigit_injective (by omega) (by omega) sameLow
  exact UInt8.toNat_inj.mp (by omega)

@[simp] theorem toList_hex (bytes : Bytes) : (hex bytes).toList = bytes.flatMap hexPair :=
  String.toList_ofList

theorem length_hex (bytes : Bytes) : (hex bytes).toList.length = 2 * bytes.length := by
  induction bytes with
  | nil => rfl
  | cons byte bytes induction =>
      simp only [toList_hex, List.flatMap_cons, List.length_append, List.length_cons] at *
      rw [induction]
      simp [hexPair]
      omega

theorem hexDigit_of_mem_hex {bytes : Bytes} {char : Char} (member : char ∈ (hex bytes).toList) :
    char ∈ "0123456789abcdef".toList := by
  obtain ⟨byte, -, digit⟩ := List.mem_flatMap.mp (toList_hex bytes ▸ member)
  simp only [hexPair, List.mem_cons, List.not_mem_nil, or_false] at digit
  rcases digit with rfl | rfl
  · exact hexDigit_mem _
  · exact hexDigit_mem _

theorem hex_injective {left right : Bytes} (same : hex left = hex right) : left = right := by
  have sameDigits : left.flatMap hexPair = right.flatMap hexPair := by
    rw [← toList_hex, ← toList_hex, same]
  clear same
  induction left generalizing right with
  | nil =>
      cases right with
      | nil => rfl
      | cons byte right => simp [hexPair] at sameDigits
  | cons byte left induction =>
      cases right with
      | nil => simp [hexPair] at sameDigits
      | cons other right =>
          rw [List.flatMap_cons, List.flatMap_cons] at sameDigits
          obtain ⟨samePair, sameRest⟩ := List.append_inj sameDigits rfl
          rw [hexPair_injective samePair, induction sameRest]

end PageFilters.Text
