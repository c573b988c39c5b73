import Mathlib.Data.List.Basic

/-! Numbers in decimal digits: what they are written with, and that they can be read back. -/

namespace Bundler.Text

variable {n : Nat}

theorem isDigit_of_mem_toString {c : Char} (member : c ∈ (toString n).toList) : c.isDigit := by
  rw [Nat.toString_eq_repr, Nat.toList_repr] at member
  exact Nat.isDigit_of_mem_toDigits (by decide) (by decide) member

theorem toList_toString_ne_nil : (toString n).toList ≠ [] := by
  rw [Nat.toString_eq_repr, Nat.toList_repr]
  exact Nat.toDigits_ne_nil

theorem head_toDigits (given : 0 < n) :
    ∃ first more, Nat.toDigits 10 n = first :: more ∧ first ≠ '0' := by
  induction n using Nat.strongRecOn with
  | ind n induction =>
    rw [Nat.toDigits_eq_if (by decide)]
    split
    · next small =>
      have leading : ∀ n < 10, 0 < n → Nat.digitChar n ≠ '0' := by decide
      exact ⟨_, [], rfl, leading n small given⟩
    · next large =>
      obtain ⟨first, more, written, leading⟩ := induction (n / 10) (by omega) (by omega)
      exact ⟨first, _, by rw [written, List.cons_append], leading⟩

theorem foldl_toString (n : Nat) :
    (toString n).toList.foldl (fun n c => n * 10 + (c.toNat - '0'.toNat)) 0 = n := by
  have read := Nat.ofDigitChars_ten_toDigits (n := n)
  rw [Nat.ofDigitChars_eq_foldl] at read
  rw [Nat.toString_eq_repr, Nat.toList_repr]
  simpa only [Nat.mul_comm 10] using read

theorem toString_injective {n' : Nat} (same : (toString n).toList = (toString n').toList) :
    n = n' := by
  rw [← foldl_toString n, same, foldl_toString]

end Bundler.Text
