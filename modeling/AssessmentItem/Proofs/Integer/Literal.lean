import AssessmentItem.Integer.Literal
import AssessmentItem.Proofs.Integer

/-!
# Literals of integers

The decimal text of an integer is an integer literal that denotes it.  The numbers that are read on
the way are no greater than the last one, so that none of them is out of the range.

## Main results

* `Integer.readDigits_eq` : what digits denote after other digits.
* `Integer.read_text` : the text of an integer is read as the integer.
-/

namespace AssessmentItem.Integer

theorem digit?_eq {c : Char} (hc : c.isDigit) : digit? c = some (c.toNat - '0'.toNat) := by
  rw [Char.isDigit, Bool.and_eq_true, decide_eq_true_iff, decide_eq_true_iff] at hc
  exact if_pos hc

/-- Digits after those that gave `a`, which is `± m`. -/
theorem readDigits_eq {sign : ℤ} (hsign : sign = 1 ∨ sign = -1) {cs : List Char}
    (hcs : ∀ c ∈ cs, c.isDigit) {a n : Int64} {m : ℕ} (ha : a.toInt = sign * m)
    (hn : n.toInt = sign * Nat.ofDigitChars 10 cs m) : readDigits sign a cs = .ok n := by
  induction cs generalizing a m with
  | nil =>
    rw [readDigits, Int64.toInt_inj.1 (ha.trans hn.symm)]
  | cons c cs ih =>
    obtain ⟨hc, hcs⟩ := List.forall_mem_cons.1 hcs
    rw [Nat.ofDigitChars_cons] at hn
    have hnext : a.toInt * 10 + sign * (c.toNat - '0'.toNat : ℕ) =
        sign * (10 * m + (c.toNat - '0'.toNat) : ℕ) := by
      rw [ha]
      push_cast
      ring
    have hle : 10 * m + (c.toNat - '0'.toNat) ≤
        Nat.ofDigitChars 10 cs (10 * m + (c.toNat - '0'.toNat)) := by
      rw [Nat.ofDigitChars_eq_ofDigitChars_zero]
      exact (Nat.le_mul_of_pos_left _ (Nat.pow_pos (by decide))).trans (Nat.le_add_right _ _)
    have hrange : InRange (sign * (10 * m + (c.toNat - '0'.toNat) : ℕ)) := by
      obtain ⟨hlow, hhigh⟩ := inRange_toInt n
      unfold InRange
      obtain rfl | rfl := hsign <;> omega
    obtain ⟨b, hb, hvalue⟩ := exists_fit? hrange
    rw [readDigits, digit?_eq hc]
    simp only [hnext, hb]
    exact ih hcs hvalue hn

theorem isDigit_of_mem_toDigits {k : ℕ} : ∀ c ∈ Nat.toDigits 10 k, c.isDigit :=
  fun _ ↦ Nat.isDigit_of_mem_toDigits (by decide) (by decide)

/-- The `text` of an integer is that of its magnitude, behind a `'-'` if it is negative. -/
theorem text_cases (n : Int64) :
    (∃ k : ℕ, n.toInt = k ∧ (text n).toList = Nat.toDigits 10 k) ∨
      ∃ k : ℕ, n.toInt = -k ∧ (text n).toList = '-' :: Nat.toDigits 10 k := by
  rw [text, Int.toString_eq_repr]
  cases hn : n.toInt with
  | ofNat k => exact .inl ⟨k, rfl, Nat.toList_repr⟩
  | negSucc k =>
    refine .inr ⟨k + 1, rfl, ?_⟩
    rw [Int.repr, String.toList_append, Nat.toList_repr]
    rfl

theorem read_digits {cs : List Char} (hne : cs ≠ []) (hcs : ∀ c ∈ cs, c.isDigit) :
    read cs = readDigits 1 0 cs := by
  unfold read
  split
  · exact absurd rfl hne
  · exact absurd (hcs '+' List.mem_cons_self) (by decide)
  · exact absurd (hcs '-' List.mem_cons_self) (by decide)
  · exact absurd (hcs '+' List.mem_cons_self) (by decide)
  · exact absurd (hcs '-' List.mem_cons_self) (by decide)
  · rfl

theorem read_minus {cs : List Char} (hne : cs ≠ []) : read ('-' :: cs) = readDigits (-1) 0 cs := by
  obtain ⟨c, cs, rfl⟩ := List.exists_cons_of_ne_nil hne
  rfl

/-- The `text` of an integer is read as the integer. -/
theorem read_text (n : Int64) : read (text n).toList = .ok n := by
  have hzero (sign : ℤ) : (0 : Int64).toInt = sign * (0 : ℕ) := (mul_zero sign).symm
  obtain ⟨k, hn, htext⟩ | ⟨k, hn, htext⟩ := text_cases n
  · rw [htext, read_digits Nat.toDigits_ne_nil isDigit_of_mem_toDigits]
    refine readDigits_eq (.inl rfl) isDigit_of_mem_toDigits (hzero 1) ?_
    rw [hn, Nat.ofDigitChars_ten_toDigits, one_mul]
  · rw [htext, read_minus Nat.toDigits_ne_nil]
    refine readDigits_eq (.inr rfl) isDigit_of_mem_toDigits (hzero (-1)) ?_
    rw [hn, Nat.ofDigitChars_ten_toDigits, neg_one_mul]

end AssessmentItem.Integer
