import Widgetry.Proofs.IntegerLiterals

/-!
# Integers that are written and read back

An integer is written in decimal, with a minus sign if it is negative. The digits of a natural
number denote it (`digitsValue_ofNat`), so a written integer is an integer literal that denotes it
(`IntegerLiteral.value_ofInt`). As an integer it is read back unless it has too many digits
(`readInteger_ofInt`), and up to 2⁵³ it is read back through the binary64 format as the same integer
(`read?_ofInt`).
-/

namespace Widgetry

open Text

namespace Text

/-! ## Digits -/

theorem mem_ofNat {n : Nat} : ∀ c ∈ ofNat n, ∃ d < 10, c = Nat.digitChar d := by
  induction n using Nat.strong_induction_on with
  | _ n ih =>
    intro c hc
    rw [ofNat, Nat.toDigits_eq_if (by decide)] at hc
    split at hc
    · rename_i hn
      exact ⟨n, hn, List.mem_singleton.mp hc⟩
    · rename_i hn
      rcases List.mem_append.mp hc with hc | hc
      · exact ih (n / 10) (by omega) c hc
      · exact ⟨n % 10, Nat.mod_lt n (by decide), List.mem_singleton.mp hc⟩

theorem digitValue?_digitChar : ∀ d < 10, digitValue? (Nat.digitChar d) = some d := by decide

theorem isDigit_of_mem_ofNat {n : Nat} : ∀ c ∈ ofNat n, isDigit c = true := by
  intro c hc
  obtain ⟨d, hd, rfl⟩ := mem_ofNat c hc
  rw [isDigit, digitValue?_digitChar d hd]
  rfl

/-- The digits of a number are plain characters, and no blanks. -/
theorem isPlain_of_mem_ofNat {n : Nat} : ∀ c ∈ ofNat n, Scan.IsPlain c ∧ isBlank c = false := by
  intro c hc
  obtain ⟨d, hd, rfl⟩ := mem_ofNat c hc
  have hdigits : ∀ d < 10, Scan.IsPlain (Nat.digitChar d) ∧ isBlank (Nat.digitChar d) = false := by
    decide
  exact hdigits d hd

/-- **The digits of a number denote it.** -/
theorem digitsValue_ofNat (n : Nat) : digitsValue ((ofNat n).filterMap digitValue?) = n := by
  induction n using Nat.strong_induction_on with
  | _ n ih =>
    rw [ofNat, Nat.toDigits_eq_if (by decide)]
    split
    · rename_i hn
      simp [digitValue?_digitChar n hn, digitsValue]
    · have hlast := digitValue?_digitChar (n % 10) (Nat.mod_lt n (by decide))
      have hinit := ih (n / 10) (by omega)
      rw [ofNat] at hinit
      rw [List.filterMap_append, List.filterMap_cons_some hlast, List.filterMap_nil,
        digitsValue_append_singleton, hinit]
      omega

theorem ofNat_ne_nil (n : Nat) : ofNat n ≠ [] := Nat.toDigits_ne_nil

end Text

/-! ## Literals -/

namespace IntegerLiteral

/-- A written integer is a sign and the digits of its magnitude. -/
def ofInt (n : Int) : IntegerLiteral where
  blanks := []
  sign := if n < 0 then .minus else .none
  digits := ofNat n.natAbs
  rest := []
  blank := fun _ hc => absurd hc List.not_mem_nil
  nonempty := ofNat_ne_nil n.natAbs
  isDigit := isDigit_of_mem_ofNat
  ends := not_carriesOn_nil

theorem sign_ofInt_negSucc (n : Nat) : (ofInt (.negSucc n)).sign = .minus :=
  if_pos (Int.negSucc_lt_zero n)

@[simp] theorem text_ofInt (n : Int) : (ofInt n).text = Text.ofInt n := by
  cases n with
  | ofNat n => exact List.append_nil _
  | negSucc n =>
    rw [text, sign_ofInt_negSucc]
    exact congrArg (List.cons '-') (List.append_nil _)

@[simp] theorem size_ofInt (n : Int) : (ofInt n).size = n.natAbs := by
  rw [size, ← digitsValue_eq_ofDigits]
  exact digitsValue_ofNat n.natAbs

@[simp] theorem value_ofInt (n : Int) : (ofInt n).value = n := by
  rw [value, size_ofInt]
  cases n with
  | ofNat n => rfl
  | negSucc n => rw [sign_ofInt_negSucc]; rfl

end IntegerLiteral

/-- **An integer of no more than `maxIntegerDigits` digits is read back** as an integer literal. -/
theorem readInteger_ofInt {n : Int} (hn : (ofNat n.natAbs).length ≤ maxIntegerDigits) :
    readInteger (ofInt n) = .ok (some n) := by
  simpa using (IntegerLiteral.ofInt n).readInteger_text hn

/-- **An integer up to 2⁵³ is read back.** -/
theorem Number.read?_ofInt {n : Int} (hn : n.natAbs ≤ 2 ^ 53) :
    Number.read? (ofInt n) = some (.int n) := by
  simpa using (IntegerLiteral.ofInt n).number_read?_exact (by simpa using hn)

end Widgetry
