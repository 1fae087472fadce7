import EmuHost.Proofs.ShortestDecimals
import EmuHost.Proofs.WrittenValues

/-!
# Floats that were written

The text of a finite value holds digits before and after a point, with a sign in front of a negative
value. The digits write the decimal of the value whatever zeros stand around them
(`Decimal.IsWritten`), so the text is read as this decimal.

## Key results

- `Decimal.exists_parts`: what positional notation writes
- `Toml.float_denotes`: the text of a float is read as the float that its decimal is rounded to
-/

namespace EmuHost

namespace Toml

/-- Zeros behind digits multiply the number. -/
theorem numeral_append_zeros (digits : List Char) (count : Nat) :
    numeral 10 (digits ++ List.replicate count '0') = numeral 10 digits * 10 ^ count := by
  -- on the number of zeros, the last one first
  induction count with
  | zero => simp only [List.replicate_zero, List.append_nil, Nat.pow_zero, Nat.mul_one]
  | succ count ih =>
    have last : numeral 10 (digits ++ List.replicate count '0' ++ ['0']) =
        numeral 10 (digits ++ List.replicate count '0') * 10 := by
      simp only [numeral, List.foldl_append, List.foldl_cons, List.foldl_nil]
      rfl
    rw [List.replicate_succ', ← List.append_assoc, last, ih, Nat.pow_succ, Nat.mul_assoc]

/-- Zeros in front of them do nothing. -/
theorem numeral_zeros_append (count : Nat) (digits : List Char) :
    numeral 10 (List.replicate count '0' ++ digits) = numeral 10 digits := by
  induction count with
  | zero => rfl
  | succ count ih => exact ih

/-- Digits go on with digits. -/
theorem IsDigits.append {left right : List Char} (digits : IsDigits left)
    (more : ∀ c ∈ right, c.isDigit = true) : IsDigits (left ++ right) := by
  refine ⟨fun c inside => ?_, List.append_ne_nil_of_left_ne_nil digits.ne_nil right⟩
  rcases List.mem_append.1 inside with inside | inside
  · exact digits.all c inside
  · exact more c inside

/-- Zeros are digits. -/
theorem zeros_isDigit {count : Nat} : ∀ c ∈ List.replicate count '0', c.isDigit = true := by
  intro c inside
  rw [List.eq_of_mem_replicate inside]
  rfl

end Toml

namespace Decimal

open Toml

/-- The digits before and after the point write a decimal, with no zeros in front but the one before
the point. -/
structure IsWritten (d : Decimal) (whole fraction : List Char) : Prop where
  before : IsDigits whole
  after : IsDigits fraction
  start : hasLeadingZero (whole ++ '.' :: fraction) = false
  same : (⟨numeral 10 (whole ++ fraction), -fraction.length⟩ : Decimal).value = d.value

/-- A decimal whose zero has no exponent. -/
def IsProper (d : Decimal) : Prop := d.digits = 0 → d.exponent = 0

/-- A positive number starts with no zero. -/
theorem hasLeadingZero_append (n : Nat) {rest : List Char} (positive : 0 < n) :
    hasLeadingZero (Nat.toDigits 10 n ++ rest) = false := by
  obtain ⟨first, more, digits, other⟩ := toDigits_head positive
  rw [digits, List.cons_append, hasLeadingZero_of_ne other]

/-- Positional notation of a whole number. -/
theorem positional_of_nonneg {d : Decimal} (proper : d.IsProper) (nonneg : 0 ≤ d.exponent) :
    d.IsWritten d.positional.toList ['0'] := by
  have text : d.positional.toList =
      Nat.toDigits 10 d.digits ++ List.replicate d.exponent.toNat '0' := by
    simp only [positional, nonneg, if_true, String.toList_ofList]
  have isDigits : IsDigits (Nat.toDigits 10 d.digits ++ List.replicate d.exponent.toNat '0') :=
    (toDigits_isDigits d.digits).append zeros_isDigit
  rw [text]
  refine ⟨isDigits, ⟨List.all_eq_true.1 (by decide), by decide⟩, ?_, ?_⟩
  -- zero has no exponent, so its text is one digit
  · rw [List.append_assoc]
    rcases Nat.eq_zero_or_pos d.digits with zero | positive
    · rw [zero, proper zero]
      rfl
    · exact hasLeadingZero_append d.digits positive
  · have zeros : List.replicate d.exponent.toNat '0' ++ ['0'] =
        List.replicate (d.exponent.toNat + 1) '0' := List.replicate_succ'.symm
    have power : (10 : ℚ) ^ d.exponent = 10 ^ d.exponent.toNat := by
      rw [← zpow_natCast, Int.toNat_of_nonneg nonneg]
    -- with one zero behind the point, and the exponent that undoes it
    rw [List.append_assoc, zeros, numeral_append_zeros, numeral_toDigits, value, value, power]
    rw [List.length_singleton, pow_succ]
    push_cast
    rw [zpow_neg_one]
    field_simp

/-! ### Fractions -/

/-- A number in more than `places` digits, with zeros in front where it has fewer. -/
def padded (n places : Nat) : List Char :=
  List.replicate (places + 1 - (Nat.toDigits 10 n).length) '0' ++ Nat.toDigits 10 n

/-- Padding leaves a digit in front of the point. -/
theorem lt_length_padded (n places : Nat) : places < (padded n places).length := by
  simp only [padded, List.length_append, List.length_replicate]
  omega

/-- Padding adds digits. -/
theorem padded_isDigit (n places : Nat) : ∀ c ∈ padded n places, c.isDigit = true := by
  intro c inside
  rcases List.mem_append.1 inside with zero | digit
  · exact zeros_isDigit c zero
  · exact (toDigits_isDigits n).all c digit

/-- And changes nothing of the number. -/
theorem numeral_padded (n places : Nat) : numeral 10 (padded n places) = n := by
  rw [padded, numeral_zeros_append, numeral_toDigits]

/-- Of the zeros that pad a number only one stands before the point. -/
theorem hasLeadingZero_padded (n places : Nat) (positive : 0 < places) (rest : List Char) :
    hasLeadingZero ((padded n places).take ((padded n places).length - places) ++ '.' :: rest) =
      false := by
  rcases Nat.lt_or_ge places (Nat.toDigits 10 n).length with many | few
  · -- there is nothing to pad
    have bare : padded n places = Nat.toDigits 10 n := by
      have none : places + 1 - (Nat.toDigits 10 n).length = 0 := by omega
      rw [padded, none]
      rfl
    have nonzero : 0 < n := by
      rw [Nat.pos_iff_ne_zero]
      rintro rfl
      rw [Nat.toDigits_zero, List.length_singleton] at many
      omega
    obtain ⟨before, succ⟩ : ∃ before, (Nat.toDigits 10 n).length - places = before + 1 :=
      ⟨(Nat.toDigits 10 n).length - places - 1, by omega⟩
    obtain ⟨first, more, digits, other⟩ := toDigits_head nonzero
    rw [bare, succ, digits, List.take_succ_cons, List.cons_append, hasLeadingZero_of_ne other]
  · obtain ⟨zeros, succ⟩ : ∃ zeros, places + 1 - (Nat.toDigits 10 n).length = zeros + 1 :=
      ⟨places - (Nat.toDigits 10 n).length, by omega⟩
    have one : (padded n places).length - places = 1 := by
      simp only [padded, List.length_append, List.length_replicate]
      omega
    rw [one, padded, succ, List.replicate_succ]
    rfl

/-- Positional notation with a fraction. -/
theorem positional_of_neg {d : Decimal} (below : d.exponent < 0) :
    ∃ whole fraction, d.positional.toList = whole ++ '.' :: fraction ∧
      d.IsWritten whole fraction := by
  -- the point goes so far into the padded digits that `places` of them are behind it
  generalize absolute : d.exponent.natAbs = places
  have exponent : d.exponent = -places := by omega
  have long := lt_length_padded d.digits places
  generalize count : (padded d.digits places).length - places = before
  have text : d.positional.toList =
      (padded d.digits places).take before ++ '.' :: (padded d.digits places).drop before := by
    have notWhole : ¬ 0 ≤ d.exponent := by omega
    simp only [positional, notWhole, if_false, absolute, String.toList_ofList, ← count, padded]
  have after : ((padded d.digits places).drop before).length = places := by
    rw [List.length_drop]
    omega
  refine ⟨_, _, text, ⟨?_, ?_, ?_, ?_⟩⟩
  · refine ⟨fun c inside => padded_isDigit _ _ c (List.mem_of_mem_take inside), ?_⟩
    rw [← List.length_pos_iff, List.length_take]
    omega
  · refine ⟨fun c inside => padded_isDigit _ _ c (List.mem_of_mem_drop inside), ?_⟩
    rw [← List.length_pos_iff, after]
    omega
  · rw [← count]
    exact hasLeadingZero_padded d.digits places (by omega) _
  · rw [List.take_append_drop, numeral_padded, after, value, value, exponent]

end Decimal

namespace Toml

/-- The text of a magnitude is its decimal, written out. -/
theorem magnitudeText_eq {f : Format} (n : Nat) :
    Binary.magnitudeText (f := f) n = (f.decimal n).positional := by
  unfold Binary.magnitudeText Format.decimal
  split
  · rfl
  · rfl

/-- The text of a finite value is its sign and its decimal. -/
theorem toList_text {f : Format} (negative : Bool) (n : Fin f.infinityOrdinal) :
    (Binary.finite negative n).text.toList =
      signMark negative ++ (f.decimal n).positional.toList := by
  rw [Binary.text, String.toList_append, magnitudeText_eq]
  cases negative <;> rfl

/-- The decimal of zero has no exponent. -/
theorem decimal_isProper {f : Format} (fraction : 0 < f.fractionBits) (n : Nat) :
    (f.decimal n).IsProper := by
  intro zero
  have near := f.decimal_isNearest fraction n
  have first := f.isNearest_units 0
  rw [Decimal.value, zero, Nat.cast_zero, zero_mul, zero_mul] at near
  rw [Format.units_zero, Nat.cast_zero] at first
  rw [near.unique first, Format.decimal, if_pos Format.units_zero]

/-- The text of a finite value is its sign and its decimal, with a fraction in any case. -/
theorem floatText_finite {f : Format} (fraction : 0 < f.fractionBits) (negative : Bool)
    (n : Fin f.infinityOrdinal) :
    ∃ whole fraction, (f.decimal n).IsWritten whole fraction ∧
      (floatText (.finite negative n : Binary f)).toList =
        signMark negative ++ (whole ++ '.' :: fraction) := by
  have text := toList_text negative n
  have point : (Binary.finite negative n).text.contains '.' = true ↔
      '.' ∈ signMark negative ++ (f.decimal n).positional.toList := by
    rw [String.contains_char_eq, text, decide_eq_true_iff]
  -- a decimal with a fraction has its point, one without gets it
  rcases lt_or_ge (f.decimal n).exponent 0 with below | nonneg
  · obtain ⟨whole, fraction, parts, written⟩ := Decimal.positional_of_neg below
    rw [parts] at text point
    refine ⟨whole, fraction, written, ?_⟩
    have inside : '.' ∈ whole ++ '.' :: fraction := List.mem_append_right _ List.mem_cons_self
    rw [floatText, if_pos (point.2 (List.mem_append_right _ inside)), text]
  · have written := Decimal.positional_of_nonneg (decimal_isProper fraction n) nonneg
    refine ⟨_, _, written, ?_⟩
    have outside : '.' ∉ signMark negative ++ (f.decimal n).positional.toList := by
      intro inside
      rcases List.mem_append.1 inside with sign | digit
      · cases negative with
        | false => cases sign
        | true => cases List.mem_singleton.1 sign
      · cases written.before.all _ digit
    rw [floatText, if_neg (outside ∘ point.1), String.toList_append, text, List.append_assoc]
    rfl

/-- The text before and after the point goes into one row of digits. -/
theorem float?_of_isWritten {d : Decimal} {whole fraction : List Char}
    (written : d.IsWritten whole fraction) (negative : Bool) :
    float? negative (whole ++ '.' :: fraction) =
      some (.ofDecimal negative (numeral 10 (whole ++ fraction)) (-fraction.length)) := by
  -- nothing in it marks an exponent, so all of it is the mantissa
  have plain : ∀ c ∈ whole ++ '.' :: fraction, (!isExponentMark c) = true := by
    intro c inside
    rw [Bool.not_eq_true']
    by_contra mark
    have digit : c.isDigit = true ∨ c = '.' := by
      rcases List.mem_append.1 inside with inside | inside
      · exact .inl (written.before.all c inside)
      · rcases List.mem_cons.1 inside with same | inside
        · exact .inr same
        · exact .inl (written.after.all c inside)
    simp only [isExponentMark, Bool.not_eq_false, Bool.or_eq_true, beq_iff_eq] at mark
    rcases mark with rfl | rfl <;> rcases digit with digit | digit <;> cases digit
  have mantissa : (whole ++ '.' :: fraction).takeWhile (!isExponentMark ·) =
      whole ++ '.' :: fraction := List.takeWhile_eq_self_iff.2 plain
  have tail : (whole ++ '.' :: fraction).dropWhile (!isExponentMark ·) = [] :=
    List.dropWhile_eq_nil_iff.2 plain
  have digits : ∀ c ∈ whole, (c != '.') = true := by
    intro c inside
    rw [bne_iff_ne]
    rintro rfl
    cases written.before.all _ inside
  have before : (whole ++ '.' :: fraction).takeWhile (· != '.') = whole := by
    rw [List.takeWhile_append_of_pos digits, List.takeWhile_cons_of_neg (by decide),
      List.append_nil]
  have after : (whole ++ '.' :: fraction).dropWhile (· != '.') = '.' :: fraction := by
    rw [List.dropWhile_append_of_pos digits, List.dropWhile_cons_of_neg (by decide)]
  simp only [float?, mantissa, tail, before, after, fraction?, exponent?, written.before.digitRow?,
    written.after.digitRow?]
  show some _ = some _
  rw [Int.zero_sub]

/-- The text of a float is read as the float of eight bytes that its decimal is rounded to. -/
theorem float_denotes (negative : Bool) (n : Fin Format.single.infinityOrdinal) :
    Denotes (floatText (.finite negative n : Binary32)).toList
      (.float (.finite negative ⟨_, Format.ordinal_decimal_lt n⟩)) := by
  obtain ⟨whole, fraction, written, text⟩ := floatText_finite (by decide) negative n
  have isNumber : IsNumber (whole ++ '.' :: fraction) := by
    refine ⟨fun c inside => ?_, ?_⟩
    · rcases List.mem_append.1 inside with inside | inside
      · exact .inl (written.before.all c inside)
      · rcases List.mem_cons.1 inside with point | inside
        · exact .inr point
        · exact .inl (written.after.all c inside)
    · obtain ⟨first, rest, rfl, digit⟩ := written.before.isNumber.start
      exact ⟨first, rest ++ '.' :: fraction, rfl, digit⟩
  have point : '.' ∈ whole ++ '.' :: fraction := List.mem_append_right _ List.mem_cons_self
  have reads := isNumber.decimal?_eq negative written.start
  have rounded := Format.ofDecimal_decimal negative written.same
  rw [Binary.ofOrdinal, dif_pos (Format.ordinal_decimal_lt n)] at rounded
  rw [if_pos point, float?_of_isWritten written, rounded] at reads
  rw [text]
  apply IsWord.denotes (isNumber.isWord negative)
  rw [isNumber.scalar?_eq_decimal? negative, reads]
  rfl

end Toml

end EmuHost
