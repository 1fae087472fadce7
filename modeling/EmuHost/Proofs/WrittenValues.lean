import EmuHost.Settings.Field
import Mathlib.Data.List.TakeWhile

/-!
# Values that were written

What a file holds of a value is read as this value, at the end of a line (`Toml.Denotes`). A string
goes into quotes with some characters escaped, and each escape is read as its character. A flag, a
count and a float are words; a word is what comes before the line break, and how it is read is up to
`scalar?`.

## Key results

- `Toml.quoted_denotes`: a string between quotes is read as it was
- `Toml.IsWord.denotes`: a word is read as a whole
- `Toml.digits_denotes`: a whole number is read as the number that its digits write
-/

namespace EmuHost.Toml

/-- Whether a text is read as a value where it stands at the end of a line. -/
structure Denotes (text : List Char) (v : Value) : Prop where
  /-- No blank comes before the value. -/
  start : ∃ first rest, text = first :: rest ∧ isSpace first = false
  reads : ∀ fuel depth rest, value fuel depth (text ++ '\n' :: rest) = .ok (v, '\n' :: rest)

/-! ## Strings -/

/-- Control characters are among the first ones. -/
theorem isControl_lt {c : Char} (control : isControl c = true) : c.toNat < 128 := by
  simp only [isControl, Bool.or_eq_true, Bool.and_eq_true, decide_eq_true_eq, beq_iff_eq] at control
  omega

/-- Four digits are enough for every control character. -/
theorem charOfHex?_fourHexDigits {c : Char} (control : isControl c = true) :
    charOfHex? (fourHexDigits c.toNat) = some c := by
  have all : ∀ n < 128, charOfHex? (fourHexDigits n) = some (Char.ofNat n) := by decide
  rw [all c.toNat (isControl_lt control), Char.ofNat_toNat]

/-- A quote ends the string. -/
theorem basicRest_quote (rest : List Char) :
    basicRest false false ('\x22' :: rest) = .ok ([], rest) := by
  rw [basicRest.eq_def]
  simp only [Bool.false_and, Bool.false_eq_true, if_false, if_true]

/-- A character that needs no escape stands for itself. -/
theorem basicRest_plain {c : Char} (quote : c ≠ '\x22') (slash : c ≠ '\\')
    (plain : isControl c = false) (rest : List Char) :
    basicRest false false (c :: rest) = consText c (basicRest false false rest) := by
  rw [basicRest.eq_def]
  simp only [Bool.false_and, Bool.false_eq_true, if_false, quote, slash, plain]

/-- An escape of four digits stands for its character. -/
theorem basicRest_unicode (a b c d : Char) (rest : List Char) :
    basicRest false false ('\\' :: 'u' :: a :: b :: c :: d :: rest) =
      consEscape ('u' :: a :: b :: c :: d :: rest) (charOfHex? [a, b, c, d])
        (basicRest false false rest) := rfl

/-- Each character is read as it was, escaped or not. -/
theorem basicRest_escape (c : Char) (rest : List Char) :
    basicRest false false (escape c ++ rest) = consText c (basicRest false false rest) := by
  unfold escape
  split
  -- the escapes of one letter
  · rfl
  · rfl
  · rfl
  · rfl
  · rfl
  · rfl
  · rfl
  · rename_i quote slash _ _ _ _ _
    split
    · rename_i control
      have read := charOfHex?_fourHexDigits control
      show basicRest false false ('\\' :: 'u' :: (fourHexDigits c.toNat ++ rest)) = _
      rw [fourHexDigits] at read ⊢
      rw [List.cons_append, List.cons_append, List.cons_append, List.cons_append, List.nil_append,
        basicRest_unicode, read]
      rfl
    · rename_i plain
      exact basicRest_plain quote slash (Bool.not_eq_true _ ▸ plain) rest

/-- Text that is escaped is read as it was. -/
theorem basicRest_flatMap_escape (s rest : List Char) :
    basicRest false false (s.flatMap escape ++ '\x22' :: rest) = .ok (s, rest) := by
  induction s with
  | nil => exact basicRest_quote rest
  | cons c s ih =>
    rw [List.flatMap_cons, List.append_assoc, basicRest_escape, ih]
    rfl

/-- An escaped character does not start with a quote. -/
theorem escape_head (c : Char) (rest : List Char) :
    ∃ first more, escape c ++ rest = first :: more ∧ first ≠ '\x22' := by
  unfold escape
  split
  · exact ⟨'\\', _, rfl, by decide⟩
  · exact ⟨'\\', _, rfl, by decide⟩
  · exact ⟨'\\', _, rfl, by decide⟩
  · exact ⟨'\\', _, rfl, by decide⟩
  · exact ⟨'\\', _, rfl, by decide⟩
  · exact ⟨'\\', _, rfl, by decide⟩
  · exact ⟨'\\', _, rfl, by decide⟩
  · rename_i quote _ _ _ _ _ _
    split
    · exact ⟨'\\', _, rfl, by decide⟩
    · exact ⟨c, _, rfl, quote⟩

/-- A single quote starts a string of one line. -/
theorem string?_of_quote {tail : List Char} (single : ∀ rest, tail ≠ '\x22' :: '\x22' :: rest) :
    string? ('\x22' :: tail) = some (asString (basicRest false false tail)) := by
  unfold string?
  split
  · rename_i rest same
    exact absurd (List.cons.inj same).2 (single rest)
  · rename_i same
    cases (List.cons.inj same).1
  · rfl

/-- A string between quotes is read as it was. -/
theorem quoted_denotes (s : String) : Denotes (quoted s) (.string s) where
  start := ⟨_, _, rfl, rfl⟩
  reads fuel depth rest := by
    have whole : quoted s ++ '\n' :: rest =
        '\x22' :: (s.toList.flatMap escape ++ '\x22' :: '\n' :: rest) := by
      simp only [quoted, List.cons_append, List.append_assoc, List.nil_append]
    -- the closing quote is a single one, and so is the opening one
    have single (after : List Char) :
        s.toList.flatMap escape ++ '\x22' :: '\n' :: rest ≠ '\x22' :: '\x22' :: after := by
      cases s.toList with
      | nil =>
        intro same
        cases (List.cons.inj (List.cons.inj same).2).1
      | cons c cs =>
        obtain ⟨first, more, starts, other⟩ :=
          escape_head c (cs.flatMap escape ++ '\x22' :: '\n' :: rest)
        rw [List.flatMap_cons, List.append_assoc, starts]
        intro same
        exact other (List.cons.inj same).1
    rw [whole, value.eq_def, string?_of_quote single, basicRest_flatMap_escape]
    simp only [asString, Except.map, String.ofList_toList]

/-! ## Words -/

/-- What a word is made of: no blanks, line ends or marks, and no quote at its start. -/
structure IsWord (word : List Char) : Prop where
  chars : ∀ c ∈ word, isWordChar c = true
  start : ∃ first rest, word = first :: rest ∧ first ≠ '\x22' ∧ first ≠ '\x27'

namespace IsWord

variable {word : List Char} (isWord : IsWord word)

include isWord

/-- A word is taken up to the end of the line. -/
theorem takeWord (rest : List Char) :
    Toml.takeWord (word ++ '\n' :: rest) = (word, '\n' :: rest) := by
  have stop : isWordChar '\n' = false := by decide
  have taken : (word ++ '\n' :: rest).takeWhile isWordChar = word := by
    rw [List.takeWhile_append_of_pos isWord.chars, List.takeWhile_cons_of_neg, List.append_nil]
    rw [stop]
    exact Bool.false_ne_true
  have dropped : (word ++ '\n' :: rest).dropWhile isWordChar = '\n' :: rest := by
    rw [List.dropWhile_append_of_pos isWord.chars, List.dropWhile_cons_of_neg]
    rw [stop]
    exact Bool.false_ne_true
  rw [Toml.takeWord, taken, dropped]
  rfl

/-- A word starts no string. -/
theorem string?_eq_none (rest : List Char) : string? (word ++ rest) = none := by
  obtain ⟨first, more, rfl, quote, apostrophe⟩ := isWord.start
  unfold string?
  split
  · rename_i same
    exact absurd (List.cons.inj same).1 quote
  · rename_i same
    exact absurd (List.cons.inj same).1 apostrophe
  · simp only [lineString?, List.cons_append, quote, apostrophe, if_false]

/-- A word is read as a whole. -/
theorem denotes {v : Value} (reads : scalar? word = some v) : Denotes word v := by
  obtain ⟨first, more, rfl, -⟩ := isWord.start
  have inside := isWord.chars first List.mem_cons_self
  have marks : first ≠ '[' ∧ first ≠ '\x7b' ∧ isSpace first = false := by
    refine ⟨?_, ?_, ?_⟩
    · rintro rfl
      cases inside
    · rintro rfl
      cases inside
    · simp only [isWordChar, Bool.not_eq_true'] at inside
      cases space : isSpace first with
      | false => rfl
      | true =>
        simp only [isSpace, Bool.or_eq_true, beq_iff_eq] at space
        rcases space with rfl | rfl <;> cases inside
  obtain ⟨bracket, brace, space⟩ := marks
  refine ⟨⟨first, more, rfl, space⟩, fun fuel depth rest => ?_⟩
  have scalar : Toml.scalar (first :: more ++ '\n' :: rest) = .ok (v, '\n' :: rest) := by
    simp only [Toml.scalar, isWord.takeWord, reads]
  rw [value.eq_def, isWord.string?_eq_none]
  simp only [List.cons_append] at scalar ⊢
  split
  · rename_i same
    exact absurd (List.cons.inj same).1 bracket
  · rename_i same
    exact absurd (List.cons.inj same).1 brace
  · rename_i same _
    exact absurd (List.cons.inj same).1 bracket
  · rename_i same _
    exact absurd (List.cons.inj same).1 brace
  · exact scalar

end IsWord

/-- A flag is read as it was. -/
theorem flag_denotes (b : Bool) :
    Denotes (if b then "true".toList else "false".toList) (.boolean b) := by
  cases b with
  | false => exact IsWord.denotes ⟨List.all_eq_true.1 (by decide), 'f', _, rfl, by decide⟩ rfl
  | true => exact IsWord.denotes ⟨List.all_eq_true.1 (by decide), 't', _, rfl, by decide⟩ rfl

/-! ## Numbers -/

/-- The digits by their order. -/
theorem isDigit_iff (c : Char) : c.isDigit = true ↔ '0' ≤ c ∧ c ≤ '9' := by
  simp only [Char.isDigit, Bool.and_eq_true, decide_eq_true_eq, Char.le_def, ge_iff_le]

/-- Digits count from zero. -/
theorem digitValue?_ten {c : Char} (digit : c.isDigit = true) :
    digitValue? 10 c = some (c.toNat - '0'.toNat) := by
  have range := (isDigit_iff c).1 digit
  have upper : c.toNat ≤ 57 := range.2
  have small : c.toNat - '0'.toNat < 10 := by
    show c.toNat - 48 < 10
    omega
  rw [digitValue?, if_pos range, Option.filter_some, decide_eq_true small, if_pos rfl]

/-- The digits to the base of ten are the digits. -/
theorem isDigit_ten (c : Char) : isDigit 10 c = c.isDigit := by
  cases digit : c.isDigit with
  | true => rw [isDigit, digitValue?_ten digit, Option.isSome_some]
  | false =>
    have range : ¬ ('0' ≤ c ∧ c ≤ '9') := fun range =>
      Bool.false_ne_true (digit ▸ (isDigit_iff c).2 range)
    -- the letters stand for ten and more
    rw [isDigit, digitValue?, if_neg range]
    split
    · rw [Option.filter_some, decide_eq_false (by omega)]
      rfl
    · split
      · rw [Option.filter_some, decide_eq_false (by omega)]
        rfl
      · rfl

/-- The library reads the digits as well. -/
theorem numeral_eq_ofDigitChars {digits : List Char} (all : ∀ c ∈ digits, c.isDigit = true) :
    numeral 10 digits = Nat.ofDigitChars 10 digits 0 := by
  suffices ∀ n, digits.foldl (fun n c => n * 10 + (digitValue? 10 c).getD 0) n =
      Nat.ofDigitChars 10 digits n from this 0
  induction digits with
  | nil => exact fun n => rfl
  | cons c digits ih =>
    intro n
    have digit := digitValue?_ten (all c List.mem_cons_self)
    rw [List.foldl_cons, digit, Option.getD_some, Nat.ofDigitChars_cons, Nat.mul_comm,
      ih fun c inside => all c (List.mem_cons_of_mem _ inside)]
/-- A word without marks between its digits is well grouped. -/
theorem isGrouped_of_notMem {digit : Char → Bool} {word : List Char} (none : '_' ∉ word) :
    isGrouped digit word = true := by
  fun_induction isGrouped digit word with
  | case1 => rfl
  | case2 => exact absurd (.head _) none
  | case3 => exact absurd (.tail _ (.head _)) none
  | case4 first rest _ _ ih => exact ih fun inside => none (.tail _ inside)

/-- Taking such marks away changes nothing. -/
theorem ungrouped_of_notMem {word : List Char} (none : '_' ∉ word) : ungrouped word = word := by
  rw [ungrouped, List.filter_eq_self]
  intro c inside
  rw [bne_iff_ne]
  rintro rfl
  exact none inside

/-- The sign in front of a negative number. -/
def signMark (negative : Bool) : List Char := if negative then ['-'] else []

/-- The characters of numbers. -/
def isNumberChar (c : Char) : Bool := c.isDigit || c == '.' || c == '-'

/-- What follows the sign of a number: digits and points, a digit first. -/
structure IsNumber (body : List Char) : Prop where
  chars : ∀ c ∈ body, c.isDigit = true ∨ c = '.'
  start : ∃ first rest, body = first :: rest ∧ first.isDigit = true

namespace IsNumber

variable {body : List Char} (isNumber : IsNumber body)

include isNumber

/-- A number has only characters of numbers. -/
theorem isNumberChar_of_mem {negative : Bool} {c : Char}
    (inside : c ∈ signMark negative ++ body) : isNumberChar c = true := by
  simp only [isNumberChar, Bool.or_eq_true, beq_iff_eq]
  rcases List.mem_append.1 inside with sign | inside
  · cases negative with
    | false => cases sign
    | true => exact .inr (List.mem_singleton.1 sign)
  · exact .inl (isNumber.chars c inside)

/-- So it has no others. -/
theorem notMem (negative : Bool) {c : Char} (other : isNumberChar c = false) :
    c ∉ signMark negative ++ body :=
  fun inside => Bool.false_ne_true (other ▸ isNumber.isNumberChar_of_mem inside)

/-- A number is a word. -/
theorem isWord (negative : Bool) : IsWord (signMark negative ++ body) := by
  have marks : [' ', '\t', '\r', '\n', '=', ',', '[', ']', '\x7b', '\x7d', '#'].all
      (!isNumberChar ·) = true := by decide
  refine ⟨fun c inside => ?_, ?_⟩
  · rw [isWordChar, Bool.not_eq_true', List.contains_eq_any_beq, List.any_eq_false]
    intro mark among same
    have other := List.all_eq_true.1 marks mark among
    rw [Bool.not_eq_true'] at other
    rw [eq_of_beq same] at inside
    exact isNumber.notMem negative other inside
  · obtain ⟨first, rest, rfl, digit⟩ := isNumber.start
    cases negative with
    | false =>
      refine ⟨first, rest, rfl, ?_, ?_⟩ <;> rintro rfl <;> cases digit
    | true => exact ⟨'-', _, rfl, by decide, by decide⟩

/-- The sign of a number is split off. -/
theorem splitSign (negative : Bool) :
    Toml.splitSign (signMark negative ++ body) = (negative, body) := by
  cases negative with
  | true => rfl
  | false =>
    obtain ⟨first, rest, rfl, digit⟩ := isNumber.start
    show Toml.splitSign (first :: rest) = _
    unfold Toml.splitSign
    split
    · rename_i same
      cases (List.cons.inj same).1
      cases digit
    · rename_i same
      cases (List.cons.inj same).1
      cases digit
    · rfl

/-- A date has two dashes and a time a colon; between the two stands a letter or a blank. -/
theorem isDateTime_eq_false (negative : Bool) : isDateTime (signMark negative ++ body) = false := by
  have dash : '-' ∉ body := by
    intro inside
    rcases isNumber.chars _ inside with digit | same
    · cases digit
    · cases same
  have date : isDate (signMark negative ++ body) = false := by
    cases negative with
    -- one dash at most, where a date needs two
    | false =>
      show isDate body = false
      rw [isDate, List.splitOn_eq_singleton dash]
    | true =>
      show isDate ([] ++ '-' :: body) = false
      rw [isDate, List.splitOn_append_cons_self_of_not_mem List.not_mem_nil,
        List.splitOn_eq_singleton dash]
  have time : isTime (signMark negative ++ body) = false := by
    rw [isTime, List.splitOn_eq_singleton (isNumber.notMem negative (by decide))]
  rw [isDateTime, date, time]
  cases tail : (signMark negative ++ body).drop 10 with
  | nil => rfl
  | cons mark rest =>
    have inside : mark ∈ signMark negative ++ body :=
      List.mem_of_mem_drop (tail ▸ List.mem_cons_self)
    have letter (c : Char) (other : isNumberChar c = false) : (mark == c) = false := by
      rw [beq_eq_false_iff_ne]
      rintro rfl
      exact isNumber.notMem negative other inside
    simp only [letter 'T' (by decide), letter 't' (by decide), letter ' ' (by decide),
      Bool.or_false, Bool.false_and]

/-- The words of their own hold letters. -/
theorem scalar?_eq_decimal? (negative : Bool) :
    scalar? (signMark negative ++ body) = decimal? (signMark negative ++ body) := by
  have letter (c : Char) (other : isNumberChar c = false) :
      c ∉ signMark negative ++ body := isNumber.notMem negative other
  unfold scalar?
  -- each word of its own, and each base, has a letter that no number has
  split
  · rename_i same
    exact absurd (same ▸ by decide) (letter 't' (by decide))
  · rename_i same
    exact absurd (same ▸ by decide) (letter 'f' (by decide))
  · rename_i rest same
    exact absurd (same ▸ .tail _ (.head _)) (letter 'x' (by decide))
  · rename_i rest same
    exact absurd (same ▸ .tail _ (.head _)) (letter 'o' (by decide))
  · rename_i rest same
    exact absurd (same ▸ .tail _ (.head _)) (letter 'b' (by decide))
  · rw [isNumber.splitSign negative]
    have within (c : Char) (other : isNumberChar c = false) : c ∉ body :=
      fun inside => letter c other (List.mem_append_right _ inside)
    dsimp only
    split
    · exact absurd (.head _) (within 'i' (by decide))
    · exact absurd (.head _) (within 'n' (by decide))
    · rw [isNumber.isDateTime_eq_false negative]
      rfl

/-- No underscore is in a number and no exponent: it is a float if it has a point. -/
theorem decimal?_eq (negative : Bool) (zero : hasLeadingZero body = false) :
    decimal? (signMark negative ++ body) =
      if '.' ∈ body then
        (float? negative body).map fun x => if x.isFinite then .float x else .unusable false
      else if body.dropWhile (isDigit 10) = [] then some (wholeNumber 10 negative body)
      else none := by
  have within (c : Char) (other : isNumberChar c = false) : c ∉ body :=
    fun inside => isNumber.notMem negative other (List.mem_append_right _ inside)
  have underscore : '_' ∉ body := within '_' (by decide)
  have isEmpty : body.isEmpty = false := by
    obtain ⟨first, rest, rfl, -⟩ := isNumber.start
    rfl
  have isFloat : (body.any fun c => c == '.' || isExponentMark c) = decide ('.' ∈ body) := by
    rw [Bool.eq_iff_iff, List.any_eq_true, decide_eq_true_iff]
    constructor
    · rintro ⟨c, inside, mark⟩
      simp only [isExponentMark, Bool.or_eq_true, beq_iff_eq] at mark
      rcases mark with rfl | rfl | rfl
      · exact inside
      · exact absurd inside (within 'e' (by decide))
      · exact absurd inside (within 'E' (by decide))
    · intro inside
      exact ⟨'.', inside, rfl⟩
  have row (digit : Char → Bool) :
      isGrouped digit (if body.length = (signMark negative ++ body).length then body
        else '0' :: body) = true := by
    refine isGrouped_of_notMem ?_
    split
    · exact underscore
    · rw [List.mem_cons, not_or]
      exact ⟨by decide, underscore⟩
  rw [decimal?, isNumber.splitSign negative]
  simp only [isEmpty, zero, row, isFloat, ungrouped_of_notMem underscore, Bool.not_true,
    Bool.or_false, Bool.false_eq_true, if_false, decide_eq_true_iff]
  split
  · rfl
  · rename_i point
    split
    · rename_i nil
      rw [if_pos nil]
    · rename_i rest same
      have inside : '_' ∈ body.dropWhile (isDigit 10) := same ▸ .head _
      exact absurd ((List.dropWhile_sublist _).mem inside) underscore
    · rename_i nil _
      rw [if_neg nil]

end IsNumber

/-! ## Whole numbers -/

/-- A row of digits, of at least one. -/
structure IsDigits (digits : List Char) : Prop where
  all : ∀ c ∈ digits, c.isDigit = true
  ne_nil : digits ≠ []

namespace IsDigits

variable {digits : List Char} (isDigits : IsDigits digits)

include isDigits

/-- Digits are a number. -/
theorem isNumber : IsNumber digits := by
  refine ⟨fun c inside => .inl (isDigits.all c inside), ?_⟩
  cases digits with
  | nil => exact absurd rfl isDigits.ne_nil
  | cons first rest => exact ⟨first, rest, rfl, isDigits.all first List.mem_cons_self⟩

/-- All of them are digits to the base of ten. -/
theorem all_isDigit : digits.all (isDigit 10) = true := by
  rw [List.all_eq_true]
  intro c inside
  rw [isDigit_ten, isDigits.all c inside]

/-- Digits are a row of digits. -/
theorem digitRow? : digitRow? digits = some digits := by
  rw [Toml.digitRow?, isDigits.all_isDigit, List.isEmpty_eq_false_iff.2 isDigits.ne_nil]
  rfl

end IsDigits

/-- The digits of a number are digits. -/
theorem toDigits_isDigits (n : Nat) : IsDigits (Nat.toDigits 10 n) :=
  ⟨fun _ inside => Nat.isDigit_of_mem_toDigits (by decide) (by decide) inside, Nat.toDigits_ne_nil⟩

/-- And they write the number. -/
theorem numeral_toDigits (n : Nat) : numeral 10 (Nat.toDigits 10 n) = n := by
  rw [numeral_eq_ofDigitChars (toDigits_isDigits n).all, Nat.ofDigitChars_ten_toDigits]

/-- A positive number has no zeros in front. -/
theorem toDigits_head {n : Nat} (positive : 0 < n) :
    ∃ first rest, Nat.toDigits 10 n = first :: rest ∧ first ≠ '0' := by
  induction n using Nat.strongRecOn with
  | ind n ih =>
    rcases Nat.lt_or_ge n 10 with small | large
    · have digit : ∀ n < 10, 0 < n → n.digitChar ≠ '0' := by decide
      exact ⟨n.digitChar, [], Nat.toDigits_of_lt_base small, digit n small positive⟩
    · obtain ⟨first, rest, digits, other⟩ := ih (n / 10) (by omega) (by omega)
      refine ⟨first, rest ++ [(n % 10).digitChar], ?_, other⟩
      rw [Nat.toDigits_of_base_le (by decide) large, digits, List.cons_append]

/-- What starts with another digit has no zero in front. -/
theorem hasLeadingZero_of_ne {first : Char} (other : first ≠ '0') (rest : List Char) :
    hasLeadingZero (first :: rest) = false := by
  unfold hasLeadingZero
  split
  · rename_i same
    exact absurd (List.cons.inj same).1 other
  · rfl

/-- The digits of a number have none either. -/
theorem hasLeadingZero_toDigits (n : Nat) : hasLeadingZero (Nat.toDigits 10 n) = false := by
  rcases Nat.eq_zero_or_pos n with rfl | positive
  · rfl
  · obtain ⟨first, rest, digits, other⟩ := toDigits_head positive
    rw [digits, hasLeadingZero_of_ne other]

/-- A number of 64 bits can be held. -/
theorem isInRange_of_isUnsigned {n : Nat} (bounded : isUnsigned 64 n = true) :
    isInRange n = true := by
  have wider : (Nat.pow 2 64 : Int) ≤ Nat.pow 2 128 := by decide
  simp only [isInRange, isUnsigned, Bool.or_eq_true, Bool.and_eq_true, decide_eq_true_eq]
    at bounded ⊢
  exact .inr ⟨bounded.1, by omega⟩

/-- A whole number is read as the number that its digits write. -/
theorem digits_denotes {n : Nat} (held : isInRange n = true) :
    Denotes (Nat.toDigits 10 n) (.integer n) := by
  have isDigits := toDigits_isDigits n
  have isNumber := isDigits.isNumber
  have point : '.' ∉ Nat.toDigits 10 n := fun inside => by cases isDigits.all _ inside
  have rest : (Nat.toDigits 10 n).dropWhile (isDigit 10) = [] :=
    List.dropWhile_eq_nil_iff.2 (List.all_eq_true.1 isDigits.all_isDigit)
  have number : wholeNumber 10 false (Nat.toDigits 10 n) = .integer n := by
    rw [wholeNumber, isDigits.all_isDigit, List.isEmpty_eq_false_iff.2 isDigits.ne_nil,
      numeral_toDigits, signed, if_neg Bool.false_ne_true, held]
    rfl
  have reads := isNumber.decimal?_eq false (hasLeadingZero_toDigits n)
  rw [if_neg point, if_pos rest, number] at reads
  exact IsWord.denotes (isNumber.isWord false) ((isNumber.scalar?_eq_decimal? false).trans reads)

end EmuHost.Toml
