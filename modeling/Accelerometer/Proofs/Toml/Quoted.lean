import Accelerometer.Toml.Quoted
import Mathlib.Tactic

/-!
# Quoted texts are read back

Every text is found again in the form that it is written in, whatever it holds.

* `exists_written`: what stands for a character where escapes are read.
* `readBasic_escapeText`, `readLongBasic_escapeText`: texts with escapes, of one line and of many.
* `readLiteral_plain`, `readLongLiteral_plain`: texts without escapes.
* `readQuoted_writeQuoted`: a text in the form that is chosen for it.
-/

namespace Accelerometer.Proofs.Toml
open Accelerometer.Toml
open Accelerometer.Text (hexDigit hexDigits hexValue?)

variable {c : Char} {text written rest : List Char} {run : Nat}

/-! ## Characters -/

inductive Written (long : Bool) (c : Char) : List Char → Prop
  | plain : c ≠ '"' → c ≠ '\\' → isPrintable c = true ∨ long = true ∧ c = '\n' → Written long c [c]
  | letter {letter : Char} : escaped? letter = some c → Written long c ['\\', letter]
  | code : c.toNat < 0x10000 → Written long c (codeEscape c)

theorem printable_of_not_isControl (plain : isControl c = false) (noFeed : c ≠ '\n') :
    isPrintable c = true := by
  by_cases tab : c = '\t'
  · simp [isPrintable, tab]
  · simpa [isControl, isPrintable, tab, noFeed] using plain

theorem toNat_of_isControl (control : isControl c = true) : c.toNat < 0x10000 := by
  simp only [isControl, Bool.or_eq_true, Bool.and_eq_true, decide_eq_true_eq, beq_iff_eq] at control
  omega

theorem exists_written (long : Bool) (allowed run : Nat) (c : Char) (enough : c = '"' → allowed ≤ run) :
    ∃ written, Written long c written ∧ ∀ rest,
      escapeText long allowed run (c :: rest) = written ++ escapeText long allowed 0 rest := by
  by_cases quote : c = '"'
  · refine ⟨['\\', '"'], .letter (by rw [quote]; rfl), fun rest => ?_⟩
    simp [escapeText, quote, Nat.not_lt.mpr (enough quote)]
  simp only [escapeText, if_neg quote, List.append_cancel_right_eq]
  by_cases backspace : c = '\x08'
  · exact ⟨['\\', 'b'], .letter (by rw [backspace]; rfl), by simp [backspace]⟩
  by_cases tab : c = '\t'
  · exact ⟨['\\', 't'], .letter (by rw [tab]; rfl), by simp [tab]⟩
  by_cases feed : c = '\n'
  · cases long with
    | false => exact ⟨['\\', 'n'], .letter (by rw [feed]; rfl), by simp [feed]⟩
    | true => exact ⟨[c], .plain quote (by simp [feed]) (.inr ⟨rfl, feed⟩), by simp [feed]⟩
  by_cases formFeed : c = '\x0C'
  · exact ⟨['\\', 'f'], .letter (by rw [formFeed]; rfl), by simp [formFeed]⟩
  by_cases back : c = '\r'
  · exact ⟨['\\', 'r'], .letter (by rw [back]; rfl), by simp [back]⟩
  by_cases backslash : c = '\\'
  · exact ⟨['\\', '\\'], .letter (by rw [backslash]; rfl), by simp [backslash]⟩
  cases control : isControl c with
  | true => exact ⟨codeEscape c, .code (toNat_of_isControl control), by simp [*]⟩
  | false =>
      exact ⟨[c], .plain quote backslash (.inl (printable_of_not_isControl control feed)), by simp [*]⟩

/-! ## Escapes -/

theorem hexValue_upper : ∀ digit < 16, hexValue? (hexDigit digit).toUpper = some digit := by
  decide

theorem code_digits {α : Type} (read : Nat → Nat → List Char → α)
    (step : ∀ digit < 16, ∀ left value rest,
      read (left + 1) value ((hexDigit digit).toUpper :: rest) = read left (16 * value + digit) rest)
    {number : Nat} (small : number < 0x10000) (rest : List Char) :
    ∃ value, ∃ digit < 16, 16 * value + digit = number ∧
      read 3 0 ((hexDigits 4 number).map Char.toUpper ++ rest) =
        read 0 value ((hexDigit digit).toUpper :: rest) := by
  refine ⟨number / 16, number % 16, by omega, by omega, ?_⟩
  have digits : (hexDigits 4 number).map Char.toUpper ++ rest =
      (hexDigit (number / 16 / 16 / 16 % 16)).toUpper :: (hexDigit (number / 16 / 16 % 16)).toUpper ::
        (hexDigit (number / 16 % 16)).toUpper :: (hexDigit (number % 16)).toUpper :: rest := rfl
  rw [digits, step _ (by omega), step _ (by omega), step _ (by omega)]
  congr 1
  omega

theorem charOfCode_toNat (c : Char) : charOfCode? c.toNat = some c := by
  have valid : c.toNat.isValidChar := c.valid
  rw [charOfCode?, if_pos valid, Char.ofNat_toNat]

theorem readBasic_codeEscape (small : c.toNat < 0x10000) (rest : List Char) :
    readBasic .no (codeEscape c ++ rest) = ahead c (readBasic .no rest) := by
  obtain ⟨value, digit, smallDigit, code, digits⟩ :=
    code_digits (fun left value => readBasic (.code left value))
      (fun digit small left value rest => by
        simp only [readBasic, hexValue_upper digit small, Option.bind_some])
      small rest
  refine digits.trans ?_
  simp only [readBasic, hexValue_upper digit smallDigit, Option.bind_some, code, charOfCode_toNat]

theorem readLongBasic_codeEscape (small : c.toNat < 0x10000) (rest : List Char) :
    readLongBasic .begun ((codeEscape c).tail ++ rest) = ahead c (readLongBasic (.no 0) rest) := by
  obtain ⟨value, digit, smallDigit, code, digits⟩ :=
    code_digits (fun left value => readLongBasic (.code left value))
      (fun digit small left value rest => by
        simp only [readLongBasic, hexValue_upper digit small, Option.bind_some])
      small rest
  refine digits.trans ?_
  simp only [readLongBasic, hexValue_upper digit smallDigit, Option.bind_some, code, charOfCode_toNat]

theorem letter_ne {letter : Char} (known : escaped? letter = some c) (other : Char)
    (unknown : escaped? other = none) : letter ≠ other := by
  rintro rfl
  rw [known] at unknown
  cases unknown

/-! ## Texts of one line -/

theorem readBasic_written (stands : Written false c written) (rest : List Char) :
    readBasic .no (written ++ rest) = ahead c (readBasic .no rest) := by
  cases stands with
  | plain quote backslash printable =>
      have printable : isPrintable c = true := by simpa using printable
      simp [readBasic, quote, backslash, printable]
  | letter known =>
      have noCode := letter_ne known 'u' rfl
      have noLongCode := letter_ne known 'U' rfl
      simp [readBasic, noCode, noLongCode, known]
  | code small => exact readBasic_codeEscape small rest

theorem readBasic_escapeText (text rest : List Char) :
    readBasic .no (escapeText false 0 0 text ++ '"' :: rest) = some (text, rest) := by
  induction text with
  | nil => rfl
  | cons c text ih =>
      obtain ⟨written, stands, split⟩ := exists_written false 0 0 c fun _ => le_rfl
      rw [split, List.append_assoc, readBasic_written stands, ih]
      rfl

theorem readLiteral_plain (plain : ∀ c ∈ text, isPrintable c = true ∧ c ≠ '\'') (rest : List Char) :
    readLiteral (text ++ '\'' :: rest) = some (text, rest) := by
  induction text with
  | nil => rfl
  | cons c text ih =>
      obtain ⟨⟨printable, noQuote⟩, others⟩ := List.forall_mem_cons.mp plain
      rw [List.cons_append, readLiteral, if_neg noQuote, if_pos printable, ih others]
      rfl

/-! ## Texts of many lines -/

theorem readLongBasic_begun (few : run ≤ 2) (rest : List Char) :
    readLongBasic (.no run) ('\\' :: rest) = aheadAll (quotes run) (readLongBasic .begun rest) := by
  rw [readLongBasic.eq_def]
  simp [Nat.not_le.mpr (Nat.lt_succ_of_le few)]

theorem readLongBasic_quote (few : run ≤ 3) (rest : List Char) :
    readLongBasic (.no run) ('"' :: rest) = readLongBasic (.no (run + 1)) rest := by
  have fewer : run ≠ 4 := by omega
  rw [readLongBasic.eq_def]
  simp [fewer]

theorem readLongBasic_written (stands : Written true c written) (few : run ≤ 2) (rest : List Char) :
    readLongBasic (.no run) (written ++ rest) =
      aheadAll (quotes run) (ahead c (readLongBasic (.no 0) rest)) := by
  cases stands with
  | plain quote backslash printable =>
      have noReturn : c ≠ '\r' := by
        rintro rfl
        simp [isPrintable] at printable
      have inside : isPrintable c = true ∨ c = '\n' := by simpa using printable
      rw [List.singleton_append, readLongBasic.eq_def]
      simp [Nat.not_le.mpr (Nat.lt_succ_of_le few), quote, backslash, noReturn, inside]
  | @letter letter known =>
      have noCode := letter_ne known 'u' rfl
      have noLongCode := letter_ne known 'U' rfl
      have noFeed := letter_ne known '\n' rfl
      have noReturn := letter_ne known '\r' rfl
      have noBlank : isBlank letter = false := by
        simp [isBlank, letter_ne known ' ' rfl, letter_ne known '\t' rfl]
      rw [List.cons_append, List.singleton_append, readLongBasic_begun few, readLongBasic.eq_def]
      simp [noCode, noLongCode, noFeed, noReturn, noBlank, known]
  | code small =>
      rw [codeEscape, List.cons_append, readLongBasic_begun few, ← readLongBasic_codeEscape small]
      rfl

/-- The three quotes that close a text come after those that still belong to it. -/
theorem readLongBasic_close (few : run ≤ 2) (noQuote : rest.head? ≠ some '"') :
    readLongBasic (.no run) (quotes 3 ++ rest) = some (quotes run, rest) := by
  have closed : ∀ count, 3 ≤ count →
      readLongBasic (.no count) rest = some (quotes (count - 3), rest) := by
    intro count enough
    cases rest with
    | nil => rw [readLongBasic, if_pos enough]
    | cons c rest =>
        have other : c ≠ '"' := by simpa using noQuote
        rw [readLongBasic.eq_def]
        simp [other, enough]
  have three : quotes 3 ++ rest = '"' :: '"' :: '"' :: rest := rfl
  rw [three, readLongBasic_quote (by omega), readLongBasic_quote (by omega)]
  rcases Nat.lt_or_eq_of_le few with less | rfl
  · rw [readLongBasic_quote (by omega), closed _ (by omega)]
    rfl
  · rw [readLongBasic.eq_def]
    rfl

theorem readLongBasic_escapeText (text : List Char) (few : run ≤ 2) (noQuote : rest.head? ≠ some '"') :
    readLongBasic (.no run) (escapeText true 2 run text ++ quotes 3 ++ rest) =
      some (quotes run ++ text, rest) := by
  induction text generalizing run with
  | nil => simpa [escapeText] using readLongBasic_close few noQuote
  | cons c text ih =>
      by_cases kept : c = '"' ∧ run < 2
      · obtain ⟨rfl, less⟩ := kept
        have front : quotes run ++ '"' :: text = quotes (run + 1) ++ text := by
          simp [quotes, List.replicate_succ']
        rw [escapeText, if_pos rfl, if_pos less, List.cons_append, List.cons_append,
          readLongBasic_quote (by omega), ih (by omega), front]
      · have enough : c = '"' → 2 ≤ run := by
          rintro rfl
          simpa [Nat.lt_iff_add_one_le] using kept
        obtain ⟨written, stands, split⟩ := exists_written true 2 run c enough
        rw [split, List.append_assoc, List.append_assoc, readLongBasic_written stands few,
          ← List.append_assoc, ih (Nat.zero_le 2)]
        rfl

/-! ## Runs of a quote -/

theorem le_longestRun (c : Char) (run : Nat) (text : List Char) : run ≤ longestRun c run text := by
  induction text generalizing run with
  | nil => exact le_rfl
  | cons d text ih =>
      rw [longestRun]
      split
      · exact (Nat.le_succ run).trans (ih (run + 1))
      · exact le_max_left _ _

theorem not_mem_of_longestRun (none : longestRun c run text = 0) : c ∉ text := by
  induction text generalizing run with
  | nil => exact List.not_mem_nil
  | cons d text ih =>
      rw [longestRun] at none
      split at none
      · have := le_longestRun c (run + 1) text
        omega
      · rename_i other
        rw [List.mem_cons, not_or]
        exact ⟨Ne.symm other, ih (Nat.max_eq_zero_iff.mp none).2⟩

theorem readLongLiteral_quote (few : run ≤ 3) (rest : List Char) :
    readLongLiteral run ('\'' :: rest) = readLongLiteral (run + 1) rest := by
  have fewer : run ≠ 4 := by omega
  rw [readLongLiteral.eq_def]
  simp [fewer]

theorem readLongLiteral_close (few : run ≤ 2) (noQuote : rest.head? ≠ some '\'') :
    readLongLiteral run ('\'' :: '\'' :: '\'' :: rest) = some (List.replicate run '\'', rest) := by
  have closed : ∀ count, 3 ≤ count →
      readLongLiteral count rest = some (List.replicate (count - 3) '\'', rest) := by
    intro count enough
    cases rest with
    | nil => rw [readLongLiteral, if_pos enough]
    | cons c rest =>
        have other : c ≠ '\'' := by simpa using noQuote
        rw [readLongLiteral.eq_def]
        simp [other, enough]
  rw [readLongLiteral_quote (by omega), readLongLiteral_quote (by omega)]
  rcases Nat.lt_or_eq_of_le few with less | rfl
  · rw [readLongLiteral_quote (by omega), closed _ (by omega)]
    rfl
  · rw [readLongLiteral.eq_def]
    rfl

theorem readLongLiteral_plain (few : longestRun '\'' run text ≤ 2)
    (plain : ∀ c ∈ text, isControl c = false) (noQuote : rest.head? ≠ some '\'') :
    readLongLiteral run (text ++ '\'' :: '\'' :: '\'' :: rest) =
      some (List.replicate run '\'' ++ text, rest) := by
  induction text generalizing run with
  | nil =>
      rw [longestRun] at few
      simpa using readLongLiteral_close few noQuote
  | cons c text ih =>
      obtain ⟨notControl, others⟩ := List.forall_mem_cons.mp plain
      rw [longestRun] at few
      by_cases quote : c = '\''
      · rw [if_pos quote] at few
        have less := (le_longestRun '\'' (run + 1) text).trans few
        rw [quote, List.cons_append, readLongLiteral_quote (by omega), ih few others,
          List.replicate_succ', List.append_assoc]
        rfl
      · rw [if_neg quote] at few
        have unclosed : ¬3 ≤ run := by omega
        have noReturn : c ≠ '\r' := by
          rintro rfl
          cases notControl
        have inside : isPrintable c = true ∨ c = '\n' :=
          or_iff_not_imp_right.mpr (printable_of_not_isControl notControl)
        have read := ih (le_trans (le_max_right run _) few) others
        rw [List.cons_append, readLongLiteral.eq_def]
        simp [quote, unclosed, noReturn, inside, read, aheadAll, ahead]

/-! ## The chosen form -/

theorem formOf_literal (form : formOf text = .literal) :
    (∀ c ∈ text, isPrintable c = true ∧ c ≠ '\'') ∧ text ≠ [] := by
  simp only [formOf] at form
  split_ifs at form with notBasic plain
  simp only [Bool.and_eq_true, Bool.not_eq_true', List.any_eq_false, Bool.not_eq_true, beq_iff_eq,
    List.contains_eq_mem, decide_eq_false_iff_not] at plain
  obtain ⟨⟨noControl, noQuote⟩, noFeed⟩ := plain
  constructor
  · intro c member
    refine ⟨printable_of_not_isControl (noControl c member) ?_, ?_⟩
    · rintro rfl
      exact noFeed member
    · rintro rfl
      exact not_mem_of_longestRun noQuote member
  · rintro rfl
    exact notBasic rfl

theorem formOf_longLiteral (form : formOf text = .longLiteral) :
    (∀ c ∈ text, isControl c = false) ∧ longestRun '\'' 0 text ≤ 2 := by
  simp only [formOf] at form
  split_ifs at form with _ _ _ plain
  simpa using plain

theorem lineEnd_plain {more : List Char} (noReturn : more.head? ≠ some '\r')
    (noFeed : more.head? ≠ some '\n') : lineEnd? more = none := by
  unfold lineEnd?
  split
  · exact absurd rfl noFeed
  · exact absurd rfl noReturn
  · rfl

theorem skipLineEnd_opening {more : List Char} (noReturn : more.head? ≠ some '\r')
    (noFeed : more.head? = some '\n' → '\n' ∈ text) : skipLineEnd (opening text ++ more) = more := by
  unfold opening
  split
  · rfl
  · rename_i without
    rw [List.contains_eq_mem, decide_eq_true_eq] at without
    rw [List.nil_append, skipLineEnd, lineEnd_plain noReturn (mt noFeed without)]
    rfl

theorem head_escapeText (text rest : List Char) :
    (escapeText true 2 0 text ++ quotes 3 ++ rest).head? ≠ some '\r' ∧
      ((escapeText true 2 0 text ++ quotes 3 ++ rest).head? = some '\n' → '\n' ∈ text) := by
  cases text with
  | nil => simp [escapeText, quotes]
  | cons c text =>
      by_cases quote : c = '"'
      · simp [escapeText, quote]
      · obtain ⟨written, stands, split⟩ := exists_written true 2 0 c fun same => absurd same quote
        rw [split]
        cases stands with
        | plain _ _ inside =>
            constructor
            · rintro begins
              obtain rfl : c = '\r' := by simpa using begins
              simp [isPrintable] at inside
            · intro begins
              obtain rfl : c = '\n' := by simpa using begins
              exact List.mem_cons_self
        | letter known => simp
        | code small => simp [codeEscape]

theorem head_plain (plain : ∀ c ∈ text, isControl c = false) (rest : List Char) :
    (text ++ '\'' :: rest).head? ≠ some '\r' ∧
      ((text ++ '\'' :: rest).head? = some '\n' → '\n' ∈ text) := by
  cases text with
  | nil => simp
  | cons c text =>
      constructor
      · intro begins
        obtain rfl : c = '\r' := by simpa using begins
        exact Bool.noConfusion (plain _ List.mem_cons_self)
      · intro begins
        obtain rfl : c = '\n' := by simpa using begins
        exact List.mem_cons_self

theorem readQuoted_basic {more : List Char} (single : ∀ rest, more ≠ '"' :: '"' :: rest) :
    readQuoted ('"' :: more) = readBasic .no more := by
  unfold readQuoted
  split
  · rename_i begins
    exact absurd (List.cons.inj begins).2 (single _)
  · rename_i begins
    cases begins
  · rfl

theorem readQuoted_literal {more : List Char} (single : ∀ rest, more ≠ '\'' :: '\'' :: rest) :
    readQuoted ('\'' :: more) = readLiteral more := by
  unfold readQuoted
  split
  · rename_i begins
    cases begins
  · rename_i begins
    exact absurd (List.cons.inj begins).2 (single _)
  · rfl

theorem escapeText_single (text : List Char) (noQuote : rest.head? ≠ some '"') (more : List Char) :
    escapeText false 0 0 text ++ '"' :: rest ≠ '"' :: '"' :: more := by
  intro begins
  cases text with
  | nil =>
      obtain ⟨-, rfl⟩ := List.cons.inj begins
      exact noQuote rfl
  | cons c text =>
      obtain ⟨written, stands, split⟩ := exists_written false 0 0 c fun _ => le_rfl
      rw [split] at begins
      cases stands with
      | plain quote => exact quote (List.cons.inj begins).1
      | letter known => cases (List.cons.inj begins).1
      | code small => cases (List.cons.inj begins).1

/-- Every text is read back from the form that is chosen for it, as long as no other quote follows. -/
theorem readQuoted_writeQuoted (text : List Char) (noDouble : rest.head? ≠ some '"')
    (noSingle : rest.head? ≠ some '\'') : readQuoted (writeQuoted text ++ rest) = some (text, rest) := by
  unfold writeQuoted
  cases form : formOf text with
  | basic =>
      have read := readBasic_escapeText text rest
      simpa [readQuoted_basic (escapeText_single text noDouble)] using read
  | literal =>
      obtain ⟨plain, nonempty⟩ := formOf_literal form
      have single : ∀ more, text ++ '\'' :: rest ≠ '\'' :: '\'' :: more := by
        intro more begins
        obtain ⟨c, text, rfl⟩ := List.exists_cons_of_ne_nil nonempty
        exact (plain c List.mem_cons_self).2 (List.cons.inj begins).1
      have read := readLiteral_plain plain rest
      simpa [readQuoted_literal single] using read
  | longBasic =>
      obtain ⟨noReturn, feed⟩ := head_escapeText text rest
      have read := readLongBasic_escapeText text (Nat.zero_le 2) noDouble
      rw [← skipLineEnd_opening noReturn feed] at read
      simpa [readQuoted, quotes] using read
  | longLiteral =>
      obtain ⟨plain, few⟩ := formOf_longLiteral form
      have read := readLongLiteral_plain few plain noSingle
      obtain ⟨noReturn, feed⟩ := head_plain plain ('\'' :: '\'' :: rest)
      rw [← skipLineEnd_opening noReturn feed] at read
      simpa [readQuoted] using read

end Accelerometer.Proofs.Toml
