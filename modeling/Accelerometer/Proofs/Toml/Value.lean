import Accelerometer.Decimal.Notation
import Accelerometer.Toml.Document
import Accelerometer.Proofs.Toml.Number
import Accelerometer.Proofs.Toml.Quoted

/-!
# Values of a document are read back

* `ReadsAs`: what a text is read as where a line ends behind it.
* `readsAs_whole`, `readsAs_fraction`, `readsAs_infinite`: numbers.
* `readsAs_quoted`: texts.
-/

namespace Accelerometer.Proofs.Toml
open Accelerometer.Toml Proofs.Decimal
open Accelerometer.Decimal (Binary signText nearest ofDigits)

variable {c : Char} {whole fraction text : List Char} {item : Item}

structure ReadsAs (text : List Char) (item : Item) : Prop where
  unblank : ∃ c more, text = c :: more ∧ isBlank c = false
  value : ∀ fuel depth rest, value? (fuel + 1) depth (text ++ '\n' :: rest) = some (item, '\n' :: rest)

theorem value_scalar (noBracket : c ≠ '[') (noBrace : c ≠ '{') (fuel depth : Nat) (text : List Char) :
    value? (fuel + 1) depth (c :: text) = scalar? (c :: text) := by
  rw [value?]
  · exact fun more begins => noBracket (List.cons.inj begins).1
  · exact fun more begins => noBrace (List.cons.inj begins).1

abbrev BeginsNumber (c : Char) : Prop :=
  c.isDigit = true ∨ c = '-' ∨ c = 'i'

theorem scalar_number (begins : BeginsNumber c) (text : List Char) :
    scalar? (c :: text) = (dateTime? (c :: text)).or (number? (c :: text)) := by
  have other : ∀ {d : Char} {more : List Char}, ¬BeginsNumber d → c :: text ≠ d :: more := by
    rintro d more noNumber same
    obtain ⟨rfl, -⟩ := List.cons.inj same
    exact noNumber begins
  unfold scalar?
  split
  · rename_i same
    exact absurd same (other (by decide))
  · rename_i same
    exact absurd same (other (by decide))
  · rename_i same
    exact absurd same (other (by decide))
  · rename_i same
    exact absurd same (other (by decide))
  · rfl

theorem readsAs_number (begins : ∀ c ∈ text.head?, BeginsNumber c) (nonempty : text ≠ [])
    (noDate : ∀ rest, dateTime? (text ++ '\n' :: rest) = none)
    (read : ∀ rest, number? (text ++ '\n' :: rest) = some (item, '\n' :: rest)) :
    ReadsAs text item := by
  obtain ⟨c, more, rfl⟩ := List.exists_cons_of_ne_nil nonempty
  have begins := begins c rfl
  have other : ∀ d, ¬BeginsNumber d → c ≠ d := by
    rintro d noNumber rfl
    exact noNumber begins
  refine ⟨⟨c, more, rfl, ?_⟩, fun fuel depth rest => ?_⟩
  · simp [isBlank, other ' ' (by decide), other '\t' (by decide)]
  · rw [List.cons_append, value_scalar (other _ (by decide)) (other _ (by decide)),
      scalar_number begins, ← List.cons_append, noDate, read, Option.none_or]

/-! ## Numbers -/

theorem begins_whole (isWhole : IsWhole whole) (rest : List Char) :
    ∀ c ∈ (whole ++ rest).head?, BeginsNumber c := by
  obtain ⟨c, digits, rfl⟩ := List.exists_cons_of_ne_nil isWhole.nonempty
  rintro _ ⟨⟩
  exact .inl (isWhole.isDigit c List.mem_cons_self)

theorem readsAs_whole (isWhole : IsWhole whole) (small : (ofDigits whole : ℤ) < integerBound) :
    ReadsAs whole (.integer (ofDigits whole)) := by
  have inRange : -integerBound ≤ (ofDigits whole : ℤ) ∧ (ofDigits whole : ℤ) < integerBound := by
    refine ⟨?_, small⟩
    have : 0 ≤ integerBound := Int.natCast_nonneg _
    omega
  have read : integer? (ofDigits whole) = some (.integer (ofDigits whole)) := if_pos inRange
  have begins := begins_whole isWhole []
  rw [List.append_nil] at begins
  refine readsAs_number begins isWhole.nonempty ?_ fun rest => ?_
  · exact fun rest => dateTime_number isWhole.isDigit rfl (by simp) (by simp)
  · rw [number_whole isWhole (by simp)]
    exact decimal_whole isWhole rest read

theorem readsAs_fraction (isDecimal : IsDecimal whole fraction) (negative : Bool) {m : ℕ} {e : ℤ}
    (read : nearest negative (ofDigits (whole ++ fraction)) (-(fraction.length : ℤ)) =
      .finite negative m e) :
    ReadsAs (signText negative ++ (whole ++ '.' :: fraction))
      (.float (Binary.finite negative m e).toFloat) := by
  have line : ∀ rest, whole ++ '.' :: fraction ++ '\n' :: rest =
      whole ++ '.' :: (fraction ++ '\n' :: rest) := by simp
  have float : float? (nearest negative (ofDigits (whole ++ fraction)) (-(fraction.length : ℤ))) =
      some (.float (Binary.finite negative m e).toFloat) := by
    rw [read]
    rfl
  have isWhole := isDecimal.isWhole
  have decimal := fun rest => decimal_fraction isDecimal rest float
  cases negative with
  | true =>
      have sign : signText true ++ (whole ++ '.' :: fraction) = '-' :: (whole ++ '.' :: fraction) := rfl
      rw [sign]
      refine readsAs_number (by simp [BeginsNumber]) (by simp) (fun rest => dateTime_undigit rfl _)
        fun rest => ?_
      rw [List.cons_append, line, number_negative isWhole, decimal]
  | false =>
      have sign : signText false ++ (whole ++ '.' :: fraction) = whole ++ '.' :: fraction := rfl
      rw [sign]
      refine readsAs_number (begins_whole isWhole _) (by simp) (fun rest => ?_) fun rest => ?_
      · rw [line]
        exact dateTime_number isWhole.isDigit rfl (by simp) (by simp)
      · rw [line, number_whole isWhole (by simp), decimal]

theorem readsAs_infinite (negative : Bool) :
    ReadsAs (signText negative ++ ['i', 'n', 'f']) (.float (Binary.infinite negative).toFloat) := by
  cases negative with
  | true =>
      have sign : signText true ++ ['i', 'n', 'f'] = ['-', 'i', 'n', 'f'] := rfl
      rw [sign]
      exact readsAs_number (by simp [BeginsNumber]) (by simp) (fun _ => dateTime_undigit rfl _)
        fun _ => rfl
  | false =>
      have sign : signText false ++ ['i', 'n', 'f'] = ['i', 'n', 'f'] := rfl
      rw [sign]
      exact readsAs_number (by simp [BeginsNumber]) (by simp) (fun _ => dateTime_undigit rfl _)
        fun _ => rfl

/-! ## Texts -/

theorem writeQuoted_begins (content : List Char) :
    ∃ quote more, writeQuoted content = quote :: more ∧ (quote = '"' ∨ quote = '\'') := by
  unfold writeQuoted
  cases formOf content with
  | basic => exact ⟨_, _, rfl, .inl rfl⟩
  | literal => exact ⟨_, _, rfl, .inr rfl⟩
  | longBasic => exact ⟨_, _, rfl, .inl rfl⟩
  | longLiteral => exact ⟨_, _, rfl, .inr rfl⟩

theorem readsAs_quoted (content : List Char) :
    ReadsAs (writeQuoted content) (.text (.ofList content)) := by
  obtain ⟨quote, more, written, isQuote⟩ := writeQuoted_begins content
  refine ⟨⟨quote, more, written, ?_⟩, fun fuel depth rest => ?_⟩
  · rcases isQuote with rfl | rfl <;> rfl
  · have read : readQuoted (writeQuoted content ++ '\n' :: rest) = some (content, _) :=
      readQuoted_writeQuoted content (by simp) (by simp)
    rw [written, List.cons_append] at read ⊢
    rcases isQuote with rfl | rfl
    · rw [value_scalar (by decide) (by decide)]
      simp [scalar?, read]
    · rw [value_scalar (by decide) (by decide)]
      simp [scalar?, read]

end Accelerometer.Proofs.Toml
