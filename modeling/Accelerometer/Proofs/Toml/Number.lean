import Accelerometer.Toml.Number
import Accelerometer.Proofs.Decimal.ReadBack
import Accelerometer.Proofs.Double.Value

/-!
# Numbers are read back

* `whole_append`: the digits of a natural number are read as such.
* `decimal_whole`, `decimal_fraction`: and so are the numbers that are made of them.
* `number_whole`, `number_negative`: a number in no other base and without a word.
* `dateTime_number`: a number is no date and no time of day.
-/

namespace Accelerometer.Proofs.Toml
open Accelerometer.Toml Proofs.Decimal

variable {c : Char} {digits whole fraction rest : List Char} {negative : Bool} {item : Item}

/-! ## Digits -/

theorem digitRun_append (isDigit : ∀ c ∈ digits, c.isDigit = true)
    (stops : ∀ c ∈ rest.head?, c.isDigit = false ∧ c ≠ '_') :
    digitRun Char.isDigit (digits ++ rest) = (digits, rest) := by
  induction digits with
  | nil =>
      rw [List.nil_append]
      unfold digitRun
      split
      · exact absurd rfl (stops '_' rfl).2
      · rw [if_neg (Bool.eq_false_iff.mp (stops _ rfl).1)]
      · rfl
  | cons c digits ih =>
      obtain ⟨isDigit, others⟩ := List.forall_mem_cons.mp isDigit
      have noUnderscore : c ≠ '_' := by
        rintro rfl
        cases isDigit
      rw [List.cons_append, digitRun]
      · rw [if_pos isDigit, ih others]
      · simp [noUnderscore]

theorem digits_append (isDigit : ∀ c ∈ digits, c.isDigit = true) (nonempty : digits ≠ [])
    (stops : ∀ c ∈ rest.head?, c.isDigit = false ∧ c ≠ '_') :
    digits? Char.isDigit (digits ++ rest) = some (digits, rest) := by
  obtain ⟨c, digits, rfl⟩ := List.exists_cons_of_ne_nil nonempty
  rw [← digitRun_append isDigit stops, List.cons_append, digits?, if_pos (isDigit c List.mem_cons_self)]

theorem whole_append (isWhole : IsWhole whole) (stops : ∀ c ∈ rest.head?, c.isDigit = false ∧ c ≠ '_') :
    whole? (whole ++ rest) = some (whole, rest) := by
  by_cases zero : whole.head? = some '0'
  · rw [isWhole.zero zero]
    rfl
  · rw [← digits_append isWhole.isDigit isWhole.nonempty stops]
    unfold whole?
    split
    · rename_i begins
      obtain ⟨c, digits, rfl⟩ := List.exists_cons_of_ne_nil isWhole.nonempty
      obtain ⟨rfl, -⟩ := List.cons.inj begins
      exact absurd rfl zero
    · rfl

/-! ## Decimal numbers -/

theorem decimal_fraction (isDecimal : IsDecimal whole fraction) (rest : List Char)
    (read : float? (Decimal.nearest negative (Decimal.ofDigits (whole ++ fraction))
      (-(fraction.length : ℤ))) = some item) :
    decimal? negative (whole ++ '.' :: (fraction ++ '\n' :: rest)) = some (item, '\n' :: rest) := by
  have point : whole? (whole ++ '.' :: (fraction ++ '\n' :: rest)) = some (whole, _) :=
    whole_append isDecimal.isWhole (by simp)
  have ending : digits? Char.isDigit (fraction ++ '\n' :: rest) = some (fraction, _) :=
    digits_append isDecimal.isDigit isDecimal.nonempty (by simp)
  have noExponent : exponent? ('\n' :: rest) = some (0, '\n' :: rest) := rfl
  simp only [decimal?, point, ending, noExponent, Option.bind_eq_bind, Option.bind_some, zero_sub, read]
  rfl

theorem decimal_whole (isWhole : IsWhole whole) (rest : List Char)
    (read : integer? (if negative then -(Decimal.ofDigits whole : ℤ) else Decimal.ofDigits whole) =
      some item) :
    decimal? negative (whole ++ '\n' :: rest) = some (item, '\n' :: rest) := by
  have line : whole? (whole ++ '\n' :: rest) = some (whole, _) := whole_append isWhole (by simp)
  simp only [decimal?, line, Option.bind_eq_bind, Option.bind_some, read]
  rfl

/-! ## Numbers and words -/

theorem special_digit (isDigit : c.isDigit = true) (rest : List Char) :
    special? negative (c :: rest) = none := by
  unfold special?
  split
  · rename_i begins
    obtain ⟨rfl, -⟩ := List.cons.inj begins
    cases isDigit
  · rename_i begins
    obtain ⟨rfl, -⟩ := List.cons.inj begins
    cases isDigit
  · rfl

theorem number_whole (isWhole : IsWhole whole) (plain : ∀ c ∈ rest.head?, c = '.' ∨ c = '\n') :
    number? (whole ++ rest) = decimal? false (whole ++ rest) := by
  obtain ⟨c, digits, rfl⟩ := List.exists_cons_of_ne_nil isWhole.nonempty
  have isDigit := isWhole.isDigit c List.mem_cons_self
  have special : special? false (c :: digits ++ rest) = none := special_digit isDigit _
  have second : ∀ d more, c :: digits ++ rest = '0' :: d :: more → d = '.' ∨ d = '\n' := by
    intro d more begins
    obtain ⟨rfl, begins⟩ := List.cons.inj begins
    obtain ⟨-, rfl⟩ := List.cons.inj (isWhole.zero rfl)
    apply plain
    simp at begins
    simp [begins]
  unfold number?
  split
  · rename_i begins
    rcases second _ _ begins with other | other <;> cases other
  · rename_i begins
    rcases second _ _ begins with other | other <;> cases other
  · rename_i begins
    rcases second _ _ begins with other | other <;> cases other
  · rename_i begins
    obtain ⟨rfl, -⟩ := List.cons.inj begins
    cases isDigit
  · rename_i begins
    obtain ⟨rfl, -⟩ := List.cons.inj begins
    cases isDigit
  · rw [special, Option.none_or]

theorem special_whole (isWhole : IsWhole whole) (rest : List Char) :
    special? negative (whole ++ rest) = none := by
  obtain ⟨c, digits, rfl⟩ := List.exists_cons_of_ne_nil isWhole.nonempty
  exact special_digit (isWhole.isDigit c List.mem_cons_self) _

theorem number_negative (isWhole : IsWhole whole) (rest : List Char) :
    number? ('-' :: (whole ++ rest)) = decimal? true (whole ++ rest) := by
  have sign : number? ('-' :: (whole ++ rest)) =
      (special? true (whole ++ rest)).or (decimal? true (whole ++ rest)) := rfl
  rw [sign, special_whole isWhole, Option.none_or]

/-! ## Dates and times -/

theorem field_eq_some {width least greatest value : ℕ} {text after : List Char}
    (read : field? width least greatest text = some (value, after)) :
    width ≤ text.length ∧ (∀ c ∈ text.take width, c.isDigit = true) ∧ after = text.drop width := by
  simp only [field?] at read
  split at read
  · rename_i valid
    obtain ⟨length, isDigit, -⟩ := valid
    obtain ⟨-, rfl⟩ := Prod.mk.inj (Option.some.inj read)
    rw [List.length_take] at length
    exact ⟨by omega, List.all_eq_true.mp isDigit, rfl⟩
  · cases read

theorem field_unmarked {width least greatest value : ℕ} {mark : Char} {after : List Char}
    (isDigit : ∀ c ∈ digits, c.isDigit = true) (ends : c.isDigit = false)
    (noMark : digits ≠ [] → c ≠ mark) (noDigit : mark.isDigit = false) (some : 0 < width)
    (read : field? width least greatest (digits ++ c :: rest) = .some (value, after)) :
    mark? mark after = none := by
  obtain ⟨-, inside, rfl⟩ := field_eq_some read
  have short : width ≤ digits.length := by
    by_contra long
    have last : c ∈ (digits ++ c :: rest).take width := by
      rw [List.take_append, List.mem_append]
      obtain ⟨more, extra⟩ := Nat.exists_eq_add_one.mpr (Nat.sub_pos_of_lt (Nat.lt_of_not_le long))
      rw [extra, List.take_succ_cons]
      exact .inr List.mem_cons_self
    rw [inside c last] at ends
    cases ends
  have nonempty : digits ≠ [] := by
    rintro rfl
    exact absurd short (Nat.not_le.mpr some)
  rw [List.drop_append_of_le_length short]
  cases left : digits.drop width with
  | nil => exact if_neg (noMark nonempty)
  | cons d left =>
      have digit := isDigit d (List.mem_of_mem_drop (left ▸ List.mem_cons_self))
      refine if_neg ?_
      rintro rfl
      rw [digit] at noDigit
      cases noDigit

theorem dateTime_number (isDigit : ∀ c ∈ digits, c.isDigit = true) (ends : c.isDigit = false)
    (noMinus : digits ≠ [] → c ≠ '-') (noColon : digits ≠ [] → c ≠ ':') :
    dateTime? (digits ++ c :: rest) = none := by
  have date : date? (digits ++ c :: rest) = none := by
    cases year : field? 4 0 9999 (digits ++ c :: rest) with
    | none => simp [date?, year]
    | some read =>
        obtain ⟨value, after⟩ := read
        have unmarked := field_unmarked isDigit ends noMinus rfl (by decide) year
        simp [date?, year, unmarked]
  have time : time? (digits ++ c :: rest) = none := by
    cases hour : field? 2 0 23 (digits ++ c :: rest) with
    | none => simp [time?, hour]
    | some read =>
        obtain ⟨value, after⟩ := read
        have unmarked := field_unmarked isDigit ends noColon rfl (by decide) hour
        simp [time?, hour, unmarked]
  rw [dateTime?, date, time]
  rfl

theorem dateTime_undigit (ends : c.isDigit = false) (rest : List Char) :
    dateTime? (c :: rest) = none :=
  dateTime_number (List.forall_mem_nil _) ends (absurd rfl) (absurd rfl)

end Accelerometer.Proofs.Toml
