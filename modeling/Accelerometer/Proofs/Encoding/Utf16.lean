import Accelerometer.Proofs.Encoding.LineFeeds

/-!
# Units of UTF-16

What one unit gives: a line feed comes from its own unit only, and from it after every other.

* `runFrom_pair`: a text is read unit by unit.
* `readUnit_feed`, `readUnit_plain`: the unit of the line feed, and all others.
-/

namespace Accelerometer.Proofs.Encoding
open Accelerometer.Encoding

def feedUnit : Utf16.Order → List UInt8
  | .littleEndian => [0x0A, 0x00]
  | .bigEndian => [0x00, 0x0A]

theorem unit_eq_feed {order : Utf16.Order} {first second : UInt8}
    (feed : order.unit first second = 10) : [first, second] = feedUnit order := by
  have below := first.toNat_lt
  have below' := second.toNat_lt
  cases order with
  | littleEndian =>
      simp only [Utf16.Order.unit] at feed
      have low : first = 0x0A := UInt8.toNat_inj.mp (by simp only [UInt8.reduceToNat]; omega)
      have high : second = 0 := UInt8.toNat_inj.mp (by simp only [UInt8.reduceToNat]; omega)
      rw [low, high, feedUnit]
  | bigEndian =>
      simp only [Utf16.Order.unit] at feed
      have high : first = 0 := UInt8.toNat_inj.mp (by simp only [UInt8.reduceToNat]; omega)
      have low : second = 0x0A := UInt8.toNat_inj.mp (by simp only [UInt8.reduceToNat]; omega)
      rw [low, high, feedUnit]

theorem single_plain {unit : Nat} (other : unit ≠ 10) : '\n' ∉ (Utf16.single unit).1 := by
  unfold Utf16.single
  repeat' split
  · exact List.not_mem_nil
  · decide
  · exact fun member => ofNat_ne_feed other (List.mem_singleton.mp member).symm

theorem single_state (unit : Nat) : (Utf16.single unit).2.octet = none := by
  unfold Utf16.single
  repeat' split
  all_goals rfl

theorem readUnit_plain {unit : Nat} (other : unit ≠ 10) (high : Option Nat) :
    '\n' ∉ (Utf16.readUnit high unit).1 := by
  cases high with
  | none => exact single_plain other
  | some high =>
      simp only [Utf16.readUnit]
      split
      · have beyond : 0x10000 + (high - 0xD800) * 0x400 + (unit - 0xDC00) ≠ 10 := by omega
        exact fun member => ofNat_ne_feed beyond (List.mem_singleton.mp member).symm
      · simpa [replacement] using single_plain other

theorem readUnit_feed (high : Option Nat) :
    ∃ text, '\n' ∉ text ∧ Utf16.readUnit high 10 = (text ++ ['\n'], ⟨none, none⟩) := by
  cases high with
  | none => exact ⟨[], List.not_mem_nil, rfl⟩
  | some high => exact ⟨[replacement], by decide, rfl⟩

theorem readUnit_state (high : Option Nat) (unit : Nat) :
    (Utf16.readUnit high unit).2.octet = none := by
  cases high with
  | none => exact single_state unit
  | some high =>
      simp only [Utf16.readUnit]
      split
      · rfl
      · exact single_state unit

theorem finish_plain (state : Utf16.State) : '\n' ∉ Utf16.finish state := by
  unfold Utf16.finish
  split <;> decide

theorem runFrom_pair (order : Utf16.Order) (high : Option Nat) (first second : UInt8)
    (rest : List UInt8) :
    (Utf16.decoder order).runFrom ⟨high, none⟩ (first :: second :: rest) =
      (Utf16.readUnit high (order.unit first second)).1 ++
        (Utf16.decoder order).runFrom (Utf16.readUnit high (order.unit first second)).2 rest := rfl

end Accelerometer.Proofs.Encoding
