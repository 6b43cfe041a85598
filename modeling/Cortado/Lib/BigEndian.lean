import Mathlib.Data.List.Induction
import Mathlib.Algebra.Order.Ring.Nat

/-!
# Numbers as big-endian bytes

A number below `256 ^ count` and its `count` bytes, most significant first,
determine each other.
-/

namespace BigEndian

/-- The `count` low bytes of a number, most significant first. -/
def toBytes : Nat → Nat → List UInt8
  | 0, _ => []
  | count + 1, value =>
      toBytes count (value / 256) ++ [UInt8.ofNat (value % 256)]

/-- The number that the bytes write. -/
def ofBytes (bytes : List UInt8) : Nat :=
  bytes.foldl (fun value byte => value * 256 + byte.toNat) 0

@[simp]
theorem length_toBytes (count value : Nat) :
    (toBytes count value).length = count := by
  induction count generalizing value with
  | zero => rfl
  | succ count ih => simp [toBytes, ih]

theorem ofBytes_concat (bytes : List UInt8) (byte : UInt8) :
    ofBytes (bytes ++ [byte]) = ofBytes bytes * 256 + byte.toNat := by
  simp [ofBytes]

theorem ofBytes_lt {bytes : List UInt8} {count : Nat}
    (counted : bytes.length = count) : ofBytes bytes < 256 ^ count := by
  subst counted
  induction bytes using List.reverseRecOn with
  | nil => simp [ofBytes]
  | append_singleton bytes byte ih =>
      have byteBound := byte.toNat_lt
      simp only [ofBytes_concat, List.length_append, List.length_singleton,
        pow_succ]
      omega

theorem ofBytes_toBytes {count value : Nat} (fits : value < 256 ^ count) :
    ofBytes (toBytes count value) = value := by
  induction count generalizing value with
  | zero =>
      have : value = 0 := by simpa using fits
      rw [this]
      rfl
  | succ count ih =>
      have high : value / 256 < 256 ^ count := by
        apply Nat.div_lt_of_lt_mul
        rw [← pow_succ']
        exact fits
      rw [toBytes, ofBytes_concat, ih high, UInt8.toNat_ofNat']
      omega

theorem toBytes_ofBytes (bytes : List UInt8) :
    toBytes bytes.length (ofBytes bytes) = bytes := by
  induction bytes using List.reverseRecOn with
  | nil => rfl
  | append_singleton bytes byte ih =>
      have byteBound := byte.toNat_lt
      have high : (ofBytes bytes * 256 + byte.toNat) / 256 = ofBytes bytes := by
        omega
      have low : (ofBytes bytes * 256 + byte.toNat) % 256 = byte.toNat := by
        omega
      rw [List.length_append, List.length_singleton, toBytes, ofBytes_concat,
        high, low, ih, UInt8.ofNat_toNat]

end BigEndian
