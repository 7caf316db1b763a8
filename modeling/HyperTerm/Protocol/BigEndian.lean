import HyperTerm.Protocol.Wire

/-!
# Big-endian numbers

`beNat` is `from_be_bytes`. Together with `beBytes` it is a bijection between the lists of a length and the numbers
that fit it.
-/

namespace HyperTerm.Protocol

/-- `from_be_bytes`. -/
def beNat : List UInt8 → Nat
  | [] => 0
  | byte :: bytes => byte.toNat * 256 ^ bytes.length + beNat bytes

theorem beNat_lt (bytes : List UInt8) : beNat bytes < 256 ^ bytes.length := by
  induction bytes with
  | nil => exact Nat.one_pos
  | cons byte bytes ih =>
      have hbyte : byte.toNat + 1 ≤ 256 := byte.toNat_lt
      have hle := Nat.mul_le_mul_right (256 ^ bytes.length) hbyte
      rw [beNat, List.length_cons, Nat.pow_succ, Nat.mul_comm _ 256]
      rw [Nat.add_mul, Nat.one_mul] at hle
      omega

theorem beNat_beBytes (length n : Nat) : beNat (beBytes length n) = n % 256 ^ length := by
  induction length with
  | zero => rw [Nat.pow_zero, Nat.mod_one]; rfl
  | succ length ih =>
      have hhead : (UInt8.ofNat (n / 256 ^ length % 256)).toNat = n / 256 ^ length % 256 := by
        rw [UInt8.toNat_ofNat']
        exact Nat.mod_eq_of_lt (Nat.mod_lt _ (by decide))
      rw [beBytes, beNat, hhead, ih, length_beBytes, Nat.mod_pow_succ, Nat.mul_comm, Nat.add_comm]

theorem beNat_beBytes_of_lt {length n : Nat} (h : n < 256 ^ length) : beNat (beBytes length n) = n := by
  rw [beNat_beBytes, Nat.mod_eq_of_lt h]

/-- Only the number modulo the range shows in the bytes. -/
theorem beBytes_congr {length m n : Nat} (h : m % 256 ^ length = n % 256 ^ length) :
    beBytes length m = beBytes length n := by
  induction length with
  | zero => rfl
  | succ length ih =>
      have hdigit (k : Nat) : k / 256 ^ length % 256 = k % 256 ^ (length + 1) / 256 ^ length := by
        rw [Nat.pow_succ, Nat.mod_mul_right_div_self]
      have hlow (k : Nat) : k % 256 ^ length = k % 256 ^ (length + 1) % 256 ^ length :=
        (Nat.mod_mod_of_dvd k (Nat.pow_dvd_pow 256 (Nat.le_succ length))).symm
      rw [beBytes, beBytes, hdigit m, hdigit n, h, ih (by rw [hlow m, hlow n, h])]

theorem beBytes_beNat (bytes : List UInt8) : beBytes bytes.length (beNat bytes) = bytes := by
  induction bytes with
  | nil => rfl
  | cons byte bytes ih =>
      have hlt := beNat_lt bytes
      have hpos : 0 < 256 ^ bytes.length := Nat.pow_pos (by decide)
      have hhead : beNat (byte :: bytes) / 256 ^ bytes.length = byte.toNat := by
        rw [beNat, Nat.mul_comm, Nat.mul_add_div hpos, Nat.div_eq_of_lt hlt, Nat.add_zero]
      have htail : beBytes bytes.length (beNat (byte :: bytes)) = beBytes bytes.length (beNat bytes) := by
        refine beBytes_congr ?_
        rw [beNat, Nat.mul_comm, Nat.mul_add_mod]
      rw [List.length_cons, beBytes, hhead, htail, ih, Nat.mod_eq_of_lt byte.toNat_lt, UInt8.ofNat_toNat]

theorem beBytes_beNat_of_length {bytes : List UInt8} {length : Nat} (h : bytes.length = length) :
    beBytes length (beNat bytes) = bytes := h ▸ beBytes_beNat bytes

end HyperTerm.Protocol
