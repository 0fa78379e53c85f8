/-!
Powers modulo a number, by squaring along the binary digits of the exponent.
-/
namespace Muster.Rsa

/-- `accumulated * base ^ exponent` modulo `modulus`. -/
def powerFrom (modulus base exponent accumulated : Nat) : Nat :=
  if exponent = 0 then accumulated % modulus
  else
    let accumulated := if exponent % 2 = 1 then accumulated * base % modulus else accumulated
    powerFrom modulus (base * base % modulus) (exponent / 2) accumulated
  termination_by exponent
  decreasing_by omega

def powerMod (base exponent modulus : Nat) : Nat :=
  powerFrom modulus (base % modulus) exponent 1

theorem powerFrom_eq (modulus base exponent accumulated : Nat) :
    powerFrom modulus base exponent accumulated =
      accumulated * Nat.pow base exponent % modulus := by
  rw [Nat.pow_eq]
  induction exponent using Nat.strongRecOn generalizing base accumulated with
  | ind exponent ih =>
      rw [powerFrom]
      split
      · next h => simp [h]
      · next h =>
          have hlt : exponent / 2 < exponent := by omega
          have hsplit : base ^ exponent = base ^ (exponent % 2) * (base * base) ^ (exponent / 2) := by
            rw [← Nat.pow_two, ← Nat.pow_mul, ← Nat.pow_add]
            congr 1
            omega
          simp only [ih _ hlt]
          rw [hsplit]
          split
          · next hodd =>
              rw [hodd, Nat.pow_one, ← Nat.mul_assoc, Nat.mul_mod, Nat.pow_mod, Nat.mod_mod,
                Nat.mod_mod, ← Nat.pow_mod, ← Nat.mul_mod]
          · next heven =>
              have hzero : exponent % 2 = 0 := by omega
              rw [hzero, Nat.pow_zero, Nat.one_mul, Nat.mul_mod, Nat.pow_mod, Nat.mod_mod,
                ← Nat.pow_mod, ← Nat.mul_mod]

/-- Squaring gives the power. -/
theorem powerMod_eq (base exponent modulus : Nat) :
    powerMod base exponent modulus = Nat.pow base exponent % modulus := by
  rw [powerMod, powerFrom_eq, Nat.one_mul, Nat.pow_eq, Nat.pow_eq, ← Nat.pow_mod]

end Muster.Rsa
