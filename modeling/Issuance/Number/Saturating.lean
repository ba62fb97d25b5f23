namespace Issuance

/-- The sum of two words of 64 bits. -/
def saturatingAdd (left right : UInt64) : UInt64 :=
  UInt64.ofNat (min (left.toNat + right.toNat) (UInt64.size - 1))

def saturatingDouble (word : UInt64) : UInt64 := saturatingAdd word word

/-- The word of 32 bits after another one. -/
def saturatingSucc (word : UInt32) : UInt32 :=
  UInt32.ofNat (min (word.toNat + 1) (UInt32.size - 1))

/-- The sum is exact until it reaches the greatest word. -/
theorem saturatingAdd_toNat (left right : UInt64) :
    (saturatingAdd left right).toNat = min (left.toNat + right.toNat) (UInt64.size - 1) := by
  rw [saturatingAdd, UInt64.toNat_ofNat', UInt64.size, Nat.mod_eq_of_lt (by omega)]

/-- The count is exact until it reaches the greatest word. -/
theorem saturatingSucc_toNat (word : UInt32) :
    (saturatingSucc word).toNat = min (word.toNat + 1) (UInt32.size - 1) := by
  rw [saturatingSucc, UInt32.toNat_ofNat', UInt32.size, Nat.mod_eq_of_lt (by omega)]

end Issuance
