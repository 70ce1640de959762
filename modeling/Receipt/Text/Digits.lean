/-!
# Digits

Numbers written in decimal or hexadecimal digits, most significant digit first.

They are read by `number` of `markup/property` and by `decode` of `markup/escape`.
-/

namespace Receipt.Text

/-- The number that decimal digits write, after the digits that write `n`. -/
def readDigits (n : Nat) (s : List Char) : Nat := s.foldl (fun n d => n * 10 + (d.toNat - 48)) n

/-- The number written by a text of decimal digits only. -/
def decimal? (s : List Char) : Option Nat :=
  if s.isEmpty || !s.all Char.isDigit then none else some (readDigits 0 s)

/-- The value of a hexadecimal digit, of either case. -/
def hexDigit? (c : Char) : Option Nat :=
  if '0' ≤ c && c ≤ '9' then some (c.toNat - 48)
  else if 'a' ≤ c && c ≤ 'f' then some (c.toNat - 87)
  else if 'A' ≤ c && c ≤ 'F' then some (c.toNat - 55)
  else none

/-- The two hexadecimal digits of a number below 256. -/
def hexByte (n : Nat) : List Char := [Nat.digitChar (n / 16), Nat.digitChar (n % 16)]

theorem hexDigit?_digitChar {n : Nat} (h : n < 16) : hexDigit? (Nat.digitChar n) = some n := by
  have : ∀ m : Fin 16, hexDigit? (Nat.digitChar m.val) = some m.val := by decide
  exact this ⟨n, h⟩

end Receipt.Text
