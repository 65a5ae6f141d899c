/-!
# Decimal numbers

Line numbers, columns, offsets and counts are written in base ten, without sign or padding.

* `decimal` — the written form of a natural number.
* `not_mem_decimal` — there are only digits in it.
* `decimal_injective` — no two numbers are written the same.
-/

namespace CurlyLex.Text

/-- The digits of a natural number in base ten; zero is one digit. -/
def decimal (n : Nat) : String :=
  String.ofList (Nat.toDigits 10 n)

theorem not_mem_decimal {c : Char} (hc : ¬ c.isDigit) (n : Nat) : c ∉ (decimal n).toList := by
  intro hmem
  rw [decimal, String.toList_ofList] at hmem
  exact hc (Nat.isDigit_of_mem_toDigits (by decide) (by decide) hmem)

/-- Reading the digits gives the number back. -/
theorem decimal_injective {m n : Nat} (h : decimal m = decimal n) : m = n := by
  have hdigits : Nat.toDigits 10 m = Nat.toDigits 10 n := String.ofList_injective h
  have hvalues := congrArg (fun digits => Nat.ofDigitChars 10 digits 0) hdigits
  simpa using hvalues

end CurlyLex.Text
