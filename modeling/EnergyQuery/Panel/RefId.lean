/-
  The names by which a dashboard tells the queries of a panel apart:

    A, B, .., Z, AA, AB, ..

  This is the bijective numbering in base 26, in which no digit is zero.
-/

namespace EnergyQuery.RefId

/-- The letter of a digit, `A` for the first. -/
def letter (digit : Nat) : Char :=
  Char.ofNat ('A'.toNat + digit)

/-- The letters of a number; zero has none. -/
def letters : Nat → List Char
  | 0 => []
  | n + 1 => letters (n / 26) ++ [letter (n % 26)]

/-- The name of the query at a position, counted from zero. -/
def ofIndex (index : Nat) : String :=
  String.ofList (letters (index + 1))

end EnergyQuery.RefId
