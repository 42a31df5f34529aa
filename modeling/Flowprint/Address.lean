/-! Addresses name the nodes of a graph, and they are written in hexadecimal. -/

namespace Flowprint

/-- Any integer may stand in a graph, and a document admits the unsigned 64-bit ones. -/
abbrev Address := Int

/-- Control passes from the first address to the second. -/
abbrev Edge := Address × Address

namespace Address

/-- The largest address that a document may hold, which has 64 bits. -/
def last : Address := 18446744073709551615

/-- A documented address is an unsigned 64-bit integer. -/
def Documented (address : Address) : Prop := 0 ≤ address ∧ address ≤ last

instance (address : Address) : Decidable (Documented address) :=
  inferInstanceAs (Decidable (_ ∧ _))

/-- The digits of an address in base sixteen, after a minus sign if it is negative. -/
def hexDigits (address : Address) : List Char :=
  -- Any integer has a form, although only natural numbers are addresses of a document.
  if address < 0 then '-' :: Nat.toDigits 16 address.natAbs else Nat.toDigits 16 address.natAbs

/-- The bare hexadecimal form, as it stands in a listing. -/
def hex (address : Address) : String := String.ofList (hexDigits address)

/-- The marked hexadecimal form puts `0x` between the sign and the digits. -/
def markedHex (address : Address) : String :=
  -- The sign comes first of all.
  if address < 0 then String.ofList ('-' :: '0' :: 'x' :: Nat.toDigits 16 address.natAbs)
  else String.ofList ('0' :: 'x' :: Nat.toDigits 16 address.natAbs)

end Address

end Flowprint
