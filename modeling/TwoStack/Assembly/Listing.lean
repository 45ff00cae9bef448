import TwoStack.Bytes
import TwoStack.Source.Token
import TwoStack.Text.Field

/-!
# Listings

A listing shows what every statement of a program became: its address, its bytes and its text.
-/

namespace TwoStack

/-- What one statement became. -/
structure ListingEntry where
  address : Nat
  bytes : Bytes
  /-- The statement as it is written, its tokens separated by one blank. -/
  text : String
  /-- Where the keyword is written. -/
  location : Location
  deriving DecidableEq, Repr

namespace ListingEntry

/-- An entry as a row: the address, the bytes, the statement. -/
def row (entry : ListingEntry) : String :=
  let bytes := " ".intercalate (entry.bytes.toList.map hexByte)
  s!"{fivePlaces entry.address}  {padRight 14 bytes}  {entry.text}"

end ListingEntry

/-- A listing as text, one entry to a line. -/
def printListing (listing : Array ListingEntry) : String :=
  listing.foldl (fun text entry => text ++ entry.row ++ "\n") ""

end TwoStack
