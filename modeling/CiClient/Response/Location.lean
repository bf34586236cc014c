import CiClient.Http.Headers
import CiClient.Text.Decimal
import CiClient.Verdict

/-!
# Places in the queue

The server answers the request for a build with the address of an item of the queue. The address
ends in `/queue/item/`, the number of the item, and perhaps a slash.
-/

set_option autoImplicit false

namespace CiClient.Ticket

/-- What stands before the number, from its end. -/
def itemMark : List Char := "/queue/item/".toList.reverse

/-- The number of the item that an address names. -/
def itemNumber? (address : List Char) : Option Int64 :=
  let reversed := match address.reverse with
    | '/' :: rest => rest
    | rest => rest
  let digits := (reversed.takeWhile Text.isDigit).reverse
  if !digits.isEmpty && itemMark.isPrefixOf (reversed.dropWhile Text.isDigit) then
    Text.int64? digits
  else none

/-- The failure to find a place in the queue. -/
def noItem : Failure :=
  .of .numberFormat
    "No queue item Location header could be found despite getting a valid HTTP response."

/-- The place in the queue that header fields name. -/
def ofHeaders (headers : Http.Headers) : Ticket :=
  match (headers.text? "location").bind fun address => itemNumber? address.toList with
  | some number => of number
  | none => refused noItem

end CiClient.Ticket
