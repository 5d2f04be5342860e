import CallDescriptor.Hex
import CallDescriptor.Options
import CallDescriptor.Param
import CallDescriptor.Trace
/-!
# Stack slots

Slot bytes stand at the left of the trailer, one for each param in descending
position order, and the rest of the field is `ff` filler. `slotBytes` drops
the filler in one of two ways; `assignSlots` pairs what is left with the
params from the right, so the last slot byte belongs to the lowest position
whatever the counts are.
-/

namespace CallDescriptor

/-- The offset at which the trailer starts in a descriptor. -/
def trailerOffset : Nat := 22

/-- The filler byte. -/
def filler : UInt8 := 0xff

/-- `bytes` without the filler at its right end. -/
def dropFiller (bytes : List UInt8) : List UInt8 :=
  (bytes.reverse.dropWhile (· == filler)).reverse

/-- Deletes each pair of adjacent `f`, from the left and without overlap. -/
def dropPairs : List Char → List Char
  | 'f' :: 'f' :: rest => dropPairs rest
  | c :: rest => c :: dropPairs rest
  | [] => []

/-- The slot bytes of a trailer. With legacy padding an odd number of digits is
blamed on the last one, with trailing padding on the one without a partner;
both are the same digit. -/
def slotBytes (padding : Padding) (trailer : List Char) : Except DecodeError (List UInt8) :=
  match padding with
  | .trailing => do
    let bs ← Hex.bytes trailerOffset trailer
    return dropFiller bs
  | .legacy => do
    Hex.checkDigits trailerOffset trailer
    let kept := dropPairs (trailer.map Char.toLower)
    if kept.length % 2 = 0 then Hex.bytes trailerOffset kept
    else .error (.danglingDigit (trailerOffset + trailer.length - 1))

/-- Gives the params the slots in order, as far as both lists reach. -/
def pair : List Param → List UInt8 → List Param
  | p :: ps, s :: ss => { p with slot := some s } :: pair ps ss
  | ps, _ => ps

/-- Pairs params and slots from the right. -/
def pairFromRight (params : List Param) (slots : List UInt8) : List Param :=
  (pair params.reverse slots.reverse).reverse

/-- One event for each pair, lowest position first. -/
def pairEvents (params : List Param) (slots : List UInt8) : List Event :=
  List.zipWith (fun p s => .paired p.position s) params.reverse slots.reverse

/-- Compares the number of slots with the number of params. -/
def checkSlotCount (validation : Validation) (slots params : Nat) : Traced Unit :=
  if slots = params then return ()
  else if validation.checksSlots then Traced.fail (.slotCount slots params)
  else Traced.report [.slotCount slots params]

/-- Fills in the slots of `params` from a trailer. Without a param the trailer
is not looked at. -/
def assignSlots (options : Options) (trailer : List Char) (params : List Param) :
    Traced (List Param) :=
  if params = [] then return []
  else do
    let slots ← slotBytes options.padding trailer
    checkSlotCount options.validation slots.length params.length
    Traced.report (pairEvents params slots)
    return pairFromRight params slots

end CallDescriptor
