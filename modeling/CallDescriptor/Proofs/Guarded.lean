import CallDescriptor.Decode
import CallDescriptor.Text.Digits
/-!
# Decoding with every partial step guarded

Decoding a text that is stored as UTF-8 takes steps that are not always
possible or exact: it cuts the text at byte offsets, takes a byte by its
index, shifts digits into words, narrows numbers to bytes, shifts a word by
the number of a bit and subtracts lengths. Here each of them looks first
whether it can be taken, and is `stuck` where it cannot or would lose a
bit. Everything else is as in `decode`. Offsets stay plain numbers, since
no text is as long as a word can count.
-/

namespace CallDescriptor

/-- What a computation with partial steps comes to. -/
inductive Guarded (α : Type) where
  /-- A step could not be taken or was not exact. -/
  | stuck
  /-- Every step was taken. -/
  | done (outcome : Except DecodeError α)

namespace Guarded

variable {α β : Type}

/-- `f` on the result of `x`, unless `x` is stuck or has none. -/
def bind (x : Guarded α) (f : α → Guarded β) : Guarded β :=
  match x with
  | stuck => stuck
  | done (.error e) => done (.error e)
  | done (.ok a) => f a

instance : Monad Guarded where
  pure a := done (.ok a)
  bind := bind

instance : MonadLift (Except DecodeError) Guarded := ⟨done⟩

/-- `a`, if `p` holds. -/
def ensure (p : Prop) [Decidable p] (a : α) : Guarded α := if p then pure a else stuck

/-! ## Steps on text and numbers -/

/-- The text between two byte offsets. Neither may lie past the end or
inside a character. -/
def slice (s : String) (first last : Nat) : Guarded String :=
  if h : first ≤ last ∧ (String.Pos.Raw.mk first).IsValid s ∧
      (String.Pos.Raw.mk last).IsValid s then
    pure (s.extract (s.pos ⟨first⟩ h.2.1) (s.pos ⟨last⟩ h.2.2))
  else stuck

/-- The byte at an index. -/
def byteAt (s : String) (i : Nat) : Guarded UInt8 :=
  if h : i < s.toByteArray.size then pure s.toByteArray[i] else stuck

/-- A difference that is no less than zero. -/
def sub (m n : Nat) : Guarded Nat := ensure (n ≤ m) (m - n)

/-- A number as a byte. -/
def narrow (n : Nat) : Guarded UInt8 := ensure (n.toUInt8.toNat = n) n.toUInt8

/-- A word with a digit shifted in. -/
def shiftIn (word : UInt64) (digit : UInt8) : Guarded UInt64 :=
  ensure ((word <<< 4 ||| digit.toUInt64).toNat = 16 * word.toNat + digit.toNat)
    (word <<< 4 ||| digit.toUInt64)

/-- The byte that two digits make. -/
def joinDigits (hi lo : UInt8) : Guarded UInt8 :=
  ensure ((hi <<< 4 ||| lo).toNat = 16 * hi.toNat + lo.toNat) (hi <<< 4 ||| lo)

/-- Whether a bit is set, found by a shift, which has to be less than the
width of the word. -/
def bitAt (bitmap : UInt64) (bit : Nat) : Guarded Bool :=
  ensure (bit < 64) (bitmap >>> UInt64.ofNat bit &&& 1 == 1)

/-! ## Hex text -/

/-- The value of the digit at `offset`. -/
def digit (offset : Nat) (c : Char) : Guarded UInt8 :=
  if Text.isHexDigit c then narrow (Text.digitValue c) else done (.error (.invalidDigit offset c))

/-- Shifts the digits of a text into `word`, most significant first. -/
def wordFrom (word : UInt64) (offset : Nat) : List Char → Guarded UInt64
  | [] => return word
  | c :: cs => do
    let d ← digit offset c
    let word ← shiftIn word d
    wordFrom word (offset + 1) cs

/-- A big-endian number of at most sixteen bytes. -/
def word (offset : Nat) (s : String) : Guarded UInt64 := do
  let cs ← ensure (s.utf8ByteSize ≤ 16) s.toList
  wordFrom 0 offset cs

/-- Fails at the first character that is no digit. -/
def checkDigits (offset : Nat) : List Char → Guarded Unit
  | [] => return ()
  | c :: cs => do
    let _ ← digit offset c
    checkDigits (offset + 1) cs

/-- The parts of `size` characters that a text falls into, the last of
which may be shorter. -/
def chunks (size : Nat) : List Char → List (List Char)
  | [] => []
  | c :: cs => (c :: cs.take (size - 1)) :: chunks size (cs.drop (size - 1))
termination_by cs => cs.length
decreasing_by
  rw [List.length_drop, List.length_cons]
  omega

/-- The bytes that chunks of digits spell. No chunk is longer than two. -/
def bytesOfChunks (offset : Nat) : List (List Char) → Guarded (List UInt8)
  | [] => return []
  | [hi, lo] :: rest => do
    let h ← digit offset hi
    let l ← digit (offset + 1) lo
    let b ← joinDigits h l
    let bs ← bytesOfChunks (offset + 2) rest
    return b :: bs
  | [lone] :: _ => do
    let _ ← digit offset lone
    done (.error (.danglingDigit offset))
  | _ :: _ => stuck

/-- The bytes that pairs of digits spell. -/
def bytes (offset : Nat) (cs : List Char) : Guarded (List UInt8) :=
  bytesOfChunks offset (chunks 2 cs)

/-! ## Fields -/

/-- The params among `bits` that a bitmap marks. -/
def scan (bitmap : UInt64) : List Nat → Guarded (List Param)
  | [] => return []
  | bit :: bits => do
    let isSet ← bitAt bitmap bit
    let position ← narrow bit
    let params ← scan bitmap bits
    return if isSet then { position } :: params else params

/-- The params a bitmap marks, its width found from its leading zeros. -/
def paramsOf (bitmap : UInt64) : Guarded (List Param) := do
  let width ← sub 64 bitmap.toBitVec.clz.toNat
  scan bitmap (List.range (max width 1)).reverse

/-- The slot bytes of a trailer, its lengths counted in bytes. -/
def slotBytes (padding : Padding) (trailer : String) : Guarded (List UInt8) :=
  match padding with
  | .trailing => do
    let bs ← bytes trailerOffset trailer.toList
    return dropFiller bs
  | .legacy => do
    checkDigits trailerOffset trailer.toList
    let kept := dropPairs (trailer.toList.map Char.toLower)
    if (String.ofList kept).utf8ByteSize % 2 = 0 then bytes trailerOffset kept
    else do
      let last ← sub trailer.utf8ByteSize 1
      done (.error (.danglingDigit (trailerOffset + last)))

/-- Fills in the slots of `params` from a trailer. -/
def assignSlots (options : Options) (trailer : String) (params : List Param) :
    Guarded (List Param) :=
  if params = [] then return []
  else do
    let slots ← slotBytes options.padding trailer
    if slots.length ≠ params.length ∧ options.validation.checksSlots then
      done (.error (.slotCount slots.length params.length))
    else return pairFromRight params slots

/-- The configuration a text describes. -/
def decode (options : Options) (text : String) : Guarded CallConfig := do
  let d ← Descriptor.ofString text
  let callTypeByte ← byteAt d.text 3
  let countDigits ← slice d.text 4 6
  let count ← word 4 countDigits
  let referenceCount ← narrow count.toNat
  let bitmapDigits ← slice d.text 6 22
  let bitmap ← word 6 bitmapDigits
  let params ← paramsOf bitmap
  if referenceCount.toNat ≠ params.length ∧ options.validation.checksReferenceCount then
    done (.error (.referenceCount referenceCount.toNat params.length))
  else do
    let trailer ← slice d.text trailerOffset descriptorLength
    let params ← assignSlots options trailer params
    return { callType := .ofDigit (Char.ofNat callTypeByte.toNat), referenceCount, bitmap, params }

end Guarded

end CallDescriptor
