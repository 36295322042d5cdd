import Outbox.Text.Utf8

/-! # Certificates in outline

A certificate is nested tag-length-value data. To serve as a trust anchor it needs the outline of an
X.509 certificate: a sequence of the part that is signed, an algorithm and a signature, the first
with serial number, issuer, validity, subject and key in their places.

* `elements`: the elements that an octet string consists of.
* `isAnchor`: whether an octet string has the outline. `outline` is the smallest one that has.
-/

set_option autoImplicit false

namespace Outbox.Certificate

/-- A tag with its content. -/
structure Element where
  tag : UInt8
  content : Bytes
  deriving DecidableEq, Repr

/-- The number that octets spell, most significant first. -/
def number (bytes : Bytes) : Nat := bytes.foldl (fun n b => n * 256 + b.toNat) 0

/-- The length at the start of an octet string: one octet below 128, or the count of octets that
follow with it, in shortest form. -/
def length (bytes : Bytes) : Option (Nat × Bytes) :=
  match bytes with
  | [] => none
  | b :: rest =>
    if b < 0x80 then some (b.toNat, rest)
    else
      let count := b.toNat - 0x80
      let digits := rest.take count
      let n := number digits
      if count = 0 || 4 < count || digits.length < count || digits.head? == some 0 || n < 0x80 then
        none
      else some (n, rest.drop count)

/-- The element at the start of an octet string. -/
def element (bytes : Bytes) : Option (Element × Bytes) :=
  match bytes with
  | [] => none
  | tag :: rest =>
    match length rest with
    | none => none
    | some (n, rest) =>
      if n ≤ rest.length then some (⟨tag, rest.take n⟩, rest.drop n) else none

/-- The elements of an octet string that holds nothing else; `fuel` bounds their number. -/
def elementsWithin : Nat → Bytes → Option (List Element)
  | _, [] => some []
  | 0, _ => none
  | fuel + 1, bytes =>
    match element bytes with
    | none => none
    | some (e, rest) => (elementsWithin fuel rest).map (e :: ·)

/-- The elements of an octet string that holds nothing else. -/
def elements (bytes : Bytes) : Option (List Element) := elementsWithin bytes.length bytes

def sequenceTag : UInt8 := 0x30

def integerTag : UInt8 := 0x02

def bitStringTag : UInt8 := 0x03

def versionTag : UInt8 := 0xA0

/-- Whether the signed part has its fields in their places. -/
def isSigned (fields : List Element) : Bool :=
  let fields := match fields with
    | e :: rest => if e.tag = versionTag then rest else e :: rest
    | [] => []
  match fields.map Element.tag with
  | serial :: algorithm :: issuer :: validity :: subject :: key :: _ =>
    serial = integerTag && algorithm = sequenceTag && issuer = sequenceTag &&
      validity = sequenceTag && subject = sequenceTag && key = sequenceTag
  | _ => false

/-- Whether an octet string has the outline of a certificate. -/
def isAnchor (der : Bytes) : Bool :=
  match elements der with
  | some [outer] =>
    outer.tag = sequenceTag &&
      (match elements outer.content with
        | some [signed, algorithm, signature] =>
          signed.tag = sequenceTag && algorithm.tag = sequenceTag && signature.tag = bitStringTag &&
            (match elements signed.content with
              | some fields => isSigned fields
              | none => false)
        | _ => false)
  | _ => false

/-! ## The outline itself -/

/-- An element of less than 128 octets. -/
def write (tag : UInt8) (content : Bytes) : Bytes := tag :: UInt8.ofNat content.length :: content

/-- The smallest octet string with the outline of a certificate, for a serial number. -/
def outline (serial : UInt8) : Bytes :=
  let empty := write sequenceTag []
  let signed := write integerTag [serial] ++ empty ++ empty ++ empty ++ empty ++ empty
  write sequenceTag (write sequenceTag signed ++ empty ++ write bitStringTag [0])

end Outbox.Certificate
