/-!
UTF-8 as octets. Decoding never fails: each maximal part of an ill-formed sequence becomes one
replacement character.
-/
namespace ListQuery.Text.Utf8

def replacement : Char := '\ufffd'

def encode (text : List Char) : List UInt8 :=
  text.flatMap String.utf8EncodeChar

/-- A sequence begun but not complete: continuation octets still due, and where the next one lies. -/
structure Pending where
  due : Nat
  value : Nat
  low : UInt8
  high : UInt8
  deriving DecidableEq, Repr

/-- The characters finished by an octet, and the sequence it leaves open. -/
abbrev Step := List Char × Option Pending

/-- An octet where no sequence is open. -/
def start (octet : UInt8) : Step :=
  let n := octet.toNat
  if n < 0x80 then ([Char.ofNat n], none)
  else if n < 0xc2 then ([replacement], none)
  else if n < 0xe0 then ([], some ⟨1, n - 0xc0, 0x80, 0xbf⟩)
  else if n = 0xe0 then ([], some ⟨2, 0, 0xa0, 0xbf⟩)
  else if n = 0xed then ([], some ⟨2, 0xd, 0x80, 0x9f⟩)
  else if n < 0xf0 then ([], some ⟨2, n - 0xe0, 0x80, 0xbf⟩)
  else if n = 0xf0 then ([], some ⟨3, 0, 0x90, 0xbf⟩)
  else if n < 0xf4 then ([], some ⟨3, n - 0xf0, 0x80, 0xbf⟩)
  else if n = 0xf4 then ([], some ⟨3, 4, 0x80, 0x8f⟩)
  else ([replacement], none)

/-- An octet that does not continue the open sequence ends it and starts afresh. -/
def step (state : Option Pending) (octet : UInt8) : Step :=
  match state with
  | none => start octet
  | some open_ =>
    if open_.low ≤ octet ∧ octet ≤ open_.high then
      let value := open_.value * 64 + (octet.toNat - 0x80)
      if open_.due ≤ 1 then ([Char.ofNat value], none)
      else ([], some ⟨open_.due - 1, value, 0x80, 0xbf⟩)
    else
      let (finished, next) := start octet
      (replacement :: finished, next)

def decodeFrom (state : Option Pending) : List UInt8 → List Char
  | [] => if state.isSome then [replacement] else []
  | octet :: rest =>
    let (finished, next) := step state octet
    finished ++ decodeFrom next rest

def decode (octets : List UInt8) : List Char :=
  decodeFrom none octets

end ListQuery.Text.Utf8
