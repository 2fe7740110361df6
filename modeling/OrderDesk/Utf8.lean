/-
# `Utf8` — octets seen as characters and junk

Every sequence of octets is, in exactly one way, a sequence of *pieces*:
characters in UTF-8, and between them runs of octets that belong to no
character.  A run ends as early as possible: it is one octet, or the
octets of a character that broke off.  Readers that need byte columns
take the width of a piece; readers that need text take `text?`, and what
is only shown takes `lossy`, where each run becomes U+FFFD.
-/
namespace OrderDesk

namespace Utf8

/-- A character, or octets that belong to none. -/
inductive Piece where
  | char (c : Char)
  | junk (octets : List UInt8)
  deriving DecidableEq, Repr, Inhabited

/-- The number of octets of a piece. -/
def Piece.width : Piece → Nat
  | .char c => c.utf8Size
  | .junk octets => octets.length

/-- The number of octets of a text. -/
def size : List Piece → Nat
  | [] => 0
  | p :: rest => p.width + size rest

/-- What a lead octet announces: how many octets follow, the range of the
first of them, and the bits it contributes. -/
structure Lead where
  tails : Nat
  least : UInt8
  greatest : UInt8
  bits : Nat

/-- The lead octets of characters of two and more octets. -/
def lead? (b : UInt8) : Option Lead :=
  if 0xC2 ≤ b ∧ b ≤ 0xDF then some ⟨1, 0x80, 0xBF, b.toNat - 0xC0⟩
  else if b = 0xE0 then some ⟨2, 0xA0, 0xBF, 0⟩
  else if b = 0xED then some ⟨2, 0x80, 0x9F, 0xD⟩
  else if 0xE1 ≤ b ∧ b ≤ 0xEF then some ⟨2, 0x80, 0xBF, b.toNat - 0xE0⟩
  else if b = 0xF0 then some ⟨3, 0x90, 0xBF, 0⟩
  else if 0xF1 ≤ b ∧ b ≤ 0xF3 then some ⟨3, 0x80, 0xBF, b.toNat - 0xF0⟩
  else if b = 0xF4 then some ⟨3, 0x80, 0x8F, 4⟩
  else none

/-- Collects the octets that still follow a lead octet: the code point if
all of them are there, else only the octets seen so far. -/
def tails (count : Nat) (least greatest : UInt8) (bits : Nat) :
    List UInt8 → Option Nat × List UInt8
  | rest =>
    match count, rest with
    | 0, _ => (some bits, [])
    | _ + 1, [] => (none, [])
    | n + 1, b :: rest =>
      if least ≤ b ∧ b ≤ greatest then
        let (point, seen) := tails n 0x80 0xBF (bits * 64 + (b.toNat - 0x80)) rest
        (point, b :: seen)
      else (none, [])

/-- The first piece of `b :: rest` and the number of octets of `rest`
that belong to it. -/
def first (b : UInt8) (rest : List UInt8) : Piece × Nat :=
  if b < 0x80 then (.char (Char.ofNat b.toNat), 0)
  else match lead? b with
    | none => (.junk [b], 0)
    | some l =>
      match tails l.tails l.least l.greatest l.bits rest with
      | (some point, seen) => (.char (Char.ofNat point), seen.length)
      | (none, seen) => (.junk (b :: seen), seen.length)

/-- The pieces of a sequence of octets. -/
def pieces : List UInt8 → List Piece
  | [] => []
  | b :: rest =>
    let (piece, more) := first b rest
    piece :: pieces (rest.drop more)
termination_by octets => octets.length
decreasing_by simp only [List.length_drop, List.length_cons]; omega

/-- The octets of a text. -/
def encode (text : List Char) : List UInt8 := text.flatMap String.utf8EncodeChar

/-- The characters of a text without junk. -/
def text? : List Piece → Option (List Char)
  | [] => some []
  | .char c :: rest => (text? rest).map (c :: ·)
  | .junk _ :: _ => none

/-- The characters of a text, U+FFFD standing for each run of junk. -/
def lossy (text : List Piece) : List Char :=
  text.map fun
    | .char c => c
    | .junk _ => '\uFFFD'

/-- A text as pieces. -/
def ofText (text : List Char) : List Piece := text.map .char

/-- A string as pieces. -/
def ofString (s : String) : List Piece := ofText s.toList

theorem text?_ofText (text : List Char) : text? (ofText text) = some text := by
  induction text with
  | nil => rfl
  | cons c rest ih => simp_all [ofText, text?]

/-- The strings among the octet sequences. -/
def string? (octets : List UInt8) : Option String :=
  (text? (pieces octets)).map String.ofList

end Utf8

end OrderDesk
