/-
# `DomainName.Name` — the ASCII form of a domain name

A domain name is brought into plain and canonical form and taken apart at
its points; each label is then written in ASCII, behind `xn--` if it
holds other characters.  A label that already is in that form must be
the form of a label that could have been written.  Neither the number of
labels nor their length or hyphens are checked, but what the rest of a
URL is made of has no place in a name.
-/
import OrderDesk.DomainName.Direction
import OrderDesk.DomainName.Joining
import OrderDesk.DomainName.Mapping
import OrderDesk.DomainName.Mark
import OrderDesk.DomainName.Punycode

namespace OrderDesk

namespace DomainName

/-- Is this an ASCII character? -/
def isAscii (c : Char) : Bool := c.toNat < 0x80

/-- ASCII characters that a domain name must not hold. -/
def isForbidden (c : Char) : Bool :=
  c.toNat ≤ 0x20 || c.toNat == 0x7F || "#%/:<>?@[\\]^|".toList.contains c

/-- The parts of a text between the points. -/
def splitAt (point : Char) : List Char → List (List Char)
  | [] => [[]]
  | c :: rest =>
    if c = point then [] :: splitAt point rest
    else match splitAt point rest with
      | [] => [[c]]
      | part :: parts => (c :: part) :: parts

/-- The text of parts with points in between. -/
def joinWith (point : Char) : List (List Char) → List Char
  | [] => []
  | [part] => part
  | part :: parts => part ++ point :: joinWith point parts

/-- A label as it is read and as it is sent. -/
structure Label where
  text : List Char
  ascii : List Char

/-- What a label in ASCII with other characters behind it begins with. -/
def marker : List Char := ['x', 'n', '-', '-']

/-- May a label with other characters than ASCII be read like this? -/
def isReadable (label : List Char) : Bool :=
  (match label with
  | [] => true
  | c :: _ => !isMark c) && label.all stays && joinersFit [] label

/-- The label of a text in plain and canonical form.  Very long labels
are refused. -/
def label? (text : List Char) : Option Label :=
  if text.all isAscii then
    if marker.isPrefixOf text then
      if 2000 < text.length - 4 then none
      else match Punycode.decode (text.drop 4) with
        | none => none
        | some decoded =>
          if decoded.all isAscii then none
          else if compose decoded = decoded && isReadable decoded then some ⟨decoded, text⟩
          else none
    else some ⟨text, text⟩
  else if marker.isPrefixOf text then none
  else if isReadable text && text.length ≤ 1000 then
    some ⟨text, marker ++ Punycode.encode text⟩
  else none

/-- The ASCII form of a domain name. -/
def toAscii? (name : List Char) : Option (List Char) := do
  let plain ← name.mapM plain?
  let labels ← (splitAt '.' (compose plain.flatten)).mapM label?
  if !directionsFit (labels.map Label.text) then none
  else
    let ascii := joinWith '.' (labels.map Label.ascii)
    if ascii.any isForbidden then none else some ascii

end DomainName

end OrderDesk
