/-
# `Url.Host` — names and addresses of machines

A host is a domain name, an address of four octets or an address of
eight numbers of sixteen bits.  A name whose last part is a number is
meant as an address of four octets: its parts may be decimal, octal or
hexadecimal, and the last part covers the octets that are not given.
An address of eight numbers stands between brackets; once, a row of zeros
may be left out, and the last two numbers may be written as four octets.
-/
import OrderDesk.Decimal.Notation
import OrderDesk.DomainName.Name
import OrderDesk.Url.Percent

namespace OrderDesk

/-- Why a text is no URL. -/
inductive UrlError where
  | relative
  | emptyHost
  | invalidPort
  | invalidIpv4
  | invalidIpv6
  | invalidName
  | invalidNameCharacter
  deriving DecidableEq, Repr

/-- The wording of a URL error. -/
def UrlError.message : UrlError → String
  | .relative => "relative URL without a base"
  | .emptyHost => "empty host"
  | .invalidPort => "invalid port number"
  | .invalidIpv4 => "invalid IPv4 address"
  | .invalidIpv6 => "invalid IPv6 address"
  | .invalidName => "invalid international domain name"
  | .invalidNameCharacter => "invalid domain character"

/-- The machine of a URL. -/
inductive Host where
  | name (ascii : List Char)
  | ipv4 (address : Nat)
  | ipv6 (groups : List Nat)
  deriving DecidableEq

namespace Host

/-- The value of a digit in any base up to sixteen. -/
def digit? (c : Char) : Option Nat :=
  if '0' ≤ c ∧ c ≤ '9' then some (c.toNat - '0'.toNat)
  else if 'a' ≤ c ∧ c ≤ 'f' then some (c.toNat - 'a'.toNat + 10)
  else if 'A' ≤ c ∧ c ≤ 'F' then some (c.toNat - 'A'.toNat + 10)
  else none

/-- The value of digits in a base; nothing if one of them is too large. -/
def numeral? (base : Nat) (text : List Char) : Option Nat :=
  text.foldl (fun n c => do
    let d ← digit? c
    if d < base then pure ((← n) * base + d) else none) (some 0)

/-- A part of an address of four octets as a number. -/
def part? : List Char → Option Nat
  | [] => none
  | '0' :: 'x' :: rest => numeral? 16 rest
  | '0' :: 'X' :: rest => numeral? 16 rest
  | '0' :: d :: rest => numeral? 8 (d :: rest)
  | text => numeral? 10 text

/-- The parts of a name, without an empty one at the end. -/
def parts (name : List Char) : List (List Char) :=
  let all := DomainName.splitAt '.' name
  if all.getLast? = some [] then all.dropLast else all

/-- Is the last part of the name a number? -/
def endsInNumber (name : List Char) : Bool :=
  match (parts name).getLast? with
  | none => false
  | some last => (last ≠ [] && last.all fun c => '0' ≤ c && c ≤ '9') || (part? last).isSome

/-- An address of four octets. -/
def ipv4? (name : List Char) : Option Nat := do
  let numbers ← (parts name).mapM part?
  let last ← numbers.getLast?
  let octets := numbers.dropLast
  if 3 < octets.length then none
  else if Nat.pow 256 (4 - octets.length) ≤ last then none
  else if octets.any (255 < ·) then none
  else
    let high := octets.foldl (fun n octet => n * 256 + octet) 0
    pure (high * Nat.pow 256 (4 - octets.length) + last)

/-- One of four octets: at most 255 and without leading zeros. -/
def octet? (text : List Char) : Option Nat :=
  match text with
  | [] => none
  | '0' :: _ :: _ => none
  | text => do
    let n ← numeral? 10 text
    if n ≤ 255 then pure n else none

/-- The two numbers of sixteen bits that four octets make. -/
def octetGroups? (text : List Char) : Option (List Nat) :=
  match (DomainName.splitAt '.' text).mapM octet? with
  | some [a, b, c, d] => some [a * 256 + b, c * 256 + d]
  | _ => none

/-- The groups between colons: up to four hexadecimal digits each, the
last one perhaps four octets. -/
def groups? : List (List Char) → Option (List Nat)
  | [] => some []
  | [last] =>
    if last.contains '.' then octetGroups? last
    else if last = [] ∨ 4 < last.length then none
    else (numeral? 16 last).map ([·])
  | group :: rest => do
    if group = [] ∨ 4 < group.length then none
    else pure ((← numeral? 16 group) :: (← groups? rest))

/-- The text in front of a double colon and behind it, if there is one. -/
def splitDouble : List Char → List Char × Option (List Char)
  | ':' :: ':' :: rest => ([], some rest)
  | c :: rest =>
    let (front, back) := splitDouble rest
    (c :: front, back)
  | [] => ([], none)

/-- The groups of one side of a double colon. -/
def side? (text : List Char) : Option (List Nat) :=
  if text = [] then some [] else groups? (DomainName.splitAt ':' text)

/-- An address of eight numbers. -/
def ipv6? (text : List Char) : Option (List Nat) :=
  match splitDouble text with
  | (front, none) => do
    let groups ← side? front
    if groups.length = 8 then pure groups else none
  | (front, some back) => do
    if front.contains '.' then none
    else
      let left ← side? front
      let right ← side? back
      if left.length + right.length < 8 then
        pure (left ++ List.replicate (8 - left.length - right.length) 0 ++ right)
      else none

/-- A host between brackets. -/
def bracketed (text : List Char) : Except UrlError Host :=
  if text.getLast? = some ']' then
    match ipv6? text.dropLast with
    | some groups => .ok (.ipv6 groups)
    | none => .error .invalidIpv6
  else .error .invalidIpv6

/-- The host of a web address. -/
def parse (text : List Char) : Except UrlError Host :=
  match text with
  | '[' :: rest => bracketed rest
  | text =>
    match (Utf8.text? (Utf8.pieces (Percent.decode (Utf8.encode text)))).bind
        DomainName.toAscii? with
    | none => .error .invalidName
    | some [] => .error .emptyHost
    | some domain =>
      if endsInNumber domain then
        match ipv4? domain with
        | some address => .ok (.ipv4 address)
        | none => .error .invalidIpv4
      else .ok (.name domain)

/-- The lengths of the rows of zeros that begin at each group. -/
def zeroRun : List Nat → Nat
  | 0 :: rest => zeroRun rest + 1
  | _ => 0

/-- The place and length of the first longest row of zeros. -/
def longestRun (start : Nat) : List Nat → Nat × Nat
  | [] => (start, 0)
  | g :: rest =>
    let here := zeroRun (g :: rest)
    let later := longestRun (start + 1) rest
    if later.2 ≤ here then (start, here) else later

/-- Groups in hexadecimal with colons in between. -/
def groupsText (groups : List Nat) : List Char :=
  DomainName.joinWith ':' (groups.map (Nat.toDigits 16))

/-- The text of an address of eight numbers. -/
def ipv6Text (groups : List Nat) : List Char :=
  let (start, length) := longestRun 0 groups
  if length < 2 then groupsText groups
  else groupsText (groups.take start) ++ ':' :: ':' :: groupsText (groups.drop (start + length))

/-- The text of a host. -/
def text : Host → List Char
  | .name ascii => ascii
  | .ipv4 address =>
    DomainName.joinWith '.' ([address / 0x1000000, address / 0x10000 % 256, address / 0x100 % 256,
      address % 256].map Decimal.text)
  | .ipv6 groups => '[' :: (ipv6Text groups ++ [']'])

/-- The text of a host of which nothing but its characters is known. -/
def readOpaque (written : List Char) : Except UrlError (List Char) :=
  match written with
  | '[' :: rest => (bracketed rest).map text
  | written =>
    if written.any "\x00\t\n\r #/:<>?@[\\]^|".toList.contains then .error .invalidNameCharacter
    else .ok (Percent.encode Percent.controls written)

end Host

end OrderDesk
