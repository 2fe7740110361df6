/-
# `Proofs.Json.Grammar` — the texts of a value

The grammar of JSON, as relations between a tree and its texts.  It is
stated without any scanner: a reader is judged against it, not made of it.

| | |
| :-- | :-- |
| `Blank w`         | white space between tokens |
| `Spelled s t`     | the string `s`, spelled `t` between its quotation marks |
| `Numeral`         | a number as it is written |
| `Written v t`     | the value `v`, written `t` |
| `Document v t`    | the value `v` with white space around it, and nothing else |

A character may stand for itself, behind a backslash, or as one or two
`\u` units; of two units the first must be a high and the second a low
half of a surrogate pair, so that a lone half is no spelling of anything.
Names of members are strings like any other, members keep their order,
and a name may occur more than once.
-/
import OrderDesk.Json.Value

namespace OrderDesk.Json

/-! ## Blanks and strings -/

/-- White space between tokens. -/
def Blank (w : List Char) : Prop := ∀ c ∈ w, c = ' ' ∨ c = '\n' ∨ c = '\t' ∨ c = '\r'

theorem blank_nil : Blank [] := by
  intro c hc
  cases hc

/-- A hexadecimal digit of either case and its value. -/
def HexDigit (c : Char) (n : Nat) : Prop :=
  n < 16 ∧ (c = Nat.digitChar n ∨ c = (Nat.digitChar n).toUpper)

/-- A unit of four hexadecimal digits and its value. -/
inductive HexUnit : List Char → Nat → Prop
  | mk {a b c d : Char} {i j k l : Nat} : HexDigit a i → HexDigit b j → HexDigit c k →
      HexDigit d l → HexUnit [a, b, c, d] (((i * 16 + j) * 16 + k) * 16 + l)

/-- The letters that stand for a character behind a backslash. -/
def letterEscapes : List (Char × Char) :=
  [('"', '"'), ('\\', '\\'), ('/', '/'), ('b', '\x08'), ('f', '\x0c'), ('n', '\n'), ('r', '\r'),
    ('t', '\t')]

/-- The spellings of a character inside a string. -/
inductive SpelledChar : Char → List Char → Prop
  | plain {c : Char} : c ≠ '"' → c ≠ '\\' → 0x20 ≤ c.toNat → SpelledChar c [c]
  | letter {e c : Char} : (e, c) ∈ letterEscapes → SpelledChar c ['\\', e]
  | unit {u : List Char} {c : Char} : HexUnit u c.toNat → SpelledChar c ('\\' :: 'u' :: u)
  | pair {u v : List Char} {high low : Nat} {c : Char} : HexUnit u high → HexUnit v low →
      0xD800 ≤ high → high ≤ 0xDBFF → 0xDC00 ≤ low → low ≤ 0xDFFF →
      c.toNat = 0x10000 + (high - 0xD800) * 0x400 + (low - 0xDC00) →
      SpelledChar c ('\\' :: 'u' :: (u ++ '\\' :: 'u' :: v))

/-- The spellings of a string between its quotation marks. -/
inductive Spelled : List Char → List Char → Prop
  | nil : Spelled [] []
  | cons {c : Char} {s t u : List Char} : SpelledChar c u → Spelled s t →
      Spelled (c :: s) (u ++ t)

/-! ## Numbers -/

/-- Is every character a decimal digit? -/
def Digits (ds : List Char) : Prop := ∀ c ∈ ds, c.isDigit = true

/-- A written exponent: its letter, its sign if it has one, its digits. -/
structure Exponent where
  letter : Char
  sign : Option Char
  digits : List Char
  letter_eq : letter = 'e' ∨ letter = 'E'
  sign_eq : ∀ c ∈ sign, c = '+' ∨ c = '-'
  digits_ne_nil : digits ≠ []
  isDigits : Digits digits

/-- The text of an exponent. -/
def Exponent.text (e : Exponent) : List Char := e.letter :: (e.sign.toList ++ e.digits)

/-- Does the exponent have a minus sign? -/
def Exponent.minus (e : Exponent) : Bool := e.sign == some '-'

/-- A written number: its sign, the digits in front of the point without
needless zeros, the digits behind it (none if there is no point), and its
exponent if it has one. -/
structure Numeral where
  negative : Bool
  whole : List Char
  fraction : List Char
  exponent : Option Exponent
  whole_ne_nil : whole ≠ []
  whole_digits : Digits whole
  no_leading_zero : whole.head? = some '0' → whole = ['0']
  fraction_digits : Digits fraction

namespace Numeral

/-- The text of the digits behind the point. -/
def fractionText (n : Numeral) : List Char :=
  if n.fraction = [] then [] else '.' :: n.fraction

/-- The text of the exponent. -/
def exponentText (n : Numeral) : List Char := n.exponent.elim [] Exponent.text

/-- The text behind the sign. -/
def magnitude (n : Numeral) : List Char := n.whole ++ (n.fractionText ++ n.exponentText)

/-- The text of a number. -/
def text (n : Numeral) : List Char :=
  if n.negative then '-' :: n.magnitude else n.magnitude

end Numeral

/-! ## Values -/

/-- The members of an object. -/
abbrev Members := List (List Char × Value)

/-- What stands in front of an element or a member: blanks, and between
two of them a comma. -/
inductive Gap : Bool → List Char → Prop
  | first {w : List Char} : Blank w → Gap true w
  | later {w w' : List Char} : Blank w → Blank w' → Gap false (w ++ ',' :: w')

mutual

/-- The texts of a value. -/
inductive Written : Value → List Char → Prop
  | null : Written .null "null".toList
  | yes : Written (.bool true) "true".toList
  | no : Written (.bool false) "false".toList
  | number (n : Numeral) : Written (.number n.text) n.text
  | string {s t : List Char} : Spelled s t → Written (.string s) ('"' :: (t ++ ['"']))
  | array {vs : List Value} {t : List Char} : WrittenElements true vs t →
      Written (.array vs) ('[' :: t)
  | object {ms : Members} {t : List Char} : WrittenMembers true ms t →
      Written (.object ms) ('\x7b' :: t)

/-- The texts of elements and the closing bracket, from behind the opening
one or from behind an element. -/
inductive WrittenElements : Bool → List Value → List Char → Prop
  | close {first : Bool} {w : List Char} : Blank w → WrittenElements first [] (w ++ [']'])
  | more {first : Bool} {g t u : List Char} {v : Value} {vs : List Value} : Gap first g →
      Written v t → WrittenElements false vs u → WrittenElements first (v :: vs) (g ++ (t ++ u))

/-- The texts of members and the closing brace, from behind the opening one
or from behind a member. -/
inductive WrittenMembers : Bool → Members → List Char → Prop
  | close {first : Bool} {w : List Char} : Blank w → WrittenMembers first [] (w ++ ['\x7d'])
  | more {first : Bool} {g name k w w' t u : List Char} {v : Value}
      {ms : Members} : Gap first g → Spelled name k → Blank w → Blank w' →
      Written v t → WrittenMembers false ms u →
      WrittenMembers first ((name, v) :: ms)
        (g ++ '"' :: (k ++ '"' :: (w ++ ':' :: (w' ++ (t ++ u)))))

end

/-! Elements and members have principles of induction of their own: the
values inside are taken as they are. -/

@[elab_as_elim]
theorem WrittenElements.induct
    {motive : ∀ first vs t, WrittenElements first vs t → Prop}
    (close : ∀ {first w} (hw : Blank w), motive first [] (w ++ [']']) (.close hw))
    (more : ∀ {first g t u v vs} (hg : Gap first g) (hv : Written v t)
      (hvs : WrittenElements false vs u), motive false vs u hvs →
      motive first (v :: vs) (g ++ (t ++ u)) (.more hg hv hvs)) :
    ∀ {first vs t} (h : WrittenElements first vs t), motive first vs t h
  | _, _, _, .close hw => close hw
  | _, _, _, .more hg hv hvs => more hg hv hvs (@induct motive close more _ _ _ hvs)

@[elab_as_elim]
theorem WrittenMembers.induct
    {motive : ∀ first ms t, WrittenMembers first ms t → Prop}
    (close : ∀ {first w} (hw : Blank w), motive first [] (w ++ ['\x7d']) (.close hw))
    (more : ∀ {first g name k w w' t u v ms} (hg : Gap first g) (hk : Spelled name k)
      (hw : Blank w) (hw' : Blank w') (hv : Written v t) (hms : WrittenMembers false ms u),
      motive false ms u hms →
      motive first ((name, v) :: ms)
        (g ++ '"' :: (k ++ '"' :: (w ++ ':' :: (w' ++ (t ++ u))))) (.more hg hk hw hw' hv hms)) :
    ∀ {first ms t} (h : WrittenMembers first ms t), motive first ms t h
  | _, _, _, .close hw => close hw
  | _, _, _, .more hg hk hw hw' hv hms =>
      more hg hk hw hw' hv hms (@induct motive close more _ _ _ hms)

/-- The texts that hold a value and nothing else. -/
inductive Document (v : Value) : List Char → Prop
  | mk {w t w' : List Char} : Blank w → Written v t → Blank w' → Document v (w ++ (t ++ w'))

end OrderDesk.Json
