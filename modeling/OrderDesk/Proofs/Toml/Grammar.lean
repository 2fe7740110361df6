/-
# `Proofs.Toml.Grammar` — the texts of a document

What a document says is a list of clauses: headers, and members with their
values.  How it may be written is told as relations between the two, without
any reader: a reader is judged against them, not made of them.

| | |
| :-- | :-- |
| `Filler t`            | blanks, line breaks and comments between brackets |
| `Quoted q s t`        | the text `s` between quotation marks of a kind |
| `Numeral b n t`       | the number `n` in the base `b`, with underscores between digits |
| `Word s t`            | the scalar `s` without quotation marks |
| `WrittenPath p t`     | the names `p` with points between them |
| `Written d i t`       | the value `i`, with brackets nested at most `d` deep |
| `WrittenLine d cs t`  | a line without its line break: one clause or none |
| `WrittenDocument d cs t` | lines with line breaks between them |

A clause knows neither its place nor how it is written, so two documents of
the same clauses differ by their notation only.  The grammar has no limits:
how deep the brackets of a text nest is told beside it, and whether numbers
are too large is a question of its own (`Clause.Fits`).
-/
import OrderDesk.Proofs.Json.Grammar
import OrderDesk.Proofs.Toml.Lines

namespace OrderDesk.Toml

open Json (HexDigit)

/-! ## What a document says -/

/-- A value, whatever way it is written. -/
inductive Item where
  | scalar (s : Scalar)
  | array (elements : List Item)
  | table (members : List (List String × Item))

/-- What a line says. -/
inductive Clause where
  | header (array : Bool) (path : List String)
  | member (path : List String) (item : Item)

/-- A number is not too large to be passed over. -/
def Scalar.Fits : Scalar → Prop
  | .integer n => -0x80000000000000000000000000000000 ≤ n ∧ n < 0x100000000000000000000000000000000
  | .amount t => 'i' ∈ t ∨ ∀ negative, Binary64.parse t ≠ .ok (.infinite negative)
  | _ => True

/-- No number in the value is too large. -/
inductive Item.Fits : Item → Prop
  | scalar {s : Scalar} : s.Fits → Fits (.scalar s)
  | array {is : List Item} : (∀ i ∈ is, Fits i) → Fits (.array is)
  | table {ms : List (List String × Item)} : (∀ m ∈ ms, Fits m.2) → Fits (.table ms)

/-- No number in the clause is too large. -/
inductive Clause.Fits : Clause → Prop
  | header (array : Bool) (path : List String) : Fits (.header array path)
  | member {path : List String} {i : Item} : i.Fits → Fits (.member path i)

/-! ## Blanks, line breaks and comments -/

/-- Blanks within a line. -/
def Blanks (t : List Char) : Prop := ∀ c ∈ t, c = ' ' ∨ c = '\t'

/-- The end of a line. -/
inductive LineBreak : List Char → Prop
  | feed : LineBreak ['\n']
  | pair : LineBreak ['\r', '\n']

/-- A comment up to the end of its line, or nothing. -/
inductive Remark : List Char → Prop
  | none : Remark []
  | comment {t : List Char} : (∀ c ∈ t, isControl c = false) → Remark ('#' :: t)

/-- What may stand between brackets beside values. -/
inductive Filler : List Char → Prop
  | blanks {t : List Char} : Blanks t → Filler t
  | line {t r b f : List Char} : Blanks t → Remark r → LineBreak b → Filler f →
      Filler (t ++ (r ++ (b ++ f)))

/-! ## Numbers -/

/-- A number in a base, with underscores between digits. -/
inductive Numeral (base : Nat) : Nat → List Char → Prop
  | digit {c : Char} {k : Nat} : HexDigit c k → k < base → Numeral base k [c]
  | more {c : Char} {n k : Nat} {t : List Char} : Numeral base n t → HexDigit c k → k < base →
      Numeral base (n * base + k) (t ++ [c])
  | apart {c : Char} {n k : Nat} {t : List Char} : Numeral base n t → HexDigit c k → k < base →
      Numeral base (n * base + k) (t ++ ['_', c])

/-- A sign, and whether it is a minus. -/
inductive Sign : Bool → List Char → Prop
  | none : Sign false []
  | plus : Sign false ['+']
  | minus : Sign true ['-']

/-- A whole number without zeros in front. -/
structure Whole (n : Nat) (t : List Char) : Prop where
  numeral : Numeral 10 n t
  no_leading_zero : t.head? = some '0' → t = ['0']

/-- The part of an amount behind its point. -/
inductive Fraction : List Char → Prop
  | none : Fraction []
  | some {n : Nat} {t : List Char} : Numeral 10 n t → Fraction ('.' :: t)

/-- The exponent of an amount. -/
inductive Exponent : List Char → Prop
  | none : Exponent []
  | some {e : Char} {negative : Bool} {g t : List Char} {n : Nat} : e = 'e' ∨ e = 'E' →
      Sign negative g → Numeral 10 n t → Exponent (e :: (g ++ t))

/-- A number with a point or an exponent. -/
inductive Amount : List Char → Prop
  | mk {negative : Bool} {n : Nat} {g t f e : List Char} : Sign negative g → Whole n t →
      Fraction f → Exponent e → f ≠ [] ∨ e ≠ [] → Amount (g ++ (t ++ (f ++ e)))

/-- The letters in front of numbers in other bases. -/
def bases : List (Char × Nat) := [('x', 16), ('o', 8), ('b', 2)]

/-! ## Dates and times -/

/-- A number of a fixed number of decimal digits. -/
structure Padded (count n : Nat) (t : List Char) : Prop where
  numeral : Numeral 10 n t
  plain : '_' ∉ t
  length : t.length = count

/-- A day. -/
inductive Date : List Char → Prop
  | mk {year month day : Nat} {y m d : List Char} : Padded 4 year y → Padded 2 month m →
      Padded 2 day d → 1 ≤ month → month ≤ 12 → 1 ≤ day → day ≤ daysIn year month →
      Date (y ++ '-' :: (m ++ '-' :: d))

/-- The part of a second. -/
inductive Split : List Char → Prop
  | none : Split []
  | some {count n : Nat} {t : List Char} : Padded count n t → Split ('.' :: t)

/-- The seconds of a time. -/
inductive Seconds : List Char → Prop
  | none : Seconds []
  | some {second : Nat} {t f : List Char} : Padded 2 second t → second ≤ 60 → Split f →
      Seconds (':' :: (t ++ f))

/-- A time of day. -/
inductive Time : List Char → Prop
  | mk {hour minute : Nat} {h m s : List Char} : Padded 2 hour h → Padded 2 minute m →
      hour ≤ 23 → minute ≤ 59 → Seconds s → Time (h ++ ':' :: (m ++ s))

/-- The distance from universal time. -/
inductive Offset : List Char → Prop
  | none : Offset []
  | zero {c : Char} : c = 'Z' ∨ c = 'z' → Offset [c]
  | some {c : Char} {hours minutes : Nat} {h m : List Char} : c = '+' ∨ c = '-' →
      Padded 2 hours h → Padded 2 minutes m → hours ≤ 23 → minutes ≤ 59 →
      Offset (c :: (h ++ ':' :: m))

/-- A date, a time, or both. -/
inductive Moment : List Char → Prop
  | date {d : List Char} : Date d → Moment d
  | time {t : List Char} : Time t → Moment t
  | both {d t o : List Char} {c : Char} : Date d → c = 'T' ∨ c = 't' ∨ c = ' ' → Time t →
      Offset o → Moment (d ++ c :: (t ++ o))

/-- A scalar without quotation marks. -/
inductive Word : Scalar → List Char → Prop
  | yes : Word (.bool true) "true".toList
  | no : Word (.bool false) "false".toList
  | whole {negative : Bool} {n : Nat} {g t : List Char} : Sign negative g → Whole n t →
      Word (.integer (if negative then -(n : Int) else n)) (g ++ t)
  | based {letter : Char} {base n : Nat} {t : List Char} : (letter, base) ∈ bases →
      Numeral base n t → Word (.integer n) ('0' :: letter :: t)
  | amount {t : List Char} : Amount t → Word (.amount (t.filter (· ≠ '_'))) t
  | infinity {negative : Bool} {g : List Char} : Sign negative g →
      Word (.amount (g ++ "inf".toList)) (g ++ "inf".toList)
  | undefined {negative : Bool} {g : List Char} : Sign negative g →
      Word (.amount (g ++ "nan".toList)) (g ++ "nan".toList)
  | moment {t : List Char} : Moment t → Word .moment t

/-! ## Texts between quotation marks -/

/-- The letters that stand for a character behind a backslash. -/
def letterEscapes : List (Char × Char) :=
  [('b', '\x08'), ('t', '\t'), ('n', '\n'), ('f', '\x0c'), ('r', '\r'), ('e', '\x1b'), ('"', '"'),
    ('\\', '\\')]

/-- The letters in front of a code point, and how many digits it has. -/
def codeEscapes : List (Char × Nat) := [('x', 2), ('u', 4), ('U', 8)]

/-- A character behind a backslash. -/
inductive Escape : Char → List Char → Prop
  | letter {e c : Char} : (e, c) ∈ letterEscapes → Escape c [e]
  | code {e c : Char} {count : Nat} {t : List Char} : (e, count) ∈ codeEscapes →
      Numeral 16 c.toNat t → '_' ∉ t → t.length = count → Escape c (e :: t)

/-- A text of one line between double quotation marks. -/
inductive Basic : List Char → List Char → Prop
  | nil : Basic [] []
  | plain {c : Char} {s t : List Char} : isControl c = false → c ≠ '"' → c ≠ '\\' →
      Basic s t → Basic (c :: s) (c :: t)
  | escape {c : Char} {s e t : List Char} : Escape c e → Basic s t →
      Basic (c :: s) ('\\' :: (e ++ t))

/-- A text between single quotation marks, as it is. -/
def Literal (s : List Char) : Prop := ∀ c ∈ s, isControl c = false ∧ c ≠ '\''

/-- One or two quotation marks, which do not end a long text. -/
inductive Marks (quote : Char) : List Char → Prop
  | one : Marks quote [quote]
  | two : Marks quote [quote, quote]

/-- A text between three single quotation marks, as it is. -/
inductive LongLiteral : List Char → Prop
  | nil : LongLiteral []
  | plain {c : Char} {s : List Char} : isControl c = false → c ≠ '\'' → LongLiteral s →
      LongLiteral (c :: s)
  | line {b s : List Char} : LineBreak b → LongLiteral s → LongLiteral (b ++ s)
  | marks {q s : List Char} : Marks '\'' q → s.head? ≠ some '\'' → LongLiteral s →
      LongLiteral (q ++ s)

/-- Blanks and line breaks. -/
inductive Space : List Char → Prop
  | nil : Space []
  | blank {c : Char} {t : List Char} : c = ' ' ∨ c = '\t' → Space t → Space (c :: t)
  | line {b t : List Char} : LineBreak b → Space t → Space (b ++ t)

/-- The text does not begin with blanks or line breaks. -/
def Unspaced (t : List Char) : Prop := ∀ c ∈ t.head?, c ≠ ' ' ∧ c ≠ '\t' ∧ c ≠ '\n' ∧ c ≠ '\r'

/-- A text between three double quotation marks.  A backslash at the end of a
line takes all blanks and line breaks behind it away. -/
inductive LongBasic : List Char → List Char → Prop
  | nil : LongBasic [] []
  | plain {c : Char} {s t : List Char} : isControl c = false → c ≠ '"' → c ≠ '\\' →
      LongBasic s t → LongBasic (c :: s) (c :: t)
  | escape {c : Char} {s e t : List Char} : Escape c e → LongBasic s t →
      LongBasic (c :: s) ('\\' :: (e ++ t))
  | line {b s t : List Char} : LineBreak b → LongBasic s t → LongBasic (b ++ s) (b ++ t)
  | marks {q s t : List Char} : Marks '"' q → t.head? ≠ some '"' → LongBasic s t →
      LongBasic (q ++ s) (q ++ t)
  | fold {a b f s t : List Char} : Blanks a → LineBreak b → Space f → Unspaced t →
      LongBasic s t → LongBasic s ('\\' :: (a ++ (b ++ (f ++ t))))

/-- The line break behind three quotation marks, which does not count. -/
inductive Opening : List Char → List Char → Prop
  | line {b t : List Char} : LineBreak b → Opening b t
  | none {t : List Char} : (∀ c ∈ t.head?, c ≠ '\n' ∧ c ≠ '\r') → Opening [] t

/-- A text between quotation marks of a kind. -/
inductive Quoted : Quotes → List Char → List Char → Prop
  | basic {s t : List Char} : Basic s t → Quoted .basic s ('"' :: (t ++ ['"']))
  | literal {s : List Char} : Literal s → Quoted .literal s ('\'' :: (s ++ ['\'']))
  | longBasic {b s t : List Char} : Opening b t → LongBasic s t →
      Quoted .longBasic s ('"' :: '"' :: '"' :: (b ++ (t ++ ['"', '"', '"'])))
  | longLiteral {b s : List Char} : Opening b s → LongLiteral s →
      Quoted .longLiteral s ('\'' :: '\'' :: '\'' :: (b ++ (s ++ ['\'', '\'', '\''])))

/-! ## Keys and values -/

/-- A name as a key. -/
inductive WrittenKey : String → Option Quotes → List Char → Prop
  | bare {t : List Char} : Bare t → WrittenKey (String.ofList t) none t
  | quoted {q : Quotes} {s t : List Char} : q = .basic ∨ q = .literal → Quoted q s t →
      WrittenKey (String.ofList s) (some q) t

/-- Names with points between them. -/
inductive WrittenPath : List String → List Char → Prop
  | last {name : String} {q : Option Quotes} {t : List Char} : WrittenKey name q t →
      WrittenPath [name] t
  | more {name : String} {names : List String} {q : Option Quotes} {t a b u : List Char} :
      WrittenKey name q t → Blanks a → Blanks b → WrittenPath names u →
      WrittenPath (name :: names) (t ++ (a ++ '.' :: (b ++ u)))

mutual

/-- The texts of a value whose brackets nest at most `d` deep. -/
inductive Written : Nat → Item → List Char → Prop
  | word {d : Nat} {s : Scalar} {t : List Char} : Word s t → Written d (.scalar s) t
  | text {d : Nat} {q : Quotes} {s t : List Char} : Quoted q s t → Written d (.scalar (.text s)) t
  | array {d : Nat} {is : List Item} {t : List Char} : WrittenElements d is t →
      Written (d + 1) (.array is) ('[' :: (t ++ [']']))
  | table {d : Nat} {ms : List (List String × Item)} {t : List Char} : WrittenMembers d ms t →
      Written (d + 1) (.table ms) ('\x7b' :: (t ++ ['\x7d']))

/-- Elements with commas between them; one more may stand at the end. -/
inductive WrittenElements : Nat → List Item → List Char → Prop
  | none {d : Nat} {f : List Char} : Filler f → WrittenElements d [] f
  | last {d : Nat} {i : Item} {f t g : List Char} : Filler f → Written d i t → Filler g →
      WrittenElements d [i] (f ++ (t ++ g))
  | more {d : Nat} {i : Item} {is : List Item} {f t g u : List Char} : Filler f → Written d i t →
      Filler g → WrittenElements d is u → WrittenElements d (i :: is) (f ++ (t ++ (g ++ ',' :: u)))

/-- Members with commas between them; one more may stand at the end. -/
inductive WrittenMembers : Nat → List (List String × Item) → List Char → Prop
  | none {d : Nat} {f : List Char} : Filler f → WrittenMembers d [] f
  | last {d : Nat} {path : List String} {i : Item} {f t g : List Char} : Filler f →
      WrittenPair d path i t → Filler g → WrittenMembers d [(path, i)] (f ++ (t ++ g))
  | more {d : Nat} {path : List String} {i : Item} {ms : List (List String × Item)}
      {f t g u : List Char} : Filler f → WrittenPair d path i t → Filler g →
      WrittenMembers d ms u → WrittenMembers d ((path, i) :: ms) (f ++ (t ++ (g ++ ',' :: u)))

/-- A path, an equals sign and a value. -/
inductive WrittenPair : Nat → List String → Item → List Char → Prop
  | mk {d : Nat} {path : List String} {i : Item} {k a b t : List Char} : WrittenPath path k →
      Blanks a → Blanks b → Written d i t →
      WrittenPair d path i (k ++ (a ++ '=' :: (b ++ t)))

end

/-! ## Documents -/

/-- A header between its brackets. -/
inductive WrittenHeader : List String → List Char → Prop
  | mk {path : List String} {a k b : List Char} : Blanks a → WrittenPath path k → Blanks b →
      WrittenHeader path (a ++ (k ++ b))

/-- A line without its line break. -/
inductive WrittenLine (d : Nat) : List Clause → List Char → Prop
  | silent {a r : List Char} : Blanks a → Remark r → WrittenLine d [] (a ++ r)
  | header {path : List String} {a t b r : List Char} : Blanks a → WrittenHeader path t →
      Blanks b → Remark r → WrittenLine d [.header false path] (a ++ '[' :: (t ++ ']' :: (b ++ r)))
  | element {path : List String} {a t b r : List Char} : Blanks a → WrittenHeader path t →
      Blanks b → Remark r →
      WrittenLine d [.header true path] (a ++ '[' :: '[' :: (t ++ ']' :: ']' :: (b ++ r)))
  | member {path : List String} {i : Item} {a t b r : List Char} : Blanks a →
      WrittenPair d path i t → Blanks b → Remark r →
      WrittenLine d [.member path i] (a ++ (t ++ (b ++ r)))

/-- Lines with line breaks between them. -/
inductive WrittenDocument (d : Nat) : List Clause → List Char → Prop
  | last {cs : List Clause} {t : List Char} : WrittenLine d cs t → WrittenDocument d cs t
  | more {cs ds : List Clause} {t b u : List Char} : WrittenLine d cs t → LineBreak b →
      WrittenDocument d ds u → WrittenDocument d (cs ++ ds) (t ++ (b ++ u))

end OrderDesk.Toml
