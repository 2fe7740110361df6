/-
# `Toml.Token` — a TOML text as tokens

A text is cut into punctuation, line breaks, comments, quoted strings and
bare words; blanks become the *gap* in front of the token behind them.  A
bare word runs up to the next blank, punctuation or comment, whatever
characters it has, and a string that is not closed runs up to the end of
the line, or of the text if it may have several lines.  Nothing is an
error here: every text has its tokens, and the last of them is the end.

Places are counted in octets.
-/
import OrderDesk.Utf8

namespace OrderDesk

namespace Toml

/-- The octets of a text from `start` up to `stop`. -/
structure Span where
  start : Nat
  stop : Nat
  deriving DecidableEq, Repr, Inhabited

/-- The number of octets of a text. -/
def width : List Char → Nat
  | [] => 0
  | c :: rest => c.utf8Size + width rest

/-- The four ways to quote a string. -/
inductive Quotes where
  | basic
  | literal
  | longBasic
  | longLiteral
  deriving DecidableEq, Repr

/-- The kinds of tokens. -/
inductive Kind where
  | dot
  | equals
  | comma
  | openBracket
  | closeBracket
  | openBrace
  | closeBrace
  | blank
  | comment
  | newline
  | bare
  | quoted (quotes : Quotes)
  | finish
  deriving DecidableEq, Repr

/-- A token, the blanks in front of it and its place. -/
structure Token where
  kind : Kind
  gap : List Char
  text : List Char
  start : Nat
  deriving DecidableEq, Repr

/-- The place of a token. -/
def Token.span (t : Token) : Span := ⟨t.start, t.start + width t.text⟩

/-- Is this a blank? -/
def isBlank (c : Char) : Bool := c == ' ' || c == '\t'

/-- Does a bare word end in front of this character? -/
def endsBare (c : Char) : Bool := ".=,[]\x7b\x7d \t#\r\n".toList.contains c

/-- The number of characters of a run. -/
def runLength (p : Char → Bool) (s : List Char) : Nat := (s.takeWhile p).length

/-- The length of a literal string behind its first quote. -/
def literalLength : List Char → Nat
  | [] => 0
  | c :: rest => if c = '\'' then 1 else if c = '\n' then 0 else literalLength rest + 1

/-- The length of a basic string behind its first quote. -/
def basicLength : List Char → Nat
  | [] => 0
  | '\\' :: '"' :: rest => basicLength rest + 2
  | '\\' :: '\\' :: rest => basicLength rest + 2
  | c :: rest => if c = '"' then 1 else if c = '\n' then 0 else basicLength rest + 1

/-- The length of up to two quotes, which may stand in front of the three
that end a long string. -/
def extraQuotes (quote : Char) : List Char → Nat
  | a :: b :: _ => if a = quote then (if b = quote then 2 else 1) else 0
  | [a] => if a = quote then 1 else 0
  | [] => 0

/-- The length of a long literal string behind its three quotes. -/
def longLiteralLength : List Char → Nat
  | [] => 0
  | '\'' :: '\'' :: '\'' :: rest => 3 + extraQuotes '\'' rest
  | _ :: rest => longLiteralLength rest + 1

theorem longLiteralLength_three {u : List Char} :
    longLiteralLength ('\'' :: '\'' :: '\'' :: u) = 3 + extraQuotes '\'' u := by
  rw [longLiteralLength]

theorem longLiteralLength_cons {c : Char} {u : List Char}
    (h : ∀ v, c :: u ≠ '\'' :: '\'' :: '\'' :: v) :
    longLiteralLength (c :: u) = longLiteralLength u + 1 := by
  rw [longLiteralLength.eq_3]
  rintro v rfl rfl
  exact h v rfl

/-- The length of a long basic string behind its three quotes. -/
def longBasicLength : List Char → Nat
  | [] => 0
  | '"' :: '"' :: '"' :: rest => 3 + extraQuotes '"' rest
  | '\\' :: '"' :: rest => longBasicLength rest + 2
  | '\\' :: '\\' :: rest => longBasicLength rest + 2
  | _ :: rest => longBasicLength rest + 1

theorem longBasicLength_three {u : List Char} :
    longBasicLength ('"' :: '"' :: '"' :: u) = 3 + extraQuotes '"' u := by
  rw [longBasicLength]

/-- The kind of the token that begins with `c`, and how many characters
behind `c` belong to it. -/
def first (c : Char) (rest : List Char) : Kind × Nat :=
  if isBlank c then (.blank, runLength isBlank rest)
  else if c = '.' then (.dot, 0)
  else if c = '=' then (.equals, 0)
  else if c = ',' then (.comma, 0)
  else if c = '[' then (.openBracket, 0)
  else if c = ']' then (.closeBracket, 0)
  else if c = '\x7b' then (.openBrace, 0)
  else if c = '\x7d' then (.closeBrace, 0)
  else if c = '#' then (.comment, runLength (fun d => d != '\r' && d != '\n') rest)
  else if c = '\n' then (.newline, 0)
  else if c = '\r' then (.newline, if rest.head? = some '\n' then 1 else 0)
  else if c = '\'' then
    match rest with
    | '\'' :: '\'' :: rest => (.quoted .longLiteral, longLiteralLength rest + 2)
    | rest => (.quoted .literal, literalLength rest)
  else if c = '"' then
    match rest with
    | '"' :: '"' :: rest => (.quoted .longBasic, longBasicLength rest + 2)
    | rest => (.quoted .basic, basicLength rest)
  else (.bare, runLength (fun d => !endsBare d) rest)

/-- The tokens of the text from a place on, `gap` being the blanks read
already. -/
def tokensFrom (start : Nat) (gap : List Char) : List Char → List Token
  | [] => [⟨.finish, gap, [], start⟩]
  | c :: rest =>
    let (kind, more) := first c rest
    let text := c :: rest.take more
    if kind = .blank then tokensFrom (start + width text) text (rest.drop more)
    else
      ⟨kind, gap, text, start⟩ :: tokensFrom (start + width text) [] (rest.drop more)
termination_by s => s.length
decreasing_by
  all_goals simp only [List.length_drop, List.length_cons]; omega

/-- The tokens of a text; a byte order mark in front of it is passed
over. -/
def tokens : List Char → List Token
  | '\uFEFF' :: rest => tokensFrom 3 [] rest
  | text => tokensFrom 0 [] text

end Toml

end OrderDesk
