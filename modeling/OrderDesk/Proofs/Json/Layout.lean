/-
# `Proofs.Json.Layout` — both layouts are texts of their value

`compact` and `pretty` write a value by the grammar, if every number in
it is one (`Numbered`); nothing else about a value can go wrong.  The two
differ in their blanks only, and the level of `pretty` counts nothing but
blanks.

| | |
| :-- | :-- |
| `spelled_quote`     | a quoted string is a spelling of the string |
| `Numbered.compact`  | the compact layout is a text of the value |
| `Numbered.pretty`   | so is the layout over several lines |
-/
import OrderDesk.Proofs.Json.Grammar

namespace OrderDesk.Json

/-! ## Strings -/

theorem Spelled.append {s s' t t' : List Char} (h : Spelled s t) (h' : Spelled s' t') :
    Spelled (s ++ s') (t ++ t') := by
  induction h with
  | nil => exact h'
  | cons hc _ ih =>
      rw [List.append_assoc]
      exact .cons hc ih

/-- A control character without a letter is a unit whose upper half is
zero. -/
theorem hexUnit_control {n : Nat} (h : n < 0x20) :
    HexUnit ['0', '0', hexDigit (n / 16), hexDigit n] n := by
  have hzero : HexDigit '0' 0 := ⟨by decide, .inl rfl⟩
  have hdigit : ∀ m, HexDigit (hexDigit m) (m % 16) := fun m =>
    ⟨Nat.mod_lt m (by decide), .inl rfl⟩
  have hunit := HexUnit.mk hzero hzero (hdigit (n / 16)) (hdigit n)
  rwa [show ((0 * 16 + 0) * 16 + n / 16 % 16) * 16 + n % 16 = n by omega] at hunit

theorem spelledChar_escapeChar (c : Char) : SpelledChar c (escapeChar c) := by
  rw [escapeChar]
  by_cases hquote : c = '"'
  · subst hquote
    exact .letter (by decide)
  by_cases hbackslash : c = '\\'
  · subst hbackslash
    exact .letter (by decide)
  rw [if_neg hquote, if_neg hbackslash]
  split
  · next h => subst h; exact .letter (by decide)
  split
  · next h => subst h; exact .letter (by decide)
  split
  · next h => subst h; exact .letter (by decide)
  split
  · next h => subst h; exact .letter (by decide)
  split
  · next h => subst h; exact .letter (by decide)
  split
  · next h => exact .unit (hexUnit_control h)
  · next h => exact .plain hquote hbackslash (Nat.le_of_not_lt h)

theorem spelled_escape (s : List Char) : Spelled s (s.flatMap escapeChar) := by
  induction s with
  | nil => exact .nil
  | cons c s ih => exact .cons (spelledChar_escapeChar c) ih

/-- A quoted string is a text of the string. -/
theorem written_quote (s : List Char) : Written (.string s) (quote s) :=
  .string (spelled_escape s)

/-! ## Values -/

/-- Every number in the value has the text of a number. -/
inductive Numbered : Value → Prop
  | null : Numbered .null
  | bool (b : Bool) : Numbered (.bool b)
  | number (n : Numeral) : Numbered (.number n.text)
  | string (s : List Char) : Numbered (.string s)
  | array {vs : List Value} : (∀ v ∈ vs, Numbered v) → Numbered (.array vs)
  | object {ms : List (List Char × Value)} : (∀ m ∈ ms, Numbered m.2) → Numbered (.object ms)

theorem blank_newline (level : Nat) : Blank (Value.newline level) := by
  intro c hc
  rcases List.mem_cons.mp hc with rfl | hc
  · exact .inr (.inl rfl)
  · exact .inl (List.eq_of_mem_replicate hc)

theorem gap_comma {w : List Char} (hw : Blank w) : Gap false (',' :: w) := .later blank_nil hw

/-- One member, its name quoted. -/
theorem WrittenMembers.quoted {first : Bool} {g w t u : List Char} {v : Value} {ms : Members}
    (hg : Gap first g) (name : List Char) (hw : Blank w) (hv : Written v t)
    (hms : WrittenMembers false ms u) :
    WrittenMembers first ((name, v) :: ms) (g ++ (quote name ++ ':' :: (w ++ (t ++ u)))) := by
  have h := WrittenMembers.more hg (spelled_escape name) blank_nil hw hv hms
  simpa [quote] using h

section Compact

theorem compactElements_written {vs : List Value} (h : ∀ v ∈ vs, Written v v.compact) :
    WrittenElements false vs (Value.compactElements vs) := by
  induction vs with
  | nil => exact .close blank_nil
  | cons v vs ih =>
      obtain ⟨hv, hvs⟩ := List.forall_mem_cons.mp h
      exact .more (gap_comma blank_nil) hv (ih hvs)

theorem compactMembers_written {ms : Members} (h : ∀ m ∈ ms, Written m.2 m.2.compact) :
    WrittenMembers false ms (Value.compactMembers ms) := by
  induction ms with
  | nil => exact .close blank_nil
  | cons m ms ih =>
      obtain ⟨hv, hms⟩ := List.forall_mem_cons.mp h
      exact .quoted (gap_comma blank_nil) m.1 blank_nil hv (ih hms)

/-- The layout without blanks. -/
theorem Numbered.compact {v : Value} (h : Numbered v) : Written v v.compact := by
  induction h with
  | null => exact .null
  | bool b =>
      cases b with
      | true => exact .yes
      | false => exact .no
  | number n => exact .number n
  | string s => exact written_quote s
  | @array vs _ ih =>
      cases vs with
      | nil => exact .array (.close blank_nil)
      | cons v vs =>
          obtain ⟨hv, hvs⟩ := List.forall_mem_cons.mp ih
          exact .array (.more (.first blank_nil) hv (compactElements_written hvs))
  | @object ms _ ih =>
      cases ms with
      | nil => exact .object (.close blank_nil)
      | cons m ms =>
          obtain ⟨hv, hms⟩ := List.forall_mem_cons.mp ih
          exact .object (.quoted (.first blank_nil) m.1 blank_nil hv (compactMembers_written hms))

end Compact

section Pretty

variable (level : Nat)

theorem prettyElements_written {vs : List Value}
    (h : ∀ v ∈ vs, Written v (v.prettyAt (level + 1))) :
    WrittenElements false vs (Value.prettyElements level vs) := by
  induction vs with
  | nil => exact .close (blank_newline level)
  | cons v vs ih =>
      obtain ⟨hv, hvs⟩ := List.forall_mem_cons.mp h
      have hmore := WrittenElements.more (gap_comma (blank_newline (level + 1))) hv (ih hvs)
      simpa [Value.prettyElements] using hmore

theorem prettyMembers_written {ms : Members}
    (h : ∀ m ∈ ms, Written m.2 (m.2.prettyAt (level + 1))) :
    WrittenMembers false ms (Value.prettyMembers level ms) := by
  induction ms with
  | nil => exact .close (blank_newline level)
  | cons m ms ih =>
      obtain ⟨hv, hms⟩ := List.forall_mem_cons.mp h
      have hblank : Blank [' '] := by simp [Blank]
      have hmore := WrittenMembers.quoted (gap_comma (blank_newline (level + 1))) m.1 hblank hv
        (ih hms)
      simpa [Value.prettyMembers] using hmore

theorem Numbered.prettyAt {v : Value} (h : Numbered v) :
    ∀ level, Written v (v.prettyAt level) := by
  induction h with
  | null => exact fun _ => .null
  | bool b =>
      cases b with
      | true => exact fun _ => .yes
      | false => exact fun _ => .no
  | number n => exact fun _ => .number n
  | string s => exact fun _ => written_quote s
  | @array vs _ ih =>
      intro level
      cases vs with
      | nil => exact .array (.close blank_nil)
      | cons v vs =>
          obtain ⟨hv, hvs⟩ := List.forall_mem_cons.mp ih
          have hrest := prettyElements_written level fun v hv => hvs v hv (level + 1)
          have hmore := WrittenElements.more (.first (blank_newline (level + 1)))
            (hv (level + 1)) hrest
          simpa [Value.prettyAt] using Written.array hmore
  | @object ms _ ih =>
      intro level
      cases ms with
      | nil => exact .object (.close blank_nil)
      | cons m ms =>
          obtain ⟨hv, hms⟩ := List.forall_mem_cons.mp ih
          have hblank : Blank [' '] := by simp [Blank]
          have hrest := prettyMembers_written level fun m hm => hms m hm (level + 1)
          have hmore := WrittenMembers.quoted (.first (blank_newline (level + 1))) m.1 hblank
            (hv (level + 1)) hrest
          simpa [Value.prettyAt] using Written.object hmore

/-- The layout over several lines. -/
theorem Numbered.pretty {v : Value} (h : Numbered v) : Written v v.pretty := h.prettyAt 0

end Pretty

/-- A value alone is a document. -/
theorem Written.document {v : Value} {t : List Char} (h : Written v t) : Document v t := by
  have hdocument := Document.mk blank_nil h blank_nil
  rwa [List.nil_append, List.append_nil] at hdocument

end OrderDesk.Json
