/-
# `Proofs.Json.Lines` — the lines of the two layouts

Values that are written one below the other can be told apart again only
if none of them breaks its line.  The compact layout has no blanks, and
inside a string every character below U+0020 is spelled by others, so a
value in it is one line whatever its strings hold (`Numbered.visible`).

The other layout breaks lines between members and elements only, and
every line but the first begins with a blank or with the bracket that
closes the value (`Numbered.indented`).
-/
import OrderDesk.Proofs.Json.Layout
import OrderDesk.Proofs.Json.Numbers

namespace OrderDesk.Json

/-- No character is below U+0020. -/
def Visible (s : List Char) : Prop := ∀ c ∈ s, 0x20 ≤ c.toNat

theorem visible_nil : Visible [] := by
  intro c hc
  cases hc

theorem visible_cons {c : Char} {s : List Char} :
    Visible (c :: s) ↔ 0x20 ≤ c.toNat ∧ Visible s := List.forall_mem_cons

theorem visible_append {s t : List Char} : Visible (s ++ t) ↔ Visible s ∧ Visible t :=
  List.forall_mem_append

/-! ## Strings -/

theorem visible_hexDigit (n : Nat) : 0x20 ≤ (hexDigit n).toNat := by
  have hall : ∀ m < 16, 0x20 ≤ (Nat.digitChar m).toNat := by decide
  exact hall (n % 16) (Nat.mod_lt n (by decide))

theorem visible_escapeChar (c : Char) : Visible (escapeChar c) := by
  rw [escapeChar]
  split
  · simp [Visible]
  split
  · simp [Visible]
  split
  · simp [Visible]
  split
  · simp [Visible]
  split
  · simp [Visible]
  split
  · simp [Visible]
  split
  · simp [Visible]
  split
  · simp [Visible, visible_hexDigit]
  · next h => simpa [Visible] using h

theorem visible_quote (s : List Char) : Visible (quote s) := by
  rw [quote, visible_cons, visible_append]
  refine ⟨by decide, ?_, by simp [Visible]⟩
  intro c hc
  obtain ⟨a, -, ha⟩ := List.mem_flatMap.mp hc
  exact visible_escapeChar a c ha

/-! ## Numbers -/

theorem Digits.visible {ds : List Char} (h : Digits ds) : Visible ds := by
  intro c hc
  have hle : 48 ≤ c.toNat := (isDigit_iff.mp (h c hc)).1
  omega

theorem Exponent.visible (e : Exponent) : Visible e.text := by
  rw [Exponent.text, visible_cons, visible_append]
  refine ⟨?_, ?_, e.isDigits.visible⟩
  · rcases e.letter_eq with h | h
    · simp [h]
    · simp [h]
  · intro c hc
    rcases e.sign_eq c (by simpa using hc) with rfl | rfl
    · decide
    · decide

theorem Numeral.visible (n : Numeral) : Visible n.text := by
  have hfraction : Visible n.fractionText := by
    rw [Numeral.fractionText]
    split
    · exact visible_nil
    · exact visible_cons.mpr ⟨by decide, n.fraction_digits.visible⟩
  have hexponent : Visible n.exponentText := by
    rw [Numeral.exponentText]
    cases n.exponent with
    | none => exact visible_nil
    | some e => exact e.visible
  have hmagnitude : Visible n.magnitude :=
    visible_append.mpr ⟨n.whole_digits.visible, visible_append.mpr ⟨hfraction, hexponent⟩⟩
  rw [Numeral.text]
  split
  · exact visible_cons.mpr ⟨by decide, hmagnitude⟩
  · exact hmagnitude

/-! ## Values -/

theorem visible_compactElements {vs : List Value} (h : ∀ v ∈ vs, Visible v.compact) :
    Visible (Value.compactElements vs) := by
  induction vs with
  | nil => simp [Visible, Value.compactElements]
  | cons v vs ih =>
      obtain ⟨hv, hvs⟩ := List.forall_mem_cons.mp h
      exact visible_cons.mpr ⟨by decide, visible_append.mpr ⟨hv, ih hvs⟩⟩

theorem visible_member {name t u : List Char} (ht : Visible t) (hu : Visible u) :
    Visible (quote name ++ ':' :: (t ++ u)) :=
  visible_append.mpr
    ⟨visible_quote name, visible_cons.mpr ⟨by decide, visible_append.mpr ⟨ht, hu⟩⟩⟩

theorem visible_compactMembers {ms : Members} (h : ∀ m ∈ ms, Visible m.2.compact) :
    Visible (Value.compactMembers ms) := by
  induction ms with
  | nil => simp [Visible, Value.compactMembers]
  | cons m ms ih =>
      obtain ⟨hv, hms⟩ := List.forall_mem_cons.mp h
      exact visible_cons.mpr ⟨by decide, visible_member hv (ih hms)⟩

/-- The compact layout breaks no line. -/
theorem Numbered.visible {v : Value} (h : Numbered v) : Visible v.compact := by
  induction h with
  | null => simp [Visible, Value.compact]
  | bool b =>
      cases b with
      | true => simp [Visible, Value.compact]
      | false => simp [Visible, Value.compact]
  | number n => exact n.visible
  | string s => exact visible_quote s
  | @array vs _ ih =>
      cases vs with
      | nil => simp [Visible, Value.compact]
      | cons v vs =>
          obtain ⟨hv, hvs⟩ := List.forall_mem_cons.mp ih
          exact visible_cons.mpr
            ⟨by decide, visible_append.mpr ⟨hv, visible_compactElements hvs⟩⟩
  | @object ms _ ih =>
      cases ms with
      | nil => simp [Visible, Value.compact]
      | cons m ms =>
          obtain ⟨hv, hms⟩ := List.forall_mem_cons.mp ih
          exact visible_cons.mpr ⟨by decide, visible_member hv (visible_compactMembers hms)⟩

/-! ## The layout over several lines -/

/-- A character that lines begin with behind the first one. -/
def Inset (c : Char) : Prop := c = ' ' ∨ c = ']' ∨ c = '\x7d'

/-- Behind every line break there is a blank or a closing bracket. -/
inductive Indented : List Char → Prop
  | nil : Indented []
  | char {c : Char} {s : List Char} : c ≠ '\n' → Indented s → Indented (c :: s)
  | line {c : Char} {s : List Char} : Inset c → Indented s → Indented ('\n' :: c :: s)

theorem Inset.ne_newline {c : Char} (h : Inset c) : c ≠ '\n' := by
  rcases h with rfl | rfl | rfl
  · decide
  · decide
  · decide

theorem Indented.append {s t : List Char} (hs : Indented s) (ht : Indented t) :
    Indented (s ++ t) := by
  induction hs with
  | nil => exact ht
  | char hc _ ih => exact .char hc ih
  | line hc _ ih => exact .line hc ih

theorem Visible.indented {s : List Char} (h : Visible s) : Indented s := by
  induction s with
  | nil => exact .nil
  | cons c s ih =>
      obtain ⟨hc, hs⟩ := visible_cons.mp h
      refine .char ?_ (ih hs)
      rintro rfl
      exact absurd hc (by decide)

theorem indented_newline (level : Nat) : Indented (Value.newline (level + 1)) := by
  have hblanks : Visible (List.replicate (2 * level + 1) ' ') := by
    intro c hc
    rw [List.eq_of_mem_replicate hc]
    decide
  exact .line (.inl rfl) hblanks.indented

theorem indented_close {level : Nat} {c : Char} (hc : Inset c) :
    Indented (Value.newline level ++ [c]) := by
  cases level with
  | zero => exact .line hc .nil
  | succ level => exact (indented_newline level).append (.char hc.ne_newline .nil)

theorem indented_prettyElements {vs : List Value}
    (h : ∀ v ∈ vs, ∀ level, Indented (v.prettyAt level)) (level : Nat) :
    Indented (Value.prettyElements level vs) := by
  induction vs with
  | nil => exact indented_close (.inr (.inl rfl))
  | cons v vs ih =>
      obtain ⟨hv, hvs⟩ := List.forall_mem_cons.mp h
      exact .char (by decide)
        (((indented_newline level).append (hv (level + 1))).append (ih hvs))

theorem indented_member {level : Nat} {name t u : List Char} (ht : Indented t) (hu : Indented u) :
    Indented (Value.newline (level + 1) ++ quote name ++ ':' :: ' ' :: (t ++ u)) :=
  ((indented_newline level).append (visible_quote name).indented).append
    (.char (by decide) (.char (by decide) (ht.append hu)))

theorem indented_prettyMembers {ms : Members}
    (h : ∀ m ∈ ms, ∀ level, Indented (m.2.prettyAt level)) (level : Nat) :
    Indented (Value.prettyMembers level ms) := by
  induction ms with
  | nil => exact indented_close (.inr (.inr rfl))
  | cons m ms ih =>
      obtain ⟨hv, hms⟩ := List.forall_mem_cons.mp h
      exact .char (by decide) (indented_member (hv (level + 1)) (ih hms))

/-- The layout over several lines breaks them between members and elements
only. -/
theorem Numbered.indented {v : Value} (h : Numbered v) (level : Nat) :
    Indented (v.prettyAt level) := by
  induction h generalizing level with
  | null => exact (Numbered.null.visible).indented
  | bool b => exact (Numbered.bool b).visible.indented
  | number n => exact n.visible.indented
  | string s => exact (visible_quote s).indented
  | @array vs _ ih =>
      cases vs with
      | nil => exact Visible.indented (by simp [Visible, Value.prettyAt])
      | cons v vs =>
          obtain ⟨hv, hvs⟩ := List.forall_mem_cons.mp ih
          exact .char (by decide) (((indented_newline level).append (hv (level + 1))).append
            (indented_prettyElements hvs level))
  | @object ms _ ih =>
      cases ms with
      | nil => exact Visible.indented (by simp [Visible, Value.prettyAt])
      | cons m ms =>
          obtain ⟨hv, hms⟩ := List.forall_mem_cons.mp ih
          exact .char (by decide)
            (indented_member (hv (level + 1)) (indented_prettyMembers hms level))

/-- Such a text with a line break behind it is a first line, and lines that
begin with a blank or a closing bracket. -/
theorem Indented.lines {s : List Char} (h : Indented s) :
    ∃ first others, s ++ ['\n'] = (first :: others).flatMap (· ++ ['\n']) ∧ '\n' ∉ first ∧
      ∀ line ∈ others, '\n' ∉ line ∧ ∃ c rest, Inset c ∧ line = c :: rest := by
  induction h with
  | nil => exact ⟨[], [], rfl, List.not_mem_nil, List.forall_mem_nil _⟩
  | @char c s hc _ ih =>
      obtain ⟨first, others, heq, hfirst, hothers⟩ := ih
      refine ⟨c :: first, others, congrArg (List.cons c) heq, ?_, hothers⟩
      exact List.not_mem_cons_of_ne_of_not_mem hc.symm hfirst
  | @line c s hc _ ih =>
      obtain ⟨first, others, heq, hfirst, hothers⟩ := ih
      refine ⟨[], (c :: first) :: others, ?_, List.not_mem_nil, ?_⟩
      · exact congrArg (List.cons '\n' ∘ List.cons c) heq
      · refine List.forall_mem_cons.mpr ⟨⟨?_, c, first, hc, rfl⟩, hothers⟩
        exact List.not_mem_cons_of_ne_of_not_mem hc.ne_newline.symm hfirst

end OrderDesk.Json
