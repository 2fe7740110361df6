/-
# `Proofs.Json.Unambiguous` — a text has one value

The grammar says which texts a value has.  Here it is shown that no text is
shared: whoever reads a document by the grammar comes to the same value
(`Document.unique`), so that what a text says need not name a reader.

Texts are compared with something behind them, since it is not known where
the first value of the text ends before both readings of it are compared.  As
everywhere, what follows a number must not prolong it.

The induction is on the first reading.  Where both readings are of one kind,
a scanner that is known to stop behind its token settles where it ends;
where they are not, they differ in their first character.
-/
import OrderDesk.Proofs.Json.Skipping

namespace OrderDesk.Json

open Utf8 (Piece ofText)

theorem ofText_inj {s s' : List Char} (h : ofText s = ofText s') : s = s' :=
  (List.map_inj_right fun _ _ => Piece.char.inj).mp h

/-! ## Tokens -/

section Tokens

variable {c c' : Char} {s s' : List Char}

/-- Blanks end at the first character that is none. -/
theorem Blank.cancel {w w' : List Char} (hw : Blank w) (hw' : Blank w')
    (hc : isSpace (.char c) = false) (hc' : isSpace (.char c') = false)
    (h : w ++ c :: s = w' ++ c' :: s') : c :: s = c' :: s' := by
  refine ofText_inj ?_
  rw [Utf8.ofText_cons, Utf8.ofText_cons, ← skipSpace_token hw hc, h, skipSpace_token hw' hc']

/-- So does what stands in front of an element or a member. -/
theorem Gap.cancel {first : Bool} {g g' : List Char} (hg : Gap first g) (hg' : Gap first g')
    (hc : isSpace (.char c) = false) (hc' : isSpace (.char c') = false)
    (h : g ++ c :: s = g' ++ c' :: s') : c :: s = c' :: s' := by
  cases hg with
  | first hw =>
      cases hg' with
      | first hw' => exact hw.cancel hw' hc hc' h
  | later hw hv =>
      cases hg' with
      | later hw' hv' =>
          simp only [List.append_assoc, List.cons_append] at h
          exact hv.cancel hv' hc hc' (List.cons.inj (hw.cancel hw' rfl rfl h)).2

/-- Where a bracket is closed there is no further element or member. -/
theorem Gap.ne_close {first : Bool} {w g : List Char} (hw : Blank w) (hg : Gap first g)
    (hc : isSpace (.char c) = false) (hcomma : c ≠ ',') (hc' : isSpace (.char c') = false)
    (hne : c ≠ c') : w ++ c :: s ≠ g ++ c' :: s' := by
  intro h
  cases hg with
  | first hw' => exact hne (List.cons.inj (hw.cancel hw' hc hc' h)).1
  | later hw' =>
      rw [List.append_assoc] at h
      exact hcomma (List.cons.inj (hw.cancel hw' hc rfl h)).1

/-- A string ends at its quotation mark. -/
theorem Spelled.unique {k k' t t' : List Char} (h : Spelled k t) (h' : Spelled k' t')
    (heq : t ++ '"' :: s = t' ++ '"' :: s') : k = k' ∧ s = s' := by
  have hread := string_spelled h s
  rw [heq, string_spelled h' s', Except.ok.injEq, Prod.mk.injEq] at hread
  exact ⟨hread.1.symm, ofText_inj hread.2.symm⟩

/-- A number ends where nothing prolongs it. -/
theorem Numeral.unique {n n' : Numeral} (hs : Stops s) (hs' : Stops s')
    (heq : n.text ++ s = n'.text ++ s') : n.text = n'.text ∧ s = s' := by
  have hread := skipAtom_number n hs
  rw [heq, skipAtom_number n' hs', Except.ok.injEq, Prod.mk.injEq] at hread
  obtain rfl := ofText_inj hread.2
  exact ⟨List.append_cancel_right heq, rfl⟩

/-- A number begins like no value of another kind. -/
theorem Numeral.text_append_ne (n : Numeral) (hminus : c ≠ '-') (hdigit : c.isDigit = false) :
    n.text ++ s ≠ c :: s' := by
  obtain ⟨d, u, htext, rfl | hd⟩ := n.text_eq_cons
  · rw [htext]
    rintro ⟨⟩
    exact hminus rfl
  · rw [htext]
    rintro ⟨⟩
    cases hd.symm.trans hdigit

end Tokens

/-! ## Values -/

mutual

/-- A value and its end can be told from the text. -/
theorem Written.unique {v v' : Value} {t t' s s' : List Char} (h : Written v t)
    (h' : Written v' t') (hs : Stops s) (hs' : Stops s') (heq : t ++ s = t' ++ s') :
    v = v' ∧ s = s' := by
  -- Values of different kinds differ in their first signs.
  match h with
  | .null =>
      cases h' with
      | null => exact ⟨rfl, List.append_cancel_left heq⟩
      | number n => exact absurd heq.symm (n.text_append_ne (by decide) (by decide))
      | _ => simp at heq
  | .yes =>
      cases h' with
      | yes => exact ⟨rfl, List.append_cancel_left heq⟩
      | number n => exact absurd heq.symm (n.text_append_ne (by decide) (by decide))
      | _ => simp at heq
  | .no =>
      cases h' with
      | no => exact ⟨rfl, List.append_cancel_left heq⟩
      | number n => exact absurd heq.symm (n.text_append_ne (by decide) (by decide))
      | _ => simp at heq
  | .number n =>
      cases h' with
      | number n' =>
          obtain ⟨htext, hrest⟩ := Numeral.unique hs hs' heq
          exact ⟨congrArg Value.number htext, hrest⟩
      | _ => exact absurd heq (n.text_append_ne (by decide) (by decide))
  | .string hk =>
      cases h' with
      | string hk' =>
          simp only [List.cons_append, List.append_assoc, List.nil_append, List.cons.injEq,
            true_and] at heq
          obtain ⟨hname, hrest⟩ := hk.unique hk' heq
          exact ⟨congrArg Value.string hname, hrest⟩
      | number n => exact absurd heq.symm (n.text_append_ne (by decide) (by decide))
      | _ => simp at heq
  | .array hvs =>
      cases h' with
      | array hvs' =>
          obtain ⟨helements, hrest⟩ := hvs.unique hvs' (List.cons.inj heq).2
          exact ⟨congrArg Value.array helements, hrest⟩
      | number n => exact absurd heq.symm (n.text_append_ne (by decide) (by decide))
      | _ => simp at heq
  | .object hms =>
      cases h' with
      | object hms' =>
          obtain ⟨hmembers, hrest⟩ := hms.unique hms' (List.cons.inj heq).2
          exact ⟨congrArg Value.object hmembers, hrest⟩
      | number n => exact absurd heq.symm (n.text_append_ne (by decide) (by decide))
      | _ => simp at heq

/-- So can elements and their closing bracket. -/
theorem WrittenElements.unique {first : Bool} {vs vs' : List Value} {u u' s s' : List Char}
    (h : WrittenElements first vs u) (h' : WrittenElements first vs' u')
    (heq : u ++ s = u' ++ s') : vs = vs' ∧ s = s' := by
  match h with
  | .close hw =>
      rw [List.append_assoc] at heq
      cases h' with
      | close hw' =>
          rw [List.append_assoc] at heq
          exact ⟨rfl, (List.cons.inj (hw.cancel hw' rfl rfl heq)).2⟩
      | more hg hv' =>
          obtain ⟨c, r, rfl, hc, hclose, -, -⟩ := hv'.text_eq_cons
          simp only [List.append_assoc, List.cons_append] at heq
          exact absurd heq (Gap.ne_close hw hg rfl (by decide) hc hclose.symm)
  | .more hg hv hvs =>
      obtain ⟨c, r, hcons, hc, hclose, -, -⟩ := hv.text_eq_cons
      cases h' with
      | close hw' =>
          rw [hcons] at heq
          simp only [List.append_assoc, List.cons_append] at heq
          exact absurd heq.symm (Gap.ne_close hw' hg rfl (by decide) hc hclose.symm)
      | more hg' hv' hvs' =>
          obtain ⟨c', r', hcons', hc', -, -, -⟩ := hv'.text_eq_cons
          rw [List.append_assoc, List.append_assoc, List.append_assoc, List.append_assoc] at heq
          have hvalues := hg.cancel hg' hc hc' (by simpa [hcons, hcons'] using heq)
          rw [← List.cons_append, ← List.cons_append, ← hcons, ← hcons'] at hvalues
          obtain ⟨rfl, hrest⟩ := hv.unique hv' (hvs.stops s) (hvs'.stops s') hvalues
          obtain ⟨rfl, hend⟩ := hvs.unique hvs' hrest
          exact ⟨rfl, hend⟩

/-- So can members and their closing brace. -/
theorem WrittenMembers.unique {first : Bool} {ms ms' : Members} {u u' s s' : List Char}
    (h : WrittenMembers first ms u) (h' : WrittenMembers first ms' u')
    (heq : u ++ s = u' ++ s') : ms = ms' ∧ s = s' := by
  match h with
  | .close hw =>
      rw [List.append_assoc] at heq
      cases h' with
      | close hw' =>
          rw [List.append_assoc] at heq
          exact ⟨rfl, (List.cons.inj (hw.cancel hw' rfl rfl heq)).2⟩
      | more hg =>
          rw [List.append_assoc] at heq
          exact absurd heq (Gap.ne_close hw hg rfl (by decide) rfl (by decide))
  | .more hg hk hw hd hv hms =>
      cases h' with
      | close hw' =>
          rw [List.append_assoc, List.append_assoc] at heq
          exact absurd heq.symm (Gap.ne_close hw' hg rfl (by decide) rfl (by decide))
      | more hg' hk' hw' hd' hv' hms' =>
          simp only [List.append_assoc, List.cons_append] at heq
          have hnames := (List.cons.inj (hg.cancel hg' rfl rfl heq)).2
          obtain ⟨rfl, hcolon⟩ := hk.unique hk' hnames
          have hvalues := (List.cons.inj (hw.cancel hw' rfl rfl hcolon)).2
          obtain ⟨c, r, hcons, hc, -, -, -⟩ := hv.text_eq_cons
          obtain ⟨c', r', hcons', hc', -, -, -⟩ := hv'.text_eq_cons
          have htexts := hd.cancel hd' hc hc' (by simpa [hcons, hcons'] using hvalues)
          rw [← List.cons_append, ← List.cons_append, ← hcons, ← hcons'] at htexts
          obtain ⟨rfl, hrest⟩ := hv.unique hv' (hms.stops s) (hms'.stops s') htexts
          obtain ⟨rfl, hend⟩ := hms.unique hms' hrest
          exact ⟨rfl, hend⟩

end

/-- A document has one value. -/
theorem Document.unique {v v' : Value} {text : List Char} (h : Document v text)
    (h' : Document v' text) : v = v' := by
  generalize htext : text = text' at h'
  obtain ⟨hw, hv, hw'⟩ := h
  obtain ⟨hd, hv', hd'⟩ := h'
  obtain ⟨c, r, hcons, hc, -, -, -⟩ := hv.text_eq_cons
  obtain ⟨c', r', hcons', hc', -, -, -⟩ := hv'.text_eq_cons
  have hvalues := hw.cancel hd hc hc' (by simpa [hcons, hcons'] using htext)
  rw [← List.cons_append, ← List.cons_append, ← hcons, ← hcons'] at hvalues
  have hstops : ∀ {w : List Char}, Blank w → Stops w := by
    intro w hw
    rw [← List.append_nil w]
    exact stops_blank hw stops_nil
  exact (hv.unique hv' (hstops hw') (hstops hd') hvalues).1

end OrderDesk.Json
