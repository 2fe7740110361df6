/-
# `Proofs.CommandLine.Wishes` — who is shown help asked for it

A command line that is not carried out may still count as a success: when
help is all that was wanted.  Nobody gets this answer by a mistake in the
words; one of them asks for help (`wish_of_help`).

Most steps of the reading cannot end in help at all.  `Asked ws x` says of
a step that if it does, one of the words `ws` is to blame; it holds with no
words for the steps that look at values, with one word for the step that
takes a word, and steps in a row put their words together.
-/
import OrderDesk.CommandLine.Reading

namespace OrderDesk

namespace CommandLine

open Utf8 (Piece)

/-- A word that asks for help. -/
def Wishes (w : Word) : Prop :=
  w = Utf8.ofString "help" ∨ w = Utf8.ofString "--help" ∨
    ∃ rest, w = .char '-' :: .char 'h' :: rest

/-- If help is what comes of it, one of the words asks for help. -/
def Asked (ws : List Word) (x : Except Refusal α) : Prop :=
  ∀ r, x = .error r → r.isHelp = true → ∃ w ∈ ws, Wishes w

/-! ## Steps in a row -/

section Steps

variable {ws ws' : List Word} {x : Except Refusal α} {f : α → Except Refusal β}

theorem Asked.ok (a : α) : Asked ws (.ok a) := by
  intro r h
  cases h

theorem Asked.error {r : Refusal} (h : r.isHelp = false) :
    Asked ws (.error r : Except Refusal α) := by
  intro r' h' hhelp
  cases h'
  exact absurd hhelp (Bool.eq_false_iff.mp h)

theorem Asked.help {r : Refusal} {w : Word} (hw : w ∈ ws) (h : Wishes w) :
    Asked ws (.error r : Except Refusal α) := by
  intro _ _ _
  exact ⟨w, hw, h⟩

theorem Asked.mono (h : Asked ws x) (hsub : ∀ w ∈ ws, w ∈ ws') : Asked ws' x := by
  intro r hx hhelp
  obtain ⟨w, hw, hwish⟩ := h r hx hhelp
  exact ⟨w, hsub w hw, hwish⟩

theorem Asked.bind (hx : Asked ws x) (hf : ∀ a, x = .ok a → Asked ws (f a)) :
    Asked ws (x >>= f) := by
  intro r h hhelp
  cases hvalue : x with
  | error e =>
      rw [hvalue] at h
      cases h
      exact hx r hvalue hhelp
  | ok a =>
      rw [hvalue] at h
      exact hf a hvalue r h hhelp

theorem Asked.map (hx : Asked ws x) (g : α → β) : Asked ws (x.map g) := by
  intro r h hhelp
  cases hvalue : x with
  | error e =>
      rw [hvalue] at h
      cases h
      exact hx r hvalue hhelp
  | ok a =>
      rw [hvalue] at h
      cases h

end Steps

/-! ## Values -/

section Values

variable {ws : List Word}

theorem asked_textOf (w : Word) : Asked ws (textOf w) := by
  rw [textOf]
  split
  · exact .ok _
  · exact .error rfl

theorem asked_sourceOf (w : Word) : Asked ws (sourceOf w) := by
  rw [sourceOf]
  split
  · exact .ok _
  · split
    · exact .error rfl
    · exact .error rfl

theorem asked_timeoutOf (w : Word) : Asked ws (timeoutOf w) := by
  refine (asked_textOf w).bind ?_
  intro text _
  split
  · exact .ok _
  · exact .error rfl

theorem asked_amountOf (w : Word) : Asked ws (amountOf w) := by
  refine (asked_textOf w).bind ?_
  intro text _
  split
  · exact .ok _
  · exact .error rfl

theorem asked_set (d : Draft) (w : Word) (v : Valued) : Asked ws (d.set w v) := by
  cases v with
  | config =>
      rw [Draft.set]
      split
      · exact .error rfl
      · exact .ok _
  | id => exact (asked_textOf w).map _
  | customerId => exact (asked_textOf w).map _
  | source => exact (asked_sourceOf w).map _
  | amount => exact (asked_amountOf w).map _
  | baseUrl => exact (asked_textOf w).map _
  | timeout => exact (asked_timeoutOf w).map _

theorem asked_put (d : Draft) (v : Valued) (w : Word) : Asked ws (d.put v w) := by
  rw [Draft.put]
  split
  · exact .error rfl
  · exact asked_set d w v

theorem asked_raise (d : Draft) (f : Flag) : Asked ws (d.raise f) := by
  rw [Draft.raise.eq_def]
  split
  · exact .error rfl
  · cases f with
    | verbose => exact .ok _
    | jsonLogs => exact .ok _

theorem asked_texts (words : List Word) : Asked ws (words.mapM textOf) := by
  induction words with
  | nil => exact .ok _
  | cons w words ih =>
      rw [List.mapM_cons]
      refine (asked_textOf w).bind ?_
      intro text _
      refine ih.bind ?_
      intro texts _
      exact .ok _

theorem asked_settle (r : Reading) : Asked ws r.settle := by
  rw [Reading.settle]
  split
  · exact .ok _
  · exact .error rfl
  · exact asked_put _ _ _
  · exact (asked_texts _).map _

end Values

/-! ## Words -/

theorem eq_ofText {ps : List Piece} {text : List Char} (h : Utf8.text? ps = some text) :
    ps = Utf8.ofText text := by
  induction ps generalizing text with
  | nil =>
      cases h
      rfl
  | cons p ps ih =>
      cases p with
      | junk octets => cases h
      | char c =>
          obtain ⟨rest, hrest, rfl⟩ := Option.map_eq_some_iff.mp h
          rw [ih hrest]
          rfl

/-- The word of a switch without a value is its name behind two hyphens. -/
theorem eq_of_long {w name : Word} (h : Form.of w = .long name none) :
    w = .char '-' :: .char '-' :: name := by
  rw [Form.of.eq_def] at h
  split at h
  · cases h
  · next rest _ =>
      obtain ⟨hname, hvalue⟩ := Form.long.inj h
      have hbehind : rest.dropWhile (· ≠ .char '=') = [] := by
        cases hdrop : rest.dropWhile (· ≠ .char '=') with
        | nil => rfl
        | cons p ps =>
            rw [hdrop] at hvalue
            cases hvalue
      have hsplit := List.takeWhile_append_dropWhile (p := (· ≠ Piece.char '=')) (l := rest)
      rw [hname, hbehind, List.append_nil] at hsplit
      rw [hsplit]
  · cases h
  · cases h

theorem eq_of_short {w letters : Word} (h : Form.of w = .short letters) :
    w = .char '-' :: letters := by
  rw [Form.of.eq_def] at h
  split at h
  · cases h
  · cases h
  · cases h
    rfl
  · cases h

theorem wishes_long {w name : Word} {p : Place} (h : Form.of w = .long name none)
    (hswitch : ((Utf8.text? name).bind fun text => p.switch? (String.ofList text)) =
      some .help) : Wishes w := by
  obtain ⟨text, htext, hfound⟩ := Option.bind_eq_some_iff.mp hswitch
  rw [Place.switch?] at hfound
  have hfits := List.find?_some hfound
  have hname : "help" = String.ofList text := beq_iff_eq.mp hfits
  refine .inr (.inl ?_)
  rw [eq_of_long h, eq_ofText htext, ← String.toList_ofList (l := text), ← hname]
  rfl

section Words

variable {w : Word}

theorem asked_long (r : Reading) (p : Place) {name : Word} {value : Option Word}
    (h : Form.of w = .long name value) : Asked [w] (r.long p name value) := by
  rw [Reading.long.eq_def]
  split
  · exact .error rfl
  · refine (asked_settle r).bind ?_
    intro d _
    exact .ok _
  · refine (asked_settle r).bind ?_
    intro d _
    refine (asked_put d _ _).bind ?_
    intro d _
    exact .ok _
  · exact .error rfl
  · refine (asked_settle r).bind ?_
    intro d _
    refine (asked_raise d _).bind ?_
    intro d _
    exact .ok _
  · next hswitch =>
      refine (asked_settle r).bind ?_
      intro d _
      exact .help (List.mem_singleton_self w) (wishes_long h hswitch)

theorem asked_short (r : Reading) (p : Place) {letters : Word}
    (h : Form.of w = .short letters) : Asked [w] (r.short p letters) := by
  rw [Reading.short.eq_def]
  split
  · refine (asked_settle r).bind ?_
    intro d _
    exact .help (List.mem_singleton_self w) (.inr (.inr ⟨_, eq_of_short h⟩))
  · exact .error rfl
  · exact .error rfl

theorem asked_plain {ws : List Word} (r : Reading) (p : Place) (w : Word) :
    Asked ws (r.plain p w) := by
  cases p with
  | customer =>
      rw [Reading.plain, Reading.withId]
      split
      · exact .ok _
      · refine (asked_settle r).bind ?_
        intro d _
        exact .ok _
  | order => exact .error rfl
  | top => exact .error rfl

theorem asked_word (r : Reading) (p : Place) (w : Word) : Asked [w] (r.word p w) := by
  rw [Reading.word]
  split
  · next letters v hform hpending =>
      split
      · exact .ok _
      · exact asked_short r p hform
  · next letters hform hpending => exact asked_short r p hform
  · next name value hform => exact asked_long r p hform
  · exact .ok _
  · exact asked_plain r p w

theorem asked_rest {ws : List Word} (r : Reading) (p : Place) (words : List Word) :
    Asked ws (r.rest p words) := by
  induction words generalizing r with
  | nil => exact .ok _
  | cons w words ih =>
      rw [Reading.rest]
      split
      · exact .error rfl
      · refine (asked_plain r p w).bind ?_
        intro r' _
        exact ih r'

theorem asked_words (r : Reading) (p : Place) (ws : List Word) : Asked ws (r.words p ws) := by
  induction ws generalizing r with
  | nil => exact .ok _
  | cons w ws ih =>
      rw [Reading.words]
      split
      · exact .ok _
      · split
        · exact (asked_rest r p ws).map _
        · refine ((asked_word r p w).mono ?_).bind ?_
          · intro v hv
            rw [List.mem_singleton.mp hv]
            exact List.mem_cons_self
          · intro r' _
            exact (ih r').mono fun v hv => List.mem_cons_of_mem w hv

end Words

/-! ## Command lines -/

/-- The command that the words come to is one of them, and what is behind it
is among them. -/
theorem words_command {r r' : Reading} {p : Place} {ws behind : List Word} {t : Topic}
    (h : r.words p ws = .ok (r', some (t, behind))) :
    (∃ w ∈ ws, Reading.command? p w = some t) ∧ ∀ w ∈ behind, w ∈ ws := by
  induction ws generalizing r with
  | nil => cases h
  | cons w ws ih =>
      rw [Reading.words] at h
      split at h
      · next t' hcommand =>
          cases h
          refine ⟨⟨w, List.mem_cons_self, ?_⟩, fun v hv => List.mem_cons_of_mem w hv⟩
          split at hcommand
          · cases hcommand
          · exact hcommand
      · split at h
        · cases hrest : r.rest p ws with
          | error e =>
              rw [hrest] at h
              cases h
          | ok r'' =>
              rw [hrest] at h
              cases h
        · cases hword : r.word p w with
          | error e =>
              rw [hword] at h
              cases h
          | ok r'' =>
              rw [hword] at h
              obtain ⟨⟨v, hv, hcommand⟩, hbehind⟩ := ih h
              exact ⟨⟨v, List.mem_cons_of_mem w hv, hcommand⟩,
                fun u hu => List.mem_cons_of_mem w (hbehind u hu)⟩

theorem asked_all (p : Place) (ws : List Word) : Asked ws (Reading.all p ws) := by
  refine (asked_words {} p ws).bind ?_
  intro a _
  exact asked_settle a.1

/-- Only the command `help` ends in help without a switch. -/
theorem asked_commandOf {t : Topic} (ht : t = .customer ∨ t = .order) (ws : List Word) :
    Asked ws (commandOf t ws) := by
  rcases ht with rfl | rfl
  · refine (asked_all .customer ws).bind ?_
    intro d _
    rw [Draft.customer]
    split
    · exact .error rfl
    · exact .ok _
  · refine (asked_all .order ws).bind ?_
    intro d _
    rw [Draft.order]
    split
    · exact .ok _
    · exact .error rfl

theorem command?_eq_some {p : Place} {w : Word} {t : Topic}
    (h : Reading.command? p w = some t) :
    w = Utf8.ofString t.name ∧ (t = .customer ∨ t = .order ∨ t = .help) := by
  rw [Reading.command?] at h
  split at h
  · have hname := List.find?_some h
    refine ⟨beq_iff_eq.mp hname, ?_⟩
    simpa [Topic.commands] using List.mem_of_find?_eq_some h
  · cases h

/-- Who is shown help has asked for it. -/
theorem wish_of_help (ws : List Word) : Asked ws (read ws) := by
  refine (asked_words {} .top ws).bind ?_
  rintro ⟨outer, none | ⟨t, behind⟩⟩ hwords
  · refine (asked_settle outer).bind ?_
    intro d _
    split
    · exact .error rfl
    · exact .error rfl
  · obtain ⟨⟨w, hw, hcommand⟩, hbehind⟩ := words_command hwords
    have hasked : Asked ws (commandOf t behind) := by
      obtain ⟨hname, hcustomer | horder | rfl⟩ := command?_eq_some hcommand
      · exact (asked_commandOf (.inl hcustomer) behind).mono hbehind
      · exact (asked_commandOf (.inr horder) behind).mono hbehind
      · exact .help hw (.inl hname)
    refine hasked.bind ?_
    intro a _
    refine (asked_settle outer).bind ?_
    intro d _
    exact .ok _

end CommandLine

end OrderDesk
