/-
# `Proofs.Toml.Steps` — reading on behind a piece of text

What stands in front of a text is read, and the rest is read from the state
that this leads to (`Reaches`).  States are compared without the place of
the last token (`State.Like`), and places are not told at all: what a text
says does not depend on them.

| | |
| :-- | :-- |
| `Reaches s text P rest`  | behind `text`, in front of `rest`, the state is as `P` says |
| `State.Quiet s`          | line breaks and comments do not change the state |
| `Closed rest`            | the text goes on with something that ends a value |

A bare value is known to be complete only when the next token is read.  That
makes no difference: if the text goes on with something that ends a value,
reading on with the value pending is reading on with the value in its place
(`run_words`).
-/
import OrderDesk.Proofs.Toml.Strings
import OrderDesk.Proofs.Toml.Words

namespace OrderDesk.Toml

/-! ## Reading on -/

/-- Reads the tokens of a text, from a state. -/
def run (start : Nat) (gap text : List Char) (s : State) : Except Fault State :=
  (tokensFrom start gap text).foldlM State.step s

/-- The same lines, the same open brackets, and the same is due. -/
structure State.Like (s s' : State) : Prop where
  lines : s'.lines = s.lines
  frames : s'.frames = s.frames
  mode : s'.mode = s.mode

theorem State.Like.refl (s : State) : s.Like s := ⟨rfl, rfl, rfl⟩

theorem State.Like.trans {s s' s'' : State} (h : s.Like s') (h' : s'.Like s'') : s.Like s'' :=
  ⟨h'.lines.trans h.lines, h'.frames.trans h.frames, h'.mode.trans h.mode⟩

/-- Behind `text`, in front of `rest`, the state is as `P` says. -/
def Reaches (s : State) (text : List Char) (P : State → Prop) (rest : List Char) : Prop :=
  ∀ start gap, ∃ start' gap' s', P s' ∧ run start gap (text ++ rest) s = run start' gap' rest s'

namespace Reaches

variable {s : State} {a b text rest : List Char} {P Q : State → Prop}

theorem nil (h : P s) : Reaches s [] P rest := fun start gap => ⟨start, gap, s, h, rfl⟩

/-- Two pieces are read one behind the other. -/
theorem append (ha : Reaches s a P (b ++ rest)) (hb : ∀ s', P s' → Reaches s' b Q rest) :
    Reaches s (a ++ b) Q rest := by
  intro start gap
  obtain ⟨start', gap', s', hs', hrun⟩ := ha start gap
  obtain ⟨start'', gap'', s'', hs'', hrun'⟩ := hb s' hs' start' gap'
  refine ⟨start'', gap'', s'', hs'', ?_⟩
  rw [List.append_assoc, hrun, hrun']

theorem mono (h : Reaches s text P rest) (hPQ : ∀ s', P s' → Q s') : Reaches s text Q rest := by
  intro start gap
  obtain ⟨start', gap', s', hs', hrun⟩ := h start gap
  exact ⟨start', gap', s', hPQ s' hs', hrun⟩

end Reaches

section Tokens

variable {s s' : State} {kind : Kind} {text rest : List Char}

/-- A token that the grammar lets pass. -/
theorem step_like {t : Token} (hgrammar : s.grammar t = .ok s') (hcheck : t.check = .ok ()) :
    ∃ s'', s.step t = .ok s'' ∧ s'.Like s'' := by
  refine ⟨_, bind_eq_ok.mpr ⟨s', hgrammar, bind_eq_ok.mpr ⟨(), hcheck, rfl⟩⟩, ?_⟩
  split
  · exact ⟨rfl, rfl, rfl⟩
  · exact .refl s'

theorem lexes_dot (rest : List Char) : Lexes ['.'] .dot rest := ⟨_, _, rfl, rfl⟩

theorem lexes_equals (rest : List Char) : Lexes ['='] .equals rest := ⟨_, _, rfl, rfl⟩

theorem lexes_comma (rest : List Char) : Lexes [','] .comma rest := ⟨_, _, rfl, rfl⟩

theorem lexes_openBracket (rest : List Char) : Lexes ['['] .openBracket rest := ⟨_, _, rfl, rfl⟩

theorem lexes_closeBracket (rest : List Char) : Lexes [']'] .closeBracket rest :=
  ⟨_, _, rfl, rfl⟩

theorem lexes_openBrace (rest : List Char) : Lexes ['\x7b'] .openBrace rest := ⟨_, _, rfl, rfl⟩

theorem lexes_closeBrace (rest : List Char) : Lexes ['\x7d'] .closeBrace rest := ⟨_, _, rfl, rfl⟩

theorem run_token (hlex : Lexes text kind rest) (hkind : kind ≠ .blank) {start : Nat}
    {gap : List Char} (hstep : s.step ⟨kind, gap, text, start⟩ = .ok s') :
    run start gap (text ++ rest) s = run (start + width text) [] rest s' := by
  rw [run, hlex.tokensFrom_eq hkind, List.foldlM_cons, hstep]
  rfl

/-- Only comments and line breaks can be refused for what they look like. -/
theorem check_eq {t : Token} (hcomment : t.kind ≠ .comment) (hnewline : t.kind ≠ .newline) :
    t.check = .ok () := by
  rw [Token.check]
  split
  · exact absurd ‹_› hcomment
  · exact absurd ‹_› hnewline
  · rfl

/-- One token is read. -/
theorem Reaches.token {P : State → Prop} (hlex : Lexes text kind rest) (hkind : kind ≠ .blank)
    (hcheck : ∀ gap start, Token.check ⟨kind, gap, text, start⟩ = .ok ())
    (hgrammar : ∀ gap start, ∃ s', s.grammar ⟨kind, gap, text, start⟩ = .ok s' ∧
      ∀ s'', s'.Like s'' → P s'') : Reaches s text P rest := by
  intro start gap
  obtain ⟨s', hs', hP⟩ := hgrammar gap start
  obtain ⟨s'', hstep, hlike⟩ := step_like hs' (hcheck gap start)
  exact ⟨_, _, s'', hP s'' hlike, run_token hlex hkind hstep⟩

/-- A sign is read, and what is behind it. -/
theorem Reaches.sign {c : Char} {kind : Kind} {b : List Char} {Q : State → Prop}
    (hlex : Lexes [c] kind (b ++ rest))
    (hkind : kind ≠ .blank ∧ kind ≠ .comment ∧ kind ≠ .newline)
    (h : ∀ t : Token, t.kind = kind →
      ∃ s', s.grammar t = .ok s' ∧ ∀ s'', s'.Like s'' → Reaches s'' b Q rest) :
    Reaches s (c :: b) Q rest := by
  have hsign : Reaches s [c] (fun s'' => Reaches s'' b Q rest) (b ++ rest) :=
    .token hlex hkind.1 (fun gap start => check_eq hkind.2.1 hkind.2.2)
      (fun gap start => h _ rfl)
  exact hsign.append fun _ h => h

end Tokens

/-! ## Blanks, line breaks and comments -/

section Fillers

variable {s : State} {a rest : List Char}

/-- Not a blank comes next. -/
def Tight (rest : List Char) : Prop := ∀ c ∈ rest.head?, isBlank c = false

theorem Tight.append {t : List Char} (h : Tight t) (hne : t ≠ []) (rest : List Char) :
    Tight (t ++ rest) := by
  intro c hc
  rw [List.head?_append_of_ne_nil _ hne] at hc
  exact h c hc

theorem tight_cons {c : Char} (h : isBlank c = false) (rest : List Char) : Tight (c :: rest) := by
  rintro d ⟨⟩
  exact h

/-- Blanks are part of the token behind them. -/
theorem tokensFrom_blanks (ha : Blanks a) (hrest : Tight rest) (start : Nat) (gap : List Char) :
    ∃ start' gap', tokensFrom start gap (a ++ rest) = tokensFrom start' gap' rest := by
  cases a with
  | nil => exact ⟨start, gap, rfl⟩
  | cons c a =>
      have hblanks := (List.forall_mem_cons.mp (isBlank_of_blanks ha)).2
      have hrun : runLength isBlank (a ++ rest) = a.length := runLength_append hblanks hrest
      have hlex : Lexes (c :: a) .blank rest := by
        refine ⟨c, a, rfl, ?_⟩
        rcases ha c List.mem_cons_self with rfl | rfl
        · exact congrArg (Prod.mk Kind.blank) hrun
        · exact congrArg (Prod.mk Kind.blank) hrun
      exact ⟨_, _, hlex.tokensFrom_blank start gap⟩

theorem Reaches.blanks (ha : Blanks a) (hrest : Tight rest) : Reaches s a (s = ·) rest := by
  intro start gap
  obtain ⟨start', gap', htokens⟩ := tokensFrom_blanks ha hrest start gap
  exact ⟨start', gap', s, rfl, congrArg (·.foldlM State.step s) htokens⟩

theorem lexes_break {b : List Char} (hb : LineBreak b) (rest : List Char) :
    Lexes b .newline rest := by
  cases hb with
  | feed => exact lexes_newline rest
  | pair => exact ⟨_, _, rfl, rfl⟩

theorem check_break {b : List Char} (hb : LineBreak b) (gap : List Char) (start : Nat) :
    Token.check ⟨.newline, gap, b, start⟩ = .ok () := by
  cases hb with
  | feed => rfl
  | pair => rfl

/-- Only a line break or the end of the text ends a comment. -/
def EndsLine (rest : List Char) : Prop := ∀ c ∈ rest.head?, c = '\r' ∨ c = '\n'

theorem lexes_comment {t : List Char} (ht : ∀ c ∈ t, isControl c = false)
    (hrest : EndsLine rest) : Lexes ('#' :: t) .comment rest := by
  have hrun : runLength (fun d => d != '\r' && d != '\n') (t ++ rest) = t.length := by
    refine runLength_append ?_ ?_
    · intro c hc
      have hreturn : c ≠ '\r' := by
        rintro rfl
        cases ht _ hc
      have hfeed : c ≠ '\n' := by
        rintro rfl
        cases ht _ hc
      simp [hreturn, hfeed]
    · intro c hc
      rcases hrest c hc with rfl | rfl
      · rfl
      · rfl
  exact ⟨'#', t, rfl, congrArg (Prod.mk Kind.comment) hrun⟩

theorem check_comment {t : List Char} (ht : ∀ c ∈ t, isControl c = false) (gap : List Char)
    (start : Nat) : Token.check ⟨.comment, gap, '#' :: t, start⟩ = .ok () := by
  have hany : ('#' :: t).any isControl = false := by
    rw [List.any_cons]
    exact List.any_eq_false.mpr fun c hc => Bool.eq_false_iff.mp (ht c hc)
  simp [Token.check, hany]

/-- Line breaks and comments do not change the state. -/
def State.Quiet (s : State) : Prop :=
  s.mode = .element ∨ s.mode = .member ∨ (s.mode = .after ∧ s.frames ≠ [])

theorem State.Quiet.grammar (h : s.Quiet) {t : Token}
    (ht : t.kind = .newline ∨ t.kind = .comment) : s.grammar t = .ok s := by
  obtain ⟨lines, frames, mode, last⟩ := s
  rcases h with rfl | rfl | ⟨rfl, hframes⟩
  · rcases ht with ht | ht
    · simp [State.grammar, State.elementStep, ht]
    · simp [State.grammar, State.elementStep, ht]
  · rcases ht with ht | ht
    · simp [State.grammar, State.memberStep, ht]
    · simp [State.grammar, State.memberStep, ht]
  · obtain ⟨f, outer, rfl⟩ := List.exists_cons_of_ne_nil hframes
    rcases ht with ht | ht
    · simp [State.grammar, State.afterStep, ht]
    · simp [State.grammar, State.afterStep, ht]

/-- Reading a comment or a line break in a quiet state leads to this state. -/
theorem State.Quiet.step (h : s.Quiet) {t : Token} (ht : t.kind = .newline ∨ t.kind = .comment)
    (hcheck : t.check = .ok ()) : s.step t = .ok s := by
  have hspeaks : t.kind.speaks = false := by
    rcases ht with ht | ht
    · rw [ht]
      rfl
    · rw [ht]
      rfl
  refine bind_eq_ok.mpr ⟨s, h.grammar ht, bind_eq_ok.mpr ⟨(), hcheck, ?_⟩⟩
  rw [hspeaks]
  rfl

theorem endsLine_break {b : List Char} (hb : LineBreak b) (rest : List Char) :
    EndsLine (b ++ rest) := by
  cases hb with
  | feed =>
      rintro c ⟨⟩
      exact .inr rfl
  | pair =>
      rintro c ⟨⟩
      exact .inl rfl

/-- What ends a line, with a comment in front of it perhaps, is no blank. -/
theorem tight_remark {r : List Char} (hr : Remark r) (hrest : EndsLine rest) :
    Tight (r ++ rest) := by
  cases hr with
  | comment => exact tight_cons rfl _
  | none =>
      intro c hc
      rcases hrest c hc with rfl | rfl
      · rfl
      · rfl

theorem Reaches.quiet_break {b : List Char} (h : s.Quiet) (hb : LineBreak b) :
    Reaches s b (s = ·) rest := by
  intro start gap
  have hstep := h.step (.inl rfl) (check_break hb gap start)
  exact ⟨_, _, s, rfl, run_token (lexes_break hb rest) (by decide) hstep⟩

theorem Reaches.quiet_remark {r : List Char} (h : s.Quiet) (hr : Remark r)
    (hrest : EndsLine rest) : Reaches s r (s = ·) rest := by
  cases hr with
  | none => exact .nil rfl
  | comment ht =>
      intro start gap
      have hstep := h.step (.inr rfl) (check_comment ht gap start)
      exact ⟨_, _, s, rfl, run_token (lexes_comment ht hrest) (by decide) hstep⟩

/-- Between brackets fillers are passed over. -/
theorem Reaches.filler {f : List Char} (h : s.Quiet) (hf : Filler f) (hrest : Tight rest) :
    Reaches s f (s = ·) rest := by
  induction hf with
  | blanks ha => exact .blanks ha hrest
  | @line a r b f ha hr hb _ ih =>
      have hends : EndsLine (b ++ (f ++ rest)) := endsLine_break hb _
      refine (Reaches.blanks ha ?_).append ?_
      · rw [List.append_assoc, List.append_assoc]
        exact tight_remark hr hends
      rintro _ rfl
      refine (Reaches.quiet_remark h hr ?_).append ?_
      · rw [List.append_assoc]
        exact hends
      rintro _ rfl
      refine (Reaches.quiet_break h hb).append ?_
      rintro _ rfl
      exact ih

end Fillers

/-! ## Bare values -/

section Words

variable {s : State} {t rest : List Char} {l : Lexeme}

/-- The text goes on with something that ends bare words. -/
def EndsWord (rest : List Char) : Prop := ∀ c ∈ rest.head?, endsBare c = true

theorem first_word {c : Char} (hends : endsBare c = false) (hdouble : c ≠ '"') (hsingle : c ≠ '\'')
    (rest : List Char) : first c rest = (.bare, runLength (fun d => !endsBare d) rest) := by
  have hne : ∀ d, endsBare d = true → c ≠ d := by
    rintro d hd rfl
    cases hends.symm.trans hd
  have hblank : isBlank c = false := by
    simp [isBlank, hne ' ' (by decide), hne '\t' (by decide)]
  simp [first, hblank, hdouble, hsingle, hne '.' (by decide), hne '=' (by decide),
    hne ',' (by decide), hne '[' (by decide), hne ']' (by decide), hne '\x7b' (by decide),
    hne '\x7d' (by decide), hne '#' (by decide), hne '\n' (by decide), hne '\r' (by decide)]

/-- Signs of words that do not begin with a point begin with a bare word, up to
the next point. -/
theorem Wordy.lexes {c : Char} (ht : Wordy (c :: t)) (hc : c ≠ '.') (hrest : EndsWord rest) :
    ∃ a b, c :: t = a ++ b ∧ Wordy b ∧ b.length < (c :: t).length ∧ Lexes a .bare (b ++ rest) := by
  obtain ⟨hfirst, ht⟩ := List.forall_mem_cons.mp ht
  obtain ⟨hends, hdouble, hsingle⟩ := hfirst.resolve_left hc
  refine ⟨c :: t.takeWhile (fun d => !endsBare d), t.dropWhile (fun d => !endsBare d), ?_, ?_, ?_,
    ?_⟩
  · rw [List.cons_append, List.takeWhile_append_dropWhile]
  · intro d hd
    exact ht d (List.dropWhile_subset _ hd)
  · exact Nat.lt_succ_of_le (List.dropWhile_sublist _).length_le
  · refine ⟨c, _, rfl, ?_⟩
    rw [first_word hends hdouble hsingle, runLength_append]
    · exact fun d hd => List.all_eq_true.mp List.all_takeWhile d hd
    · intro d hd
      cases hdrop : t.dropWhile (fun d => !endsBare d) with
      | nil =>
          rw [hdrop] at hd
          rw [hrest d hd, Bool.not_true]
      | cons e u =>
          rw [hdrop] at hd
          obtain rfl : e = d := Option.some.inj hd
          have hnot := List.head_dropWhile_not (fun d => !endsBare d) (l := t)
            (by rw [hdrop]; exact List.cons_ne_nil e u)
          simpa [hdrop] using hnot

theorem check_word {kind : Kind} (h : kind = .bare ∨ kind = .dot) (gap a : List Char)
    (start : Nat) : Token.check ⟨kind, gap, a, start⟩ = .ok () ∧ kind ≠ .blank := by
  rcases h with rfl | rfl
  · exact ⟨rfl, by decide⟩
  · exact ⟨rfl, by decide⟩

theorem Wordy.tight (ht : Wordy t) : Tight t := by
  intro c hc
  rw [Bool.eq_false_iff]
  intro hblank
  have hsign : c = ' ' ∨ c = '\t' := by simpa [isBlank] using hblank
  rcases hsign with rfl | rfl
  · rcases ht _ (List.mem_of_mem_head? hc) with h | ⟨h, -⟩
    · cases h
    · cases h
  · rcases ht _ (List.mem_of_mem_head? hc) with h | ⟨h, -⟩
    · cases h
    · cases h

/-- A value that goes on with more signs of words. -/
theorem run_tail (ht : Wordy t) (hrest : EndsWord rest) (hmode : s.mode = .words l) (start : Nat) :
    ∃ start' s', ({ s with mode := .words { l with text := l.text ++ t } } : State).Like s' ∧
      run start [] (t ++ rest) s = run start' [] rest s' := by
  induction hn : t.length using Nat.strong_induction_on generalizing t s l start with
  | _ n ih =>
      subst hn
      -- A token in front, whatever it is, is taken into the value.
      have hfront : ∀ {a b kind}, t = a ++ b → Wordy b → b.length < t.length →
          Lexes a kind (b ++ rest) → kind = .bare ∨ kind = .dot →
          ∃ start' s', ({ s with mode := .words { l with text := l.text ++ t } } : State).Like s' ∧
            run start [] (t ++ rest) s = run start' [] rest s' := by
        rintro a b kind rfl hb hlength hlex hkind
        have hgrammar : s.grammar ⟨kind, [], a, start⟩ =
            .ok { s with mode := .words { l with text := l.text ++ a } } := by
          rw [State.grammar, hmode]
          simp only [State.wordsStep]
          rw [if_pos, List.append_nil]
          rcases hkind with rfl | rfl
          · exact .inl rfl
          · exact .inr ⟨rfl, trivial⟩
        obtain ⟨hcheck, hnotBlank⟩ := check_word hkind [] a start
        obtain ⟨s₁, hstep, hlike⟩ := step_like hgrammar hcheck
        obtain ⟨start', s', hs', hrun⟩ := ih b.length hlength hb hlike.mode (start + width a) rfl
        refine ⟨start', s', ⟨hs'.lines.trans hlike.lines, hs'.frames.trans hlike.frames, ?_⟩, ?_⟩
        · rw [hs'.mode, List.append_assoc]
        · rw [List.append_assoc, run_token hlex hnotBlank hstep, hrun]
      match t, ht with
      | [], _ =>
          refine ⟨start, s, ⟨rfl, rfl, ?_⟩, rfl⟩
          rw [hmode, List.append_nil]
      | c :: t, ht =>
          by_cases hc : c = '.'
          · subst hc
            exact hfront (List.singleton_append.symm) (List.forall_mem_cons.mp ht).2
              (Nat.lt_succ_self _) (lexes_dot _) (.inr rfl)
          · obtain ⟨a, b, heq, hb, hlength, hlex⟩ := ht.lexes hc hrest
            exact hfront heq hb hlength hlex (.inl rfl)

/-- A value is due. -/
def State.Awaits (s : State) : Prop := s.mode = .value ∨ s.mode = .element

/-- What can begin a value, begins one. -/
theorem State.Awaits.grammar (h : s.Awaits) {t : Token}
    (ht : t.kind = .bare ∨ t.kind = .dot ∨ (∃ q, t.kind = .quoted q) ∨ t.kind = .openBracket ∨
      t.kind = .openBrace) : s.grammar t = s.begin t := by
  obtain ⟨lines, frames, mode, last⟩ := s
  rcases h with rfl | rfl
  · rcases ht with ht | ht | ⟨q, ht⟩ | ht | ht
    all_goals simp [State.grammar, State.valueStep, ht]
  · rcases ht with ht | ht | ⟨q, ht⟩ | ht | ht
    all_goals simp [State.grammar, State.elementStep, ht]

/-- A bare value with no blank in it is pending when its signs are read. -/
theorem run_front (hne : t ≠ []) (ht : Wordy t) (hrest : EndsWord rest) (h : s.Awaits)
    (start : Nat) (gap : List Char) :
    ∃ start' s' place, ({ s with mode := .words ⟨none, t, place⟩ } : State).Like s' ∧
      run start gap (t ++ rest) s = run start' [] rest s' := by
  have hfront : ∀ {a b kind}, t = a ++ b → Wordy b → Lexes a kind (b ++ rest) →
      kind = .bare ∨ kind = .dot →
      ∃ start' s' place, ({ s with mode := .words ⟨none, t, place⟩ } : State).Like s' ∧
        run start gap (t ++ rest) s = run start' [] rest s' := by
    rintro a b kind rfl hb hlex hkind
    have hgrammar : s.grammar ⟨kind, gap, a, start⟩ =
        .ok { s with mode := .words ⟨none, a, start⟩ } := by
      rcases hkind with rfl | rfl
      · rw [h.grammar (.inl rfl)]
        rfl
      · rw [h.grammar (.inr (.inl rfl))]
        rfl
    obtain ⟨hcheck, hnotBlank⟩ := check_word hkind gap a start
    obtain ⟨s₁, hstep, hlike⟩ := step_like hgrammar hcheck
    obtain ⟨start', s', hs', hrun⟩ := run_tail hb hrest hlike.mode (start + width a)
    refine ⟨start', s', start,
      ⟨hs'.lines.trans hlike.lines, hs'.frames.trans hlike.frames, hs'.mode⟩, ?_⟩
    rw [List.append_assoc, run_token hlex hnotBlank hstep, hrun]
  obtain ⟨c, u, rfl⟩ := List.exists_cons_of_ne_nil hne
  by_cases hc : c = '.'
  · subst hc
    exact hfront List.singleton_append.symm (List.forall_mem_cons.mp ht).2 (lexes_dot _) (.inr rfl)
  · obtain ⟨a, b, heq, hb, -, hlex⟩ := ht.lexes hc hrest
    exact hfront heq hb hlex (.inl rfl)

/-- A bare value is pending when it is read. -/
theorem run_words (ht : Spaced t) (hrest : EndsWord rest) (h : s.Awaits) (start : Nat)
    (gap : List Char) :
    ∃ start' s' place, ({ s with mode := .words ⟨none, t, place⟩ } : State).Like s' ∧
      run start gap (t ++ rest) s = run start' [] rest s' := by
  cases ht with
  | one hne ht => exact run_front hne ht hrest h start gap
  | @two a b ha hwordy hb hpoint ht =>
      obtain ⟨c, u, rfl⟩ := List.exists_cons_of_ne_nil hb
      have hc : c ≠ '.' := fun heq => hpoint (congrArg some heq)
      have hblank : EndsWord (' ' :: (c :: u ++ rest)) := by
        rintro d ⟨⟩
        rfl
      obtain ⟨start₁, s₁, place, hs₁, hrun₁⟩ := run_front ha hwordy hblank h start gap
      obtain ⟨a', b', heq, hb', -, hlex⟩ := ht.lexes hc hrest
      have hgrammar : s₁.grammar ⟨.bare, [' '], a', start₁ + 1⟩ =
          .ok { s₁ with mode := .words ⟨none, a ++ [' '] ++ a', place⟩ } := by
        rw [State.grammar, hs₁.mode]
        exact if_pos (.inl rfl)
      obtain ⟨s₂, hstep, hlike⟩ := step_like hgrammar rfl
      obtain ⟨start', s', hs', hrun⟩ := run_tail hb' hrest hlike.mode (start₁ + 1 + width a')
      refine ⟨start', s', place, ⟨?_, ?_, ?_⟩, ?_⟩
      · exact hs'.lines.trans (hlike.lines.trans hs₁.lines)
      · exact hs'.frames.trans (hlike.frames.trans hs₁.frames)
      · rw [hs'.mode, heq]
        simp
      · have hgap : run start₁ [] (' ' :: (c :: u ++ rest)) s₁ =
            run (start₁ + 1) [' '] (a' ++ (b' ++ rest)) s₁ := by
          have htight := ht.tight.append hb rest
          rw [← List.append_assoc, ← heq]
          exact congrArg (·.foldlM State.step s₁)
            ((lexes_blank htight).tokensFrom_blank start₁ [])
        rw [List.append_assoc, List.cons_append, hrun₁, hgap, run_token hlex (by decide) hstep,
          hrun]

/-- The text goes on, behind blanks, with something that ends a value. -/
def Closed (rest : List Char) : Prop :=
  ∃ a u, rest = a ++ u ∧ Blanks a ∧ ∀ c ∈ u.head?, c ∈ ",]\x7d#\n\r".toList

/-- Behind a bare value stands no point, no word and nothing that begins a
value. -/
theorem Closed.tokens (h : Closed rest) (start : Nat) (gap : List Char) :
    ∃ t ts, tokensFrom start gap rest = t :: ts ∧ t.kind ≠ .bare ∧ t.kind ≠ .dot := by
  obtain ⟨a, u, rfl, ha, hu⟩ := h
  have htight : Tight u := by
    intro c hc
    exact Bool.eq_false_iff.mpr (List.any_eq_false.mp
      (show ",]\x7d#\n\r".toList.any isBlank = false by decide) c (hu c hc))
  obtain ⟨start', gap', htokens⟩ := tokensFrom_blanks ha htight start gap
  rw [htokens]
  have hends : ∀ k ∈ [Kind.finish, .comma, .closeBracket, .closeBrace, .comment, .newline],
      k ≠ .bare ∧ k ≠ .dot ∧ k ≠ .blank := by decide
  cases u with
  | nil =>
      obtain ⟨hbare, hdot, -⟩ := hends .finish List.mem_cons_self
      exact ⟨⟨.finish, gap', [], start'⟩, [], by rw [tokensFrom], hbare, hdot⟩
  | cons c u =>
      have hkind : (first c u).1 ≠ .bare ∧ (first c u).1 ≠ .dot ∧ (first c u).1 ≠ .blank := by
        have hc : c = ',' ∨ c = ']' ∨ c = '\x7d' ∨ c = '#' ∨ c = '\n' ∨ c = '\r' := by
          simpa using hu c rfl
        refine hends _ ?_
        rcases hc with rfl | rfl | rfl | rfl | rfl | rfl
        all_goals exact List.mem_of_elem_eq_true rfl
      have hcons := tokensFrom.eq_2 start' gap' c u
      simp only [if_neg hkind.2.2] at hcons
      exact ⟨_, _, hcons, hkind.1, hkind.2.1⟩

theorem State.mode_plug (s : State) (n : Node) : (s.plug n).mode = .after := by
  rw [State.plug]
  split <;> rfl

/-- If the text goes on with something that ends a value, it makes no difference
whether the value is pending or in its place. -/
theorem run_pending (h : Closed rest) (hmode : s.mode = .words l) (start : Nat)
    (gap : List Char) : run start gap rest s = run start gap rest (s.plug (.scalar l)) := by
  obtain ⟨t, ts, htokens, hbare, hdot⟩ := h.tokens start gap
  have hgrammar : s.grammar t = (s.plug (.scalar l)).grammar t := by
    rw [State.grammar, hmode, State.grammar, State.mode_plug]
    exact if_neg (not_or.mpr ⟨hbare, fun hd => hdot hd.1⟩)
  rw [run, run, htokens, List.foldlM_cons, List.foldlM_cons, State.step, State.step, hgrammar]

theorem Closed.endsWord (h : Closed rest) : EndsWord rest := by
  obtain ⟨a, u, rfl, ha, hu⟩ := h
  cases a with
  | nil =>
      have hends : ",]\x7d#\n\r".toList.all endsBare = true := by decide
      exact fun c hc => List.all_eq_true.mp hends c (hu c hc)
  | cons c a =>
      rintro d ⟨⟩
      rcases ha c List.mem_cons_self with rfl | rfl
      · rfl
      · rfl

/-- A value finds its place whatever is due. -/
theorem State.plug_like {s' : State} (hlines : s'.lines = s.lines) (hframes : s'.frames = s.frames)
    (n : Node) : (s.plug n).Like (s'.plug n) := by
  obtain ⟨lines, frames, mode, last⟩ := s
  obtain ⟨lines', frames', mode', last'⟩ := s'
  obtain rfl : lines' = lines := hlines
  obtain rfl : frames' = frames := hframes
  cases frames' with
  | nil => exact ⟨rfl, rfl, rfl⟩
  | cons f outer =>
      cases f with
      | line => exact ⟨rfl, rfl, rfl⟩
      | array => exact ⟨rfl, rfl, rfl⟩
      | table => exact ⟨rfl, rfl, rfl⟩

/-- So do keys. -/
theorem State.assign_like {s' : State} (hlines : s'.lines = s.lines)
    (hframes : s'.frames = s.frames) (ls : List Lexeme) : (s.assign ls).Like (s'.assign ls) := by
  obtain ⟨lines, frames, mode, last⟩ := s
  obtain ⟨lines', frames', mode', last'⟩ := s'
  obtain rfl : lines' = lines := hlines
  obtain rfl : frames' = frames := hframes
  cases frames' with
  | nil => exact ⟨rfl, rfl, rfl⟩
  | cons f outer =>
      cases f with
      | line => exact ⟨rfl, rfl, rfl⟩
      | array => exact ⟨rfl, rfl, rfl⟩
      | table => exact ⟨rfl, rfl, rfl⟩

theorem State.mode_assign (s : State) (ls : List Lexeme) : (s.assign ls).mode = .value := by
  rw [State.assign]
  split <;> rfl

/-- A bare value is put in its place. -/
theorem Reaches.word {scalar : Scalar} (ht : Word scalar t) (hrest : Closed rest)
    (h : s.Awaits) :
    Reaches s t (fun s' => ∃ l, scalarText l.quotes l.text = .ok scalar ∧
      (s.plug (.scalar l)).Like s') rest := by
  intro start gap
  obtain ⟨start', s', place, hs', hrun⟩ :=
    run_words (word_spaced ht) hrest.endsWord h start gap
  have hpending := run_pending hrest hs'.mode start' []
  refine ⟨start', [], _, ⟨⟨none, t, place⟩, bareText_word ht, ?_⟩, hrun.trans hpending⟩
  exact State.plug_like hs'.lines hs'.frames _

end Words

end OrderDesk.Toml
