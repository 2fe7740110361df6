/-
# `Proofs.Toml.Parsing` — documents are read as their clauses

What was read on a line means a clause if its keys are the names of the
clause, and its value is the item (`Line.Means`).  Every document of the
grammar is read, and what it is read as means its clauses, one by one
(`parse_written`): neither blanks, comments and empty lines nor the spelling of
keys and values make a difference.

Between lines nothing is open (`State.Idle`), so a line can be read
without the lines around it, and a document line by line.
-/
import Mathlib.Data.List.Forall2
import OrderDesk.Proofs.Toml.Reading

namespace OrderDesk.Toml

/-- What was read on a line is this clause. -/
inductive Line.Means : Line → Clause → Prop
  | header {array : Bool} {span : Span} {ls : List Lexeme} {path : List String} : Names ls path →
      Means (.header array span ls) (.header array path)
  | member {ls : List Lexeme} {n : Node} {path : List String} {i : Item} : Names ls path →
      n.Means i → Means (.member ls n) (.member path i)

section Lines

variable {s s' : State} {t rest : List Char} {path : List String}

/-- Nothing is open, and a line is due or has been read. -/
structure State.Idle (s : State) : Prop where
  frames : s.frames = []
  mode : s.mode = .line ∨ s.mode = .after

theorem State.Idle.like (h : s.Idle) (hs' : s.Like s') : s'.Idle :=
  ⟨hs'.frames.trans h.frames, h.mode.imp hs'.mode.trans hs'.mode.trans⟩

theorem State.Idle.grammar_comment (h : s.Idle) {token : Token} (ht : token.kind = .comment) :
    s.grammar token = .ok s := by
  rw [State.grammar]
  rcases h.mode with hmode | hmode
  · simp [hmode, State.lineStep, ht]
  · simp [hmode, State.afterStep, ht]

theorem State.Idle.grammar_newline (h : s.Idle) {token : Token} (ht : token.kind = .newline) :
    s.grammar token = .ok { s with mode := .line } := by
  obtain ⟨lines, frames, mode, last⟩ := s
  obtain rfl : frames = [] := h.frames
  rcases h.mode with rfl | rfl
  · simp [State.grammar, State.lineStep, ht]
  · simp [State.grammar, State.afterStep, ht]

theorem State.Idle.grammar_finish (h : s.Idle) {token : Token} (ht : token.kind = .finish) :
    s.grammar token = .ok s := by
  rw [State.grammar]
  rcases h.mode with hmode | hmode
  · simp [hmode, State.lineStep, ht]
  · simp [hmode, State.afterStep, h.frames, ht]

/-- Blanks and a comment may stand at the end of a line. -/
theorem Reaches.ending {b r : List Char} (h : s.Idle) (hb : Blanks b) (hr : Remark r)
    (hrest : EndsLine rest) : Reaches s (b ++ r) (s.Like ·) rest := by
  refine (Reaches.blanks hb (tight_remark hr hrest)).append ?_
  rintro _ rfl
  cases hr with
  | none => exact .nil (.refl s)
  | comment ht =>
      refine .token (lexes_comment ht hrest) (by decide) (check_comment ht) ?_
      exact fun gap start => ⟨s, h.grammar_comment rfl, fun s' hs' => hs'⟩

/-- So does a line break. -/
theorem Reaches.lineBreak {b : List Char} (h : s.Idle) (hb : LineBreak b) :
    Reaches s b (({ s with mode := .line } : State).Like ·) rest := by
  refine .token (lexes_break hb rest) (by decide) (check_break hb) ?_
  exact fun gap start => ⟨_, h.grammar_newline rfl, fun s' hs' => hs'⟩

/-- A sign that stands twice, with nothing between. -/
theorem Reaches.twice {c : Char} {kind : Kind} {b : List Char} {Q : State → Prop}
    (hlex : ∀ u, Lexes [c] kind u)
    (hkind : kind ≠ .blank ∧ kind ≠ .comment ∧ kind ≠ .newline)
    (h : ∀ t t' : Token, t.kind = kind → t'.kind = kind → t'.gap = [] →
      ∃ s₁, s.grammar t = .ok s₁ ∧ ∀ s₁', s₁.Like s₁' → ∃ s₂, s₁'.grammar t' = .ok s₂ ∧
        ∀ s₂', s₂.Like s₂' → Reaches s₂' b Q rest) :
    Reaches s (c :: c :: b) Q rest := by
  intro start gap
  have hcheck : ∀ {t : Token}, t.kind = kind → t.check = .ok () := by
    rintro t rfl
    exact check_eq hkind.2.1 hkind.2.2
  obtain ⟨s₁, hs₁, h⟩ := h ⟨kind, gap, [c], start⟩ ⟨kind, [], [c], start + width [c]⟩ rfl rfl rfl
  obtain ⟨s₁', hstep₁, hlike₁⟩ := step_like hs₁ (hcheck rfl)
  obtain ⟨s₂, hs₂, h⟩ := h s₁' hlike₁
  obtain ⟨s₂', hstep₂, hlike₂⟩ := step_like hs₂ (hcheck rfl)
  obtain ⟨start', gap', s', hs', hrun⟩ := h s₂' hlike₂ (start + width [c] + width [c]) []
  refine ⟨start', gap', s', hs', ?_⟩
  rw [← hrun]
  exact (run_token (hlex _) hkind.1 hstep₁).trans (run_token (hlex _) hkind.1 hstep₂)

/-- The keys of a header are gathered. -/
theorem Reaches.headerKeys {array : Bool} {start : Nat} (h : WrittenHeader path t)
    (hmode : s.mode = .header array start [] true) :
    Reaches s t (fun s' => ∃ ls, Names ls path ∧
      ({ s with mode := .header array start ls false } : State).Like s') (']' :: rest) := by
  cases h with
  | mk ha hpath hb =>
      have hgathers := gathers_header array start
      refine (Reaches.blanks ha ?_).append ?_
      · rw [List.append_assoc]
        exact hpath.begins.tight _
      rintro _ rfl
      refine (Reaches.path hgathers hpath (hgathers.key hmode) ?_).append ?_
      · exact endsWord_blanks hb (endsWord_cons rfl _)
      rintro s₁ ⟨ls, hls, hs₁⟩
      refine (Reaches.blanks hb (tight_cons rfl _)).mono ?_
      rintro _ rfl
      exact ⟨ls, ⟨hls, hpath.ne_nil⟩, hs₁⟩

/-- These clauses have been read. -/
structure State.Hears (s : State) (cs : List Clause) (s' : State) : Prop where
  idle : s'.Idle
  lines : ∃ ls, List.Forall₂ Line.Means ls cs ∧ s'.lines = ls.reverse ++ s.lines

theorem hears_one {l : Line} {c : Clause} (hl : l.Means c) (hlines : s'.lines = l :: s.lines)
    (hframes : s'.frames = []) (hmode : s'.mode = .after) : s.Hears [c] s' :=
  ⟨⟨hframes, .inr hmode⟩, [l], .cons hl .nil, hlines⟩

theorem State.Hears.like {cs : List Clause} {s'' : State} (h : s.Hears cs s')
    (hs'' : s'.Like s'') : s.Hears cs s'' := by
  obtain ⟨ls, hls, hlines⟩ := h.lines
  exact ⟨h.idle.like hs'', ls, hls, hs''.lines.trans hlines⟩

theorem State.Hears.ending {cs : List Clause} {b r : List Char} (h : s.Hears cs s')
    (hb : Blanks b) (hr : Remark r) (hrest : EndsLine rest) :
    Reaches s' (b ++ r) (s.Hears cs) rest :=
  (Reaches.ending h.idle hb hr hrest).mono fun _ hs'' => h.like hs''

/-- What may stand at the end of a line ends a value. -/
theorem closed_ending {b r : List Char} (hb : Blanks b) (hr : Remark r) (hrest : EndsLine rest) :
    Closed (b ++ (r ++ rest)) := by
  refine ⟨b, r ++ rest, rfl, hb, ?_⟩
  cases hr with
  | comment =>
      rintro c ⟨⟩
      decide
  | none =>
      intro c hc
      rcases hrest c hc with rfl | rfl
      · decide
      · decide

theorem grammar_openHeader {token : Token} (hmode : s.mode = .line)
    (ht : token.kind = .openBracket) :
    s.grammar token = .ok { s with mode := .header false token.start [] true } := by
  rw [State.grammar, hmode]
  simp only [State.lineStep, ht]

/-- A header is read up to its end. -/
theorem grammar_closeHeader {start : Nat} {ls : List Lexeme} {token : Token}
    (hmode : s.mode = .header false start ls false) (ht : token.kind = .closeBracket) :
    s.grammar token = .ok { s with
      lines := .header false ⟨start, token.span.stop⟩ ls :: s.lines, mode := .after } := by
  rw [State.grammar, hmode]
  simp [State.headerStep, ht]

/-- The second bracket of a header follows the first at once. -/
theorem grammar_openElement {start : Nat} {token : Token}
    (hmode : s.mode = .header false start [] true) (ht : token.kind = .openBracket)
    (hgap : token.gap = []) :
    s.grammar token = .ok { s with mode := .header true start [] true } := by
  rw [State.grammar, hmode]
  simp [State.headerStep, ht, hgap]

/-- At the end the first bracket awaits another one. -/
theorem grammar_closeElement {start : Nat} {ls : List Lexeme} {token : Token}
    (hmode : s.mode = .header true start ls false) (ht : token.kind = .closeBracket) :
    s.grammar token = .ok { s with mode := .bracket start ls } := by
  rw [State.grammar, hmode]
  simp [State.headerStep, ht]

theorem grammar_bracket {start : Nat} {ls : List Lexeme} {token : Token}
    (hmode : s.mode = .bracket start ls) (ht : token.kind = .closeBracket)
    (hgap : token.gap = []) :
    s.grammar token = .ok { s with
      lines := .header true ⟨start, token.span.stop⟩ ls :: s.lines, mode := .after } := by
  rw [State.grammar, hmode]
  exact if_pos ⟨ht, hgap⟩

section Statements

variable {a b r : List Char} (ha : Blanks a) (hb : Blanks b) (hr : Remark r)
  (hframes : s.frames = []) (hmode : s.mode = .line) (hrest : EndsLine rest)

include ha hb hr hframes hmode hrest

theorem Reaches.header (ht : WrittenHeader path t) :
    Reaches s (a ++ '[' :: (t ++ ']' :: (b ++ r))) (s.Hears [.header false path]) rest := by
  refine (Reaches.blanks ha (tight_cons rfl _)).append ?_
  rintro _ rfl
  refine .sign (lexes_openBracket _) (by decide) ?_
  intro opening hopening
  refine ⟨_, grammar_openHeader hmode hopening, ?_⟩
  intro s₁ hs₁
  refine (Reaches.headerKeys ht hs₁.mode).append ?_
  rintro s₂ ⟨ls, hls, hs₂⟩
  refine .sign (lexes_closeBracket _) (by decide) ?_
  intro closing hclosing
  refine ⟨_, grammar_closeHeader hs₂.mode hclosing, ?_⟩
  intro s₃ hs₃
  have hlines : s₃.lines = .header false ⟨opening.start, closing.span.stop⟩ ls :: s.lines := by
    rw [hs₃.lines, hs₂.lines, hs₁.lines]
  have hframes₃ := hs₃.frames.trans (hs₂.frames.trans (hs₁.frames.trans hframes))
  exact (hears_one (.header hls) hlines hframes₃ hs₃.mode).ending hb hr hrest

theorem Reaches.element (ht : WrittenHeader path t) :
    Reaches s (a ++ '[' :: '[' :: (t ++ ']' :: ']' :: (b ++ r))) (s.Hears [.header true path])
      rest := by
  refine (Reaches.blanks ha (tight_cons rfl _)).append ?_
  rintro _ rfl
  refine .twice lexes_openBracket (by decide) ?_
  intro first second hfirst hsecond hgap
  refine ⟨_, grammar_openHeader hmode hfirst, ?_⟩
  intro s₁ hs₁
  refine ⟨_, grammar_openElement hs₁.mode hsecond hgap, ?_⟩
  intro s₂ hs₂
  refine (Reaches.headerKeys ht hs₂.mode).append ?_
  rintro s₃ ⟨ls, hls, hs₃⟩
  refine .twice lexes_closeBracket (by decide) ?_
  intro third fourth hthird hfourth hgap
  refine ⟨_, grammar_closeElement hs₃.mode hthird, ?_⟩
  intro s₄ hs₄
  refine ⟨_, grammar_bracket hs₄.mode hfourth hgap, ?_⟩
  intro s₅ hs₅
  have hlines : s₅.lines = .header true ⟨first.start, fourth.span.stop⟩ ls :: s.lines := by
    rw [hs₅.lines, hs₄.lines, hs₃.lines, hs₂.lines, hs₁.lines]
  have hframes₃ := hs₃.frames.trans (hs₂.frames.trans (hs₁.frames.trans hframes))
  have hframes₅ := hs₅.frames.trans (hs₄.frames.trans hframes₃)
  exact (hears_one (.header hls) hlines hframes₅ hs₅.mode).ending hb hr hrest

theorem Reaches.member {d : Nat} {i : Item} (hpair : WrittenPair d path i t)
    (hd : d ≤ depthLimit) :
    Reaches s (a ++ (t ++ (b ++ r))) (s.Hears [.member path i]) rest := by
  refine (Reaches.blanks ha ?_).append ?_
  · rw [List.append_assoc]
    exact hpair.begins.tight _
  rintro _ rfl
  have hdepth : s.depth + d ≤ depthLimit := by
    rw [State.depth, hframes, List.countP_nil, Nat.zero_add]
    exact hd
  refine (Reaches.pair hpair (wants_key (.inl hmode)) hdepth ?_).append ?_
  · rw [List.append_assoc]
    exact closed_ending hb hr hrest
  rintro s₁ ⟨ls, n, hls, hn, hs₁⟩
  obtain ⟨lines, frames, mode, last⟩ := s
  obtain rfl : frames = [] := hframes
  have hhears : State.Hears ⟨lines, [], mode, last⟩ [.member path i] s₁ :=
    hears_one (.member hls hn) hs₁.lines hs₁.frames hs₁.mode
  exact hhears.ending hb hr hrest

end Statements

/-- A line is read. -/
theorem Reaches.line {d : Nat} {cs : List Clause} (h : WrittenLine d cs t) (hd : d ≤ depthLimit)
    (hframes : s.frames = []) (hmode : s.mode = .line) (hrest : EndsLine rest) :
    Reaches s t (s.Hears cs) rest := by
  cases h with
  | silent ha hr =>
      have hidle : s.Idle := ⟨hframes, .inl hmode⟩
      refine (Reaches.ending hidle ha hr hrest).mono ?_
      intro s' hs'
      exact ⟨hidle.like hs', [], .nil, hs'.lines⟩
  | header ha ht hb hr => exact .header ha hb hr hframes hmode hrest ht
  | element ha ht hb hr => exact .element ha hb hr hframes hmode hrest ht
  | member ha hpair hb hr => exact .member ha hb hr hframes hmode hrest hpair hd

/-- The end of the text changes nothing between lines. -/
theorem State.Idle.run_nil (h : s.Idle) (start : Nat) (gap : List Char) :
    run start gap [] s = .ok s := by
  have hstep : s.step ⟨.finish, gap, [], start⟩ = .ok s :=
    bind_eq_ok.mpr ⟨s, h.grammar_finish rfl, rfl⟩
  rw [run, tokensFrom, List.foldlM_cons, hstep]
  rfl

/-- Lines are read up to the end of the text. -/
theorem run_written {d : Nat} {cs : List Clause} (h : WrittenDocument d cs t)
    (hd : d ≤ depthLimit) (hframes : s.frames = []) (hmode : s.mode = .line) (start : Nat)
    (gap : List Char) :
    ∃ s', run start gap t s = .ok s' ∧ s.Hears cs s' := by
  induction h generalizing s start gap with
  | @last cs t hline =>
      have hreaches : Reaches s t (s.Hears cs) [] := Reaches.line hline hd hframes hmode nofun
      obtain ⟨start', gap', s', hs', hrun⟩ := hreaches start gap
      rw [List.append_nil] at hrun
      exact ⟨s', hrun.trans (hs'.idle.run_nil start' gap'), hs'⟩
  | @more cs ds t b u hline hb _ ih =>
      have hreaches : Reaches s t (s.Hears cs) (b ++ u) :=
        Reaches.line hline hd hframes hmode (endsLine_break hb u)
      obtain ⟨start₁, gap₁, s₁, hs₁, hrun₁⟩ := hreaches start gap
      obtain ⟨start₂, gap₂, s₂, hs₂, hrun₂⟩ :=
        (Reaches.lineBreak hs₁.idle hb : Reaches s₁ b _ u) start₁ gap₁
      obtain ⟨s', hrun, hs'⟩ := ih (hs₂.frames.trans hs₁.idle.frames) hs₂.mode start₂ gap₂
      refine ⟨s', hrun₁.trans (hrun₂.trans hrun), hs'.idle, ?_⟩
      obtain ⟨ls, hls, hlines⟩ := hs₁.lines
      obtain ⟨ls', hls', hlines'⟩ := hs'.lines
      refine ⟨ls ++ ls', List.rel_append hls hls', ?_⟩
      rw [hlines', hs₂.lines, hlines, List.reverse_append, List.append_assoc]

theorem unmarked_blanks {a u : List Char} (ha : Blanks a) (hu : u.head? ≠ some '\uFEFF') :
    (a ++ u).head? ≠ some '\uFEFF' := by
  cases a with
  | nil => exact hu
  | cons c a =>
      rcases ha c List.mem_cons_self with rfl | rfl
      · nofun
      · nofun

theorem WrittenLine.unmarked {d : Nat} {cs : List Clause} (h : WrittenLine d cs t) :
    t.head? ≠ some '\uFEFF' := by
  cases h with
  | silent ha hr =>
      refine unmarked_blanks ha ?_
      cases hr with
      | none => nofun
      | comment => nofun
  | header ha => exact unmarked_blanks ha nofun
  | element ha => exact unmarked_blanks ha nofun
  | member ha hpair =>
      refine unmarked_blanks ha ?_
      obtain ⟨c, u, rfl, -, hc⟩ := hpair.begins
      exact fun hmark => hc (Option.some.inj hmark)

/-- A document of the grammar does not begin with a byte order mark. -/
theorem WrittenDocument.unmarked {d : Nat} {cs : List Clause} (h : WrittenDocument d cs t) :
    t.head? ≠ some '\uFEFF' := by
  cases h with
  | last hline => exact hline.unmarked
  | @more cs ds t b u hline hb =>
      have hmark := hline.unmarked
      cases t with
      | cons c t => exact hmark
      | nil =>
          cases hb with
          | feed => nofun
          | pair => nofun

/-- Every document of the grammar is read, and as its clauses. -/
theorem parse_written {d : Nat} {cs : List Clause} (h : WrittenDocument d cs t)
    (hd : d ≤ depthLimit) : ∃ ls, parse t = .ok ls ∧ List.Forall₂ Line.Means ls cs := by
  have htokens : tokens t = tokensFrom 0 [] t := by
    cases t with
    | nil => rfl
    | cons c t =>
        rw [tokens]
        intro rest heq
        obtain ⟨rfl, -⟩ := List.cons.inj heq
        exact h.unmarked rfl
  obtain ⟨s', hrun, hs'⟩ := run_written (s := State.start) h hd rfl rfl 0 []
  obtain ⟨ls, hls, hlines⟩ := hs'.lines
  refine ⟨ls, ?_, hls⟩
  rw [parse, htokens]
  refine bind_eq_ok.mpr ⟨s', hrun, ?_⟩
  rw [hlines]
  simp [State.start]
  rfl

end Lines

end OrderDesk.Toml
