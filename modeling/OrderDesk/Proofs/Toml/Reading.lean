/-
# `Proofs.Toml.Reading` — values are read as what is written

The reader keeps keys and values as lexemes with places.  Such a value means
an item if its lexemes are the names and scalars of the item (`Node.Means`).
Each kind of text leads from a state where it is due to one where what was
read is in its place and means what is written, whatever stands behind it.

| | |
| :-- | :-- |
| `Names ls path`      | the lexemes are keys with these names |
| `Node.Means n i`     | what was read as a value is this item |
| `Reaches.path`       | names with points between them are gathered |
| `Reaches.value`      | a value that is due is put in its place |

The nesting of the grammar is that of the brackets which are open, so the
limit on both is the same.
-/
import OrderDesk.Proofs.Toml.Steps

namespace OrderDesk.Toml

/-! ## What was read -/

/-- The lexemes are keys with these names. -/
structure Names (ls : List Lexeme) (path : List String) : Prop where
  keys : List.Forall₂ (fun l name => ∃ key, l.key = .ok key ∧ key.name = name) ls path
  ne_nil : path ≠ []

mutual

/-- What was read as a value is this item. -/
inductive Node.Means : Node → Item → Prop
  | scalar {l : Lexeme} {s : Scalar} : scalarText l.quotes l.text = .ok s →
      Node.Means (.scalar l) (.scalar s)
  | array {span : Span} {ns : List Node} {is : List Item} : NodesMean ns is →
      Node.Means (.array span ns) (.array is)
  | table {span : Span} {ms : List (List Lexeme × Node)} {is : List (List String × Item)} :
      MembersMean ms is → Node.Means (.table span ms) (.table is)

/-- What was read as elements is these items. -/
inductive NodesMean : List Node → List Item → Prop
  | nil : NodesMean [] []
  | cons {n : Node} {i : Item} {ns : List Node} {is : List Item} : n.Means i → NodesMean ns is →
      NodesMean (n :: ns) (i :: is)

/-- What was read as members is these paths and items. -/
inductive MembersMean : List (List Lexeme × Node) → List (List String × Item) → Prop
  | nil : MembersMean [] []
  | cons {ls : List Lexeme} {path : List String} {n : Node} {i : Item}
      {ms : List (List Lexeme × Node)} {is : List (List String × Item)} : Names ls path →
      n.Means i → MembersMean ms is → MembersMean ((ls, n) :: ms) ((path, i) :: is)

end

/-! ## Keys -/

section Keys

variable {s : State} {name : String} {q : Option Quotes} {t rest : List Char}

theorem keyText_written (h : WrittenKey name q t) :
    ∃ raw, keyText q t = .ok raw ∧ String.ofList raw = name := by
  cases h with
  | bare h => exact ⟨t, if_pos ⟨h.ne_nil, List.all_eq_true.mpr h.all⟩, rfl⟩
  | @quoted q s t hq h =>
      refine ⟨s, ?_, rfl⟩
      rcases hq with rfl | rfl
      · exact text_quoted h
      · exact text_quoted h

theorem key_written (h : WrittenKey name q t) (start : Nat) :
    ∃ key, Lexeme.key ⟨q, t, start⟩ = .ok key ∧ key.name = name := by
  obtain ⟨raw, hraw, hname⟩ := keyText_written h
  refine ⟨⟨name, start, start + width t⟩, ?_, rfl⟩
  rw [Lexeme.key, hraw, ← hname]
  rfl

theorem EndsWord.unmarked (h : EndsWord rest) : Unmarked rest := by
  constructor
  · intro hquote
    cases h _ hquote
  · intro hquote
    cases h _ hquote

/-- A key is one token. -/
theorem lexes_key (h : WrittenKey name q t) (hrest : EndsWord rest) :
    ∃ kind, Lexes t kind rest ∧ kind.isKey = true ∧
      ∀ gap start, Token.lexeme ⟨kind, gap, t, start⟩ = ⟨q, t, start⟩ := by
  cases h with
  | bare h => exact ⟨.bare, lexes_bare h hrest, rfl, fun _ _ => rfl⟩
  | @quoted q s t hq h =>
      exact ⟨.quoted q, lexes_quoted h hrest.unmarked, rfl, fun _ _ => rfl⟩

theorem kind_of_isKey {kind : Kind} (h : kind.isKey = true) :
    kind = .bare ∨ ∃ q, kind = .quoted q := by
  cases kind with
  | bare => exact .inl rfl
  | quoted q => exact .inr ⟨q, rfl⟩
  | _ => cases h

/-- A key is due, and is put behind those that are there. -/
def State.Wants (s : State) (mode : List Lexeme → Bool → Mode) (before : List Lexeme) : Prop :=
  ∀ t : Token, t.kind.isKey = true →
    s.grammar t = .ok { s with mode := mode (before ++ [t.lexeme]) false }

/-- In these modes keys are gathered, with points between them. -/
structure Gathers (mode : List Lexeme → Bool → Mode) : Prop where
  key : ∀ {s : State} {keys : List Lexeme}, s.mode = mode keys true → s.Wants mode keys
  dot : ∀ {s : State} {keys : List Lexeme} {t : Token}, s.mode = mode keys false →
    t.kind = .dot → s.grammar t = .ok { s with mode := mode keys true }

theorem gathers_key : Gathers Mode.key where
  key hmode t hkey := by
    rw [State.grammar, hmode]
    rcases kind_of_isKey hkey with ht | ⟨q, ht⟩
    · simp [State.dueStep, State.keyStep, ht, Kind.isKey]
    · simp [State.dueStep, State.keyStep, ht, Kind.isKey]
  dot hmode hdot := by
    rw [State.grammar, hmode]
    simp [State.behindKey, hdot]

theorem gathers_header (array : Bool) (start : Nat) : Gathers (Mode.header array start) where
  key hmode t hkey := by
    rw [State.grammar, hmode]
    rcases kind_of_isKey hkey with ht | ⟨q, ht⟩
    · simp [State.headerStep, ht, Kind.isKey]
    · simp [State.headerStep, ht, Kind.isKey]
  dot hmode hdot := by
    rw [State.grammar, hmode]
    simp [State.headerStep, hdot]

/-- Lines and members begin with keys. -/
theorem wants_key {s : State} (h : s.mode = .line ∨ s.mode = .member) :
    s.Wants Mode.key [] := by
  intro t hkey
  rw [State.grammar]
  rcases h with hmode | hmode
  · rcases kind_of_isKey hkey with ht | ⟨q, ht⟩
    · simp [hmode, State.lineStep, State.keyStep, ht, Kind.isKey]
    · simp [hmode, State.lineStep, State.keyStep, ht, Kind.isKey]
  · rcases kind_of_isKey hkey with ht | ⟨q, ht⟩
    · simp [hmode, State.memberStep, State.keyStep, ht, Kind.isKey]
    · simp [hmode, State.memberStep, State.keyStep, ht, Kind.isKey]

/-- One key is gathered. -/
theorem Reaches.key {mode : List Lexeme → Bool → Mode} {before : List Lexeme}
    (hs : s.Wants mode before) (h : WrittenKey name q t) (hrest : EndsWord rest) :
    Reaches s t (fun s' => ∃ l, (∃ key, Lexeme.key l = .ok key ∧ key.name = name) ∧
      ({ s with mode := mode (before ++ [l]) false } : State).Like s') rest := by
  obtain ⟨kind, hlex, hkey, hlexeme⟩ := lexes_key h hrest
  have hblank : kind ≠ .blank := by
    rintro rfl
    cases hkey
  refine .token hlex hblank ?_ ?_
  · intro gap start
    refine check_eq ?_ ?_
    · rintro rfl
      cases hkey
    · rintro rfl
      cases hkey
  · intro gap start
    refine ⟨_, hs _ hkey, ?_⟩
    intro s' hs'
    rw [hlexeme] at hs'
    exact ⟨_, key_written h start, hs'⟩

/-- Neither a key nor a path begins with a blank or a byte order mark. -/
def Begins (t : List Char) : Prop := ∃ c u, t = c :: u ∧ isBlank c = false ∧ c ≠ '\uFEFF'

theorem Begins.tight (h : Begins t) (rest : List Char) : Tight (t ++ rest) := by
  obtain ⟨c, u, rfl, hc, -⟩ := h
  exact tight_cons hc (u ++ rest)

theorem Begins.append (h : Begins t) (u : List Char) : Begins (t ++ u) := by
  obtain ⟨c, v, rfl, hc⟩ := h
  exact ⟨c, v ++ u, rfl, hc⟩

theorem Quoted.begins {q : Quotes} {u : List Char} (h : Quoted q u t) : Begins t := by
  cases h with
  | basic => exact ⟨_, _, rfl, rfl, by decide⟩
  | literal => exact ⟨_, _, rfl, rfl, by decide⟩
  | longBasic => exact ⟨_, _, rfl, rfl, by decide⟩
  | longLiteral => exact ⟨_, _, rfl, rfl, by decide⟩

theorem WrittenKey.begins (h : WrittenKey name q t) : Begins t := by
  cases h with
  | bare h =>
      obtain ⟨c, u, rfl⟩ := List.exists_cons_of_ne_nil h.ne_nil
      have hc := h.all c List.mem_cons_self
      refine ⟨c, u, rfl, ?_, ?_⟩
      · rw [Bool.eq_false_iff]
        intro hblank
        have hsign : c = ' ' ∨ c = '\t' := by simpa [isBlank] using hblank
        rcases hsign with rfl | rfl
        · cases hc
        · cases hc
      · rintro rfl
        cases hc
  | quoted _ h => exact h.begins

theorem WrittenPath.begins {path : List String} (h : WrittenPath path t) : Begins t := by
  cases h with
  | last h => exact h.begins
  | more h => exact h.begins.append _

theorem WrittenPath.ne_nil {path : List String} (h : WrittenPath path t) : path ≠ [] := by
  cases h with
  | last => exact List.cons_ne_nil _ _
  | more => exact List.cons_ne_nil _ _

theorem endsWord_cons {c : Char} (h : endsBare c = true) (rest : List Char) :
    EndsWord (c :: rest) := by
  rintro d ⟨⟩
  exact h

theorem endsWord_blanks {a : List Char} (ha : Blanks a) (h : EndsWord rest) :
    EndsWord (a ++ rest) := by
  cases a with
  | nil => exact h
  | cons c a =>
      refine endsWord_cons ?_ _
      rcases ha c List.mem_cons_self with rfl | rfl
      · rfl
      · rfl

/-- Names with points between them are gathered behind those that are there. -/
theorem Reaches.path {mode : List Lexeme → Bool → Mode} (hmode : Gathers mode)
    {path : List String} (h : WrittenPath path t) {before : List Lexeme}
    (hs : s.Wants mode before) (hrest : EndsWord rest) :
    Reaches s t (fun s' => ∃ ls,
      List.Forall₂ (fun l name => ∃ key, Lexeme.key l = .ok key ∧ key.name = name) ls path ∧
        ({ s with mode := mode (before ++ ls) false } : State).Like s') rest := by
  induction h generalizing s before with
  | last h =>
      refine (Reaches.key hs h hrest).mono ?_
      rintro s' ⟨l, hl, hs'⟩
      exact ⟨[l], .cons hl .nil, hs'⟩
  | @more name names q t a b u h ha hb hu ih =>
      refine (Reaches.key hs h ?_).append ?_
      · rw [List.append_assoc]
        exact endsWord_blanks ha (endsWord_cons rfl _)
      rintro s₁ ⟨l, hl, hs₁⟩
      refine (Reaches.blanks ha (tight_cons rfl _)).append ?_
      rintro _ rfl
      refine Reaches.sign (lexes_dot _) (by decide) ?_
      intro point hpoint
      refine ⟨_, hmode.dot hs₁.mode hpoint, ?_⟩
      intro s₂ hs₂
      refine (Reaches.blanks hb (hu.begins.tight _)).append ?_
      rintro _ rfl
      refine (ih (hmode.key hs₂.mode)).mono ?_
      rintro s' ⟨ls, hls, hs'⟩
      refine ⟨l :: ls, .cons hl hls, ?_, ?_, ?_⟩
      · exact hs'.lines.trans (hs₂.lines.trans hs₁.lines)
      · exact hs'.frames.trans (hs₂.frames.trans hs₁.frames)
      · rw [hs'.mode, List.append_assoc, List.singleton_append]

end Keys

/-! ## Values -/

section Values

variable {s s' : State} {t rest : List Char} {d start : Nat} {i : Item} {n : Node}
  {outer : List Frame}

theorem Written.tight (h : Written d i t) (rest : List Char) : Tight (t ++ rest) := by
  cases h with
  | word h =>
      cases word_spaced h with
      | one hne ht => exact ht.tight.append hne rest
      | @two a b hne ht =>
          rw [List.append_assoc]
          exact ht.tight.append hne _
  | text h => exact h.begins.tight rest
  | array => exact tight_cons rfl _
  | table => exact tight_cons rfl _

theorem WrittenPair.begins {path : List String} (h : WrittenPair d path i t) : Begins t := by
  cases h with
  | mk hpath => exact hpath.begins.append _

theorem closed_blanks {a : List Char} (ha : Blanks a) {c : Char} (hc : c ∈ ",]\x7d#\n\r".toList)
    (rest : List Char) : Closed (a ++ c :: rest) := by
  refine ⟨a, c :: rest, rfl, ha, ?_⟩
  rintro d ⟨⟩
  exact hc

/-- A filler in front of a comma or a bracket ends a value as well. -/
theorem closed_filler {g : List Char} (hg : Filler g) {c : Char} (hc : c ∈ ",]\x7d".toList)
    (rest : List Char) : Closed (g ++ c :: rest) := by
  cases hg with
  | blanks ha =>
      refine closed_blanks ha ?_ rest
      exact List.mem_append_left "#\n\r".toList hc
  | @line a r b f ha hr hb hf =>
      rw [List.append_assoc, List.append_assoc, List.append_assoc]
      cases hr with
      | comment => exact closed_blanks ha (by decide) _
      | none =>
          cases hb with
          | feed => exact closed_blanks ha (by decide) _
          | pair => exact closed_blanks ha (by decide) _

theorem depth_eq (h : s'.frames = s.frames) : s'.depth = s.depth := by
  rw [State.depth, State.depth, h]

/-- The keys of a member are no bracket. -/
theorem depth_assign (s : State) (ls : List Lexeme) : (s.assign ls).depth = s.depth := by
  obtain ⟨lines, frames, mode, last⟩ := s
  cases frames with
  | nil => rfl
  | cons f outer =>
      cases f with
      | line => rfl
      | array => rfl
      | table => rfl

/-- A bracket can be opened if others may nest inside. -/
theorem openFrame_eq {token : Token} {f : Frame} {mode : Mode}
    (h : s.depth + (d + 1) ≤ depthLimit) :
    s.openFrame token f mode = .ok { s with frames := f :: s.frames, mode } := by
  rw [State.openFrame, if_neg (by omega)]

theorem grammar_closeBracket {ns : List Node} {token : Token}
    (hmode : s.mode = .element ∨ s.mode = .after) (hframes : s.frames = .array start ns :: outer)
    (ht : token.kind = .closeBracket) :
    s.grammar token =
      .ok ({ s with frames := outer }.plug (.array ⟨start, token.span.stop⟩ ns.reverse)) := by
  rw [State.grammar]
  rcases hmode with hmode | hmode
  · simp [hmode, State.elementStep, State.closeFrame, hframes, ht]
  · simp [hmode, State.afterStep, State.closeFrame, hframes, ht]

theorem grammar_closeBrace {ms : List (List Lexeme × Node)} {ls : List Lexeme} {token : Token}
    (hmode : s.mode = .member ∨ s.mode = .after) (hframes : s.frames = .table start ms ls :: outer)
    (ht : token.kind = .closeBrace) :
    s.grammar token =
      .ok ({ s with frames := outer }.plug (.table ⟨start, token.span.stop⟩ ms.reverse)) := by
  rw [State.grammar]
  rcases hmode with hmode | hmode
  · simp [hmode, State.memberStep, State.closeFrame, hframes, ht]
  · simp [hmode, State.afterStep, State.closeFrame, hframes, ht]

theorem assign_plug {ms : List (List Lexeme × Node)} {ls ks : List Lexeme}
    (hframes : s.frames = .table start ms ks :: outer) :
    (s.assign ls).plug n =
      { s with frames := .table start ((ls, n) :: ms) [] :: outer, mode := .after } := by
  obtain ⟨lines, frames, mode, last⟩ := s
  obtain rfl : frames = .table start ms ks :: outer := hframes
  rfl

/-- What was read as this item has been put in its place. -/
def State.Takes (s : State) (i : Item) (s' : State) : Prop :=
  ∃ n : Node, n.Means i ∧ (s.plug n).Like s'

/-- What was read as this member has been put in its place. -/
def State.TakesPair (s : State) (path : List String) (i : Item) (s' : State) : Prop :=
  ∃ (ls : List Lexeme) (n : Node), Names ls path ∧ n.Means i ∧ ((s.assign ls).plug n).Like s'

/-- In the array on top these items have been read behind others. -/
def State.HasElements (s : State) (start : Nat) (before : List Node) (outer : List Frame)
    (is : List Item) (s' : State) : Prop :=
  ∃ ns, NodesMean ns is ∧ (s'.mode = .element ∨ s'.mode = .after) ∧ s'.lines = s.lines ∧
    s'.frames = .array start (ns.reverse ++ before) :: outer

/-- In the table on top these members have been read behind others. -/
def State.HasMembers (s : State) (start : Nat) (before : List (List Lexeme × Node))
    (outer : List Frame) (is : List (List String × Item)) (s' : State) : Prop :=
  ∃ ms, MembersMean ms is ∧ (s'.mode = .member ∨ s'.mode = .after) ∧ s'.lines = s.lines ∧
    ∃ ls, s'.frames = .table start (ms.reverse ++ before) ls :: outer

theorem quiet_of_frames {f : Frame} (hframes : s.frames = f :: outer)
    (hmode : s.mode = .element ∨ s.mode = .member ∨ s.mode = .after) : s.Quiet := by
  refine hmode.imp_right (Or.imp_right fun hafter => ⟨hafter, ?_⟩)
  rw [hframes]
  exact List.cons_ne_nil f outer

/-- The state with a bracket opened. -/
def State.within (s : State) (f : Frame) (mode : Mode) : State :=
  { s with frames := f :: s.frames, mode }

/-- An array begins. -/
theorem Reaches.openBracket {Q : State → Prop} (hs : s.Awaits)
    (hdepth : s.depth + (d + 1) ≤ depthLimit)
    (h : ∀ start s', (s.within (.array start []) .element).Like s' → Reaches s' t Q rest) :
    Reaches s ('[' :: t) Q rest := by
  refine .sign (lexes_openBracket _) (by decide) ?_
  intro token htoken
  refine ⟨_, (hs.grammar (by simp [htoken])).trans ?_, h token.start⟩
  simp only [State.begin, htoken]
  exact openFrame_eq hdepth

/-- An array ends. -/
theorem Reaches.closeBracket {s₁ s₂ : State} {is : List Item}
    (h₁ : (s.within (.array start []) .element).Like s₁)
    (h₂ : s₁.HasElements start [] s.frames is s₂) :
    Reaches s₂ [']'] (s.Takes (.array is)) rest := by
  obtain ⟨ns, hns, hmode, hlines, hframes⟩ := h₂
  rw [List.append_nil] at hframes
  refine .sign (lexes_closeBracket _) (by decide) ?_
  intro token htoken
  refine ⟨_, grammar_closeBracket hmode hframes htoken, ?_⟩
  intro s' hs'
  rw [List.reverse_reverse] at hs'
  have hplug : (s.plug (.array ⟨start, token.span.stop⟩ ns)).Like
      ({ s₂ with frames := s.frames }.plug (.array ⟨start, token.span.stop⟩ ns)) := by
    apply State.plug_like
    · exact hlines.trans h₁.lines
    · rfl
  exact .nil ⟨_, .array hns, hplug.trans hs'⟩

/-- A table between braces begins. -/
theorem Reaches.openBrace {Q : State → Prop} (hs : s.Awaits)
    (hdepth : s.depth + (d + 1) ≤ depthLimit)
    (h : ∀ start s', (s.within (.table start [] []) .member).Like s' → Reaches s' t Q rest) :
    Reaches s ('\x7b' :: t) Q rest := by
  refine .sign (lexes_openBrace _) (by decide) ?_
  intro token htoken
  refine ⟨_, (hs.grammar (by simp [htoken])).trans ?_, h token.start⟩
  simp only [State.begin, htoken]
  exact openFrame_eq hdepth

/-- A table between braces ends. -/
theorem Reaches.closeBrace {s₁ s₂ : State} {is : List (List String × Item)}
    (h₁ : (s.within (.table start [] []) .member).Like s₁)
    (h₂ : s₁.HasMembers start [] s.frames is s₂) :
    Reaches s₂ ['\x7d'] (s.Takes (.table is)) rest := by
  obtain ⟨ms, hms, hmode, hlines, ls, hframes⟩ := h₂
  rw [List.append_nil] at hframes
  refine .sign (lexes_closeBrace _) (by decide) ?_
  intro token htoken
  refine ⟨_, grammar_closeBrace hmode hframes htoken, ?_⟩
  intro s' hs'
  rw [List.reverse_reverse] at hs'
  have hplug : (s.plug (.table ⟨start, token.span.stop⟩ ms)).Like
      ({ s₂ with frames := s.frames }.plug (.table ⟨start, token.span.stop⟩ ms)) := by
    apply State.plug_like
    · exact hlines.trans h₁.lines
    · rfl
  exact .nil ⟨_, .table hms, hplug.trans hs'⟩

/-- The depth is that of the frames. -/
theorem depth_within_array {ns : List Node} (hframes : s'.frames = .array start ns :: s.frames) :
    s'.depth = s.depth + 1 := by
  rw [State.depth, State.depth, hframes]
  exact List.countP_cons_of_pos rfl

theorem depth_within_table {ms : List (List Lexeme × Node)} {ls : List Lexeme}
    (hframes : s'.frames = .table start ms ls :: s.frames) : s'.depth = s.depth + 1 := by
  rw [State.depth, State.depth, hframes]
  exact List.countP_cons_of_pos rfl

/-- An element is put in front of those that were read before it. -/
theorem takes_element {before : List Node} (h : s.Takes i s')
    (hframes : s.frames = .array start before :: outer) :
    ∃ n : Node, n.Means i ∧ s'.mode = .after ∧ s'.lines = s.lines ∧
      s'.frames = .array start (n :: before) :: outer := by
  obtain ⟨n, hn, hs'⟩ := h
  obtain ⟨lines, frames, mode, last⟩ := s
  obtain rfl : frames = .array start before :: outer := hframes
  exact ⟨n, hn, hs'.mode, hs'.lines, hs'.frames⟩

/-- So is a member. -/
theorem takes_member {before : List (List Lexeme × Node)} {ks : List Lexeme}
    {path : List String} (h : s.TakesPair path i s')
    (hframes : s.frames = .table start before ks :: outer) :
    ∃ (ls : List Lexeme) (n : Node), Names ls path ∧ n.Means i ∧ s'.mode = .after ∧
      s'.lines = s.lines ∧ s'.frames = .table start ((ls, n) :: before) [] :: outer := by
  obtain ⟨ls, n, hls, hn, hs'⟩ := h
  rw [assign_plug hframes] at hs'
  exact ⟨ls, n, hls, hn, hs'.mode, hs'.lines, hs'.frames⟩

theorem grammar_comma_element {ns : List Node} {token : Token} (hmode : s.mode = .after)
    (hframes : s.frames = .array start ns :: outer) (ht : token.kind = .comma) :
    s.grammar token = .ok { s with mode := .element } := by
  rw [State.grammar, hmode]
  simp only [State.afterStep, hframes, ht]

theorem grammar_comma_member {ms : List (List Lexeme × Node)} {ks : List Lexeme} {token : Token}
    (hmode : s.mode = .after) (hframes : s.frames = .table start ms ks :: outer)
    (ht : token.kind = .comma) : s.grammar token = .ok { s with mode := .member } := by
  rw [State.grammar, hmode]
  simp only [State.afterStep, hframes, ht]

mutual

/-- A value that is due is read and put in its place. -/
theorem Reaches.value {s : State} {t rest : List Char} {d : Nat} {i : Item} (h : Written d i t)
    (hs : s.Awaits) (hdepth : s.depth + d ≤ depthLimit) (hrest : Closed rest) :
    Reaches s t (s.Takes i) rest := by
  match h with
  | .word hword =>
      refine (Reaches.word hword hrest hs).mono ?_
      rintro s' ⟨l, hl, hs'⟩
      exact ⟨.scalar l, .scalar hl, hs'⟩
  | .text hquoted =>
      refine .token (lexes_quoted hquoted hrest.endsWord.unmarked) nofun (fun gap start => rfl) ?_
      intro gap start
      refine ⟨_, hs.grammar (.inr (.inr (.inl ⟨_, rfl⟩))), ?_⟩
      intro s' hs'
      refine ⟨_, .scalar ?_, hs'⟩
      exact bind_eq_ok.mpr ⟨_, text_quoted hquoted, rfl⟩
  | .array helements =>
      refine .openBracket hs hdepth ?_
      intro start s₁ hs₁
      have hdepth₁ := depth_within_array hs₁.frames
      refine (Reaches.elements helements hs₁.mode hs₁.frames (by omega)).append ?_
      exact fun s₂ hs₂ => .closeBracket hs₁ hs₂
  | .table hmembers =>
      refine .openBrace hs hdepth ?_
      intro start s₁ hs₁
      have hdepth₁ := depth_within_table hs₁.frames
      refine (Reaches.members hmembers hs₁.mode hs₁.frames (by omega)).append ?_
      exact fun s₂ hs₂ => .closeBrace hs₁ hs₂

/-- Elements are read up to the bracket behind them. -/
theorem Reaches.elements {s : State} {t rest : List Char} {d start : Nat} {is : List Item}
    {before : List Node} {outer : List Frame} (h : WrittenElements d is t)
    (hmode : s.mode = .element) (hframes : s.frames = .array start before :: outer)
    (hdepth : s.depth + d ≤ depthLimit) :
    Reaches s t (s.HasElements start before outer is) (']' :: rest) := by
  have hquiet := quiet_of_frames hframes (.inl hmode)
  match h with
  | .none hf =>
      refine (Reaches.filler hquiet hf (tight_cons rfl _)).mono ?_
      rintro _ rfl
      exact ⟨[], .nil, .inl hmode, rfl, hframes⟩
  | .last hf hvalue hg =>
      refine (Reaches.filler hquiet hf ?_).append ?_
      · rw [List.append_assoc]
        exact hvalue.tight _
      rintro _ rfl
      refine (Reaches.value hvalue (.inr hmode) hdepth (closed_filler hg (by decide) _)).append ?_
      intro s₁ hs₁
      obtain ⟨n, hn, hmode₁, hlines₁, hframes₁⟩ := takes_element hs₁ hframes
      have hquiet₁ := quiet_of_frames hframes₁ (.inr (.inr hmode₁))
      refine (Reaches.filler hquiet₁ hg (tight_cons rfl _)).mono ?_
      rintro _ rfl
      exact ⟨[n], .cons hn .nil, .inr hmode₁, hlines₁, hframes₁⟩
  | .more hf hvalue hg helements =>
      refine (Reaches.filler hquiet hf ?_).append ?_
      · rw [List.append_assoc]
        exact hvalue.tight _
      rintro _ rfl
      refine (Reaches.value hvalue (.inr hmode) hdepth ?_).append ?_
      · rw [List.append_assoc]
        exact closed_filler hg (by decide) _
      intro s₁ hs₁
      obtain ⟨n, hn, hmode₁, hlines₁, hframes₁⟩ := takes_element hs₁ hframes
      have hquiet₁ := quiet_of_frames hframes₁ (.inr (.inr hmode₁))
      refine (Reaches.filler hquiet₁ hg (tight_cons rfl _)).append ?_
      rintro _ rfl
      refine .sign (lexes_comma _) (by decide) ?_
      intro token htoken
      refine ⟨_, grammar_comma_element hmode₁ hframes₁ htoken, ?_⟩
      intro s₂ hs₂
      -- Behind the comma the same array is open, with one more element in it.
      have hframes₂ := hs₂.frames.trans hframes₁
      have hdepth₂ : s₂.depth = s.depth := by
        rw [State.depth, State.depth, hframes₂, hframes]
        rfl
      refine (Reaches.elements helements hs₂.mode hframes₂ (by omega)).mono ?_
      rintro s₃ ⟨ns, hns, hmode₃, hlines₃, hframes₃⟩
      refine ⟨n :: ns, .cons hn hns, hmode₃, hlines₃.trans (hs₂.lines.trans hlines₁), ?_⟩
      rw [hframes₃, List.reverse_cons, List.append_assoc, List.singleton_append]

/-- Members are read up to the brace behind them. -/
theorem Reaches.members {s : State} {t rest : List Char} {d start : Nat}
    {is : List (List String × Item)} {before : List (List Lexeme × Node)} {ks : List Lexeme}
    {outer : List Frame} (h : WrittenMembers d is t) (hmode : s.mode = .member)
    (hframes : s.frames = .table start before ks :: outer) (hdepth : s.depth + d ≤ depthLimit) :
    Reaches s t (s.HasMembers start before outer is) ('\x7d' :: rest) := by
  have hquiet := quiet_of_frames hframes (.inr (.inl hmode))
  have hwants := wants_key (.inr hmode)
  match h with
  | .none hf =>
      refine (Reaches.filler hquiet hf (tight_cons rfl _)).mono ?_
      rintro _ rfl
      exact ⟨[], .nil, .inl hmode, rfl, ks, hframes⟩
  | .last hf hpair hg =>
      refine (Reaches.filler hquiet hf ?_).append ?_
      · rw [List.append_assoc]
        exact hpair.begins.tight _
      rintro _ rfl
      refine (Reaches.pair hpair hwants hdepth (closed_filler hg (by decide) _)).append ?_
      intro s₁ hs₁
      obtain ⟨ls, n, hls, hn, hmode₁, hlines₁, hframes₁⟩ := takes_member hs₁ hframes
      have hquiet₁ := quiet_of_frames hframes₁ (.inr (.inr hmode₁))
      refine (Reaches.filler hquiet₁ hg (tight_cons rfl _)).mono ?_
      rintro _ rfl
      exact ⟨[(ls, n)], .cons hls hn .nil, .inr hmode₁, hlines₁, [], hframes₁⟩
  | .more hf hpair hg hmembers =>
      refine (Reaches.filler hquiet hf ?_).append ?_
      · rw [List.append_assoc]
        exact hpair.begins.tight _
      rintro _ rfl
      refine (Reaches.pair hpair hwants hdepth ?_).append ?_
      · rw [List.append_assoc]
        exact closed_filler hg (by decide) _
      intro s₁ hs₁
      obtain ⟨ls, n, hls, hn, hmode₁, hlines₁, hframes₁⟩ := takes_member hs₁ hframes
      have hquiet₁ := quiet_of_frames hframes₁ (.inr (.inr hmode₁))
      refine (Reaches.filler hquiet₁ hg (tight_cons rfl _)).append ?_
      rintro _ rfl
      refine .sign (lexes_comma _) (by decide) ?_
      intro token htoken
      refine ⟨_, grammar_comma_member hmode₁ hframes₁ htoken, ?_⟩
      intro s₂ hs₂
      have hframes₂ := hs₂.frames.trans hframes₁
      have hdepth₂ : s₂.depth = s.depth := by
        rw [State.depth, State.depth, hframes₂, hframes]
        rfl
      refine (Reaches.members hmembers hs₂.mode hframes₂ (by omega)).mono ?_
      rintro s₃ ⟨ms, hms, hmode₃, hlines₃, ks', hframes₃⟩
      refine ⟨(ls, n) :: ms, .cons hls hn hms, hmode₃, hlines₃.trans (hs₂.lines.trans hlines₁),
        ks', ?_⟩
      rw [hframes₃, List.reverse_cons, List.append_assoc, List.singleton_append]

/-- A path, an equals sign and a value are read. -/
theorem Reaches.pair {s : State} {t rest : List Char} {d : Nat} {path : List String} {i : Item}
    (h : WrittenPair d path i t) (hs : s.Wants Mode.key []) (hdepth : s.depth + d ≤ depthLimit)
    (hrest : Closed rest) : Reaches s t (s.TakesPair path i) rest := by
  match h with
  | .mk hpath ha hb hvalue =>
      refine (Reaches.path gathers_key hpath hs ?_).append ?_
      · rw [List.append_assoc]
        exact endsWord_blanks ha (endsWord_cons rfl _)
      rintro s₁ ⟨ls, hls, hs₁⟩
      refine (Reaches.blanks ha (tight_cons rfl _)).append ?_
      rintro _ rfl
      refine .sign (lexes_equals _) (by decide) ?_
      intro token htoken
      have hgrammar : s₁.grammar token = .ok (s₁.assign ls) := by
        rw [State.grammar, hs₁.mode, List.nil_append]
        simp only [State.behindKey, htoken]
      refine ⟨_, hgrammar, ?_⟩
      intro s₂ hs₂
      have hdepth₂ : s₂.depth = s.depth := by
        rw [depth_eq hs₂.frames, depth_assign, depth_eq hs₁.frames]
        rfl
      refine (Reaches.blanks hb (hvalue.tight _)).append ?_
      rintro _ rfl
      have hmode : s₂.mode = .value := hs₂.mode.trans (State.mode_assign s₁ ls)
      refine (Reaches.value hvalue (.inl hmode) (by omega) hrest).mono ?_
      rintro s₃ ⟨n, hn, hs₃⟩
      refine ⟨ls, n, ⟨hls, hpath.ne_nil⟩, hn, ?_⟩
      have hlike := (State.assign_like hs₁.lines hs₁.frames ls).trans hs₂
      exact (State.plug_like hlike.lines hlike.frames n).trans hs₃

end

end Values

end OrderDesk.Toml
