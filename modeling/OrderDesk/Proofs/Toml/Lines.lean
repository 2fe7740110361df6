/-
# `Proofs.Toml.Lines` — a text read line by line

Behind a line break nothing is open: what has been read is a list of lines,
and what follows is read as if it stood alone, but for its place.  So what a
text says can be told of its lines one by one (`says_header`, `says_member`)
and put together (`Says.append`), whatever stands in front and behind.

| | |
| :-- | :-- |
| `Lexes text kind rest`  | in front of `rest` these characters are one token |
| `Bare name`             | a name that needs no quotation marks |
| `Verbatim s`            | a text that stands between quotation marks as it is |
| `Says text lines`       | the text is these lines |
| `document_entry`        | a header and a member, as the table that they make |

A token ends only where nothing that follows could belong to it, so lemmas
on tokens ask for the first character of the rest: behind a bare name it is
one that ends names, and behind a string it is no quotation mark, for `""`
would go on as a string of several lines.
-/
import OrderDesk.Proofs.Toml.Names

namespace OrderDesk.Toml

/-! ## Tokens -/

/-- In front of `rest` these characters are one token of this kind. -/
structure Lexes (text : List Char) (kind : Kind) (rest : List Char) : Prop where
  first : ∃ c more, text = c :: more ∧ first c (more ++ rest) = (kind, more.length)

theorem Lexes.tokensFrom_eq {text rest : List Char} {kind : Kind} (h : Lexes text kind rest)
    (hkind : kind ≠ .blank) (start : Nat) (gap : List Char) :
    tokensFrom start gap (text ++ rest) =
      ⟨kind, gap, text, start⟩ :: tokensFrom (start + width text) [] rest := by
  obtain ⟨c, more, rfl, hfirst⟩ := h.first
  rw [List.cons_append, tokensFrom, hfirst]
  simp [hkind]

/-- Blanks are the gap in front of the next token. -/
theorem Lexes.tokensFrom_blank {text rest : List Char} (h : Lexes text .blank rest)
    (start : Nat) (gap : List Char) :
    tokensFrom start gap (text ++ rest) = tokensFrom (start + width text) text rest := by
  obtain ⟨c, more, rfl, hfirst⟩ := h.first
  rw [List.cons_append, tokensFrom, hfirst]
  simp

/-- A name that needs no quotation marks. -/
structure Bare (name : List Char) : Prop where
  ne_nil : name ≠ []
  all : ∀ c ∈ name, isBareKey c = true

theorem ends_of_bare {c : Char} (h : isBareKey c = true) : endsBare c = false := by
  have hends : ".=,[]\x7b\x7d \t#\r\n".toList.any isBareKey = false := by decide
  refine Bool.eq_false_iff.mpr ?_
  intro hc
  exact List.any_eq_false.mp hends c (List.contains_iff_mem.mp hc) h

theorem first_bare {c : Char} (h : isBareKey c = true) (rest : List Char) :
    first c rest = (.bare, runLength (fun d => !endsBare d) rest) := by
  have hne : ∀ d, isBareKey d = false → c ≠ d := by
    rintro d hd rfl
    cases h.symm.trans hd
  have hblank : isBlank c = false := by
    simp [isBlank, hne ' ' (by decide), hne '\t' (by decide)]
  simp [first, hblank, hne '.' (by decide), hne '=' (by decide), hne ',' (by decide),
    hne '[' (by decide), hne ']' (by decide), hne '\x7b' (by decide), hne '\x7d' (by decide),
    hne '#' (by decide), hne '\n' (by decide), hne '\r' (by decide), hne '\'' (by decide),
    hne '"' (by decide)]

/-- A run ends where the rest begins with something else. -/
theorem runLength_append {p : Char → Bool} {run rest : List Char} (hrun : ∀ c ∈ run, p c = true)
    (hrest : ∀ c, rest.head? = some c → p c = false) : runLength p (run ++ rest) = run.length := by
  have hstops : rest.takeWhile p = [] := by
    cases rest with
    | nil => rfl
    | cons c rest =>
        rw [List.takeWhile_cons, hrest c rfl]
        rfl
  rw [runLength, List.takeWhile_append_of_pos hrun, hstops, List.append_nil]

theorem lexes_bare {name rest : List Char} (h : Bare name)
    (hrest : ∀ c, rest.head? = some c → endsBare c = true) : Lexes name .bare rest := by
  obtain ⟨c, more, rfl⟩ := List.exists_cons_of_ne_nil h.ne_nil
  obtain ⟨hc, hmore⟩ := List.forall_mem_cons.mp h.all
  refine ⟨c, more, rfl, ?_⟩
  rw [first_bare hc, runLength_append]
  · intro d hd
    rw [ends_of_bare (hmore d hd), Bool.not_false]
  · intro d hd
    rw [hrest d hd, Bool.not_true]

/-- A text between quotation marks. -/
def quoted (s : List Char) : List Char := '"' :: (s ++ ['"'])

/-- A text that stands between quotation marks as it is. -/
def Verbatim (s : List Char) : Prop := ∀ c ∈ s, c ≠ '"' ∧ c ≠ '\\' ∧ isControl c = false

instance (s : List Char) : Decidable (Verbatim s) :=
  List.decidableBAll (fun c => c ≠ '"' ∧ c ≠ '\\' ∧ isControl c = false) s

theorem basicLength_cons {c : Char} (hslash : c ≠ '\\') (rest : List Char) :
    basicLength (c :: rest) =
      if c = '"' then 1 else if c = '\n' then 0 else basicLength rest + 1 := by
  rw [basicLength.eq_def]
  split
  · next heq => cases heq
  · next heq => exact absurd (List.head_eq_of_cons_eq heq) hslash
  · next heq => exact absurd (List.head_eq_of_cons_eq heq) hslash
  · next heq =>
      cases heq
      rfl

theorem basicLength_verbatim {s : List Char} (h : Verbatim s) (rest : List Char) :
    basicLength (s ++ '"' :: rest) = s.length + 1 := by
  induction s with
  | nil => exact basicLength_cons (by decide) rest
  | cons c s ih =>
      obtain ⟨⟨hquote, hslash, hcontrol⟩, hs⟩ := List.forall_mem_cons.mp h
      have hbreak : c ≠ '\n' := by
        rintro rfl
        cases hcontrol
      rw [List.cons_append, basicLength_cons hslash, if_neg hquote, if_neg hbreak, ih hs,
        List.length_cons]

/-- Behind a quotation mark a string of one line begins, unless two more marks
follow. -/
theorem first_quote {text : List Char} (h : ∀ rest, text ≠ '"' :: '"' :: rest) :
    first '"' text = (.quoted .basic, basicLength text) := by
  -- Of the two ways to go on behind a quotation mark, `h` leaves the second.
  simp only [first, isBlank, Char.reduceBEq, Bool.or_false, Bool.false_eq_true, Char.reduceEq,
    if_false, if_true]

/-- A text between quotation marks, unless a third mark follows two at once. -/
theorem lexes_basic {s rest : List Char} (h : Verbatim s) (hrest : rest.head? ≠ some '"') :
    Lexes (quoted s) (.quoted .basic) rest := by
  refine ⟨'"', s ++ ['"'], rfl, ?_⟩
  rw [List.append_assoc, List.singleton_append, first_quote, basicLength_verbatim h,
    List.length_append, List.length_singleton]
  intro behind heq
  cases s with
  | nil =>
      obtain ⟨-, rfl⟩ := List.cons.inj heq
      exact hrest rfl
  | cons c s => exact (h c List.mem_cons_self).1 (List.head_eq_of_cons_eq heq)

theorem lexes_blank {rest : List Char} (h : ∀ c, rest.head? = some c → isBlank c = false) :
    Lexes [' '] .blank rest := by
  refine ⟨' ', [], rfl, ?_⟩
  show (Kind.blank, runLength isBlank ([] ++ rest)) = _
  rw [runLength_append (by simp) h]

theorem lexes_newline (rest : List Char) : Lexes ['\n'] .newline rest := ⟨_, _, rfl, rfl⟩

/-! ## What tokens say -/

theorem isPlain_of_not_isControl {c : Char} (h : isControl c = false) : isPlain c = true := by
  simp only [isControl, isPlain, Bool.or_eq_false_iff, Bool.and_eq_false_iff, Bool.or_eq_true,
    Bool.and_eq_true, decide_eq_false_iff_not, decide_eq_true_eq, bne_eq_false_iff_eq, beq_iff_eq,
    beq_eq_false_iff_ne, bne_iff_ne] at h ⊢
  obtain ⟨hlow | htab, hdelete⟩ := h
  · exact .inr ⟨by omega, hdelete⟩
  · exact .inl htab

theorem basicText_verbatim {s : List Char} (h : Verbatim s) (place : Nat) :
    basicText place s = .ok s := by
  induction s generalizing place with
  | nil => rw [basicText]
  | cons c s ih =>
      obtain ⟨⟨-, hslash, hcontrol⟩, hs⟩ := List.forall_mem_cons.mp h
      rw [basicText, if_neg hslash, if_pos (isPlain_of_not_isControl hcontrol), ih hs]
      rfl

theorem unquote_basic (s : List Char) : unquote '"' 1 (quoted s) = .ok s := by
  have hlength : (s ++ ['"']).length - 1 = s.length := by simp
  have hinside : (quoted s).drop 1 = s ++ ['"'] := rfl
  rw [unquote, hinside, hlength, List.drop_left, List.take_left, if_pos]
  exact ⟨by simp, rfl⟩

/-- Such a text between quotation marks stands for itself. -/
theorem text_verbatim {s : List Char} (h : Verbatim s) :
    Quotes.basic.text (quoted s) = .ok s := by
  rw [Quotes.text, unquote_basic]
  exact basicText_verbatim h 1

/-! ## Lines -/

/-- Whatever is read before and behind it, the text is these lines, which know
the place where it begins. -/
def Says (text : List Char) (lines : Nat → List Line) : Prop :=
  ∀ start before last rest, ∃ last',
    (tokensFrom start [] (text ++ rest)).foldlM State.step ⟨before, [], .line, last⟩ =
      (tokensFrom (start + width text) [] rest).foldlM State.step
        ⟨(lines start).reverse ++ before, [], .line, last'⟩

theorem width_append (a b : List Char) : width (a ++ b) = width a + width b := by
  induction a with
  | nil => simp [width]
  | cons c a ih => simp [width, ih, Nat.add_assoc]

theorem Says.append {a b : List Char} {la lb : Nat → List Line} (ha : Says a la)
    (hb : Says b lb) : Says (a ++ b) fun start => la start ++ lb (start + width a) := by
  intro start before last rest
  obtain ⟨middle, hmiddle⟩ := ha start before last (b ++ rest)
  obtain ⟨last', hlast⟩ := hb (start + width a) ((la start).reverse ++ before) middle rest
  refine ⟨last', ?_⟩
  rw [List.append_assoc, hmiddle, hlast, width_append, List.reverse_append, List.append_assoc,
    Nat.add_assoc]

/-- The lines of a text that says some. -/
theorem Says.parse_eq {text : List Char} {lines : Nat → List Line} (h : Says text lines)
    (hmark : text.head? ≠ some '\uFEFF') : parse text = .ok (lines 0) := by
  have htokens : tokens text = tokensFrom 0 [] text := by
    cases text with
    | nil => rfl
    | cons c text =>
        rw [tokens]
        intro rest heq
        obtain ⟨rfl, -⟩ := List.cons.inj heq
        exact hmark rfl
  obtain ⟨last, hlast⟩ := h 0 [] 0 []
  rw [List.append_nil, List.append_nil] at hlast
  rw [parse, htokens, State.start, hlast, tokensFrom]
  show Except.ok ((lines 0).reverse).reverse = _
  rw [List.reverse_reverse]

/-- A header of one name. -/
theorem says_header {name : List Char} (h : Bare name) :
    Says ('[' :: (name ++ [']', '\n'])) fun start =>
      [.header false ⟨start, start + 1 + width name + 1⟩ [⟨none, name, start + 1⟩]] := by
  intro start before last rest
  have htext : '[' :: (name ++ [']', '\n']) ++ rest =
      ['['] ++ (name ++ ([']'] ++ (['\n'] ++ rest))) := by simp
  have hopen : ∀ rest, Lexes ['['] .openBracket rest := fun _ => ⟨_, _, rfl, rfl⟩
  have hclose : ∀ rest, Lexes [']'] .closeBracket rest := fun _ => ⟨_, _, rfl, rfl⟩
  have hends : ∀ c, ([']'] ++ (['\n'] ++ rest)).head? = some c → endsBare c = true := by
    rintro c ⟨⟩
    rfl
  rw [htext, (hopen _).tokensFrom_eq (by decide), (lexes_bare h hends).tokensFrom_eq (by decide),
    (hclose _).tokensFrom_eq (by decide), (lexes_newline _).tokensFrom_eq (by decide)]
  have hwidth : start + width ('[' :: (name ++ [']', '\n'])) =
      start + 1 + width name + 1 + 1 := by
    have hopen : width ('[' :: (name ++ [']', '\n'])) = 1 + width (name ++ [']', '\n']) := rfl
    have hclose : width [']', '\n'] = 2 := rfl
    rw [hopen, width_append, hclose]
    omega
  -- Four tokens of known kinds: the states they lead through can be computed.
  rw [hwidth]
  exact ⟨_, rfl⟩

/-- A name with a text that stands as it is. -/
theorem says_member {name s : List Char} (h : Bare name) (hs : Verbatim s) :
    Says (name ++ ([' ', '=', ' '] ++ (quoted s ++ ['\n']))) fun start =>
      [.member [⟨none, name, start⟩]
        (.scalar ⟨some .basic, quoted s, start + width name + 3⟩)] := by
  intro start before last rest
  -- The line is six tokens: what follows each of them ends it.
  have htext : name ++ ([' ', '=', ' '] ++ (quoted s ++ ['\n'])) ++ rest =
      name ++ ([' '] ++ (['='] ++ ([' '] ++ (quoted s ++ (['\n'] ++ rest))))) := by simp
  have hname : Lexes name .bare
      ([' '] ++ (['='] ++ ([' '] ++ (quoted s ++ (['\n'] ++ rest))))) := by
    refine lexes_bare h ?_
    rintro c ⟨⟩
    rfl
  have hfirst : Lexes [' '] .blank (['='] ++ ([' '] ++ (quoted s ++ (['\n'] ++ rest)))) := by
    refine lexes_blank ?_
    rintro c ⟨⟩
    rfl
  have hequals : Lexes ['='] .equals ([' '] ++ (quoted s ++ (['\n'] ++ rest))) := ⟨_, _, rfl, rfl⟩
  have hsecond : Lexes [' '] .blank (quoted s ++ (['\n'] ++ rest)) := by
    refine lexes_blank ?_
    rintro c ⟨⟩
    rfl
  have hquoted : Lexes (quoted s) (.quoted .basic) (['\n'] ++ rest) := lexes_basic hs (by simp)
  rw [htext, hname.tokensFrom_eq (by decide), hfirst.tokensFrom_blank,
    hequals.tokensFrom_eq (by decide), hsecond.tokensFrom_blank, hquoted.tokensFrom_eq (by decide),
    (lexes_newline rest).tokensFrom_eq (by decide)]
  have hwidth : start + width (name ++ ([' ', '=', ' '] ++ (quoted s ++ ['\n']))) =
      start + width name + 1 + 1 + 1 + width (quoted s) + 1 := by
    have hequals : width [' ', '=', ' '] = 3 := rfl
    have hbreak : width ['\n'] = 1 := rfl
    rw [width_append, width_append, width_append, hequals, hbreak]
    omega
  rw [hwidth]
  exact ⟨_, rfl⟩

/-! ## A table with one text -/

theorem keyPath_bare {name : List Char} (h : Bare name) (start : Nat) :
    keyPath [⟨none, name, start⟩] =
      .ok ⟨[], String.ofList name, start, start + width name⟩ := by
  have hkey : keyText none name = .ok name := by
    rw [keyText, if_pos ⟨h.ne_nil, List.all_eq_true.mpr h.all⟩]
  have hlexeme : Lexeme.key ⟨none, name, start⟩ =
      .ok ⟨String.ofList name, start, start + width name⟩ := by
    rw [Lexeme.key, hkey]
    rfl
  rw [keyPath, List.mapM_cons, hlexeme]
  rfl

theorem value_verbatim {s : List Char} (h : Verbatim s) (start : Nat) :
    (Node.scalar ⟨some .basic, quoted s, start⟩).value =
      .ok (⟨start, start + width (quoted s)⟩, .scalar (.text s)) := by
  rw [Node.value, scalarText, text_verbatim h]
  rfl

/-- A new name in a table that dotted keys have not made. -/
theorem Table.add_new {t : Table} {key : Key} (hform : t.form ≠ .dotted)
    (hnew : t.members.find? key.name = none) (span : Span) (v : Value) :
    t.add ⟨[], key⟩ span v = .ok ⟨t.form, t.members.put (key, span, v)⟩ := by
  rw [Table.add, Table.follow]
  simp [hform, hnew]

namespace Draft

variable {name : List Char} {start : Nat} {span : Span}

theorem line_header {d : Draft} {t : Table} (hsettle : d.settle = .ok t) (h : Bare name)
    (hnew : t.members.find? (String.ofList name) = none) :
    d.line (.header false span [⟨none, name, start⟩]) =
      .ok ⟨t, some (false, span, ⟨[], String.ofList name, start, start + width name⟩),
        ⟨.headed, []⟩⟩ := by
  have hopen : openHeader t false ⟨[], String.ofList name, start, start + width name⟩ = .ok t := by
    rw [openHeader, Table.follow, hnew]
  have himplied : impliedMembers t (String.ofList name) [] = [] := by
    rw [impliedMembers, hnew]
  rw [line]
  refine bind_eq_ok.mpr ⟨_, keyPath_bare h start, bind_eq_ok.mpr ⟨t, hsettle, ?_⟩⟩
  refine bind_eq_ok.mpr ⟨t, hopen, ?_⟩
  rw [if_neg (by decide), himplied]
  rfl

theorem line_member {d : Draft} (hform : d.current.form ≠ .dotted) (h : Bare name)
    (hnew : d.current.members.find? (String.ofList name) = none) {s : List Char}
    (hs : Verbatim s) (place : Nat) :
    d.line (.member [⟨none, name, start⟩] (.scalar ⟨some .basic, quoted s, place⟩)) =
      .ok { d with current := ⟨d.current.form, d.current.members.put
        (⟨String.ofList name, start, start + width name⟩,
          ⟨place, place + width (quoted s)⟩, .scalar (.text s))⟩ } := by
  rw [line]
  refine bind_eq_ok.mpr ⟨_, keyPath_bare h start, ?_⟩
  refine bind_eq_ok.mpr ⟨_, value_verbatim hs place, ?_⟩
  exact bind_eq_ok.mpr ⟨_, Table.add_new hform hnew _ _, rfl⟩

/-- A header and the member below it, in a document that has nothing yet. -/
theorem lines_entry {table s : List Char} (htable : Bare table) (hname : Bare name)
    (hs : Verbatim s) (span : Span) (first second third : Nat) :
    [Line.header false span [⟨none, table, first⟩],
      .member [⟨none, name, second⟩] (.scalar ⟨some .basic, quoted s, third⟩)].foldlM line
        ⟨⟨.headed, []⟩, none, ⟨.headed, []⟩⟩ =
      .ok ⟨⟨.headed, []⟩,
        some (false, span, ⟨[], String.ofList table, first, first + width table⟩),
        ⟨.headed, [(⟨String.ofList name, second, second + width name⟩,
          ⟨third, third + width (quoted s)⟩, .scalar (.text s))]⟩⟩ := by
  refine bind_eq_ok.mpr ⟨_, line_header rfl htable rfl, ?_⟩
  refine bind_eq_ok.mpr ⟨_, line_member ?_ hname rfl hs third, rfl⟩
  rintro ⟨⟩

end Draft

/-- A header and one member with a text, as they are written. -/
def entry (table name s : List Char) : List Char :=
  '[' :: (table ++ [']', '\n']) ++ (name ++ ([' ', '=', ' '] ++ (quoted s ++ ['\n'])))

/-- Such a document is a table with one table in it, which holds the text. -/
theorem document_entry {table name s : List Char} (htable : Bare table) (hname : Bare name)
    (hs : Verbatim s) : ∃ here inside there place,
      document (entry table name s) =
        .ok [(⟨String.ofList table, here⟩, inside,
          .table .headed [(⟨String.ofList name, there⟩, place, .scalar (.text s))])] := by
  have hlines := ((says_header htable).append (says_member hname hs)).parse_eq (by simp)
  exact ⟨_, _, _, _, bind_eq_ok.mpr
    ⟨_, hlines, bind_eq_ok.mpr ⟨_, Draft.lines_entry htable hname hs _ _ _ _, rfl⟩⟩⟩

end OrderDesk.Toml
