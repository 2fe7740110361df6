/-
# `Proofs.Settings.Styles` — one meaning, many notations

How settings are written in a file makes no difference (`notations_agree`):
below the headers of their tables, by dotted keys or between braces, in any
order, with comments, blank lines and other content or without, and whatever
the texts and numbers look like, each document gives its settings and the
standard values for the others.

Every layer can be written so.  `Style.document` gives a text for each of the
three notations and both orders of the tables, with an escape for every
character that needs one (`Style.presents`).

| limit                        | behind it                    |
| :--                          | :--                          |
| 80 brackets, one in another  | the text is refused          |
| 80 names in a path           | the document is refused      |
| numbers of 128 bits          | the member is refused        |
| amounts up to the largest    | the member is refused        |

These limits hold for content that is passed over as well, so a document that
is well formed and gives no setting may be refused (`limits_refused`).
-/
import OrderDesk.Proofs.Decimal.Digits
import OrderDesk.Proofs.Settings.Notation

namespace OrderDesk

open Toml

/-! ## Spelling -/

namespace Toml

/-- The last `count` hexadecimal digits of a number. -/
def hexDigits : Nat → Nat → List Char
  | 0, _ => []
  | count + 1, n => hexDigits count (n / 16) ++ [Json.hexDigit n]

/-- A character that stands for itself wherever it is. -/
def Plain (c : Char) : Prop :=
  0x20 ≤ c.toNat ∧ c.toNat < 0x7F ∧ c ≠ '"' ∧ c ≠ '\\' ∧ c ≠ '$'

instance (c : Char) : Decidable (Plain c) :=
  inferInstanceAs (Decidable (0x20 ≤ c.toNat ∧ c.toNat < 0x7F ∧ c ≠ '"' ∧ c ≠ '\\' ∧ c ≠ '$'))

/-- A text between quotation marks, with the code points of all characters that
are not plain. -/
def spell : List Char → List Char
  | [] => []
  | c :: s =>
    if Plain c then c :: spell s else '\\' :: (('U' :: hexDigits 8 c.toNat) ++ spell s)

theorem hexDigit_hex (n : Nat) : Json.HexDigit (Json.hexDigit n) (n % 16) :=
  ⟨Nat.mod_lt n (by decide), .inl rfl⟩

theorem length_hexDigits (count n : Nat) : (hexDigits count n).length = count := by
  induction count generalizing n with
  | zero => rfl
  | succ count ih => rw [hexDigits, List.length_append, ih, List.length_singleton]

theorem underscore_not_mem_hexDigits (count n : Nat) : '_' ∉ hexDigits count n := by
  have hdigit : ∀ m < 16, '_' ≠ Nat.digitChar m := by decide
  induction count generalizing n with
  | zero => exact List.not_mem_nil
  | succ count ih =>
      rw [hexDigits, List.mem_append, List.mem_singleton]
      rintro (hmem | heq)
      · exact ih (n / 16) hmem
      · exact hdigit (n % 16) (Nat.mod_lt n (by decide)) heq

/-- The digits of a number that has no more. -/
theorem numeral_hexDigits {count n : Nat} (h : n < 16 ^ (count + 1)) :
    Numeral 16 n (hexDigits (count + 1) n) := by
  induction count generalizing n with
  | zero =>
      have hlt : n < 16 := h
      have hdigit := hexDigit_hex n
      rw [Nat.mod_eq_of_lt hlt] at hdigit
      exact .digit hdigit hlt
  | succ count ih =>
      have hdiv : n / 16 < 16 ^ (count + 1) := Nat.div_lt_of_lt_mul (by rwa [Nat.mul_comm])
      have hmore := Numeral.more (ih hdiv) (hexDigit_hex n) (Nat.mod_lt n (by decide))
      rwa [Nat.div_add_mod'] at hmore

theorem basic_spell (s : List Char) : Basic s (spell s) := by
  induction s with
  | nil => exact .nil
  | cons c s ih =>
      rw [spell]
      split
      · next hplain =>
          obtain ⟨hlow, hhigh, hquote, hslash, -⟩ := hplain
          have hcontrol : isControl c = false := by
            simp [isControl]
            omega
          exact .plain hcontrol hquote hslash ih
      · have hlt : c.toNat < 16 ^ (7 + 1) := by
          have hvalid : c.toNat < 0xD800 ∨ (0xDFFF < c.toNat ∧ c.toNat < 0x110000) := c.valid
          omega
        exact .escape (.code (by decide) (numeral_hexDigits hlt)
          (underscore_not_mem_hexDigits 8 _) (length_hexDigits 8 _)) ih

theorem numeral_text (n : Nat) : Numeral 10 n (Decimal.text n) := by
  induction n using Nat.strongRecOn with
  | ind n ih =>
      by_cases hlt : n < 10
      · rw [Decimal.text, Nat.toDigits_of_lt_base hlt]
        exact .digit ⟨by omega, .inl rfl⟩ hlt
      · have hlast : n % 10 < 10 := Nat.mod_lt n (by decide)
        have hmore := Numeral.more (ih (n / 10) (by omega)) ⟨by omega, .inl rfl⟩ hlast
        rw [Nat.div_add_mod'] at hmore
        rw [Decimal.text, Nat.toDigits_of_base_le (by decide) (by omega)]
        exact hmore

/-- A number as it is written by default. -/
theorem whole_text (n : Nat) : Whole n (Decimal.text n) := by
  refine ⟨numeral_text n, ?_⟩
  intro hzero
  rcases Nat.eq_zero_or_pos n with rfl | hpos
  · rfl
  · exact absurd hzero (Decimal.head?_text hpos)

/-! ## Blanks and names -/

theorem blanks_nil : Blanks [] := List.forall_mem_nil _

theorem blanks_one : Blanks [' '] := List.forall_mem_singleton.mpr (.inl rfl)

theorem filler_nil : Filler [] := .blanks blanks_nil

theorem bare_iff {name : List Char} : name ≠ [] ∧ name.all isBareKey = true ↔ Bare name :=
  ⟨fun h => ⟨h.1, List.all_eq_true.mp h.2⟩, fun h => ⟨h.ne_nil, List.all_eq_true.mpr h.all⟩⟩

instance (name : List Char) : Decidable (Bare name) := decidable_of_iff _ bare_iff

/-! ## Lines -/

/-- Lines, each with its line break. -/
def Lines (d : Nat) (cs : List Clause) (t : List Char) : Prop :=
  ∀ ds u, WrittenDocument d ds u → WrittenDocument d (cs ++ ds) (t ++ u)

section Lines

variable {d : Nat} {cs cs' : List Clause} {t t' : List Char}

theorem Lines.nil : Lines d [] [] := fun _ _ h => h

theorem Lines.append (h : Lines d cs t) (h' : Lines d cs' t') : Lines d (cs ++ cs') (t ++ t') := by
  intro ds u hdoc
  rw [List.append_assoc, List.append_assoc]
  exact h _ _ (h' ds u hdoc)

theorem WrittenLine.lines (h : WrittenLine d cs t) : Lines d cs (t ++ ['\n']) := by
  intro ds u hdoc
  rw [List.append_assoc]
  exact .more h .feed hdoc

theorem Lines.document (h : Lines d cs t) : WrittenDocument d cs t := by
  have hsilent : WrittenDocument d [] [] := .last (.silent blanks_nil .none)
  have hdoc := h [] [] hsilent
  rwa [List.append_nil, List.append_nil] at hdoc

end Lines

theorem path_name {name : String} (h : Bare name.toList) : WrittenPath [name] name.toList := by
  have hpath := WrittenPath.last (.bare h)
  rwa [String.ofList_toList] at hpath

theorem path_names {name name' : String} (h : Bare name.toList) (h' : Bare name'.toList) :
    WrittenPath [name, name'] (name.toList ++ '.' :: name'.toList) := by
  have hpath := WrittenPath.more (.bare h) blanks_nil blanks_nil (path_name h')
  rwa [String.ofList_toList] at hpath

end Toml

namespace Settings

/-! ## Styles -/

/-- The value of a setting as it is written by default. -/
def Setting.spelled : Setting → List Char
  | .baseUrl url => '"' :: (spell url.toList ++ ['"'])
  | .timeout seconds => Decimal.text seconds
  | .source s => '"' :: (spell s.name.toList ++ ['"'])

/-- A setting with its keys. -/
def Setting.pair (keys : List Char) (s : Setting) : List Char :=
  keys ++ ([' '] ++ '=' :: ([' '] ++ s.spelled))

/-- Settings with commas between them. -/
def members : List Setting → List Char
  | [] => []
  | [s] => s.pair s.name.toList
  | s :: ss => s.pair s.name.toList ++ ',' :: members ss

/-- How the settings of a table are written: below its header, by dotted keys, or
between its braces. -/
inductive Style where
  | headed
  | dotted
  | braced

namespace Style

/-- The clauses that give settings of a table. -/
def clauses (style : Style) (g : String) (ss : List Setting) : List Clause :=
  match style with
  | .headed => .header false [g] :: ss.map fun s => .member [s.name] (.scalar s.scalar)
  | .dotted => ss.map fun s => .member [g, s.name] (.scalar s.scalar)
  | .braced => [.member [g] (.table (ss.map fun s => ([s.name], .scalar s.scalar)))]

/-- The text that gives them. -/
def text (style : Style) (g : String) (ss : List Setting) : List Char :=
  match style with
  | .headed => '[' :: (g.toList ++ [']', '\n']) ++
      ss.flatMap fun s => s.pair s.name.toList ++ ['\n']
  | .dotted => ss.flatMap fun s => s.pair (g.toList ++ '.' :: s.name.toList) ++ ['\n']
  | .braced => g.toList ++ ([' '] ++ '=' :: ([' '] ++ '\x7b' :: (members ss ++ ['\x7d']))) ++ ['\n']

/-- The clauses of both tables, in either order. -/
def told (style : Style) (swapped : Bool) (api lookup : List Setting) : List Clause :=
  if swapped then style.clauses "lookup" lookup ++ style.clauses "customer_api" api
  else style.clauses "customer_api" api ++ style.clauses "lookup" lookup

/-- The document of a layer, with the two tables in either order. -/
def document (style : Style) (swapped : Bool) (l : Layer) : List Char :=
  let api := style.text "customer_api"
    ((l.baseUrl.map .baseUrl).toList ++ (l.timeout.map .timeout).toList)
  let lookup := style.text "lookup" (l.source.map .source).toList
  if swapped then lookup ++ api else api ++ lookup

end Style

section Writing

variable {d : Nat} {g : String} {style : Style} {swapped : Bool} {s : Setting}
  {ss api lookup : List Setting}

theorem bare_name (s : Setting) : Bare s.name.toList := by
  refine bare_of_mem _ ?_
  cases s with
  | baseUrl url => exact List.mem_of_elem_eq_true rfl
  | timeout seconds => exact List.mem_of_elem_eq_true rfl
  | source s => exact List.mem_of_elem_eq_true rfl

theorem written_spelled (s : Setting) : Written d (.scalar s.scalar) s.spelled := by
  cases s with
  | baseUrl url => exact .text (.basic (basic_spell url.toList))
  | timeout seconds => exact .word (.whole .none (whole_text seconds))
  | source s => exact .text (.basic (basic_spell s.name.toList))

theorem written_pair {path : List String} {keys : List Char} (h : WrittenPath path keys)
    (s : Setting) : WrittenPair d path (.scalar s.scalar) (s.pair keys) :=
  .mk h blanks_one blanks_one (written_spelled s)

theorem line_of_pair {path : List String} {i : Item} {t : List Char}
    (h : WrittenPair d path i t) : WrittenLine d [.member path i] t := by
  have hline := WrittenLine.member blanks_nil h blanks_nil .none
  rwa [List.append_nil, List.append_nil] at hline

theorem written_members (ss : List Setting) :
    WrittenMembers d (ss.map fun s => ([s.name], .scalar s.scalar)) (members ss) := by
  induction ss with
  | nil => exact .none filler_nil
  | cons s ss ih =>
      have hpair : WrittenPair d [s.name] _ _ := written_pair (path_name (bare_name s)) s
      cases ss with
      | nil =>
          have hlast := WrittenMembers.last filler_nil hpair filler_nil
          rwa [List.append_nil] at hlast
      | cons s' ss => exact .more filler_nil hpair filler_nil ih

/-- Settings with the same keys in front, one in a line. -/
theorem lines_flatMap {path : Setting → List String} {keys : Setting → List Char}
    (h : ∀ s, WrittenPath (path s) (keys s)) (ss : List Setting) :
    Lines d (ss.map fun s => .member (path s) (.scalar s.scalar))
      (ss.flatMap fun s => s.pair (keys s) ++ ['\n']) := by
  induction ss with
  | nil => exact .nil
  | cons s ss ih => exact (line_of_pair (written_pair (h s) s)).lines.append ih

theorem Style.lines (style : Style) (hg : Bare g.toList) (ss : List Setting) :
    Lines 1 (style.clauses g ss) (style.text g ss) := by
  cases style with
  | headed =>
      have hheader : WrittenLine 1 [.header false [g]] _ :=
        .header blanks_nil (.mk blanks_nil (path_name hg) blanks_nil) blanks_nil .none
      have hlines := hheader.lines.append
        (lines_flatMap (fun s => path_name (bare_name s)) ss)
      simpa [Style.text, Style.clauses] using hlines
  | dotted => exact lines_flatMap (fun s => path_names hg (bare_name s)) ss
  | braced =>
      have hpair : WrittenPair 1 [g] _ _ :=
        .mk (path_name hg) blanks_one blanks_one (.table (written_members ss))
      exact (line_of_pair hpair).lines

/-- The document of a layer says what it is meant to say. -/
theorem Style.written (style : Style) (swapped : Bool) (l : Layer) :
    WrittenDocument 1 (style.told swapped
        ((l.baseUrl.map .baseUrl).toList ++ (l.timeout.map .timeout).toList)
        (l.source.map .source).toList)
      (style.document swapped l) := by
  refine Lines.document ?_
  have hapi := style.lines (bare_of_mem "customer_api" (by decide))
  have hlookup := style.lines (bare_of_mem "lookup" (by decide))
  cases swapped with
  | false => exact (hapi _).append (hlookup _)
  | true => exact (hlookup _).append (hapi _)

/-- Clauses that leave the table `g` to others. -/
structure Apart (style : Style) (g : String) (cs : List Clause) : Prop where
  members : style ≠ .headed → ∀ c ∈ cs, c.isMember = true
  headers : ∀ array, .header array [g] ∉ cs
  keys : ∀ i, .member [g] i ∉ cs

theorem apart_nil (style : Style) (g : String) : Apart style g [] :=
  ⟨fun _ => List.forall_mem_nil _, by simp, by simp⟩

theorem apart_clauses {g' : String} (h : g ≠ g') (hne : ∀ s : Setting, g ≠ s.name)
    (style : Style) (ss : List Setting) : Apart style g (style.clauses g' ss) := by
  cases style with
  | headed =>
      refine ⟨fun hstyle => absurd rfl hstyle, ?_, ?_⟩
      · simp [Style.clauses, h]
      · simp [Style.clauses, (hne _).symm]
  | dotted =>
      refine ⟨fun _ => ?_, ?_, ?_⟩
      · simp [Style.clauses, Clause.isMember]
      · simp [Style.clauses]
      · simp [Style.clauses]
  | braced =>
      refine ⟨fun _ => ?_, ?_, ?_⟩
      · simp [Style.clauses, Clause.isMember]
      · simp [Style.clauses]
      · simp [Style.clauses, h]

/-- One more setting in a table is one more member. -/
theorem Style.adds {before after : List Clause} (hbefore : Apart style g before)
    (hafter : Apart style g after) (ss : List Setting) (s : Setting) :
    Adds g s.name (.scalar s.scalar) (before ++ (style.clauses g ss ++ after))
      (before ++ (style.clauses g (ss ++ [s]) ++ after)) := by
  cases style with
  | headed =>
      have hmembers : ∀ c ∈ ss.map fun s => Clause.member [s.name] (.scalar s.scalar),
          c.isMember = true := by simp [Clause.isMember]
      simpa [Style.clauses] using
        @Adds.headed g s.name (.scalar s.scalar) before _ after hmembers
  | dotted =>
      have hmembers : ∀ c ∈ before ++ ss.map fun s => Clause.member [g, s.name] (.scalar s.scalar),
          c.isMember = true :=
        List.forall_mem_append.mpr ⟨hbefore.members nofun, by simp [Clause.isMember]⟩
      have hadds := @Adds.dotted g s.name (.scalar s.scalar) _ after hmembers
        (by simp [hbefore.headers, hafter.headers])
        (fun i hmem => by
          have hall := (List.takeWhile_sublist _).subset hmem
          simp [hbefore.keys, hafter.keys] at hall)
      simpa [Style.clauses] using hadds
  | braced =>
      simpa [Style.clauses] using @Adds.braced g s.name (.scalar s.scalar) before after
        (ss.map fun s => ([s.name], .scalar s.scalar)) [] (hbefore.members nofun)

/-- No setting has the name of a table. -/
theorem ne_name {g : String} (h : g ∈ ["customer_api", "lookup"]) (s : Setting) : g ≠ s.name := by
  have hall : ∀ g ∈ ["customer_api", "lookup"],
      g ≠ "base_url" ∧ g ≠ "timeout_seconds" ∧ g ≠ "source" := by decide
  obtain ⟨hurl, htimeout, hsource⟩ := hall g h
  cases s with
  | baseUrl url => exact hurl
  | timeout seconds => exact htimeout
  | source s => exact hsource

/-- One more setting in a table is one more member, whichever side the other table
is on. -/
theorem Style.adds_beside (style : Style) (g g' : String) (hg : g ∈ ["customer_api", "lookup"])
    (hne : g ≠ g') (ss others : List Setting) (s : Setting) :
    Adds g s.name (.scalar s.scalar) (style.clauses g ss ++ style.clauses g' others)
        (style.clauses g (ss ++ [s]) ++ style.clauses g' others) ∧
      Adds g s.name (.scalar s.scalar) (style.clauses g' others ++ style.clauses g ss)
        (style.clauses g' others ++ style.clauses g (ss ++ [s])) := by
  have hnil := apart_nil style g
  have hothers : Apart style g (style.clauses g' others) :=
    apart_clauses hne (ne_name hg) style others
  constructor
  · exact Style.adds hnil hothers ss s
  · simpa using Style.adds hothers hnil ss s

/-- In every style the clauses give the settings of the layer. -/
theorem Style.tells (style : Style) (swapped : Bool) (l : Layer) :
    Tells (style.told swapped [] []) l (style.told swapped
      ((l.baseUrl.map .baseUrl).toList ++ (l.timeout.map .timeout).toList)
      (l.source.map .source).toList) := by
  obtain ⟨url, timeout, source⟩ := l
  have hapi : ∀ api s, Adds "customer_api" s.name (.scalar s.scalar) (style.told swapped api [])
      (style.told swapped (api ++ [s]) []) := by
    intro api s
    have hadds := style.adds_beside "customer_api" "lookup" (by decide) (by decide) api [] s
    cases swapped with
    | false => exact hadds.1
    | true => exact hadds.2
  have hlookup : ∀ api s, Adds "lookup" s.name (.scalar s.scalar) (style.told swapped api [])
      (style.told swapped api [s]) := by
    intro api s
    have hadds := style.adds_beside "lookup" "customer_api" (by decide) (by decide) [] api s
    cases swapped with
    | false => exact hadds.2
    | true => exact hadds.1
  have hurl : Tells (style.told swapped [] []) ⟨url, none, none⟩
      (style.told swapped (url.map .baseUrl).toList []) := by
    cases url with
    | none => exact .rest
    | some url => exact .setting (.baseUrl url) .rest rfl (hapi [] _)
  have htimeout : Tells (style.told swapped [] []) ⟨url, timeout, none⟩
      (style.told swapped ((url.map .baseUrl).toList ++ (timeout.map .timeout).toList) []) := by
    cases timeout with
    | none => simpa using hurl
    | some seconds => exact .setting (.timeout seconds) hurl rfl (hapi _ _)
  cases source with
  | none => exact htimeout
  | some s => exact .setting (.source s) htimeout rfl (hlookup _ _)

/-- Without settings they say nothing about them. -/
theorem Style.assemble_told (style : Style) (swapped : Bool) :
    ∃ doc, assemble (style.told swapped [] []) = some doc ∧ Holds doc {} := by
  have hnone := @Outline.tabular_of_none
  have htable := @Outline.tabular_of_table
  cases style with
  | headed =>
      cases swapped with
      | false => exact ⟨_, rfl, htable rfl, htable rfl, rfl, rfl, rfl⟩
      | true => exact ⟨_, rfl, htable rfl, htable rfl, rfl, rfl, rfl⟩
  | dotted =>
      cases swapped with
      | false => exact ⟨_, rfl, hnone rfl, hnone rfl, rfl, rfl, rfl⟩
      | true => exact ⟨_, rfl, hnone rfl, hnone rfl, rfl, rfl, rfl⟩
  | braced =>
      cases swapped with
      | false => exact ⟨_, rfl, htable rfl, htable rfl, rfl, rfl, rfl⟩
      | true => exact ⟨_, rfl, htable rfl, htable rfl, rfl, rfl, rfl⟩

/-- Every layer has a document in every style. -/
theorem Style.presents (style : Style) (swapped : Bool) (l : Layer) :
    Presents (style.told swapped [] []) l 1 (style.document swapped l) := by
  obtain ⟨doc, hdoc, hholds⟩ := style.assemble_told swapped
  exact .mk hdoc hholds (style.tells swapped l) (style.written swapped l)

/-- Without settings there is no number in it. -/
theorem Style.fits (style : Style) (swapped : Bool) : ∀ c ∈ style.told swapped [] [], c.Fits := by
  have hclauses : ∀ g, ∀ c ∈ style.clauses g [], c.Fits := by
    intro g
    cases style with
    | headed => exact List.forall_mem_singleton.mpr (.header false [g])
    | dotted => exact List.forall_mem_nil _
    | braced => exact List.forall_mem_singleton.mpr (.member (.table (List.forall_mem_nil _)))
  cases swapped with
  | false => exact List.forall_mem_append.mpr ⟨hclauses _, hclauses _⟩
  | true => exact List.forall_mem_append.mpr ⟨hclauses _, hclauses _⟩

end Writing

/-! ## Two examples -/

/-- A layer with all three settings; its address has signs that need an escape. -/
def quaint : Layer := ⟨some "http://h/\"ü$", some 30, some .remote⟩

/-- What a document may say beside the settings. -/
def notes : List Clause :=
  [.member ["note"] (.array [.scalar (.bool true)]), .header false ["customer_api"],
    .header true ["more"]]

/-- A document with comments, blank lines and other content. -/
def noted : List Char :=
  "# customers\nnote = [true]\n\n[customer_api] # table\nbase_url = \"h\"\n[[more]]\n".toList

theorem notes_fit : ∀ c ∈ notes, c.Fits := by
  have hnote : Item.Fits (.array [.scalar (.bool true)]) :=
    .array (List.forall_mem_singleton.mpr (.scalar trivial))
  intro c hc
  simp only [notes, List.mem_cons, List.not_mem_nil, or_false] at hc
  rcases hc with rfl | rfl | rfl
  · exact .member hnote
  · exact .header _ _
  · exact .header _ _

theorem noted_presents : Presents notes { baseUrl := some "h" } 1 noted := by
  have hremark : ∀ t : List Char, (t.all fun c => !isControl c) = true → Remark ('#' :: t) := by
    intro t h
    refine .comment fun c hc => ?_
    simpa using List.all_eq_true.mp h c hc
  have hnote : WrittenPair 1 ["note"] (.array [.scalar (.bool true)])
      ("note".toList ++ ([' '] ++ '=' :: ([' '] ++
        '[' :: (([] ++ ("true".toList ++ [])) ++ [']'])))) :=
    .mk (path_name (by decide)) blanks_one blanks_one
      (.array (.last filler_nil (.word .yes) filler_nil))
  have hmore : WrittenPath ["more"] "more".toList := path_name (by decide)
  have hcomment : Lines 1 [] _ := (WrittenLine.silent blanks_nil (hremark " customers".toList
    (by decide))).lines
  have hsilent : Lines 1 [] _ := (WrittenLine.silent blanks_nil .none).lines
  have hheader : Lines 1 [.header false ["customer_api"]] _ :=
    (WrittenLine.header blanks_nil
      (.mk blanks_nil (path_name (bare_of_mem _ (by decide))) blanks_nil) blanks_one
      (hremark " table".toList (by decide))).lines
  have hsetting := (line_of_pair (written_pair (d := 1) (path_name (bare_name (.baseUrl "h")))
    (.baseUrl "h"))).lines
  have hlast : Lines 1 [.header true ["more"]] _ :=
    (WrittenLine.element blanks_nil (.mk blanks_nil hmore blanks_nil) blanks_nil .none).lines
  have hlines := hcomment.append ((line_of_pair hnote).lines.append
    (hsilent.append (hheader.append (hsetting.append hlast))))
  refine .mk rfl ⟨Outline.tabular_of_table rfl, Outline.tabular_of_none rfl, rfl, rfl, rfl⟩
    (.setting (.baseUrl "h") .rest rfl ?_) hlines.document
  exact @Adds.headed _ _ _ [_] [] [_] (List.forall_mem_nil _)

theorem quaint_fits (seconds : Nat) (h : quaint.timeout = some seconds) :
    seconds < 0x10000000000000000 := by
  cases h
  decide

/-! ## The agreement -/

/-- A document gives the settings that are in it, whatever way they are
written in whatever order, and whatever else is there. -/
theorem notations_agree (env : Environment) {rest : List Clause} {l : Layer} {d : Nat}
    {text : List Char} (h : Presents rest l d text) (hdepth : d ≤ depthLimit)
    (hfits : ∀ c ∈ rest, c.Fits)
    (hrange : ∀ seconds, l.timeout = some seconds → seconds < 0x10000000000000000)
    (henv : Template.fill env text = text) :
    Configuration.ofText env (String.ofList text) = .ok (.ofLayer l) := by
  obtain ⟨hrest, hdoc, htells, hwritten⟩ := h
  obtain ⟨doc', hdoc', hholds⟩ := htells.assemble hrest hdoc
  have hmembers := document_written hwritten hdepth
  rw [hdoc'] at hmembers
  cases hread : document text with
  | error e =>
      rw [hread] at hmembers
      cases hmembers
  | ok ms =>
      rw [hread] at hmembers
      have hms : memberTree ms = doc'.members := Option.some.inj hmembers
      have hlight : doc'.Light := by
        obtain ⟨s', hs', heq⟩ := Option.bind_eq_some_iff.mp hdoc'
        cases heq
        exact hwritten.light (htells.fits hfits hrange) (Outline.light_empty .headed) hs'
      have hlayer : Layer.ofToml text = .ok l :=
        Layer.ofToml_eq_ok.mpr ⟨ms, hread, hholds.read (document_tidy hread) hms hlight hrange⟩
      have hfilled : Layer.ofText env (String.ofList text) = .ok l := by
        rw [Layer.ofText, String.toList_ofList, henv, hlayer]
      exact bind_eq_ok.mpr ⟨l, hfilled, rfl⟩

/-- It is the same in three notations, the second with the tables the other way
round; and a setting among other content is as good as by itself. -/
theorem quaint_agrees :
    Configuration.ofText (fun _ => none)
        ("[customer_api]\nbase_url = \"http://h/\\U00000022\\U000000fc\\U00000024\"\n" ++
          "timeout_seconds = 30\n[lookup]\nsource = \"remote\"\n") = .ok (.ofLayer quaint) ∧
      Configuration.ofText (fun _ => none)
        ("lookup.source = \"remote\"\n" ++
          "customer_api.base_url = \"http://h/\\U00000022\\U000000fc\\U00000024\"\n" ++
          "customer_api.timeout_seconds = 30\n") = .ok (.ofLayer quaint) ∧
      Configuration.ofText (fun _ => none)
        ("customer_api = \x7bbase_url = \"http://h/\\U00000022\\U000000fc\\U00000024\"," ++
          "timeout_seconds = 30\x7d\nlookup = \x7bsource = \"remote\"\x7d\n") =
        .ok (.ofLayer quaint) ∧
      Configuration.ofText (fun _ => none) (String.ofList noted) =
        .ok (.ofLayer { baseUrl := some "h" }) := by
  have hagree : ∀ style swapped text, String.ofList (Style.document style swapped quaint) = text →
      Template.fill (fun _ => none) (Style.document style swapped quaint) =
        Style.document style swapped quaint →
      Configuration.ofText (fun _ => none) text = .ok (.ofLayer quaint) := by
    intro style swapped text htext henv
    rw [← htext]
    exact notations_agree _ (style.presents swapped quaint) (by decide) (style.fits swapped)
      quaint_fits henv
  refine ⟨?_, ?_, ?_, ?_⟩
  · exact hagree .headed false _ (by decide +kernel) (by decide +kernel)
  · exact hagree .dotted true _ (by decide +kernel) (by decide +kernel)
  · exact hagree .braced false _ (by decide +kernel) (by decide +kernel)
  · exact notations_agree _ noted_presents (by decide) notes_fit nofun (by decide +kernel)

/-! ## Limits -/

/-- A document of one member of another name says nothing about the settings. -/
theorem presents_member {d : Nat} {name : String} {i : Item} {x : Tree} {t : List Char}
    (hbare : Bare name.toList) (hapi : "customer_api" ≠ name) (hlookup : "lookup" ≠ name)
    (hx : i.tree = some x) (hi : Written d i t) :
    Presents [.member [name] i] {} d (name.toList ++ ([] ++ '=' :: ([] ++ t))) := by
  have hclause : Sketch.start.clause (.member [name] i) =
      some ⟨(Outline.empty .headed).set name x, []⟩ :=
    clause_member_eq_some.mpr ⟨x, hx, Outline.add_single.mpr ⟨nofun, rfl, rfl⟩, rfl⟩
  have hdoc : assemble [.member [name] i] = some ((Outline.empty .headed).set name x) := by
    rw [assemble, List.foldlM_cons, hclause]
    rfl
  have hnone : ∀ {g}, g ≠ name → ((Outline.empty .headed).set name x).members g = none :=
    fun hne => Outline.members_set_of_ne hne _ x
  have hvalue : ∀ {g} k, g ≠ name → ((Outline.empty .headed).set name x).value g k = none := by
    intro g k hne
    rw [Outline.value, hnone hne]
  exact .mk hdoc ⟨Outline.tabular_of_none (hnone hapi), Outline.tabular_of_none (hnone hlookup),
    hvalue _ hapi, hvalue _ hapi, hvalue _ hlookup⟩ .rest
    (.last (line_of_pair (.mk (path_name hbare) blanks_nil blanks_nil hi)))

/-- Arrays in arrays. -/
def nested : Nat → Item
  | 0 => .array []
  | n + 1 => .array [nested n]

/-- Their text. -/
def brackets : Nat → List Char
  | 0 => '[' :: ([] ++ [']'])
  | n + 1 => '[' :: (([] ++ (brackets n ++ [])) ++ [']'])

theorem written_nested (n : Nat) : Written (n + 1) (nested n) (brackets n) := by
  induction n with
  | zero => exact .array (.none filler_nil)
  | succ n ih => exact .array (.last filler_nil ih filler_nil)

theorem tree_nested (n : Nat) : ∃ x, (nested n).tree = some x := by
  induction n with
  | zero => exact ⟨_, rfl⟩
  | succ n ih =>
      obtain ⟨x, hx⟩ := ih
      refine ⟨.array false [x], ?_⟩
      rw [nested, Item.tree, itemTrees, hx]
      rfl

/-- The names of a path with points between them. -/
def points : Nat → List Char
  | 0 => "a".toList
  | n + 1 => "a".toList ++ ([] ++ '.' :: ([] ++ points n))

theorem written_points (n : Nat) : WrittenPath (List.replicate (n + 1) "a") (points n) := by
  have hbare : Bare "a".toList := by decide
  induction n with
  | zero => exact path_name hbare
  | succ n ih => exact .more (.bare hbare) blanks_nil blanks_nil ih

/-- The text has no placeholder, and is not read. -/
def Refused (text : List Char) : Prop :=
  Template.fill (fun _ => none) text = text ∧
    (Configuration.ofText (fun _ => none) (String.ofList text)).isOk = false

instance (text : List Char) : Decidable (Refused text) := inferInstanceAs (Decidable (_ ∧ _))

/-- Documents that give no setting, and yet are not read: brackets that nest too
deep, numbers that are too large, and a path that is too long. -/
theorem limits_refused :
    (Presents [.member ["x"] (nested 80)] {} 81 ("x=".toList ++ brackets 80) ∧
      Refused ("x=".toList ++ brackets 80)) ∧
    (Presents [.member ["x"] (.scalar (.integer (2 ^ 128)))] {} 0
        "x=340282366920938463463374607431768211456".toList ∧
      Refused "x=340282366920938463463374607431768211456".toList) ∧
    (Presents [.member ["x"] (.scalar (.amount "1e400".toList))] {} 0 "x=1e400".toList ∧
      Refused "x=1e400".toList) ∧
    (WrittenDocument 0 [.member (List.replicate 81 "a") (.scalar (.bool true))]
        (points 80 ++ "=true".toList) ∧
      Refused (points 80 ++ "=true".toList)) := by
  have hbare : Bare "x".toList := by decide
  have hpresents : ∀ {d i x t}, Item.tree i = some x → Written d i t →
      Presents [.member ["x"] i] {} d ("x=".toList ++ t) :=
    presents_member hbare (by decide) (by decide)
  refine ⟨⟨?_, by decide +kernel⟩, ⟨?_, by decide +kernel⟩, ⟨?_, by decide +kernel⟩,
    ?_, by decide +kernel⟩
  · obtain ⟨x, hx⟩ := tree_nested 80
    exact hpresents hx (written_nested 80)
  · have hwhole := whole_text (2 ^ 128)
    have htext : Decimal.text (2 ^ 128) = "340282366920938463463374607431768211456".toList := by
      decide +kernel
    rw [htext] at hwhole
    exact hpresents rfl (.word (.whole .none hwhole))
  · have hone : Whole 1 ['1'] := whole_text 1
    have hamount : Amount "1e400".toList :=
      .mk .none hone .none (.some (.inl rfl) .none (whole_text 400).numeral) (.inr nofun)
    exact hpresents rfl (.word (.amount hamount))
  · exact .last (line_of_pair (.mk (written_points 80) blanks_nil blanks_nil (.word .yes)))

end Settings

end OrderDesk
