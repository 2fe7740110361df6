/-
# `Proofs.Template.Stability` — a text that is filled in stays as it is

Values are put in and not read again.  To read the outcome once more is to
read them after all, and with them what they came to stand beside: a value
could hold a placeholder, end as one begins, or let the text on its two sides
meet by being empty.  A bland value does none of these, and then the outcome
holds the names without a value where they stood, and no others
(`fill_stable`).

| | |
| :-- | :-- |
| `Bland value`      | a nonempty value without a dollar sign and an opening brace |
| `Part.settled env` | what a second reading finds in the place of a part |
| `parts_fill`       | the parts of a text that has been filled in |

The text is gone through by its division.  Gap, value and name are each a
closed text and no two of them make an opening where they meet, so that they
are read apart.  Only the last gap need not be closed; nothing follows it.
-/
import OrderDesk.Proofs.Template.Seams

namespace OrderDesk

namespace Template

/-- The value has no part of an opening, and there is something of it to keep
what is around it apart. -/
structure Bland (value : String) : Prop where
  nonempty : value ≠ ""
  dollar : '$' ∉ value.toList
  brace : '\x7b' ∉ value.toList

/-- What a second reading finds in the place of a part: the characters of a
value stand for themselves, and a name without one is still there. -/
def Part.settled (env : Environment) : Part → List Part
  | .plain c => [.plain c]
  | .placeholder name =>
    match env (String.ofList name) with
    | some value => value.toList.map .plain
    | none => [.placeholder name]

variable {env : Environment}

/-- To fill in what a second reading finds is to fill in once. -/
theorem Part.flatMap_settled (p : Part) :
    (p.settled env).flatMap (Part.fill env) = p.fill env := by
  cases p with
  | plain c => rfl
  | placeholder name =>
      cases hvalue : env (String.ofList name) with
      | none => simp [settled, hvalue]
      | some value => simp [settled, fill, hvalue, List.flatMap_map]

/-! ## Gaps -/

/-- A gap is silent by itself as well. -/
theorem Silent.alone {gap behind : List Char} (h : Silent gap behind) : Silent gap [] := by
  rintro before after rfl hne inside heq
  rw [List.append_nil] at heq
  obtain rfl := heq
  rcases h before _ rfl hne (inside ++ behind) rfl with hhead | hfree
  · cases inside with
    | nil => exact .inr List.not_mem_nil
    | cons c inside => exact .inl hhead
  · exact .inr fun hmem => hfree (List.mem_append_left _ hmem)

/-- A gap in front of a name closes what it opens: the name ends in a closing
brace, so the only openings that are let go by are those with one at once
behind them. -/
theorem Silent.closed {gap name behind : List Char} (h : Silent gap (marker name ++ behind)) :
    Closed gap := by
  rintro before inside rfl
  rcases h before _ rfl (List.cons_ne_nil _ _) (inside ++ (marker name ++ behind)) rfl with
    hhead | hfree
  · cases inside with
    | nil => simp [marker] at hhead
    | cons c inside =>
        cases hhead
        exact List.mem_cons_self
  · exact absurd (by simp [marker]) hfree

theorem parts_gap {gap behind : List Char} (h : Silent gap behind) :
    parts gap = gap.map .plain := by
  have hparts := parts_silent h.alone
  rwa [parts, List.append_nil, List.append_nil] at hparts

theorem flatMap_gap (gap : List Char) :
    (gap.map Part.plain).flatMap (Part.settled env) = gap.map .plain := by
  rw [List.flatMap_map, List.map_eq_flatMap]
  rfl

/-! ## Names -/

/-- What stands in the place of a name is a closed text that makes no opening
with what is around it. -/
structure Contained (v : List Char) : Prop where
  closed : Closed v
  last : v.getLast? ≠ some '$'
  nonempty : v ≠ []
  head : v.head? ≠ some '\x7b'

theorem Contained.front {v : List Char} (h : Contained v) (gap behind : List Char) :
    ¬ Opens gap (v ++ behind) := by
  obtain ⟨c, rest, rfl⟩ := List.exists_cons_of_ne_nil h.nonempty
  exact not_opens_of_head? h.head

theorem Contained.back {v : List Char} (h : Contained v) (behind : List Char) : ¬ Opens v behind :=
  fun hopens => h.last hopens.1

theorem contained_marker (name : List Char) : Contained (marker name) := by
  have hlast : (marker name).getLast? = some '\x7d' :=
    List.getLast?_concat (l := '$' :: '\x7b' :: name)
  exact {
    closed := closed_of_getLast? hlast
    last := by simp [hlast]
    nonempty := List.cons_ne_nil _ _
    head := by simp [marker] }

theorem Bland.contained {value : String} (h : Bland value) : Contained value.toList where
  closed := closed_of_not_mem h.dollar
  last := fun hlast => h.dollar (List.mem_of_getLast? hlast)
  nonempty := by simpa using h.nonempty
  head := fun hhead => h.brace (List.mem_of_head? hhead)

theorem contained_fill {name : List Char}
    (h : ∀ value, env (String.ofList name) = some value → Bland value) :
    Contained ((Part.placeholder name).fill env) := by
  cases hvalue : env (String.ofList name) with
  | none =>
      simp only [Part.fill, hvalue]
      exact contained_marker name
  | some value =>
      simp only [Part.fill, hvalue]
      exact (h value hvalue).contained

theorem parts_fill_placeholder {name : List Char} (hne : name ≠ []) (hfree : '\x7d' ∉ name)
    (h : ∀ value, env (String.ofList name) = some value → Bland value) :
    parts ((Part.placeholder name).fill env) = (Part.placeholder name).settled env := by
  cases hvalue : env (String.ofList name) with
  | none =>
      simp only [Part.fill, Part.settled, hvalue]
      exact parts_name hne hfree
  | some value =>
      simp only [Part.fill, Part.settled, hvalue]
      exact parts_gap (silent_of_not_mem (h value hvalue).dollar [])

/-! ## Filled texts -/

section

variable {gap name behind : List Char}

theorem parts_mark (hgap : Silent gap (marker name ++ behind)) (hne : name ≠ [])
    (hfree : '\x7d' ∉ name) :
    parts (gap ++ (marker name ++ behind)) =
      gap.map .plain ++ .placeholder name :: parts behind := by
  rw [parts_silent hgap, parts_marker hne hfree]

theorem names_mark (hgap : Silent gap (marker name ++ behind)) (hne : name ≠ [])
    (hfree : '\x7d' ∉ name) :
    names (gap ++ (marker name ++ behind)) = String.ofList name :: names behind := by
  simp [names, parts_mark hgap hne hfree, List.filterMap_map]

theorem fill_mark (hgap : Silent gap (marker name ++ behind)) (hne : name ≠ [])
    (hfree : '\x7d' ∉ name) :
    fill env (gap ++ (marker name ++ behind)) =
      gap ++ ((Part.placeholder name).fill env ++ fill env behind) := by
  have hcontained := contained_marker name
  rw [fill_append hgap.closed (hcontained.front gap behind), fill_silent hgap.alone,
    fill_append hcontained.closed (hcontained.back behind), fill_marker hne hfree]

end

/-- A second reading finds the parts of the first, settled. -/
theorem parts_fill {text : List Char} {d : Division} (h : Divides text d)
    (hbland : ∀ name ∈ names text, ∀ value, env name = some value → Bland value) :
    parts (fill env text) = (parts text).flatMap (Part.settled env) := by
  induction h with
  | last hgap => rw [fill_silent hgap, parts_gap hgap, flatMap_gap]
  | @mark gap name behind d hgap hne hfree _ ih =>
      rw [names_mark hgap hne hfree, List.forall_mem_cons] at hbland
      obtain ⟨hname, hnames⟩ := hbland
      have hcontained := contained_fill hname
      -- gap, value and rest in a row: at both seams it is the value that meets the others
      rw [fill_mark hgap hne hfree, parts_append hgap.closed (hcontained.front gap _),
        parts_append hcontained.closed (hcontained.back _), parts_gap hgap,
        parts_fill_placeholder hne hfree hname, ih hnames, parts_mark hgap hne hfree,
        List.flatMap_append, flatMap_gap, List.flatMap_cons]

/-- If the names in a text have bland values, as far as they have any, a second
reading finds these values as they are and the names without one, and filling
in once more changes nothing. -/
theorem fill_stable (env : Environment) (text : List Char)
    (hbland : ∀ name ∈ names text, ∀ value, env name = some value → Bland value) :
    parts (fill env text) = (parts text).flatMap (Part.settled env) ∧
      fill env (fill env text) = fill env text := by
  have hparts := parts_fill (divides_ofParts text) hbland
  refine ⟨hparts, ?_⟩
  calc fill env (fill env text)
      = ((parts text).flatMap (Part.settled env)).flatMap (Part.fill env) := by
        rw [fill, hparts]
    _ = (parts text).flatMap fun p => (p.settled env).flatMap (Part.fill env) :=
        List.flatMap_assoc
    _ = fill env text := by
        rw [funext Part.flatMap_settled]
        rfl

/-- Its value closes braces and opens none. -/
def closing : Environment
  | "a" => some "\x7dx"
  | _ => none

/-- A value between a dollar sign and a name, and one after a brace. -/
def crowded : List Char := "$$\x7ba\x7d$\x7bb\x7d\x7b$\x7ba\x7d$\x7b\x7d$\x7bc".toList

/-- The values stay out of the placeholders around them. -/
theorem crowded_stable :
    (∀ name ∈ names crowded, ∀ value, closing name = some value → Bland value) ∧
    fill closing crowded = "$\x7dx$\x7bb\x7d\x7b\x7dx$\x7b\x7d$\x7bc".toList ∧
    fill closing (fill closing crowded) = fill closing crowded := by
  have hbland : ∀ name value, closing name = some value → Bland value := by
    intro name value hvalue
    unfold closing at hvalue
    split at hvalue
    · cases hvalue
      exact ⟨by decide, by decide, by decide⟩
    · cases hvalue
  have hnames : ∀ name ∈ names crowded, ∀ value, closing name = some value → Bland value :=
    fun name _ => hbland name
  exact ⟨hnames, by decide +kernel, (fill_stable closing crowded hnames).2⟩

/-- An empty value is not there to keep a dollar sign and a brace apart. -/
example : fill (fun _ => some "") (fill (fun _ => some "") "$$\x7ba\x7d\x7bb\x7d".toList) ≠
    fill (fun _ => some "") "$$\x7ba\x7d\x7bb\x7d".toList := by
  decide +kernel

end Template

end OrderDesk
