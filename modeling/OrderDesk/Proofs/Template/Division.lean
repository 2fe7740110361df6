/-
# `Proofs.Template.Division` — every text has its placeholders in one way

Reading takes the placeholders of a text as it comes by them.  Which ones
these are can be said without reading: the text falls apart into names and
the gaps around them, and in no gap could another placeholder have begun.
There is one such division of each text, and filling in changes its names
and leaves its gaps (`fill_division`).

| | |
| :-- | :-- |
| `marker name`          | a name as it stands in a text |
| `Silent gap behind`    | no placeholder begins in the gap if this follows |
| `Divides text d`       | the text falls apart into the gaps and names of `d` |
| `parts_silent`, `parts_marker` | what reading makes of a gap and of a name |

A division and the parts of a text hold the same, so both directions go by
way of the parts: those of a text make a division of it, and a division
makes the parts that reading finds.  The gap is where the two differ, being
one text here and many characters there.
-/
import Mathlib.Data.List.TakeWhile
import OrderDesk.Template
import OrderDesk.Utf8

namespace OrderDesk

/-- The variables that are set to a text; the system knows their values as
octets. -/
def Environment.ofOctets (values : String → Option (List UInt8)) : Environment :=
  fun name => (values name).bind Utf8.string?

namespace Template

/-- A name as it stands in a text. -/
def marker (name : List Char) : List Char := '$' :: '\x7b' :: (name ++ ['\x7d'])

/-- A text taken apart: gaps, each with the name behind it, and a last
gap. -/
structure Division where
  marked : List (List Char × List Char)
  last : List Char

/-- The text of a division, with this in the place of each name. -/
def Division.write (d : Division) (shown : List Char → List Char) : List Char :=
  d.marked.flatMap (fun m => m.1 ++ shown m.2) ++ d.last

/-- No placeholder begins at the front of the text: if it begins with a
dollar sign and an opening brace, a closing brace follows at once or none
follows at all. -/
def Quiet (s : List Char) : Prop :=
  ∀ inside, s = '$' :: '\x7b' :: inside → inside.head? = some '\x7d' ∨ '\x7d' ∉ inside

/-- No placeholder begins anywhere in the gap, if this follows it. -/
def Silent (gap behind : List Char) : Prop :=
  ∀ before after, gap = before ++ after → after ≠ [] → Quiet (after ++ behind)

/-- The text falls apart into these gaps and names. -/
inductive Divides : List Char → Division → Prop
  | last {gap : List Char} : Silent gap [] → Divides gap ⟨[], gap⟩
  | mark {gap name behind : List Char} {d : Division} :
      Silent gap (marker name ++ behind) → name ≠ [] → '\x7d' ∉ name → Divides behind d →
      Divides (gap ++ (marker name ++ behind)) ⟨(gap, name) :: d.marked, d.last⟩

/-- What stands in the place of a name in the end: the value of the variable
if it is set to a text, else the name as it stood. -/
def shown (values : String → Option (List UInt8)) (name : List Char) : List Char :=
  match values (String.ofList name) with
  | some octets => (Utf8.string? octets).elim (marker name) String.toList
  | none => marker name

/-! ## Names -/

theorem name?_eq_some {s name rest : List Char} :
    name? s = some (name, rest) ↔ name ≠ [] ∧ '\x7d' ∉ name ∧ s = name ++ '\x7d' :: rest := by
  constructor
  · intro h
    have happend := List.takeWhile_append_dropWhile (p := (· ≠ '\x7d')) (l := s)
    have hfree : '\x7d' ∉ s.takeWhile (· ≠ '\x7d') := by
      intro hmem
      have hholds := List.mem_takeWhile_imp hmem
      simp at hholds
    unfold name? at h
    split at h
    · next c front d behind htake hdrop =>
        cases h
        have hbrace : d = '\x7d' := by
          have := List.head?_dropWhile_not (· ≠ '\x7d') s
          rw [hdrop] at this
          simpa using this
        rw [htake] at hfree happend
        rw [hdrop, hbrace] at happend
        exact ⟨List.cons_ne_nil c front, hfree, happend.symm⟩
    · cases h
  · rintro ⟨hne, hfree, rfl⟩
    have hall : ∀ c ∈ name, decide (c ≠ '\x7d') = true := by
      intro c hc
      simp only [decide_eq_true_eq]
      rintro rfl
      exact hfree hc
    obtain ⟨c, front, rfl⟩ := List.exists_cons_of_ne_nil hne
    unfold name?
    rw [List.takeWhile_append_of_pos hall, List.dropWhile_append_of_pos hall]
    simp

theorem name?_eq_none {s : List Char} :
    name? s = none ↔ s.head? = some '\x7d' ∨ '\x7d' ∉ s := by
  constructor
  · intro hnone
    by_contra h
    obtain ⟨hhead, hmem⟩ := not_or.mp h
    obtain ⟨name, rest, rfl, hfree⟩ := List.eq_append_cons_of_mem (not_not.mp hmem)
    have hne : name ≠ [] := by
      rintro rfl
      exact hhead rfl
    cases hnone.symm.trans (name?_eq_some.mpr ⟨hne, hfree, rfl⟩)
  · intro h
    refine Option.eq_none_iff_forall_ne_some.mpr ?_
    rintro ⟨name, rest⟩ hsome
    obtain ⟨hne, hfree, rfl⟩ := name?_eq_some.mp hsome
    obtain ⟨c, front, rfl⟩ := List.exists_cons_of_ne_nil hne
    rcases h with hhead | hmem
    · cases hhead
      exact hfree List.mem_cons_self
    · exact hmem (by simp)

/-! ## The parts of a text -/

theorem parts_marker {name : List Char} (hne : name ≠ []) (hfree : '\x7d' ∉ name)
    (behind : List Char) :
    parts (marker name ++ behind) = .placeholder name :: parts behind := by
  have hname : name? (name ++ '\x7d' :: behind) = some (name, behind) :=
    name?_eq_some.mpr ⟨hne, hfree, rfl⟩
  have htext : marker name ++ behind = '$' :: '\x7b' :: (name ++ '\x7d' :: behind) := by
    simp [marker]
  rw [htext, parts]
  split
  · next h =>
      cases hname.symm.trans h
      rfl
  · next h => cases hname.symm.trans h

theorem parts_plain {c : Char} {rest : List Char} (h : Quiet (c :: rest)) :
    parts (c :: rest) = .plain c :: parts rest := by
  rw [parts.eq_def]
  split
  · next heq => cases heq
  · next heq =>
      cases heq
      split
      · split
        · next hname => cases (name?_eq_none.mpr (h _ rfl)).symm.trans hname
        · rfl
      · rfl

theorem silent_nil (behind : List Char) : Silent [] behind := by
  intro before after heq hne
  exact absurd (List.append_eq_nil_iff.mp heq.symm).2 hne

theorem silent_cons {c : Char} {gap behind : List Char} :
    Silent (c :: gap) behind ↔ Quiet (c :: (gap ++ behind)) ∧ Silent gap behind := by
  constructor
  · intro h
    refine ⟨h [] (c :: gap) rfl (List.cons_ne_nil c gap), ?_⟩
    rintro before after rfl hne
    exact h (c :: before) after rfl hne
  · rintro ⟨hfront, hgap⟩ before after heq hne
    cases before with
    | nil =>
        cases heq
        exact hfront
    | cons b before =>
        obtain ⟨-, rfl⟩ := List.cons.inj heq
        exact hgap before after rfl hne

/-- A gap is read as the characters that it has. -/
theorem parts_silent {gap behind : List Char} (h : Silent gap behind) :
    parts (gap ++ behind) = gap.map .plain ++ parts behind := by
  induction gap with
  | nil => rfl
  | cons c gap ih =>
      obtain ⟨hfront, hgap⟩ := silent_cons.mp h
      rw [List.cons_append, parts_plain hfront, ih hgap]
      rfl

/-- A gap without a dollar sign is silent, whatever follows it. -/
theorem silent_of_not_mem {gap : List Char} (h : '$' ∉ gap) (behind : List Char) :
    Silent gap behind := by
  rintro before after rfl hne inside heq
  obtain ⟨c, after, rfl⟩ := List.exists_cons_of_ne_nil hne
  obtain rfl : c = '$' := List.head_eq_of_cons_eq heq
  exact absurd (List.mem_append_right before List.mem_cons_self) h

/-! ## Divisions and parts -/

namespace Division

/-- The parts that a division holds. -/
def parts (d : Division) : List Part :=
  d.marked.flatMap (fun m => m.1.map .plain ++ [.placeholder m.2]) ++ d.last.map .plain

/-- The division with a character in front. -/
def push (c : Char) : Division → Division
  | ⟨[], last⟩ => ⟨[], c :: last⟩
  | ⟨(gap, name) :: marked, last⟩ => ⟨(c :: gap, name) :: marked, last⟩

/-- The division with a name in front. -/
def mark (name : List Char) (d : Division) : Division := ⟨([], name) :: d.marked, d.last⟩

/-- The division that some parts make. -/
def ofParts : List Part → Division
  | [] => ⟨[], []⟩
  | .plain c :: ps => (ofParts ps).push c
  | .placeholder name :: ps => (ofParts ps).mark name

theorem parts_cons (gap name : List Char) (marked : List (List Char × List Char))
    (last : List Char) :
    parts ⟨(gap, name) :: marked, last⟩ =
      gap.map .plain ++ .placeholder name :: parts ⟨marked, last⟩ := by
  simp [parts]

theorem ofParts_gap (gap name : List Char) (ps : List Part) :
    ofParts (gap.map .plain ++ .placeholder name :: ps) =
      ⟨(gap, name) :: (ofParts ps).marked, (ofParts ps).last⟩ := by
  induction gap with
  | nil => rfl
  | cons c gap ih =>
      rw [List.map_cons, List.cons_append, ofParts, ih]
      rfl

theorem ofParts_last (last : List Char) : ofParts (last.map .plain) = ⟨[], last⟩ := by
  induction last with
  | nil => rfl
  | cons c last ih =>
      rw [List.map_cons, ofParts, ih]
      rfl

/-- The parts of a division make it again. -/
theorem ofParts_parts (d : Division) : ofParts d.parts = d := by
  obtain ⟨marked, last⟩ := d
  induction marked with
  | nil => exact ofParts_last last
  | cons m marked ih => rw [parts_cons, ofParts_gap, ih]

/-- To write a division is to write its parts. -/
theorem flatMap_parts (d : Division) {f : Part → List Char} (hf : ∀ c, f (.plain c) = [c]) :
    d.parts.flatMap f = d.write fun name => f (.placeholder name) := by
  have hgap : ∀ gap : List Char, (gap.map Part.plain).flatMap f = gap := by
    intro gap
    induction gap with
    | nil => rfl
    | cons c gap ih => rw [List.map_cons, List.flatMap_cons, hf, ih, List.singleton_append]
  obtain ⟨marked, last⟩ := d
  induction marked with
  | nil => exact hgap last
  | cons m marked ih =>
      rw [parts_cons, List.flatMap_append, List.flatMap_cons, ih, hgap]
      simp [write]

end Division

/-- Reading a text finds the parts of each of its divisions. -/
theorem Divides.parts_eq {text : List Char} {d : Division} (h : Divides text d) :
    parts text = d.parts := by
  induction h with
  | last hgap =>
      have hparts := parts_silent hgap
      rw [List.append_nil] at hparts
      rw [hparts, parts, List.append_nil]
      rfl
  | mark hgap hne hfree _ ih =>
      rw [parts_silent hgap, parts_marker hne hfree, ih, Division.parts_cons]

theorem Divides.push {c : Char} {text : List Char} {d : Division} (hfront : Quiet (c :: text))
    (h : Divides text d) : Divides (c :: text) (d.push c) := by
  cases h with
  | last hgap =>
      refine .last (silent_cons.mpr ⟨?_, hgap⟩)
      rwa [List.append_nil]
  | mark hgap hne hfree hbehind => exact .mark (silent_cons.mpr ⟨hfront, hgap⟩) hne hfree hbehind

theorem divides_plain {c : Char} {rest : List Char} (hfront : Quiet (c :: rest))
    (h : Divides rest (.ofParts (parts rest))) :
    Divides (c :: rest) (.ofParts (parts (c :: rest))) := by
  rw [parts_plain hfront]
  exact h.push hfront

/-- The parts that reading finds make a division of the text. -/
theorem divides_ofParts (text : List Char) : Divides text (.ofParts (parts text)) := by
  induction text using parts.induct with
  | case1 =>
      rw [parts]
      exact .last (silent_nil [])
  | case2 inside name behind hname _ ih =>
      obtain ⟨hne, hfree, rfl⟩ := name?_eq_some.mp hname
      have htext : '$' :: '\x7b' :: (name ++ '\x7d' :: behind) = marker name ++ behind := by
        simp [marker]
      rw [htext, parts_marker hne hfree]
      exact .mark (silent_nil _) hne hfree ih
  | case3 inside hnone ih =>
      refine divides_plain ?_ ih
      rintro inside' heq
      cases heq
      exact name?_eq_none.mp hnone
  | case4 c rest hother ih =>
      refine divides_plain ?_ ih
      rintro inside heq
      cases heq
      exact (hother inside rfl rfl).elim

/-- Nothing of the text is lost in a division. -/
theorem Divides.write_marker {text : List Char} {d : Division} (h : Divides text d) :
    d.write marker = text := by
  induction h with
  | last => rfl
  | mark _ _ _ _ ih =>
      rw [← ih]
      simp [Division.write]

/-- A text has one division. -/
theorem existsUnique_division (text : List Char) : ∃! d, Divides text d := by
  refine ⟨.ofParts (parts text), divides_ofParts text, ?_⟩
  intro d h
  rw [h.parts_eq, d.ofParts_parts]

/-! ## Filling in -/

/-- Filling in changes the names of a division and leaves its gaps. -/
theorem Divides.fill_eq {text : List Char} {d : Division} (h : Divides text d)
    (env : Environment) :
    fill env text = d.write fun name => (Part.placeholder name).fill env := by
  rw [fill, h.parts_eq]
  exact d.flatMap_parts fun c => rfl

theorem fill_placeholder (values : String → Option (List UInt8)) (name : List Char) :
    (Part.placeholder name).fill (.ofOctets values) = shown values name := by
  rw [Part.fill, shown, Environment.ofOctets]
  cases values (String.ofList name) with
  | none => rfl
  | some octets =>
      dsimp only [Option.bind_some]
      cases Utf8.string? octets with
      | none => rfl
      | some value => rfl

/-- A text falls apart into gaps and names in one way, and filling it in
puts something else in the place of each name and of nothing else.  Without
variables it stays as it is. -/
theorem fill_division (text : List Char) :
    (∃! d, Divides text d) ∧
    (∀ d, Divides text d → d.write marker = text ∧
      ∀ values, fill (.ofOctets values) text = d.write (shown values)) ∧
    fill (.ofOctets fun _ => none) text = text := by
  have hfill : ∀ d, Divides text d → ∀ values,
      fill (.ofOctets values) text = d.write (shown values) := by
    intro d hd values
    rw [hd.fill_eq, funext (fill_placeholder values)]
  refine ⟨existsUnique_division text, fun d hd => ⟨hd.write_marker, hfill d hd⟩, ?_⟩
  rw [hfill _ (divides_ofParts text)]
  exact (divides_ofParts text).write_marker

/-- A text where placeholders could begin in three places and one does. -/
def tangled : List Char := "$$\x7ba$\x7bb\x7d$\x7b\x7d".toList

/-- The value of its only name looks like a placeholder. -/
def enticing : String → Option (List UInt8)
  | "a$\x7bb" => some [36, 123, 98, 125]
  | "b" => some [98]
  | _ => none

/-- The name goes up to the first closing brace, and its value is not read
again. -/
theorem tangled_filled :
    Divides tangled ⟨[(['$'], "a$\x7bb".toList)], "$\x7b\x7d".toList⟩ ∧
      fill (.ofOctets enticing) tangled = "$$\x7bb\x7d$\x7b\x7d".toList := by
  have hdivides : Divides tangled ⟨[(['$'], "a$\x7bb".toList)], "$\x7b\x7d".toList⟩ := by
    show Divides (['$'] ++ (marker "a$\x7bb".toList ++ "$\x7b\x7d".toList)) _
    refine .mark (silent_cons.mpr ⟨?_, silent_nil _⟩) (by decide) (by decide) (.last ?_)
    · rintro inside ⟨⟩
    · refine silent_cons.mpr ⟨?_, silent_of_not_mem (by decide) []⟩
      rintro inside ⟨⟩
      exact .inl rfl
  obtain ⟨-, hfill, -⟩ := fill_division tangled
  refine ⟨hdivides, ((hfill _ hdivides).2 enticing).trans ?_⟩
  decide +kernel

end Template

end OrderDesk
