/-
# `Proofs.Json.Gathering` — a record is read member by member

The run of the record reader over every text of an object or an array,
carried by the invariant of `Proofs.Json.Records`.  An outcome *agrees*
with some members (`Agrees`) if it is a draft filled by them and the text
behind, or a failure and no draft could be filled by them.

| | |
| :-- | :-- |
| `members_agrees`  | the members of an object, from any of them on |
| `elements_agrees` | the elements of an array, from any of them on |
| `read_reads`      | a whole record, in either form |

The last statement needs that the members determine the draft: a draft
that someone else filled is then the one that the run has gathered.
-/
import OrderDesk.Proofs.Json.Records

namespace OrderDesk.Json

open Utf8 (Piece ofText)

/-! ## Tokens inside a bracket -/

theorem nextName_close {first : Bool} {w : List Char} (hw : Blank w) (s : List Char) :
    nextName first (ofText (w ++ '\x7d' :: s)) = .ok (none, ofText s) := by
  rw [nextName, skipSpace_token hw rfl]
  rfl

theorem nextName_member {first : Bool} {g k name : List Char} (hg : Gap first g)
    (hk : Spelled name k) (s : List Char) :
    nextName first (ofText (g ++ '"' :: (k ++ '"' :: s))) = .ok (some name, ofText s) := by
  cases hg with
  | first hw =>
      rw [nextName, skipSpace_token hw rfl]
      exact congrArg (mapValue some) (string_spelled hk s)
  | later hw hw' =>
      rw [List.append_assoc, List.cons_append, nextName, skipSpace_token hw rfl]
      simp only [Bool.false_eq_true, if_false]
      rw [skipSpace_token hw' rfl]
      exact congrArg (mapValue some) (string_spelled hk s)

theorem colon_text {w : List Char} (hw : Blank w) (s : List Char) :
    colon (ofText (w ++ ':' :: s)) = .ok (ofText s) := by
  rw [colon, skipSpace_token hw rfl]
  rfl

theorem nextElement_close {first : Bool} {w : List Char} (hw : Blank w) (s : List Char) :
    nextElement first (ofText (w ++ ']' :: s)) = .ok (false, ofText s) := by
  rw [nextElement, skipSpace_token hw rfl]
  rfl

theorem nextElement_value {first : Bool} {g t : List Char} {v : Value} (hg : Gap first g)
    (h : Written v t) (s : List Char) :
    nextElement first (ofText (g ++ (t ++ s))) = .ok (true, ofText (t ++ s)) := by
  obtain ⟨c, u, rfl, hspace, hclose, -, hcomma⟩ := h.text_eq_cons
  cases hg with
  | first hw =>
      rw [nextElement, List.cons_append, skipSpace_token hw hspace]
      simp [hclose, hcomma]
  | later hw hw' =>
      rw [List.append_assoc, List.cons_append, nextElement, skipSpace_token hw rfl]
      simp only [Bool.false_eq_true, if_false]
      rw [List.cons_append, skipSpace_token hw' hspace]
      simp [hclose]

theorem closeArray_close {w : List Char} (hw : Blank w) (s : List Char) :
    closeArray (ofText (w ++ ']' :: s)) = .ok (ofText s) := by
  rw [closeArray, skipSpace_token hw rfl]
  rfl

/-- An array does not end in front of an element. -/
theorem closeArray_value {first : Bool} {g t : List Char} {v : Value} (hg : Gap first g)
    (h : Written v t) (s : List Char) : ∃ e, closeArray (ofText (g ++ (t ++ s))) = .error e := by
  obtain ⟨c, u, rfl, hspace, hclose, -, hcomma⟩ := h.text_eq_cons
  cases hg with
  | first hw =>
      rw [closeArray, List.cons_append, skipSpace_token hw hspace]
      refine ⟨⟨.trailingCharacters, Utf8.size (ofText (c :: (u ++ s))) - 1⟩, ?_⟩
      simp [hclose, hcomma, failOn]
  | later hw hw' =>
      rw [List.append_assoc, List.cons_append, closeArray, skipSpace_token hw rfl]
      refine ⟨⟨.trailingCharacters, Utf8.size (ofText (c :: (u ++ s))) - 1⟩, ?_⟩
      simp only
      rw [List.cons_append, skipSpace_token hw' hspace]
      simp [hclose, failOn]

/-! ## One member -/

section Step

variable {f : Format D R} {first : Bool} {d : D} {s r r' r'' : List Piece} {k : List Char}

/-- The reader of members, without the proofs that it gets on. -/
theorem members_eq (f : Format D R) (first : Bool) (d : D) (s : List Piece) :
    members f first d s =
      match nextName first s with
      | .error e => .error (.placed e)
      | .ok (none, rest) => .ok (d, rest)
      | .ok (some name, rest) =>
        match f.field? name with
        | none =>
          match colon rest with
          | .error e => .error (.placed e)
          | .ok value =>
            match skipValue [] value with
            | .error e => .error (.placed e)
            | .ok rest => members f false d rest
        | some field =>
          if field.known d then .error (.loose (.duplicateField field.name) rest)
          else match colon rest with
            | .error e => .error (.placed e)
            | .ok value =>
              match field.read d value with
              | .error e => .error e
              | .ok (d, rest) => members f false d rest := by
  rw [members]
  split
  · next h => simp only [h]
  · next h => simp only [h]
  · next name rest h =>
      simp only [h]
      cases f.field? name with
      | none =>
          simp only
          split
          · next hc => simp only [hc]
          · next hc =>
              simp only [hc]
              split
              · next hv => simp only [hv]
              · next hv => simp only [hv]
      | some φ =>
          simp only
          split
          · rfl
          · split
            · next hc => simp only [hc]
            · next hc =>
                simp only [hc]
                split
                · next hv => simp only [hv]
                · next hv => simp only [hv]

theorem members_unknown (hname : nextName first s = .ok (some k, r)) (hfield : f.field? k = none)
    (hcolon : colon r = .ok r') (hskip : skipValue [] r' = .ok r'') :
    members f first d s = members f false d r'' := by
  rw [members_eq]
  simp only [hname, hfield, hcolon, hskip]

theorem members_twice {φ : Field D} (hname : nextName first s = .ok (some k, r))
    (hfield : f.field? k = some φ) (hknown : φ.known d = true) :
    ∃ e, members f first d s = .error e := by
  rw [members_eq]
  simp only [hname, hfield, if_pos hknown]
  exact ⟨_, rfl⟩

/-- The first member of a field goes through the reader of the field. -/
theorem members_known {φ : Field D} (hname : nextName first s = .ok (some k, r))
    (hfield : f.field? k = some φ) (hknown : φ.known d = false) (hcolon : colon r = .ok r') :
    members f first d s =
      match φ.read d r' with
      | .error e => .error e
      | .ok (d, rest) => members f false d rest := by
  rw [members_eq]
  simp [hname, hfield, hknown, hcolon]

end Step

/-! ## Fields and slots -/

section Slots

variable {f : Format D R} {slots : List (Slot D)} {k : List Char}

theorem Lawful.field?_none (hf : Lawful f slots) (h : f.field? k = none) :
    ∀ σ ∈ slots, σ.name.toList ≠ k := by
  intro σ hσ hk
  rw [Format.field?, hf.fields_eq, List.find?_eq_none] at h
  exact h σ.field (List.mem_map_of_mem hσ) (by simpa [Slot.field, Field.of] using hk)

theorem Lawful.field?_some (hf : Lawful f slots) {φ : Field D} (h : f.field? k = some φ) :
    ∃ σ ∈ slots, φ = σ.field ∧ σ.name.toList = k := by
  rw [Format.field?, hf.fields_eq] at h
  obtain ⟨σ, hσ, rfl⟩ := List.mem_map.mp (List.mem_of_find?_eq_some h)
  exact ⟨σ, hσ, rfl, by simpa [Slot.field, Field.of] using List.find?_some h⟩

theorem Lawful.field?_slot (hf : Lawful f slots) {σ : Slot D} (hσ : σ ∈ slots) :
    f.field? σ.name.toList = some σ.field := by
  cases h : f.field? σ.name.toList with
  | none => exact absurd rfl (hf.field?_none h σ hσ)
  | some φ =>
      obtain ⟨τ, hτ, rfl, hname⟩ := hf.field?_some h
      rw [hf.eq_of_name hτ hσ (String.toList_injective hname)]

theorem Slot.read_ok {σ : Slot D} {a : σ.α} {s r : List Piece} (h : σ.reader.read s = .ok (a, r))
    (d : D) : σ.field.read d s = .ok (σ.set a d, r) := by
  simp only [Slot.field, Field.of, h]

theorem Slot.read_error {σ : Slot D} {e : Fault} {s : List Piece}
    (h : σ.reader.read s = .error e) (d : D) : σ.field.read d s = .error e := by
  simp only [Slot.field, Field.of, h]

/-- Readers with places take what they take without. -/
theorem placed_reads {read : List Piece → Outcome α} {take : Value → α → Prop}
    (shorter : ∀ {a s r}, read s = .ok (a, r) → r.length < s.length) (h : Reads read take) :
    Reads (Reader.placed read shorter).read take := by
  intro v w t s hv hw hs a r
  rw [← h hv hw hs a r]
  simp only [Reader.placed]
  cases read (ofText (w ++ (t ++ s))) with
  | error e =>
      constructor
      · intro hok
        cases hok
      · intro hok
        cases hok
  | ok p => simp only [Except.ok.injEq]

/-! ## Runs inside a bracket -/

/-- A member of a slot that is still empty: its value goes through the
reader of the slot, and the run goes on or ends with the reader's fault. -/
theorem members_slot (hf : Lawful f slots) {σ : Slot D} (hσ : σ ∈ slots) {d : D}
    (hget : σ.get d = none) {first : Bool} {g k w : List Char} (hg : Gap first g)
    (hk : Spelled σ.name.toList k) (hw : Blank w) (s : List Char) :
    members f first d (ofText (g ++ '"' :: (k ++ '"' :: (w ++ ':' :: s)))) =
      match σ.reader.read (ofText s) with
      | .error e => .error e
      | .ok (a, rest) => members f false (σ.set a d) rest := by
  have hknown : σ.field.known d = false := by simp [Slot.field, Field.of, hget]
  rw [members_known (nextName_member hg hk _) (hf.field?_slot hσ) hknown (colon_text hw s)]
  cases hread : σ.reader.read (ofText s) with
  | error e => rw [Slot.read_error hread]
  | ok p => rw [Slot.read_ok hread]

/-- If something is taken from the value, the run goes on behind it. -/
theorem members_taken (hf : Lawful f slots) {σ : Slot D} (hσ : σ ∈ slots) {d : D}
    (hget : σ.get d = none) {first : Bool} {v : Value} {ms : Members} {t : List Char}
    (h : WrittenMembers first ((σ.name.toList, v) :: ms) t) {a : σ.α} (ha : σ.take v a)
    (s : List Char) :
    ∃ u, WrittenMembers false ms u ∧
      members f first d (ofText (t ++ s)) = members f false (σ.set a d) (ofText (u ++ s)) := by
  cases h with
  | more hg hk hw hw' hv hrest =>
      rename_i g k w w' t u
      refine ⟨u, hrest, ?_⟩
      have hread := (hf.reads σ hσ hv hw' (hrest.stops s) a _).mpr ⟨ha, rfl⟩
      simp only [List.append_assoc, List.cons_append]
      rw [members_slot hf hσ hget hg hk hw, hread]

end Slots

/-- An outcome agrees with a condition on drafts: a draft that meets it, or
a failure where no draft does. -/
def Agrees (P : D → Prop) (s : List Char) : Except Fault (D × List Piece) → Prop
  | .ok (d, r) => P d ∧ r = ofText s
  | .error _ => ∀ d, ¬ P d

section Run

variable {f : Format D R} {slots : List (Slot D)}

/-- The members of an object, from any of them on: `done` are those in front,
and the draft is filled by them. -/
theorem members_agrees (hf : Lawful f slots) {first : Bool} {ms : Members} {t : List Char}
    (h : WrittenMembers first ms t) (s : List Char) {done : Members} {d : D}
    (hd : Filled slots done d) :
    Agrees (Filled slots (done ++ ms)) s (members f first d (ofText (t ++ s))) := by
  induction h using WrittenMembers.induct generalizing done d with
  | close hw =>
      rw [List.append_assoc, List.append_nil, members_eq, List.singleton_append,
        nextName_close hw]
      exact ⟨hd, rfl⟩
  | @more first g k _ w w' t u v ms hg hk hw hw' hv hrest ih =>
      have hname := nextName_member hg hk (w ++ ':' :: (w' ++ (t ++ (u ++ s))))
      have hcolon := colon_text hw (w' ++ (t ++ (u ++ s)))
      simp only [List.append_assoc, List.cons_append]
      cases hfield : f.field? k with
      | none =>
          -- no field has this name: the value is passed over, and `done` grows all the same
          have hskip := skipValue_written hv [] hw' (hrest.stops s)
          rw [skipRest] at hskip
          rw [members_unknown hname hfield hcolon hskip, List.append_cons]
          exact ih (hd.unknown (hf.field?_none hfield) v)
      | some φ =>
          obtain ⟨σ, hσ, rfl, rfl⟩ := hf.field?_some hfield
          cases hget : σ.get d with
          | some a =>
              have hknown : σ.field.known d = true := by simp [Slot.field, Field.of, hget]
              have hgiven : σ.get d ≠ none := by simp [hget]
              obtain ⟨e, he⟩ := members_twice (d := d) hname hfield hknown
              rw [he]
              exact not_filled_of_twice hσ hd hgiven v ms
          | none =>
              rw [members_slot hf hσ hget hg hk hw]
              rcases Reads.settles (hf.reads σ hσ) hv hw' (hrest.stops s) with
                ⟨e, hread, hrefused⟩ | ⟨a, hread, ha⟩
              · rw [hread]
                exact not_filled_of_refused hσ hd hget hrefused ms
              · rw [hread, List.append_cons]
                exact ih (hf.filled_read hσ hd hget ha)

/-! ## The elements of an array -/

/-- The elements behind some that are read, and the closing bracket. -/
def closed (x : Except Fault (D × List Piece)) : Except Fault (D × List Piece) :=
  match x with
  | .error e => .error e
  | .ok (d, r) =>
    match closeArray r with
    | .error e => .error (.placed e)
    | .ok r => .ok (d, r)

/-- The elements `vs`, as members of the names of slots. -/
def zipNames (rem : List (Slot D)) (vs : List Value) : Members :=
  (rem.map fun σ => σ.name.toList).zip vs

theorem Slot.Filled.get_none {σ : Slot D} {ms : Members} {d : D} (h : σ.Filled ms d)
    (hmissing : Missing ms σ.name) : σ.get d = none := by
  rcases h with ⟨-, hnone⟩ | ⟨_, _, honly, -, -⟩
  · exact hnone
  · cases hmissing.symm.trans honly

theorem Missing.other {ms : Members} {name : String} {k : String} (h : Missing ms name)
    (hk : name ≠ k) (v : Value) : Missing (ms ++ [(k.toList, v)]) name := by
  have hlist : name.toList ≠ k.toList := by
    intro heq
    exact hk (String.toList_injective heq)
  rw [Missing, named_append, named_cons_ne hlist]
  exact List.append_eq_nil_iff.mpr ⟨h, rfl⟩

/-- Behind the element of one slot, the others still have no member. -/
theorem missing_rest {σ : Slot D} {rem : List (Slot D)} {done : Members}
    (h : ∀ τ ∈ σ :: rem, τ ∈ slots ∧ Missing done τ.name)
    (hnodup : ((σ :: rem).map Slot.name).Nodup) (v : Value) :
    ∀ τ ∈ rem, τ ∈ slots ∧ Missing (done ++ [(σ.name.toList, v)]) τ.name := by
  intro τ hτ
  obtain ⟨hmem, hmissing⟩ := h τ (List.mem_cons_of_mem σ hτ)
  have hname : τ.name ≠ σ.name := by
    intro heq
    have hfresh := (List.nodup_cons.mp hnodup).1
    exact hfresh (heq ▸ List.mem_map_of_mem hτ)
  exact ⟨hmem, hmissing.other hname v⟩

/-- An element goes through the reader of the next slot. -/
theorem elements_slot (wanted : String) (σ : Slot D) (rem : List (Slot D)) {count : Nat} (d : D)
    {g t : List Char} {v : Value} (hg : Gap (count == 0) g) (hv : Written v t) (s : List Char) :
    elements wanted ((σ :: rem).map Slot.field) count d (ofText (g ++ (t ++ s))) =
      match σ.reader.read (ofText (t ++ s)) with
      | .error e => .error e
      | .ok (a, rest) => elements wanted (rem.map Slot.field) (count + 1) (σ.set a d) rest := by
  rw [List.map_cons, elements, nextElement_value hg hv s]
  simp only
  cases hread : σ.reader.read (ofText (t ++ s)) with
  | error e => rw [Slot.read_error hread]
  | ok p => rw [Slot.read_ok hread]

/-- The elements of an array, from any of them on: those in front have gone
under the names of the slots in front of `rem`. -/
theorem elements_agrees (hf : Lawful f slots) (wanted : String) {first : Bool} {vs : List Value}
    {t : List Char} (h : WrittenElements first vs t) (s : List Char) {rem : List (Slot D)}
    {count : Nat} {done : Members} {d : D} (hfirst : first = (count == 0))
    (hrem : ∀ σ ∈ rem, σ ∈ slots ∧ Missing done σ.name) (hnodup : (rem.map Slot.name).Nodup)
    (hd : Filled slots done d) :
    Agrees (fun d' => vs.length = rem.length ∧ Filled slots (done ++ zipNames rem vs) d') s
      (closed (elements wanted (rem.map Slot.field) count d (ofText (t ++ s)))) := by
  induction h using WrittenElements.induct generalizing rem count done d with
  | close hw =>
      rw [List.append_assoc, List.singleton_append]
      cases rem with
      | nil =>
          rw [List.map_nil, elements, closed, closeArray_close hw]
          refine ⟨⟨rfl, ?_⟩, rfl⟩
          rwa [zipNames, List.map_nil, List.zip_nil_left, List.append_nil]
      | cons σ rem =>
          rw [List.map_cons, elements, nextElement_close hw]
          intro d' hd'
          cases hd'.1
  | @more first g t u v vs hg hv hvs ih =>
      subst hfirst
      rw [List.append_assoc, List.append_assoc]
      cases rem with
      | nil =>
          obtain ⟨e, he⟩ := closeArray_value hg hv (u ++ s)
          rw [List.map_nil, elements, closed, he]
          intro d' hd'
          cases hd'.1
      | cons σ rem =>
          obtain ⟨hσ, hmissing⟩ := hrem σ List.mem_cons_self
          have hget := (hd σ hσ).get_none hmissing
          -- the element counts as a member of the first name that is left
          have hzip : done ++ zipNames (σ :: rem) (v :: vs) =
              done ++ (σ.name.toList, v) :: zipNames rem vs := rfl
          rw [elements_slot wanted σ rem d hg hv, hzip]
          rcases Reads.settles (hf.reads σ hσ) hv blank_nil (hvs.stops s) with
            ⟨e, hread, hrefused⟩ | ⟨a, hread, ha⟩
          · rw [List.nil_append] at hread
            rw [hread]
            intro d' hd'
            exact not_filled_of_refused hσ hd hget hrefused _ d' hd'.2
          · rw [List.nil_append] at hread
            have hlater : false = (count + 1 == 0) := rfl
            have hnext := ih hlater (missing_rest hrem hnodup v)
              (List.nodup_cons.mp hnodup).2 (hf.filled_read hσ hd hget ha)
            rw [hread, List.append_cons]
            simpa only [List.length_cons, Nat.add_right_cancel_iff] using hnext

/-! ## A whole record -/

/-- The members that a value has for the fields of a record: its own, or
its elements under the names of the fields in their order. -/
inductive Fields (slots : List (Slot D)) : Value → Members → Prop
  | object (ms : Members) : Fields slots (.object ms) ms
  | array {vs : List Value} : vs.length = slots.length →
      Fields slots (.array vs) (zipNames slots vs)

/-- The record that a value holds. -/
def Holds (f : Format D R) (slots : List (Slot D)) (v : Value) (record : R) : Prop :=
  ∃ ms d, Fields slots v ms ∧ Filled slots ms d ∧ f.finish d = .ok record

/-- The end of a record, once the run inside its bracket is over. -/
def finished (f : Format D R) (b : Bracket) : Except Fault (D × List Piece) → Outcome R
  | .error e => .error (e.place b)
  | .ok (d, rest) =>
    match f.finish d with
    | .error cause => failAt cause rest
    | .ok record => .ok (record, rest)

/-- A run that agrees with a condition finishes with the record of the one
draft that meets it. -/
theorem Agrees.finished_iff {P : D → Prop} {s : List Char} {x : Except Fault (D × List Piece)}
    (h : Agrees P s x) (hunique : ∀ d d', P d → P d' → d = d') (b : Bracket) (record : R)
    (r : List Piece) :
    finished f b x = .ok (record, r) ↔ (∃ d, P d ∧ f.finish d = .ok record) ∧ r = ofText s := by
  cases x with
  | error e =>
      refine refused rfl ?_
      rintro ⟨d, hd, -⟩
      exact h d hd
  | ok p =>
      obtain ⟨d, rest⟩ := p
      obtain ⟨hd, rfl⟩ := h
      rw [finished]
      constructor
      · intro hok
        split at hok
        · cases hok
        · next hfinish =>
            cases hok
            exact ⟨⟨d, hd, hfinish⟩, rfl⟩
      · rintro ⟨⟨d', hd', hfinish⟩, rfl⟩
        rw [hunique d d' hd hd', hfinish]

theorem read_object (f : Format D R) {w : List Char} (hw : Blank w) (s : List Char) :
    f.read (ofText (w ++ '\x7b' :: s)) =
      finished f .object (members f true f.blank (ofText s)) := by
  rw [Format.read, skipSpace_token hw rfl]
  cases h : members f true f.blank (ofText s) with
  | error e =>
      simp only [h]
      rfl
  | ok p =>
      simp only [h]
      rfl

theorem read_array (f : Format D R) {w : List Char} (hw : Blank w) (s : List Char) :
    f.read (ofText (w ++ '[' :: s)) =
      finished f .array (closed (elements f.arrayName f.fields 0 f.blank (ofText s))) := by
  rw [Format.read, skipSpace_token hw rfl]
  cases h : elements f.arrayName f.fields 0 f.blank (ofText s) with
  | error e =>
      simp only [h]
      rfl
  | ok p =>
      simp only [h, closed]
      cases closeArray p.2 with
      | error e => rfl
      | ok rest => rfl

/-- A value without a bracket is no record. -/
theorem read_other (f : Format D R) {v : Value} {w t : List Char} (h : Written v t)
    (hv : (∀ vs, v ≠ .array vs) ∧ ∀ ms, v ≠ .object ms) (hw : Blank w) (s : List Char) :
    ∃ e, f.read (ofText (w ++ (t ++ s))) = .error e := by
  have hstart := h.skipSpace_eq hw s
  refine ⟨wrongType f.name (ofText (t ++ s)), ?_⟩
  rw [Format.read, hstart]
  cases h with
  | array => exact absurd rfl (hv.1 _)
  | object => exact absurd rfl (hv.2 _)
  | number n =>
      obtain ⟨c, u, hc, hhead⟩ := n.text_eq_cons
      have hbracket : c ≠ '[' := ne_of_numeral hhead (by decide) (by decide)
      have hbrace : c ≠ '\x7b' := ne_of_numeral hhead (by decide) (by decide)
      rw [hc]
      simp [hbracket, hbrace]
  | null => rfl
  | yes => rfl
  | no => rfl
  | string => rfl

/-- The reader of a record takes the record that the value holds. -/
theorem read_reads (hf : Lawful f slots) : Reads f.read (Holds f slots) := by
  intro v w t s h hw hs record r
  by_cases hv : (∀ vs, v ≠ .array vs) ∧ ∀ ms, v ≠ .object ms
  · obtain ⟨e, he⟩ := read_other f h hv hw s
    refine refused he ?_
    rintro ⟨_, _, hfields, -, -⟩
    cases hfields with
    | object => exact hv.2 _ rfl
    | array => exact hv.1 _ rfl
  cases h with
  | object hms =>
      rw [List.cons_append, read_object f hw,
        (members_agrees hf hms s hf.filled_nil).finished_iff fun d d' => hf.filled_unique]
      refine and_congr_left' ?_
      constructor
      · rintro ⟨d, hd, hfinish⟩
        exact ⟨_, d, .object _, hd, hfinish⟩
      · rintro ⟨_, d, ⟨⟩, hd, hfinish⟩
        exact ⟨d, hd, hfinish⟩
  | array hvs =>
      have hmissing : ∀ σ ∈ slots, σ ∈ slots ∧ Missing [] σ.name := by
        intro σ hσ
        exact ⟨hσ, rfl⟩
      have hfirst : true = ((0 : Nat) == 0) := rfl
      have hagrees := elements_agrees hf f.arrayName hvs s hfirst hmissing hf.nodup hf.filled_nil
      rw [List.cons_append, read_array f hw, hf.fields_eq,
        hagrees.finished_iff fun d d' hd hd' => hf.filled_unique hd.2 hd'.2]
      refine and_congr_left' ?_
      constructor
      · rintro ⟨d, ⟨hlength, hd⟩, hfinish⟩
        exact ⟨_, d, .array hlength, hd, hfinish⟩
      · rintro ⟨_, d, ⟨⟩, hd, hfinish⟩
        exact ⟨d, ⟨‹_›, hd⟩, hfinish⟩
  | null => exact absurd ⟨nofun, nofun⟩ hv
  | yes => exact absurd ⟨nofun, nofun⟩ hv
  | no => exact absurd ⟨nofun, nofun⟩ hv
  | number => exact absurd ⟨nofun, nofun⟩ hv
  | string => exact absurd ⟨nofun, nofun⟩ hv

end Run

end OrderDesk.Json
