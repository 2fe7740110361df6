/-
# `Proofs.Json.Skipping` — values of any depth are passed over

`skipValue_written`: in front of any text of a value, whatever brackets
are open, the walk arrives behind that text with the same brackets open.
The walk keeps its brackets in a list and the grammar nests, so the
induction is on the derivation of the text and the list is general; what
is left to do inside a bracket that has been entered is the statement for
elements and members.

The lemmas in front say what one step of the walk does once the next
token is known.
-/
import OrderDesk.Json.Record
import OrderDesk.Proofs.Json.Numbers

namespace OrderDesk.Json

open Utf8 (Piece ofText)

/-! ## What follows a value -/

theorem stops_cons {c : Char} (h : c.isDigit = false ∧ c ≠ '.' ∧ c ≠ 'e' ∧ c ≠ 'E')
    (s : List Char) : Stops (c :: s) := by
  intro d hd
  cases hd
  exact h

theorem stops_blank {w s : List Char} (hw : Blank w) (hs : Stops s) : Stops (w ++ s) := by
  cases w with
  | nil => exact hs
  | cons c w =>
      rcases hw c List.mem_cons_self with rfl | rfl | rfl | rfl <;>
        exact stops_cons (by decide) _

/-- Nothing that stands behind an element prolongs it. -/
theorem Gap.stops {g : List Char} (h : Gap false g) (s : List Char) : Stops (g ++ s) := by
  cases h with
  | later hw =>
      rw [List.append_assoc]
      exact stops_blank hw (stops_cons (by decide) _)

theorem WrittenElements.stops {vs : List Value} {u : List Char}
    (h : WrittenElements false vs u) (s : List Char) : Stops (u ++ s) := by
  cases h with
  | close hw =>
      rw [List.append_assoc]
      exact stops_blank hw (stops_cons (by decide) _)
  | more hg =>
      rw [List.append_assoc]
      exact hg.stops _

theorem WrittenMembers.stops {ms : Members} {u : List Char}
    (h : WrittenMembers false ms u) (s : List Char) : Stops (u ++ s) := by
  cases h with
  | close hw =>
      rw [List.append_assoc]
      exact stops_blank hw (stops_cons (by decide) _)
  | more hg =>
      rw [List.append_assoc]
      exact hg.stops _

/-- The first character of a number. -/
theorem Numeral.text_eq_cons (n : Numeral) :
    ∃ c s, n.text = c :: s ∧ (c = '-' ∨ c.isDigit = true) := by
  rw [Numeral.text]
  split
  · exact ⟨'-', _, rfl, .inl rfl⟩
  · obtain ⟨d, ds, hds, hd, -, -⟩ := n.whole_eq_cons
    rw [Numeral.magnitude, hds]
    exact ⟨d, _, rfl, .inr hd⟩

theorem isSpace_of_isDigit {c : Char} (h : c.isDigit = true) : isSpace (.char c) = false := by
  refine Bool.eq_false_iff.mpr ?_
  intro hs
  rcases isSpace_char.mp hs with rfl | rfl | rfl | rfl <;> exact absurd h (by decide)

/-- A value begins with a character that is neither blank nor closes a
bracket nor separates. -/
theorem Written.text_eq_cons {v : Value} {t : List Char} (h : Written v t) :
    ∃ c s, t = c :: s ∧ isSpace (.char c) = false ∧ c ≠ ']' ∧ c ≠ '\x7d' ∧ c ≠ ',' := by
  cases h with
  | null => exact ⟨_, _, rfl, by decide⟩
  | yes => exact ⟨_, _, rfl, by decide⟩
  | no => exact ⟨_, _, rfl, by decide⟩
  | number n =>
      obtain ⟨c, s, hs, rfl | hd⟩ := n.text_eq_cons
      · exact ⟨_, _, hs, by decide⟩
      · refine ⟨c, s, hs, isSpace_of_isDigit hd, ?_, ?_, ?_⟩ <;>
          · rintro rfl
            exact absurd hd (by decide)
  | string => exact ⟨_, _, rfl, by decide⟩
  | array => exact ⟨_, _, rfl, by decide⟩
  | object => exact ⟨_, _, rfl, by decide⟩

theorem Written.skipSpace_eq {v : Value} {t w : List Char} (h : Written v t) (hw : Blank w)
    (s : List Char) : skipSpace (ofText (w ++ (t ++ s))) = ofText (t ++ s) := by
  obtain ⟨c, u, rfl, hc, -, -, -⟩ := h.text_eq_cons
  exact skipSpace_token hw hc _

/-! ## Values that hold no other -/

theorem word_append (cs s : List Char) : word cs (ofText (cs ++ s)) = .ok (ofText s) := by
  induction cs with
  | nil => rfl
  | cons c cs ih => rw [List.cons_append, Utf8.ofText_cons, word, if_pos rfl, ih]

theorem skipAtom_null (s : List Char) :
    skipAtom (ofText ("null".toList ++ s)) = .ok (none, ofText s) :=
  congrArg (Except.map (none, ·)) (word_append "ull".toList s)

theorem skipAtom_true (s : List Char) :
    skipAtom (ofText ("true".toList ++ s)) = .ok (none, ofText s) :=
  congrArg (Except.map (none, ·)) (word_append "rue".toList s)

theorem skipAtom_false (s : List Char) :
    skipAtom (ofText ("false".toList ++ s)) = .ok (none, ofText s) :=
  congrArg (Except.map (none, ·)) (word_append "alse".toList s)

theorem skipAtom_digit {c : Char} (h : c.isDigit = true) (s : List Piece) :
    skipAtom (.char c :: s) = (skipNumber (.char c :: s)).map (none, ·) := by
  have hne : ∀ d : Char, d.isDigit = false → c ≠ d := by
    rintro d hd rfl
    exact Bool.eq_false_iff.mp hd h
  simp [skipAtom, hne, digit?_of_isDigit h]

theorem skipAtom_number (n : Numeral) {s : List Char} (hs : Stops s) :
    skipAtom (ofText (n.text ++ s)) = .ok (none, ofText s) := by
  have hskip := skipNumber_magnitude n hs
  rw [Numeral.text]
  split
  · rw [List.cons_append, Utf8.ofText_cons, skipAtom, hskip]
    rfl
  · obtain ⟨d, ds, hds, hd, -, -⟩ := n.whole_eq_cons
    rw [Numeral.magnitude, hds] at hskip ⊢
    rw [List.cons_append, List.cons_append, Utf8.ofText_cons] at hskip ⊢
    rw [skipAtom_digit hd, hskip]
    rfl

theorem skipAtom_string {s t : List Char} (h : Spelled s t) (rest : List Char) :
    skipAtom (ofText ('"' :: (t ++ '"' :: rest))) = .ok (none, ofText rest) := by
  rw [Utf8.ofText_cons, skipAtom, skipString_spelled h]
  rfl

/-! ## One step of the walk -/

section Step

variable {pending : List Bracket} {s r r' : List Piece}

/-- The walk where a value is due, without the proofs that it gets on. -/
theorem skipValue_eq (pending : List Bracket) (s : List Piece) :
    skipValue pending s =
      match skipAtom (skipSpace s) with
      | .error e => .error e
      | .ok (none, rest) => skipRest pending rest
      | .ok (some b, rest) =>
        match skipSpace rest with
        | [] => failAt b.early []
        | p :: rest' =>
          if p = .char b.close then skipRest pending rest'
          else match b with
            | .array => skipValue (.array :: pending) rest
            | .object => (skipMemberName rest).bind (skipValue (.object :: pending)) := by
  rw [skipValue]
  split
  · next h => simp only [h]
  · next h => simp only [h]
  · next b rest h =>
      simp only [h]
      split
      · next hr => simp only [hr]
      · next hr =>
          simp only [hr]
          split
          · rfl
          · cases b with
            | array => rfl
            | object =>
                simp only
                split
                · next hn => rw [hn]; rfl
                · next hn => rw [hn]; rfl

/-- The walk where a value has ended, without the proofs that it gets on. -/
theorem skipRest_eq (b : Bracket) (outer : List Bracket) (s : List Piece) :
    skipRest (b :: outer) s =
      match skipSpace s with
      | [] => failAt b.early []
      | p :: rest =>
        if p = .char ',' then
          match b with
          | .array => skipValue (b :: outer) rest
          | .object => (skipMemberName rest).bind (skipValue (b :: outer))
        else if p = .char b.close then skipRest outer rest
        else failOn b.missing (p :: rest) := by
  rw [skipRest]
  split
  · next h => simp only [h]
  · next h =>
      simp only [h]
      cases b with
      | array => rfl
      | object =>
          simp only
          split
          · split
            · next hn => rw [hn]; rfl
            · next hn => rw [hn]; rfl
          · rfl

theorem skipValue_atom (h : skipAtom (skipSpace s) = .ok (none, r)) :
    skipValue pending s = skipRest pending r := by
  rw [skipValue_eq, h]

/-- A bracket that is closed at once. -/
theorem skipValue_close {b : Bracket} (h : skipAtom (skipSpace s) = .ok (some b, r))
    (hr : skipSpace r = .char b.close :: r') : skipValue pending s = skipRest pending r' := by
  rw [skipValue_eq, h]
  simp only [hr, if_pos]

theorem skipValue_array {p : Piece} (h : skipAtom (skipSpace s) = .ok (some .array, r))
    (hr : skipSpace r = p :: r') (hp : p ≠ .char ']') :
    skipValue pending s = skipValue (.array :: pending) r := by
  have hclose : p ≠ .char Bracket.array.close := hp
  rw [skipValue_eq, h]
  simp only [hr, if_neg hclose]

theorem skipValue_object {p : Piece} {r'' : List Piece}
    (h : skipAtom (skipSpace s) = .ok (some .object, r)) (hr : skipSpace r = p :: r')
    (hp : p ≠ .char '\x7d') (hname : skipMemberName r = .ok r'') :
    skipValue pending s = skipValue (.object :: pending) r'' := by
  have hclose : p ≠ .char Bracket.object.close := hp
  rw [skipValue_eq, h]
  simp only [hr, if_neg hclose, hname, Except.bind]

theorem Bracket.close_ne_comma (b : Bracket) : b.close ≠ ',' := by cases b <;> decide

theorem skipRest_close {b : Bracket} (h : skipSpace s = .char b.close :: r) :
    skipRest (b :: pending) s = skipRest pending r := by
  have hcomma : Piece.char b.close ≠ .char ',' := by
    intro hc
    exact b.close_ne_comma (Piece.char.inj hc)
  rw [skipRest_eq, h]
  simp only [if_neg hcomma, if_pos]

theorem skipRest_element (h : skipSpace s = .char ',' :: r) :
    skipRest (.array :: pending) s = skipValue (.array :: pending) r := by
  rw [skipRest_eq, h]
  simp only [if_pos]

theorem skipRest_member (h : skipSpace s = .char ',' :: r) (hname : skipMemberName r = .ok r') :
    skipRest (.object :: pending) s = skipValue (.object :: pending) r' := by
  rw [skipRest_eq, h]
  simp only [if_pos, hname, Except.bind]

end Step

theorem skipName_text {k w' : List Char} {name : List Char} (hk : Spelled name k)
    (hw' : Blank w') (s : List Char) :
    skipName (ofText (k ++ '"' :: (w' ++ ':' :: s))) = .ok (ofText s) := by
  have hcolon := skipSpace_token hw' (show isSpace (.char ':') = false from rfl) s
  rw [skipName, skipString_spelled hk]
  simp only [hcolon]

theorem skipMemberName_text {w k w' : List Char} {name : List Char} (hw : Blank w)
    (hk : Spelled name k) (hw' : Blank w') (s : List Char) :
    skipMemberName (ofText (w ++ '"' :: (k ++ '"' :: (w' ++ ':' :: s)))) = .ok (ofText s) := by
  simp only [skipMemberName, skipSpace_token hw (show isSpace (.char '"') = false from rfl),
    skipName_text hk hw']

/-! ## The walk over a value -/

/-- The character that opens a bracket. -/
def Bracket.opening : Bracket → Char
  | .array => '['
  | .object => '\x7b'

theorem skipAtom_opening (b : Bracket) {w : List Char} (hw : Blank w) (s : List Char) :
    skipAtom (skipSpace (ofText (w ++ b.opening :: s))) = .ok (some b, ofText s) := by
  cases b with
  | array => exact congrArg skipAtom (skipSpace_token hw rfl s)
  | object => exact congrArg skipAtom (skipSpace_token hw rfl s)

/-- What the walk does with the text of elements or members: behind the
opening bracket it still has to enter, behind an element it is inside. -/
def Walks (b : Bracket) (first : Bool) (u : List Char) : Prop :=
  ∀ (pending : List Bracket) (s : List Char),
    if first then
      ∀ w, Blank w → skipValue pending (ofText (w ++ b.opening :: (u ++ s))) =
        skipRest pending (ofText s)
    else skipRest (b :: pending) (ofText (u ++ s)) = skipRest pending (ofText s)

mutual

theorem skipValue_written {v : Value} {t : List Char} (h : Written v t)
    (pending : List Bracket) {w s : List Char} (hw : Blank w) (hs : Stops s) :
    skipValue pending (ofText (w ++ (t ++ s))) = skipRest pending (ofText s) := by
  have hstart := h.skipSpace_eq hw s
  match h with
  | .null => exact skipValue_atom (hstart ▸ skipAtom_null s)
  | .yes => exact skipValue_atom (hstart ▸ skipAtom_true s)
  | .no => exact skipValue_atom (hstart ▸ skipAtom_false s)
  | .number n => exact skipValue_atom (by rw [hstart]; exact skipAtom_number n hs)
  | .string hspelled =>
      refine skipValue_atom ?_
      rw [hstart, List.cons_append, List.append_assoc]
      exact skipAtom_string hspelled s
  | .array helements => exact walks_elements helements pending s w hw
  | .object hmembers => exact walks_members hmembers pending s w hw

theorem walks_elements {first : Bool} {vs : List Value} {u : List Char}
    (h : WrittenElements first vs u) : Walks .array first u := by
  intro pending s
  match h with
  | @WrittenElements.close true _ hw' =>
      intro w hw
      rw [List.append_assoc]
      exact skipValue_close (skipAtom_opening .array hw _) (skipSpace_token hw' rfl s)
  | @WrittenElements.close false _ hw' =>
      rw [List.append_assoc]
      exact skipRest_close (b := .array) (skipSpace_token hw' rfl s)
  | @WrittenElements.more _ g t u _ _ (.first hg) hv hrest =>
      intro w hw
      have henter := skipAtom_opening .array hw (g ++ (t ++ (u ++ s)))
      have hnext := hv.skipSpace_eq hg (u ++ s)
      have hvalue := skipValue_written hv (.array :: pending) hg (hrest.stops s)
      have hothers := walks_elements hrest pending s
      obtain ⟨c, t', rfl, -, hclose, -, -⟩ := hv.text_eq_cons
      have hopen : Piece.char c ≠ .char ']' := by
        intro hc
        exact hclose (Piece.char.inj hc)
      rw [List.append_assoc, List.append_assoc, skipValue_array henter hnext hopen, hvalue]
      exact hothers
  | @WrittenElements.more _ _ t u _ _ (@Gap.later w w' hw hw') hv hrest =>
      have hcomma := skipSpace_token hw (show isSpace (.char ',') = false from rfl)
        (w' ++ (t ++ (u ++ s)))
      have hvalue := skipValue_written hv (.array :: pending) hw' (hrest.stops s)
      have hothers := walks_elements hrest pending s
      rw [List.append_assoc, List.append_assoc, List.append_assoc, List.cons_append]
      exact (skipRest_element hcomma).trans (hvalue.trans hothers)

theorem walks_members {first : Bool} {ms : Members} {u : List Char}
    (h : WrittenMembers first ms u) : Walks .object first u := by
  intro pending s
  match h with
  | @WrittenMembers.close true _ hw' =>
      intro w hw
      rw [List.append_assoc]
      exact skipValue_close (skipAtom_opening .object hw _) (skipSpace_token hw' rfl s)
  | @WrittenMembers.close false _ hw' =>
      rw [List.append_assoc]
      exact skipRest_close (b := .object) (skipSpace_token hw' rfl s)
  | @WrittenMembers.more _ g _ k c d t u _ _ (.first hg) hk hc hd hv hrest =>
      intro w hw
      have henter := skipAtom_opening .object hw
        (g ++ '"' :: (k ++ '"' :: (c ++ ':' :: (d ++ (t ++ (u ++ s))))))
      have hnext := skipSpace_token hg (show isSpace (.char '"') = false from rfl)
        (k ++ '"' :: (c ++ ':' :: (d ++ (t ++ (u ++ s)))))
      have hname := skipMemberName_text hg hk hc (d ++ (t ++ (u ++ s)))
      have hvalue := skipValue_written hv (.object :: pending) hd (hrest.stops s)
      have hothers := walks_members hrest pending s
      simp only [List.append_assoc, List.cons_append]
      exact (skipValue_object henter hnext (by decide) hname).trans (hvalue.trans hothers)
  | @WrittenMembers.more _ _ _ k c d t u _ _ (@Gap.later w w' hw hw') hk hc hd hv hrest =>
      have hcomma := skipSpace_token hw (show isSpace (.char ',') = false from rfl)
        (w' ++ '"' :: (k ++ '"' :: (c ++ ':' :: (d ++ (t ++ (u ++ s))))))
      have hname := skipMemberName_text hw' hk hc (d ++ (t ++ (u ++ s)))
      have hvalue := skipValue_written hv (.object :: pending) hd (hrest.stops s)
      have hothers := walks_members hrest pending s
      simp only [List.append_assoc, List.cons_append]
      exact (skipRest_member hcomma hname).trans (hvalue.trans hothers)

end

end OrderDesk.Json
