/-
# `Proofs.Template.Seams` — texts that are read apart

Reading looks ahead.  From an opening, which is a dollar sign with an
opening brace behind it, it goes to the next closing brace, be it on the same
line or not.  What follows a text can so change what is read of it, but only
in two ways: an opening that is not closed in the text reaches over, and a
dollar sign at the end becomes an opening with a brace behind it.

If both are out of the question the two texts are read apart
(`parts_append`), and with less than that they are not (`fill_apart`): the
text then ends in a stub of a placeholder, which another text completes.

| | |
| :-- | :-- |
| `Closed text` | each opening in the text has a closing brace behind it |
| `Opens a b`   | an opening stands where the two texts meet |
| `exists_stub` | a text that is not apart from all others ends in a stub |

A line break is no brace, so between lines there are no such openings.  A
line has to close what it opens, and no more.
-/
import OrderDesk.Proofs.Template.Division

namespace OrderDesk

namespace Template

/-- Each opening in the text has a closing brace behind it. -/
def Closed (text : List Char) : Prop :=
  ∀ before inside, text = before ++ '$' :: '\x7b' :: inside → '\x7d' ∈ inside

/-- An opening stands where the two texts meet. -/
def Opens (a b : List Char) : Prop := a.getLast? = some '$' ∧ b.head? = some '\x7b'

/-! ## Closed texts -/

theorem closed_nil : Closed [] := by
  intro before inside heq
  simp at heq

theorem closed_cons {c : Char} {s : List Char} :
    Closed (c :: s) ↔ (c = '$' → s.head? = some '\x7b' → '\x7d' ∈ s) ∧ Closed s := by
  constructor
  · intro h
    refine ⟨?_, ?_⟩
    · rintro rfl hhead
      obtain ⟨inside, rfl⟩ := List.head?_eq_some_iff.mp hhead
      exact List.mem_cons_of_mem _ (h [] inside rfl)
    · rintro before inside rfl
      exact h (c :: before) inside rfl
  · rintro ⟨hfront, hrest⟩ before inside heq
    cases before with
    | nil =>
        cases heq
        simpa using hfront rfl rfl
    | cons b before =>
        obtain ⟨-, rfl⟩ := List.cons.inj heq
        exact hrest before inside rfl

instance decidableClosed : DecidablePred Closed
  | [] => isTrue closed_nil
  | _ :: s =>
      have := decidableClosed s
      decidable_of_iff _ closed_cons.symm

theorem Closed.right {a b : List Char} (h : Closed (a ++ b)) : Closed b := by
  rintro before inside rfl
  exact h (a ++ before) inside (List.append_assoc a before _).symm

/-- What ends in a closing brace is closed. -/
theorem closed_of_getLast? {s : List Char} (h : s.getLast? = some '\x7d') : Closed s := by
  rintro before inside rfl
  cases inside with
  | nil => simp at h
  | cons c inside =>
      have hlast : (c :: inside).getLast? = some '\x7d' := by
        rw [← h]
        simp [List.getLast?_append, List.getLast?_cons]
      exact List.mem_of_getLast? hlast

/-- What has no dollar sign is closed. -/
theorem closed_of_not_mem {s : List Char} (h : '$' ∉ s) : Closed s := by
  rintro before inside rfl
  simp at h

theorem not_opens_of_head? {a b : List Char} (h : b.head? ≠ some '\x7b') : ¬ Opens a b :=
  fun hopens => h hopens.2

/-! ## Reading two texts -/

/-- Nothing begins at the front of a text because of another one behind it. -/
theorem Quiet.append {c : Char} {rest b : List Char} (h : Quiet (c :: rest))
    (hclosed : Closed (c :: rest)) (hseam : ¬ Opens (c :: rest) b) :
    Quiet (c :: (rest ++ b)) := by
  intro inside heq
  obtain ⟨rfl, hrest⟩ := List.cons.inj heq
  cases rest with
  | nil =>
      obtain rfl : b = '\x7b' :: inside := hrest
      exact absurd ⟨rfl, rfl⟩ hseam
  | cons d rest =>
      rw [List.cons_append] at hrest
      obtain ⟨rfl, rfl⟩ := List.cons.inj hrest
      -- a closed text passes an opening by only if a brace closes it at once
      rcases h rest rfl with hhead | hfree
      · exact .inl (by rw [List.head?_append, hhead]; rfl)
      · exact absurd (hclosed [] rest rfl) hfree

theorem Opens.append {rest b : List Char} (h : Opens rest b) (front : List Char) :
    Opens (front ++ rest) b :=
  ⟨by rw [List.getLast?_append, h.1]; rfl, h.2⟩

theorem parts_plain_append {c : Char} {rest b : List Char} (hquiet : Quiet (c :: rest))
    (hclosed : Closed (c :: rest)) (hseam : ¬ Opens (c :: rest) b)
    (h : Closed rest → ¬ Opens rest b → parts (rest ++ b) = parts rest ++ parts b) :
    parts (c :: rest ++ b) = parts (c :: rest) ++ parts b := by
  have hrest : ¬ Opens rest b := fun hopens => hseam (hopens.append [c])
  rw [List.cons_append, parts_plain (hquiet.append hclosed hseam), parts_plain hquiet,
    h (closed_cons.mp hclosed).2 hrest, List.cons_append]

/-- A closed text is read apart from what follows it, unless the two make an
opening where they meet. -/
theorem parts_append {a b : List Char} (hclosed : Closed a) (hseam : ¬ Opens a b) :
    parts (a ++ b) = parts a ++ parts b := by
  induction a using parts.induct with
  | case1 => rw [parts, List.nil_append, List.nil_append]
  | case2 inside name behind hname _ ih =>
      obtain ⟨hne, hfree, rfl⟩ := name?_eq_some.mp hname
      have htext : '$' :: '\x7b' :: (name ++ '\x7d' :: behind) = marker name ++ behind := by
        simp [marker]
      rw [htext] at hclosed hseam ⊢
      rw [List.append_assoc, parts_marker hne hfree, parts_marker hne hfree,
        ih hclosed.right (fun hopens => hseam (hopens.append _)), List.cons_append]
  | case3 inside hnone ih =>
      refine parts_plain_append ?_ hclosed hseam ih
      rintro inside' heq
      cases heq
      exact name?_eq_none.mp hnone
  | case4 c rest hother ih =>
      refine parts_plain_append ?_ hclosed hseam ih
      rintro inside heq
      cases heq
      exact (hother inside rfl rfl).elim

theorem fill_append {a b : List Char} (hclosed : Closed a) (hseam : ¬ Opens a b)
    (env : Environment) : fill env (a ++ b) = fill env a ++ fill env b := by
  rw [fill, parts_append hclosed hseam, List.flatMap_append]
  rfl

theorem fill_silent {gap : List Char} (h : Silent gap []) (env : Environment) :
    fill env gap = gap := by
  rw [(Divides.last h).fill_eq env]
  rfl

theorem parts_name {name : List Char} (hne : name ≠ []) (hfree : '\x7d' ∉ name) :
    parts (marker name) = [.placeholder name] := by
  have hparts := parts_marker hne hfree []
  rwa [List.append_nil, parts] at hparts

theorem fill_marker {name : List Char} (hne : name ≠ []) (hfree : '\x7d' ∉ name)
    (env : Environment) : fill env (marker name) = (Part.placeholder name).fill env := by
  rw [fill, parts_name hne hfree]
  exact List.append_nil _

/-! ## Stubs -/

/-- What has an opening that is not closed has a first one. -/
theorem exists_open {a : List Char} (h : ¬ Closed a) :
    ∃ front inside, Closed front ∧ '\x7d' ∉ inside ∧ a = front ++ '$' :: '\x7b' :: inside := by
  induction a with
  | nil => exact absurd closed_nil h
  | cons c s ih =>
      by_cases hfront : c = '$' → s.head? = some '\x7b' → '\x7d' ∈ s
      · have hrest : ¬ Closed s := fun hs => h (closed_cons.mpr ⟨hfront, hs⟩)
        obtain ⟨front, inside, hclosed, hfree, rfl⟩ := ih hrest
        refine ⟨c :: front, inside, closed_cons.mpr ⟨?_, hclosed⟩, hfree, rfl⟩
        intro hc hhead
        have hmem := hfront hc (by rw [List.head?_append, hhead]; rfl)
        simpa [hfree] using hmem
      · simp only [Classical.not_imp] at hfront
        obtain ⟨rfl, hhead, hfree⟩ := hfront
        obtain ⟨inside, rfl⟩ := List.head?_eq_some_iff.mp hhead
        exact ⟨[], inside, closed_nil, fun hmem => hfree (List.mem_cons_of_mem _ hmem), rfl⟩

/-- A text with an open end is closed up to a stub, and something completes the
stub to a placeholder. -/
theorem exists_stub {a : List Char} (h : ¬ (Closed a ∧ a.getLast? ≠ some '$')) :
    ∃ front stub behind name, a = front ++ stub ∧ Closed front ∧ stub ≠ [] ∧ '\x7d' ∉ stub ∧
      stub ++ behind = marker name ∧ name ≠ [] ∧ '\x7d' ∉ name := by
  by_cases hclosed : Closed a
  · have hlast : a.getLast? = some '$' := by
      by_contra hlast
      exact h ⟨hclosed, hlast⟩
    obtain ⟨front, rfl⟩ := List.getLast?_eq_some_iff.mp hlast
    refine ⟨front, ['$'], ['\x7b', 'x', '\x7d'], ['x'], rfl, ?_, by decide, by decide, rfl,
      by decide, by decide⟩
    rintro before inside rfl
    simpa using hclosed before (inside ++ ['$']) (by simp)
  · obtain ⟨front, inside, hfront, hfree, rfl⟩ := exists_open hclosed
    exact ⟨front, '$' :: '\x7b' :: inside, ['x', '\x7d'], inside ++ ['x'], rfl, hfront,
      List.cons_ne_nil _ _, by simp [hfree], by simp [marker], by simp, by simp [hfree]⟩

/-- A stub is not read apart from what completes it: where all variables are
empty, it is gone. -/
theorem fill_stub_ne {front stub behind name : List Char} (hfront : Closed front)
    (hne : stub ≠ []) (hopen : '\x7d' ∉ stub) (hmarker : stub ++ behind = marker name)
    (hname : name ≠ []) (hfree : '\x7d' ∉ name) :
    fill (fun _ => some "") (front ++ stub ++ behind) ≠
      fill (fun _ => some "") (front ++ stub) ++ fill (fun _ => some "") behind := by
  obtain ⟨c, rest, rfl⟩ := List.exists_cons_of_ne_nil hne
  obtain rfl : c = '$' := List.head_eq_of_cons_eq hmarker
  have hseam : ∀ s, ¬ Opens front ('$' :: s) := fun s => not_opens_of_head? (by simp)
  have hsilent : Silent ('$' :: rest) [] := by
    rintro before after heq - inside hafter
    refine .inr fun hmem => hopen ?_
    rw [List.append_nil] at hafter
    rw [heq, hafter]
    simp [hmem]
  intro heq
  rw [List.append_assoc, List.cons_append, fill_append hfront (hseam _), ← List.cons_append,
    hmarker, fill_marker hname hfree, fill_append hfront (hseam _), fill_silent hsilent,
    List.append_assoc, List.append_cancel_left_eq] at heq
  cases heq

/-! ## Texts apart -/

/-- A text that closes what it opens and does not end in a dollar sign is
filled in independently of what follows it, and no other text is.  A line
needs to close what it opens only. -/
theorem fill_apart (a : List Char) :
    (Closed a ∧ a.getLast? ≠ some '$' ↔
      ∀ (env : Environment) (b : List Char), fill env (a ++ b) = fill env a ++ fill env b) ∧
    (Closed a → ∀ (env : Environment) (b : List Char),
      fill env (a ++ '\n' :: b) = fill env a ++ '\n' :: fill env b) := by
  refine ⟨⟨?_, ?_⟩, ?_⟩
  · rintro ⟨hclosed, hlast⟩ env b
    exact fill_append hclosed (fun hopens => hlast hopens.1) env
  · intro happend
    by_contra h
    obtain ⟨front, stub, behind, name, rfl, hfront, hne, hopen, hmarker, hname, hfree⟩ :=
      exists_stub h
    exact fill_stub_ne hfront hne hopen hmarker hname hfree (happend _ behind)
  · intro hclosed env b
    have hbreak : Silent ['\n'] [] := silent_of_not_mem (by decide) []
    rw [fill_append hclosed (not_opens_of_head? (by simp)), ← List.singleton_append,
      fill_append (closed_of_not_mem (by decide)) (fun hopens => by cases hopens.1),
      fill_silent hbreak, List.singleton_append]

/-- A text with two openings and one name, all of it closed. -/
def enclosed : List Char := "$\x7b\x7d$\x7ba$\x7bb\x7d".toList

/-- The value of its name is what an opening begins with. -/
def tempting : Environment
  | "a$\x7bb" => some "$"
  | _ => none

/-- A value does not make an opening with the brace that follows it. -/
theorem enclosed_apart :
    (Closed enclosed ∧ enclosed.getLast? ≠ some '$') ∧
      fill tempting (enclosed ++ "\x7bc\x7d$\x7b".toList) =
        "$\x7b\x7d$\x7bc\x7d$\x7b".toList := by
  have hclosed : Closed enclosed ∧ enclosed.getLast? ≠ some '$' := ⟨by decide, by decide⟩
  refine ⟨hclosed, ((fill_apart enclosed).1.mp hclosed tempting _).trans ?_⟩
  decide +kernel

end Template

end OrderDesk
