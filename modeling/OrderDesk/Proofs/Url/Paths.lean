/-
# `Proofs.Url.Paths` — the text of a path, and what can be put behind it

Going down a segment works on folders, but what it does can be seen in the
text: a slash and the segment come behind the *stem* of the path, which is
the path without one slash at its end.  A path that is nothing but slashes
has less of a stem, since the first of them belongs to every path.

| path     | folders and leaf | stem  | folders without it   |
| :--      | :--              | :--   | :--                  |
| `/`      | none, nothing    |       | none                 |
| `//`     | one, nothing     |       | none                 |
| `///`    | two, nothing     | `//`  | two                  |
| `/a`     | none, `a`        | `/a`  | `a`                  |
| `/a/`    | `a`, nothing     | `/a`  | `a`                  |

A leaf with a slash at its end would be a leaf without a slash in the text,
so the two agree only on paths whose leaf has none (`stem_text`).  Paths that
were read are of this kind: they were cut at their slashes, and none comes
back when the segments are encoded (`slash_not_mem_readWeb`).
-/
import OrderDesk.Proofs.Url.Percent
import OrderDesk.Url.Reading

namespace OrderDesk

namespace Path

/-- The text of a path without a slash at its end, and nothing of it if no more
than a slash is left. -/
def stem (path : List Char) : List Char :=
  let short := if path.getLast? = some '/' then path.dropLast else path
  if short = ['/'] then [] else short

/-! ## Segments that were read -/

theorem slash_not_mem_split {special : Bool} {s part : List Char}
    (h : part ∈ Url.segments.split special s) : '/' ∉ part := by
  induction s generalizing part with
  | nil =>
      obtain rfl := List.mem_singleton.mp h
      exact List.not_mem_nil
  | cons c s ih =>
      rw [Url.segments.split] at h
      split at h
      · rcases List.mem_cons.mp h with rfl | h
        · exact List.not_mem_nil
        · exact ih h
      · next hc =>
          have hslash : '/' ≠ c := fun heq => hc (.inl heq.symm)
          split at h
          · obtain rfl := List.mem_singleton.mp h
            simpa using hslash
          · next first parts hsplit =>
              rw [hsplit] at ih
              rcases List.mem_cons.mp h with rfl | h
              · simpa [hslash] using ih List.mem_cons_self
              · exact ih (List.mem_cons_of_mem first h)

theorem leaf_follow (folders segments : List (List Char)) :
    (follow folders segments).leaf = [] ∨ (follow folders segments).leaf ∈ segments := by
  induction folders, segments using follow.induct with
  | case1 folders => exact .inl rfl
  | case2 folders segment =>
      rw [follow, close]
      split
      · exact .inl rfl
      split
      · exact .inl rfl
      · exact .inr List.mem_cons_self
  | case3 folders segment rest hrest ih =>
      rw [follow.eq_3 _ _ _ hrest]
      exact ih.imp_right (List.mem_cons_of_mem segment)

theorem slash_not_mem_segments {special : Bool} {path segment : List Char}
    (h : segment ∈ Url.segments special path) : '/' ∉ segment := by
  obtain ⟨part, hpart, rfl⟩ := List.mem_map.mp h
  intro hslash
  rcases Percent.mem_encode hslash with hsign | ⟨hmem, -⟩
  · exact absurd hsign (by decide)
  · exact slash_not_mem_split hpart hmem

theorem slash_not_mem_readTail (folders : List (List Char)) (s : List Char) :
    '/' ∉ (Url.readTail folders s).1.leaf := by
  have hpath : (Url.readTail folders s).1 =
      follow folders (Url.segments true (Url.cutPath true s).1) := rfl
  rw [hpath]
  intro h
  rcases leaf_follow folders (Url.segments true (Url.cutPath true s).1) with hnil | hmem
  · rw [hnil] at h
    cases h
  · exact slash_not_mem_segments hmem h

/-- The last segment of an address of the web that was read has no slash. -/
theorem slash_not_mem_readWeb {scheme : Scheme} {s : List Char} {url : Url}
    (h : Url.readWeb scheme s = .ok url) : '/' ∉ url.path.leaf := by
  rw [Url.readWeb] at h
  cases hauthority : Url.readAuthority (some scheme.port) s with
  | error e =>
      rw [hauthority] at h
      cases h
  | ok authority =>
      rw [hauthority] at h
      cases h
      exact slash_not_mem_readTail _ _

/-! ## Stems -/

/-- In the text a slash stands in front of each segment. -/
theorem text_eq (p : Path) : p.text = (p.folders ++ [p.leaf]).flatMap ('/' :: ·) := by
  have hfolders : ∀ folders : List (List Char),
      '/' :: folders.flatMap (· ++ ['/']) = folders.flatMap ('/' :: ·) ++ ['/'] := by
    intro folders
    induction folders with
    | nil => rfl
    | cons folder folders ih =>
        rw [List.flatMap_cons, List.flatMap_cons, List.append_assoc, List.append_assoc, ← ih]
        rfl
  rw [text, List.flatMap_append, List.flatMap_singleton, ← List.cons_append, hfolders,
    List.append_assoc]
  rfl

/-- All segments of a path, a slash in front of each: the text of the path,
but nothing for the path `/`. -/
theorem asFolders_text (p : Path) :
    p.asFolders.flatMap ('/' :: ·) = if p.text = ['/'] then [] else p.text := by
  have hroot : p.text = ['/'] ↔ p.folders = [] ∧ p.leaf = [] := by
    rw [text, List.cons.injEq, List.append_eq_nil_iff]
    cases p.folders with
    | nil => simp
    | cons folder folders => simp
  rw [asFolders]
  simp only [hroot]
  split
  · rfl
  · rw [text_eq]

/-- A path of more than a slash loses the slash at its end, if it has one. -/
theorem trim_text {p : Path} (h : '/' ∉ p.leaf) (hroot : p ≠ {}) :
    p.trim.text = if p.text.getLast? = some '/' then p.text.dropLast else p.text := by
  obtain ⟨folders, leaf⟩ := p
  rcases List.eq_nil_or_concat leaf with rfl | ⟨front, c, rfl⟩
  · rcases List.eq_nil_or_concat folders with rfl | ⟨front, last, rfl⟩
    · exact absurd rfl hroot
    · rw [List.concat_eq_append]
      have htext : (Path.mk (front ++ [last]) []).text = (Path.mk front last).text ++ ['/'] := by
        rw [text_eq, text_eq, List.flatMap_append]
        rfl
      have htrim : (Path.mk (front ++ [last]) []).trim = ⟨front, last⟩ := by
        rw [trim, if_pos rfl]
        simp
      rw [htrim, htext, List.getLast?_concat, if_pos rfl, List.dropLast_concat]
  · rw [List.concat_eq_append] at h ⊢
    have hlast : (Path.mk folders (front ++ [c])).text.getLast? = some c := by
      rw [text, ← List.append_assoc, ← List.cons_append, List.getLast?_concat]
    have hslash : some c ≠ some '/' := by
      rintro ⟨⟩
      exact h (by simp)
    have htrim : (Path.mk folders (front ++ [c])).trim = ⟨folders, front ++ [c]⟩ :=
      if_neg (by simp)
    rw [htrim, hlast, if_neg hslash]

/-- The stem of a path is what its segments are without a slash at the end. -/
theorem stem_text {p : Path} (h : '/' ∉ p.leaf) :
    stem p.text = p.trim.asFolders.flatMap ('/' :: ·) := by
  by_cases hroot : p = {}
  · subst hroot
    rfl
  · rw [asFolders_text, trim_text h hroot]
    rfl

end Path

end OrderDesk
