/-
# `Proofs.Remote.Addresses` — which ids share an address

The id of a customer is put behind the folder `users` of the API as one
segment, but not every id ends up as a segment: the ids `.` and `..` are
left out, tabs and line breaks are dropped, and what is left may be empty
or dots once more.  `target` says where an id leads; `text_customerUrl` says
that this is all there is to it, and that two ids share an address exactly
if they share a target.

| id | target | address |
| :-- | :-- | :-- |
| `.` and `..`                               | `users`    | `…/users`    |
| `..` once tabs and breaks are dropped      | `above`    | `…/`         |
| nothing or `.` once they are dropped       | `folder`   | `…/users/`   |
| any other                                  | `record s` | `…/users/s`  |
-/
import OrderDesk.Proofs.Url.Percent
import OrderDesk.Remote

namespace OrderDesk

namespace Path

/-! ## Dots -/

/-- A segment that is encoded into one of some spellings is what they are
decoded to. -/
theorem eq_of_spelling {spellings : List String} {s t : List Char}
    (hdecode : ∀ spelling ∈ spellings,
      Percent.decode (Utf8.encode spelling.toList) = Utf8.encode t)
    (h : (spellings.any fun spelling =>
      Percent.encode Percent.segment s == spelling.toList) = true) : s = t := by
  obtain ⟨spelling, hmem, heq⟩ := List.any_eq_true.mp h
  refine Utf8.encode_injective ?_
  rw [← Percent.decode_encode Percent.segment_escapes s, beq_iff_eq.mp heq]
  exact hdecode spelling hmem

/-- A segment that is encoded is a dot only if it was one before. -/
theorem isDot_encode (s : List Char) :
    isDot (Percent.encode Percent.segment s) = true ↔ s = ['.'] := by
  constructor
  · exact eq_of_spelling (by decide +kernel)
  · rintro rfl
    decide

/-- A segment that is encoded is two dots only if it was two dots before. -/
theorem isDots_encode (s : List Char) :
    isDots (Percent.encode Percent.segment s) = true ↔ s = ['.', '.'] := by
  constructor
  · exact eq_of_spelling (by decide +kernel)
  · rintro rfl
    decide

/-- Where an encoded segment leads from some folders. -/
theorem close_encode (folders : List (List Char)) (s : List Char) :
    close folders (Percent.encode Percent.segment s) =
      if s = ['.', '.'] then ⟨folders.dropLast, []⟩
      else if s = ['.'] then ⟨folders, []⟩
      else ⟨folders, Percent.encode Percent.segment s⟩ := by
  simp only [close, isDots_encode, isDot_encode]

end Path

namespace Remote

open OrderDesk.Path (isDropped)

/-- The characters of an id that an address keeps. -/
def kept (id : String) : List Char := id.toList.filter fun c => !isDropped c

/-- Where an id leads. -/
inductive Target where
  | above
  | users
  | folder
  | record (segment : List Char)
  deriving DecidableEq

/-- The target of an id. -/
def target (id : String) : Target :=
  if id = "." ∨ id = ".." then .users
  else if kept id = ['.', '.'] then .above
  else if kept id = [] ∨ kept id = ['.'] then .folder
  else .record (kept id)

/-- The path of a target below the folder that the API is in. -/
def Target.path (home : List (List Char)) : Target → Path
  | .above => ⟨home, []⟩
  | .users => ⟨home, "users".toList⟩
  | .folder => ⟨home ++ ["users".toList], []⟩
  | .record s => ⟨home ++ ["users".toList], Percent.encode Percent.segment s⟩

/-- The folder that the API is in. -/
def home (base : Url) : List (List Char) := base.path.trim.asFolders

/-! ## Addresses -/

theorem child_users (p : Path) : p.child "users" = ⟨p.asFolders, "users".toList⟩ := by
  rw [Path.child, if_neg (by decide), Path.close_encode, if_neg (by decide), if_neg (by decide)]
  exact congrArg (Path.mk p.asFolders) (by decide)

/-- The address of an id is the path of its target. -/
theorem customerUrl_eq (base : Url) (id : String) :
    customerUrl base id = { base with path := (target id).path (home base) } := by
  have hpath : (base.path.trim.child "users").child id = (target id).path (home base) := by
    have husers : (Path.mk (home base) "users".toList).asFolders =
        home base ++ ["users".toList] := by
      refine if_neg ?_
      rintro ⟨-, hleaf⟩
      cases hleaf
    rw [child_users, Path.child, target]
    split
    · rfl
    · show Path.close (Path.mk (home base) "users".toList).asFolders
        (Percent.encode Percent.segment (kept id)) = _
      rw [husers, Path.close_encode]
      -- Two dots lead up, one dot and nothing stay, and all else is a segment.
      by_cases habove : kept id = ['.', '.']
      · rw [if_pos habove, if_pos habove, List.dropLast_concat]
        rfl
      · rw [if_neg habove, if_neg habove]
        by_cases hdot : kept id = ['.']
        · rw [if_pos hdot, if_pos (.inr hdot)]
          rfl
        · rw [if_neg hdot]
          by_cases hnil : kept id = []
          · rw [if_pos (.inl hnil), hnil]
            rfl
          · rw [if_neg (by simp [hnil, hdot])]
            rfl
  show { base with path := (base.path.trim.child "users").child id } = _
  rw [hpath]

/-- A record has a segment that is not empty. -/
theorem ne_nil_of_target {id : String} {s : List Char} (h : target id = .record s) : s ≠ [] := by
  rw [target] at h
  split at h
  · cases h
  split at h
  · cases h
  split at h
  · cases h
  · next hfolder =>
      cases h
      intro hnil
      exact hfolder (.inl hnil)

/-- The text of a path says which target it has. -/
theorem Target.text_inj {t t' : Target} (ht : ∀ s, t = .record s → s ≠ [])
    (ht' : ∀ s, t' = .record s → s ≠ []) {home : List (List Char)} :
    (t.path home).text = (t'.path home).text ↔ t = t' := by
  constructor
  · intro h
    have hencode : ∀ {s s'}, Percent.encode Percent.segment s =
        Percent.encode Percent.segment s' ↔ s = s' := Percent.encode_inj Percent.segment_escapes
    have hnil : ∀ {s}, Percent.encode Percent.segment s = [] ↔ s = [] :=
      Percent.encode_eq_nil Percent.segment_escapes
    cases t <;> cases t' <;> simp_all [Target.path, Path.text]
  · rintro rfl
    rfl

theorem text_eq_text {base : Url} {p q : Path} :
    { base with path := p }.text = { base with path := q }.text ↔ p.text = q.text := by
  show String.ofList (base.originText ++ p.text ++ base.tailText) =
    String.ofList (base.originText ++ q.text ++ base.tailText) ↔ _
  rw [String.ofList_inj, List.append_left_inj, List.append_right_inj]

theorem text_customerUrl (base : Url) (a b : String) :
    (customerUrl base a).text = (customerUrl base b).text ↔ target a = target b := by
  rw [customerUrl_eq, customerUrl_eq, text_eq_text]
  exact Target.text_inj (fun _ => ne_nil_of_target) (fun _ => ne_nil_of_target)

/-- A lookup announces the request for its own address, unless the id is
fixed, and no other. -/
theorem request_mem_events (net : Network) (base : Url) (timeout : Option Nat) (id : String)
    (made : List Request) (url : String) :
    Event.request url ∈
        (Lookup.tryFetch ((Client.mk (.web base) timeout).directory net) id made).events ↔
      Lookup.known? id = none ∧ url = (customerUrl base id).text := by
  rw [Lookup.tryFetch]
  cases hknown : Lookup.known? id with
  | some customer => simp
  | none =>
      simp only [Client.directory, Client.customerUrl, ask, true_and]
      split <;> simp

/-- The ids that end up as segments of their own, the empty one included. -/
structure Plain (id : String) : Prop where
  not_dot : id ≠ "."
  not_dots : id ≠ ".."
  keeps : ∀ c ∈ id.toList, isDropped c = false

theorem Plain.kept_eq {id : String} (h : Plain id) : kept id = id.toList := by
  refine List.filter_eq_self.mpr ?_
  intro c hc
  rw [h.keeps c hc]
  rfl

theorem Plain.target_eq {id : String} (h : Plain id) :
    target id = if id.toList = [] then .folder else .record id.toList := by
  have hdot : id.toList ≠ ['.'] := by
    intro heq
    exact h.not_dot (String.toList_injective heq)
  have hdots : id.toList ≠ ['.', '.'] := by
    intro heq
    exact h.not_dots (String.toList_injective heq)
  rw [target, if_neg (not_or.mpr ⟨h.not_dot, h.not_dots⟩), h.kept_eq, if_neg hdots]
  simp only [hdot, or_false]

/-- Plain ids share their target with no other plain id. -/
theorem Plain.target_inj {a b : String} (ha : Plain a) (hb : Plain b) :
    target a = target b ↔ a = b := by
  constructor
  · intro h
    refine String.toList_injective ?_
    rw [ha.target_eq, hb.target_eq] at h
    split at h <;> split at h
    · next ha' hb' => rw [ha', hb']
    · cases h
    · cases h
    · exact Target.record.inj h
  · rintro rfl
    rfl

/-- Two ids share an address exactly if they share a target, and a lookup
asks for the address of an id exactly if it asks at all and for the same
target. -/
theorem shared_address_iff (base : Url) :
    (∀ a b, (customerUrl base a).text = (customerUrl base b).text ↔ target a = target b) ∧
      ∀ net timeout id made fixed,
        Event.request (customerUrl base fixed).text ∈
            (Lookup.tryFetch ((Client.mk (.web base) timeout).directory net) id made).events ↔
          Lookup.known? id = none ∧ target id = target fixed := by
  refine ⟨text_customerUrl base, ?_⟩
  intro net timeout id made fixed
  rw [request_mem_events, text_customerUrl, eq_comm (a := target fixed)]

/-- An API at the root of its machine. -/
def rootApi : Url := ⟨.https, {}, .name "api.example.com".toList, none, {}, none, none⟩

/-- An id with a tab in it is asked for under the address of a fixed one. -/
theorem tab_shares_address :
    "1\t23" ≠ "123" ∧
      (customerUrl rootApi "1\t23").text = "https://api.example.com/users/123" ∧
      (customerUrl rootApi "123").text = "https://api.example.com/users/123" ∧
      Event.request "https://api.example.com/users/123" ∈
        (Lookup.tryFetch ((Client.mk (.web rootApi) none).directory Network.unreachable)
          "1\t23" []).events := by
  decide +kernel

end Remote

end OrderDesk
