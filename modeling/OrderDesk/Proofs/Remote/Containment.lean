/-
# `Proofs.Remote.Containment` — no id leads out of an API

An id may be anything that a command line can hold: dots, separators, what
looks like a query or a user, and tabs and line breaks that hide dots until
they are dropped.  Wherever it leads (`Target`), it leads below the API.

| target      | path of the address                 |
| :--         | :--                                 |
| `above`     | stem of the API's path, `/`         |
| `users`     | stem of the API's path, `/users`    |
| `folder`    | stem of the API's path, `/users/`   |
| `record s`  | the same, and `s` as it is encoded  |

All else of the address is that of the API (`customerUrl_eq`).  What comes
behind the stem is the folder `users` and one segment at most, and has no
sign that would end a path (`Target.tail_within`), so the written address
cannot be taken for one with another query.
-/
import OrderDesk.Proofs.Remote.Segments

namespace OrderDesk

namespace Remote

/-- What the path of a target has behind the stem of the API's path and a
slash. -/
def Target.tail : Target → List Char
  | .above => []
  | .users => "users".toList
  | .folder => "users/".toList
  | .record s => "users/".toList ++ Percent.encode Percent.segment s

/-- The path of any target goes on behind the stem of the API's path. -/
theorem Target.path_text {base : Url} (hleaf : '/' ∉ base.path.leaf) (t : Target) :
    (t.path (home base)).text = Path.stem base.path.text ++ '/' :: t.tail := by
  rw [Path.text_eq, Path.stem_text hleaf, List.flatMap_append, List.flatMap_singleton]
  cases t with
  | above => rfl
  | users => rfl
  | folder =>
      rw [Target.path, home, List.flatMap_append, List.append_assoc]
      rfl
  | record s =>
      rw [Target.path, home, List.flatMap_append, List.append_assoc]
      rfl

/-- The tail of a path that stays within an API: nothing, the folder of the
customers, or a segment in it. -/
inductive Within : List Char → Prop
  | top : Within []
  | folder : Within "users".toList
  | segment {s : List Char} : (∀ sign ∈ ['/', '\\', '?', '#'], sign ∉ s) →
      Within ("users/".toList ++ s)

theorem Target.tail_within (t : Target) : Within t.tail := by
  cases t with
  | above => exact .top
  | users => exact .folder
  | folder => exact .segment (s := []) (by simp)
  | record s => exact .segment fun sign hsign => separator_not_mem_encode hsign s

/-- No id leads out of an API.  There is an address for every id; its scheme,
user, host, port, query and fragment are those of the API, its path begins
with the stem of the API's path and a slash, and what comes then goes no
further than a segment of the folder `users`. -/
theorem stays_within {baseUrl : String} {timeout : Option Nat} {c : Client}
    (h : Client.new baseUrl timeout = .ok c) (id : String) :
    ∃ base url tail, Address.parse baseUrl = .ok (.web base) ∧
      c.customerUrl id = .ok url ∧
      url.scheme = base.scheme ∧ url.user = base.user ∧ url.host = base.host ∧
      url.port = base.port ∧ url.query = base.query ∧ url.fragment = base.fragment ∧
      url.path.text = Path.stem base.path.text ++ '/' :: tail ∧ Within tail ∧
      url.text.toList =
        base.originText ++ (Path.stem base.path.text ++ '/' :: tail) ++ base.tailText := by
  obtain ⟨base, hbase, rfl⟩ := Client.new_eq_ok.mp h
  have hpath := Target.path_text (Address.slash_not_mem_leaf hbase) (target id)
  refine ⟨base, customerUrl base id, (target id).tail, hbase, rfl, ?_⟩
  rw [customerUrl_eq, ← hpath]
  refine ⟨rfl, rfl, rfl, rfl, rfl, rfl, rfl, (target id).tail_within, ?_⟩
  exact String.toList_ofList

/-- Two dots that a tab has hidden lead up to the API, and not above it, even
where its path ends with slashes. -/
theorem hidden_dots_within :
    Client.new "http://me:pw@[::1]:8080/v1//?all#top" none = .ok crowdedClient ∧
      ∃ url tail, crowdedClient.customerUrl ".\t." = .ok url ∧
        url.host = crowdedApi.host ∧ url.query = crowdedApi.query ∧
        url.path.text = "/v1//".toList ++ tail ∧ Within tail := by
  have hnew : Client.new "http://me:pw@[::1]:8080/v1//?all#top" none = .ok crowdedClient := rfl
  obtain ⟨base, url, tail, hbase, hurl, -, -, hhost, -, hquery, -, hpath, hwithin, -⟩ :=
    stays_within hnew ".\t."
  obtain rfl : crowdedApi = base := Address.web.inj (Except.ok.inj hbase)
  exact ⟨hnew, url, tail, hurl, hhost, hquery, hpath, hwithin⟩

end Remote

end OrderDesk
