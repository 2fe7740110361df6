/-
# `Proofs.Remote.Segments` — an id is one segment of an address

Ids that are not dots and have neither tabs nor line breaks (`Plain`) end up
as one segment.  Their address keeps all of the API's address but the path,
and its path is

    stem of the API's path   /users/   segment

where the segment has no character that ends a segment or a path, and is
the id again when it is decoded (`plain_segment`).  So the id can be had
back from the address, and no two such ids share one.

The address is asked of a `Client`, which was made from a text: that there
is an address for every id is part of what is shown.
-/
import OrderDesk.Proofs.Remote.Addresses
import OrderDesk.Proofs.Remote.Exchanges
import OrderDesk.Proofs.Url.Paths

namespace OrderDesk

namespace Address

theorem map_other_ne_web (x : Except UrlError OtherUrl) (url : Url) :
    x.map other ≠ .ok (.web url) := by
  intro h
  obtain ⟨_, -, hother⟩ := eq_other_of_map h
  cases hother

/-- Addresses of the web come from one reader only. -/
theorem readWeb_of_parse {text : String} {url : Url} (h : parse text = .ok (.web url)) :
    ∃ scheme s, Url.readWeb scheme s = .ok url := by
  rw [parse] at h
  split at h
  · cases h
  rw [parseAs] at h
  split at h
  · next scheme _ =>
      cases hread : Url.readWeb scheme (Url.dropSeparators _) with
      | error e =>
          rw [hread] at h
          cases h
      | ok url' =>
          rw [hread] at h
          cases h
          exact ⟨_, _, hread⟩
  · exact absurd h (map_other_ne_web _ url)
  · exact absurd h (map_other_ne_web _ url)
  · exact absurd h (map_other_ne_web _ url)

/-- The last segment of an address of the web has no slash. -/
theorem slash_not_mem_leaf {text : String} {url : Url} (h : parse text = .ok (.web url)) :
    '/' ∉ url.path.leaf := by
  obtain ⟨scheme, s, hread⟩ := readWeb_of_parse h
  exact Path.slash_not_mem_readWeb hread

end Address

namespace Remote

section Plain

variable {id : String}

theorem Plain.path_eq (h : Plain id) (home : List (List Char)) :
    (target id).path home =
      ⟨home ++ ["users".toList], Percent.encode Percent.segment id.toList⟩ := by
  rw [h.target_eq]
  split
  · next hnil =>
      rw [hnil]
      rfl
  · rfl

/-- The path of an id behind the stem of the API's path. -/
theorem Plain.path_text (h : Plain id) {base : Url} (hleaf : '/' ∉ base.path.leaf) :
    (customerUrl base id).path.text =
      Path.stem base.path.text ++ "/users/".toList ++
        Percent.encode Percent.segment id.toList := by
  rw [customerUrl_eq, h.path_eq, Path.text_eq, Path.stem_text hleaf, List.flatMap_append,
    List.flatMap_append, home]
  simp

end Plain

/-- Encoding leaves nothing in a segment that ends a segment or a path. -/
theorem separator_not_mem_encode {c : Char} (h : c ∈ ['/', '\\', '?', '#']) (s : List Char) :
    c ∉ Percent.encode Percent.segment s := by
  have hset : ∀ c ∈ ['/', '\\', '?', '#'], Percent.segment c = true ∧ c ∉ Percent.signs := by
    simp only [List.forall_mem_cons]
    exact ⟨by decide, by decide, by decide, by decide, List.forall_mem_nil _⟩
  intro hmem
  obtain ⟨hencoded, hsign⟩ := hset c h
  rcases Percent.mem_encode hmem with hsign' | ⟨-, hkept⟩
  · exact hsign hsign'
  · cases hencoded.symm.trans hkept

/-- Below an API every plain id has an address, which differs from that of the
API in its path only: behind the stem of the API's path there are two
segments more, `users` and the id as it is encoded.  Different plain ids have
different addresses. -/
theorem plain_segment {baseUrl : String} {timeout : Option Nat} {c : Client}
    (h : Client.new baseUrl timeout = .ok c) :
    ∃ base, Address.parse baseUrl = .ok (.web base) ∧
      (∀ id, Plain id → ∃ url segment, c.customerUrl id = .ok url ∧
        url.path.text = Path.stem base.path.text ++ "/users/".toList ++ segment ∧
        (∀ sign ∈ ['/', '\\', '?', '#'], sign ∉ segment) ∧
        Percent.decode (Utf8.encode segment) = Utf8.encode id.toList ∧
        url = { base with path := url.path }) ∧
      ∀ a b url url', Plain a → Plain b → c.customerUrl a = .ok url →
        c.customerUrl b = .ok url' → url.text = url'.text → a = b := by
  obtain ⟨base, hbase, rfl⟩ := Client.new_eq_ok.mp h
  refine ⟨base, hbase, ?_, ?_⟩
  · intro id hid
    refine ⟨customerUrl base id, Percent.encode Percent.segment id.toList, rfl,
      hid.path_text (Address.slash_not_mem_leaf hbase), ?_, ?_, ?_⟩
    · intro sign hsign
      exact separator_not_mem_encode hsign id.toList
    · exact Percent.decode_encode Percent.segment_escapes id.toList
    · rw [customerUrl_eq]
  · rintro a b url url' ha hb ⟨⟩ ⟨⟩ htext
    exact (ha.target_inj hb).mp ((text_customerUrl base a b).mp htext)

/-- An API whose path ends with two slashes, and whose address has all that an
address can have. -/
def crowdedApi : Url :=
  ⟨.http, ⟨"me".toList, some "pw".toList⟩, .ipv6 [0, 0, 0, 0, 0, 0, 0, 1], some 8080,
    ⟨["v1".toList, []], []⟩, some "all".toList, some "top".toList⟩

/-- The client of it. -/
def crowdedClient : Client := ⟨.web crowdedApi, none⟩

/-- An id of nothing but dots, separators and what looks encoded is one segment
too. -/
theorem dotted_segment :
    Client.new "http://me:pw@[::1]:8080/v1//?all#top" none = .ok crowdedClient ∧
      Plain "/../%2e?#\\" ∧
      ∃ url segment, crowdedClient.customerUrl "/../%2e?#\\" = .ok url ∧
        url.path.text = "/v1//users/".toList ++ segment ∧ '/' ∉ segment ∧
        url = { crowdedApi with path := url.path } := by
  have hnew : Client.new "http://me:pw@[::1]:8080/v1//?all#top" none = .ok crowdedClient := rfl
  have hkeeps : "/../%2e?#\\".toList.any Path.isDropped = false := by decide
  have hplain : Plain "/../%2e?#\\" := by
    refine ⟨by decide, by decide, ?_⟩
    intro c hc
    exact Bool.eq_false_iff.mpr (List.any_eq_false.mp hkeeps c hc)
  obtain ⟨base, hbase, hsegment, -⟩ := plain_segment hnew
  obtain rfl : crowdedApi = base := Address.web.inj (Except.ok.inj hbase)
  obtain ⟨url, segment, hurl, hpath, hfree, -, hrest⟩ := hsegment _ hplain
  exact ⟨hnew, hplain, url, segment, hurl, hpath, hfree '/' (by decide), hrest⟩

end Remote

end OrderDesk
