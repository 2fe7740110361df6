/-
# `Proofs.RoundTrip` — customers and orders written and read again

A customer comes back as it was.  An order with a finite amount comes back
from both of its layouts, the same from both, and only its amount may have
changed on the way: the reader of numbers is not exact, but it finds every
written amount in range.  An amount that is not finite is written `null`,
and then no order comes back from either layout.
-/
import OrderDesk.Proofs.Decoding
import OrderDesk.Proofs.Json.AmountText

namespace OrderDesk

open Utf8 (Piece ofText)
open Json

/-! ## Customers -/

namespace Customer

theorem json_numbered (c : Customer) : Numbered c.json := by
  refine .object ?_
  simp only [members, List.forall_mem_cons]
  exact ⟨.string _, .string _, .string _, List.forall_mem_nil _⟩

theorem denotes_json (c : Customer) : Denotes c.json c :=
  .object rfl (.inl rfl) rfl rfl

/-- A customer is read back from its text. -/
theorem decode_text (c : Customer) : decode (Utf8.encode c.text.toList) = .ok c := by
  rw [text, String.toList_ofList]
  exact (decode_document c.json_numbered.compact.document c).mpr c.denotes_json

end Customer

namespace Order

/-! ## Finite amounts -/

theorem ofAmount_finite {x : Binary64} (h : x.isFinite = true) :
    ∃ n : Numeral, Value.ofAmount x = .number n.text ∧ n.value? ≠ none := by
  cases x with
  | finite negative units fits =>
      obtain ⟨n, htext, hvalue⟩ := finite_number negative fits
      refine ⟨n, ?_, hvalue⟩
      rw [Value.ofAmount, htext]
  | nan => cases h
  | infinite => cases h

/-- A finite amount is read as some amount. -/
theorem isAmount_finite {x : Binary64} (h : x.isFinite = true) :
    ∃ y, IsAmount (.ofAmount x) y := by
  obtain ⟨n, htext, hvalue⟩ := ofAmount_finite h
  obtain ⟨y, hy⟩ := Option.ne_none_iff_exists'.mp hvalue
  exact ⟨y.toAmount, y, ⟨n, htext, hy⟩, rfl⟩

/-- The JSON form of an order without the amount. -/
theorem json_numbered {o : Order} (h : Numbered (.ofAmount o.amount)) : Numbered o.json := by
  refine .object ?_
  simp only [members, List.forall_mem_cons]
  refine ⟨.string _, .string _, h, ?_, .bool _, List.forall_mem_nil _⟩
  cases o.status with
  | none => exact .null
  | some s => exact .string _

theorem denotes_json {o : Order} {x : Binary64} (h : IsAmount (.ofAmount o.amount) x) :
    Denotes o.json { o with amount := x } := by
  refine .object rfl rfl rfl h ?_ rfl
  simp only
  cases hs : o.status with
  | none => exact .null (by simp [Only, named, members, hs])
  | some s => exact .text (by simp [Only, named, members, hs])

/-! ## Other amounts -/

theorem ofAmount_other {x : Binary64} (h : ¬ x.isFinite = true) : Value.ofAmount x = .null := by
  cases x with
  | finite negative units fits => exact absurd rfl h
  | nan => rfl
  | infinite => rfl

/-- Every order is written by the grammar. -/
theorem numbered (o : Order) : Numbered o.json := by
  refine json_numbered ?_
  by_cases h : o.amount.isFinite = true
  · obtain ⟨n, htext, -⟩ := ofAmount_finite h
    rw [htext]
    exact .number n
  · rw [ofAmount_other h]
    exact .null

theorem json_null {o : Order} (h : Value.ofAmount o.amount = .null) :
    o.json = .object (("id".toList, .ofString o.id) ::
      ("customerId".toList, .ofString o.customerId) :: ("amount".toList, .null) ::
        o.members.drop 3) := by
  rw [json, members, h]
  rfl

theorem amountValue_null {w : List Char} (hw : Blank w) (s : List Char) :
    amountValue (ofText (w ++ ("null".toList ++ s))) =
      .error ⟨.wrongType .null "f64", Utf8.size (ofText s)⟩ := by
  have hstart := Written.null.skipSpace_eq hw s
  have hword := word_append "ull".toList s
  rw [amountValue, hstart]
  show Except.error (wrongType "f64" (ofText ('n' :: ("ull".toList ++ s)))) = _
  rw [Utf8.ofText_cons, wrongType, hword]

/-- An object whose third member is an amount without digits: the reader
gets as far as that and names what it has found. -/
theorem decode_null {a b : String} {ms : Members} {text : List Char}
    (h : Document (.object (("id".toList, .ofString a) :: ("customerId".toList, .ofString b) ::
      ("amount".toList, .null) :: ms)) text) :
    ∃ p, decode (Utf8.encode text) = .error p ∧ p.cause = .wrongType .null "f64" := by
  obtain ⟨hw, hv, -⟩ := h
  rename_i w _ w'
  cases hv with
  | object hms =>
      rename_i t
      obtain ⟨u, hu, hid⟩ := members_taken (d := format.blank) format_lawful (.head _) rfl hms
        (show IsText _ a from rfl) w'
      obtain ⟨u', hu', hcustomer⟩ := members_taken (d := { id := some a }) format_lawful
        (.tail _ (.head _)) rfl hu (show IsText _ b from rfl) w'
      have hamount : ∃ e, Json.members format false { id := some a, customerId := some b }
          (ofText (u' ++ w')) = .error (.placed e) ∧ e.cause = .wrongType .null "f64" := by
        cases hu' with
        | more hg hk hblank hblank' hv hms =>
            cases hv
            simp only [List.append_assoc, List.cons_append]
            rw [members_slot format_lawful (.tail _ (.tail _ (.head _))) rfl hg hk hblank]
            simp only [Reader.amount, Reader.placed, amountValue_null hblank']
            exact ⟨_, rfl, rfl⟩
      obtain ⟨e, he, hcause⟩ := hamount
      have hread : format.read (ofText (w ++ ('\x7b' :: t ++ w'))) = .error e := by
        rw [List.cons_append, read_object format hw, hid.trans (hcustomer.trans he)]
        rfl
      have hdecode : decode (Utf8.encode (w ++ ('\x7b' :: t ++ w'))) =
          .error (e.locate (Utf8.encode (w ++ ('\x7b' :: t ++ w')))) := by
        rw [decode, Json.decode, Utf8.pieces_encode, whole, hread]
      exact ⟨_, hdecode, hcause⟩

/-! ## Both layouts -/

/-- Both layouts of an order are read alike.  If the amount is finite they
give back the order with some amount in the place of its own; otherwise
both are refused as values of the wrong kind. -/
theorem decode_layouts (o : Order) :
    if o.amount.isFinite then
      ∃ x, decode (Utf8.encode o.json.compact) = .ok { o with amount := x } ∧
        decode (Utf8.encode o.json.pretty) = .ok { o with amount := x }
    else
      ∃ p q, decode (Utf8.encode o.json.compact) = .error p ∧
        decode (Utf8.encode o.json.pretty) = .error q ∧
          p.cause.category = .value ∧ q.cause.category = .value := by
  split
  · next hfinite =>
      obtain ⟨n, htext, hvalue⟩ := ofAmount_finite hfinite
      obtain ⟨y, hy⟩ := Option.ne_none_iff_exists'.mp hvalue
      have hnumbered : Numbered o.json := json_numbered (htext ▸ .number n)
      have hdenotes := denotes_json (o := o) ⟨y, ⟨n, htext, hy⟩, rfl⟩
      refine ⟨y.toAmount, ?_, ?_⟩
      · exact (decode_document hnumbered.compact.document _).mpr hdenotes
      · exact (decode_document hnumbered.pretty.document _).mpr hdenotes
  · next hother =>
      have hnull := ofAmount_other hother
      have hnumbered : Numbered o.json := json_numbered (hnull ▸ .null)
      have hjson := json_null hnull
      obtain ⟨p, hp, hcause⟩ := decode_null (hjson ▸ hnumbered.compact.document)
      obtain ⟨q, hq, hcause'⟩ := decode_null (hjson ▸ hnumbered.pretty.document)
      rw [← hjson] at hp hq
      refine ⟨p, q, hp, hq, ?_, ?_⟩
      · rw [hcause]
        rfl
      · rw [hcause']
        rfl

end Order

end OrderDesk
