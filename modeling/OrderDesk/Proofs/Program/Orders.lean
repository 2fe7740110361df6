/-
# `Proofs.Program.Orders` — a run that makes an order

Such a run writes one object with the order and its customer in it, over
several lines and with the members of every object in the order of their
names.  The texts of an order by itself have its members in another order,
so the two are compared as what they are texts of: the same members with
the same values (`report_eq`, `byName_perm`), and hence the same order for
whoever reads it (`Order.Denotes.perm`).
-/
import OrderDesk.Proofs.Program.Lookups

namespace OrderDesk

open Json

namespace Program

/-! ## Members by name -/

theorem insert_perm (m : List Char × Value) (ms : Members) :
    (byName.insert m ms).Perm (m :: ms) := by
  induction ms with
  | nil => exact .refl _
  | cons n ms ih =>
      rw [byName.insert]
      split
      · exact (ih.cons n).trans (.swap m n ms)
      · exact .refl _

/-- Members by name are the same members. -/
theorem byName_perm (ms : Members) : (byName ms).Perm ms := by
  induction ms with
  | nil => exact .refl _
  | cons m ms ih => exact (insert_perm m _).trans (ih.cons m)

theorem numbered_byName {ms : Members} (h : Numbered (.object ms)) :
    Numbered (.object (byName ms)) := by
  cases h with
  | object h =>
      refine .object ?_
      intro m hm
      exact h m ((byName_perm ms).mem_iff.mp hm)

/-- The customer stands in front of the order. -/
theorem report_eq (o : Order) (c : Customer) :
    report o c = .object
      [("customer".toList, .object (byName c.members)),
       ("order".toList, .object (byName o.members))] := by
  rfl

/-- Whatever text the customer of a report has, it is read as that customer. -/
theorem decode_customer (c : Customer) {text : List Char}
    (h : Document (.object (byName c.members)) text) :
    Customer.decode (Utf8.encode text) = .ok c :=
  (Customer.decode_document h c).mpr (c.denotes_json.perm (byName_perm c.members).symm)

/-- The report of an order and its customer is written by the grammar,
whatever the amount is. -/
theorem numbered_report (o : Order) (c : Customer) : Numbered (report o c) := by
  rw [report_eq]
  refine .object ?_
  simp only [List.forall_mem_cons]
  exact ⟨numbered_byName c.json_numbered, numbered_byName o.numbered, List.forall_mem_nil _⟩

/-! ## The report of a run -/

/-- A run that makes an order writes one object over several lines: the
customer that a lookup finds, and the order with the members that its
compact text has, each with the same value.  So if the amount is finite
both texts give the same order. -/
theorem order_output {s : Surroundings} {words : List Word} {o : Options}
    {id customerId : String} {amount : Binary64} {x : Settings}
    (hread : CommandLine.read words = .ok ⟨o, .order id customerId amount⟩)
    (hsettings : o.settings s.environment s.files = .ok x) (hvalid : x.validate = .ok ()) :
    let order := Order.new id customerId amount
    ∃ d customer members, x.directory s.network = .ok d ∧
      let report : Value :=
        .object [("customer".toList, customer), ("order".toList, .object members)]
      (run s words).output.toList = report.pretty ++ ['\n'] ∧ Document report report.pretty ∧
      (∀ text, Document customer text →
        Customer.decode (Utf8.encode text) = .ok (Lookup.fetch d customerId []).value) ∧
      members.Perm order.members ∧ Document (.object order.members) order.json.compact ∧
      (amount.isFinite = false → ("amount".toList, .null) ∈ members) ∧
      (amount.isFinite = true → ∃ y, Order.decode (Utf8.encode order.json.compact) = .ok y ∧
        ∀ text, Document (.object members) text → Order.decode (Utf8.encode text) = .ok y) ∧
      (run s words).requests = (Lookup.fetch d customerId []).state := by
  intro order
  obtain ⟨d, hd, hrun⟩ := run_performed hread (settings_eq_ok.mpr ⟨hsettings, hvalid⟩)
  let found := (Lookup.fetch d customerId []).value
  have hperm := byName_perm order.members
  refine ⟨d, .object (byName found.members), byName order.members, hd, ?_, ?_, ?_, hperm, ?_, ?_,
    ?_, hrun.requests⟩
  · rw [hrun.output, ← report_eq]
    show (String.ofList (report order found).pretty ++ "\n").toList = _
    rw [String.toList_append, String.toList_ofList]
    rfl
  · rw [← report_eq]
    exact (numbered_report order found).pretty.document
  · intro text htext
    exact decode_customer found htext
  · exact order.numbered.compact.document
  · intro hother
    have hnull : ("amount".toList, Value.null) ∈ order.members := by
      rw [← Order.ofAmount_other (Bool.eq_false_iff.mp hother)]
      exact .tail _ (.tail _ (.head _))
    exact hperm.mem_iff.mpr hnull
  · intro hfinite
    obtain ⟨y, hamount⟩ := Order.isAmount_finite hfinite
    have hdenotes := Order.denotes_json (o := order) hamount
    refine ⟨{ order with amount := y }, ?_, ?_⟩
    · exact (Order.decode_document order.numbered.compact.document _).mpr hdenotes
    · intro text htext
      exact (Order.decode_document htext _).mpr (hdenotes.perm hperm.symm)

/-- The words that ask for an order of nothing. -/
def freeOrder : List Word :=
  ["order", "--id=\"\n", "--customer-id=7", "--amount=0"].map Utf8.ofString

theorem freeOrder_output :
    ∃ customer members y,
      (run movedApi freeOrder).output.toList =
        (Value.object [("customer".toList, customer), ("order".toList, .object members)]).pretty ++
          ['\n'] ∧
      members.Perm (Order.new "\"\n" "7" .zero).members ∧
      Order.decode (Utf8.encode (Order.new "\"\n" "7" .zero).json.compact) = .ok y ∧
      ∀ text, Document (.object members) text → Order.decode (Utf8.encode text) = .ok y := by
  have hread : CommandLine.read freeOrder = .ok ⟨{}, .order "\"\n" "7" .zero⟩ := rfl
  have hsettings : ({} : Options).settings movedApi.environment movedApi.files =
      .ok .standard := rfl
  obtain ⟨d, customer, members, -, houtput, -, -, hperm, -, -, hfinite, -⟩ :=
    order_output hread hsettings rfl
  obtain ⟨y, hcompact, hmember⟩ := hfinite rfl
  exact ⟨customer, members, y, houtput, hperm, hcompact, hmember⟩

end Program

end OrderDesk
