/-
# `Proofs.Decoding` — reading a record is reading its tree

Customers and orders are read from octets in one pass.  What they are is
said here of the tree alone, with no order of events in it.

| | |
| :-- | :-- |
| `Customer.Denotes v c` | the value `v` stands for the customer `c` |
| `Order.Denotes v o`    | the value `v` stands for the order `o` |
| `decode_iff`           | every document decodes to what its value stands for |

A member counts only if it is the only one of its name, so a record with
a field written twice stands for nothing, even if both members agree.
Members of other names count for nothing, and so does the order.
-/
import OrderDesk.Proofs.Utf8
import OrderDesk.Proofs.Json.Gathering
import OrderDesk.Proofs.Json.Layout

namespace OrderDesk

open Utf8 (Piece ofText)
open Json

/-! ## Documents -/

/-- What a reader takes from a value, `decode` takes from its documents. -/
theorem Json.decode_reads {read : List Piece → Outcome α} {take : Value → α → Prop}
    (h : Reads read take) {v : Value} {text : List Char} (hdoc : Document v text) (a : α) :
    Json.decode read (Utf8.encode text) = .ok a ↔ take v a := by
  obtain ⟨hw, hv, hw'⟩ := hdoc
  rename_i w t w'
  have hstops : Stops w' := by
    have h := stops_blank hw' stops_nil
    rwa [List.append_nil] at h
  have hread := h hv hw hstops
  rw [Json.decode, Utf8.pieces_encode, whole]
  cases hout : read (ofText (w ++ (t ++ w'))) with
  | error e =>
      constructor
      · intro hok
        cases hok
      · intro htake
        cases hout.symm.trans ((hread a _).mpr ⟨htake, rfl⟩)
  | ok p =>
      obtain ⟨b, r⟩ := p
      obtain ⟨htake, rfl⟩ := (hread b r).mp hout
      simp only [skipSpace_all hw']
      constructor
      · intro hok
        cases hok
        exact htake
      · intro ha
        have hok := (hread a _).mpr ⟨ha, rfl⟩
        cases hout.symm.trans hok
        rfl

/-! ## Customers -/

namespace Customer

/-- The value stands for the customer. -/
inductive Denotes : Value → Customer → Prop
  | object {ms : Members} {i : Value} {c : Customer} : Only ms "id" i → IsId i c.id →
      Only ms "name" (.ofString c.name) → Only ms "email" (.ofString c.email) →
      Denotes (.object ms) c
  | array {i : Value} {c : Customer} : IsId i c.id →
      Denotes (.array [i, .ofString c.name, .ofString c.email]) c

/-- Members in another order stand for the same customer. -/
theorem Denotes.perm {ms ms' : Members} {c : Customer} (h : Denotes (.object ms) c)
    (hperm : ms.Perm ms') : Denotes (.object ms') c := by
  cases h with
  | object hi hid hname hemail =>
      exact .object (hi.perm hperm) hid (hname.perm hperm) (hemail.perm hperm)

/-- The slots of the draft of a customer. -/
def slots : List (Slot Draft) :=
  [⟨String, "id", Draft.id, fun x d => { d with id := some x }, ⟨readId, readId_length⟩, IsId⟩,
   ⟨String, "name", Draft.name, fun x d => { d with name := some x }, .text, IsText⟩,
   ⟨String, "email", Draft.email, fun x d => { d with email := some x }, .text, IsText⟩]

end Customer

theorem Customer.format_lawful : Lawful Customer.format Customer.slots where
  fields_eq := rfl
  nodup := by simp [slots]
  blank := by simp [slots, format]
  get_set := by simp [slots]
  frame := by simp [slots]
  ext := by
    rintro ⟨_, _, _⟩ ⟨_, _, _⟩ h
    simpa [slots] using h
  reads := by
    simp only [slots, List.forall_mem_cons]
    exact ⟨readId_reads, placed_reads _ text_reads, placed_reads _ text_reads,
      List.forall_mem_nil _⟩
  unique := by
    simp only [slots, List.forall_mem_cons]
    exact ⟨fun _ _ _ => IsId.unique, fun _ _ _ => IsText.unique, fun _ _ _ => IsText.unique,
      List.forall_mem_nil _⟩

namespace Customer

theorem finish_eq_ok {d : Draft} {c : Customer} :
    d.finish = .ok c ↔ d = ⟨some c.id, some c.name, some c.email⟩ := by
  obtain ⟨id, name, email⟩ := d
  obtain ⟨id', name', email'⟩ := c
  cases id <;> cases name <;> cases email <;>
    simp [Draft.finish, require, Bind.bind, Except.bind, pure, Except.pure]

theorem filled_iff {ms : Members} {c : Customer} :
    Filled slots ms ⟨some c.id, some c.name, some c.email⟩ ↔
      (∃ i, Only ms "id" i ∧ IsId i c.id) ∧ Only ms "name" (.ofString c.name) ∧
        Only ms "email" (.ofString c.email) := by
  simp [Filled, slots, Slot.Filled, IsText]

theorem holds_iff {v : Value} {c : Customer} : Holds format slots v c ↔ Denotes v c := by
  constructor
  · rintro ⟨ms, d, hfields, hfilled, hfinish⟩
    obtain rfl := finish_eq_ok.mp hfinish
    obtain ⟨⟨i, hi, hid⟩, hname, hemail⟩ := filled_iff.mp hfilled
    cases hfields with
    | object => exact .object hi hid hname hemail
    | array hlength =>
        rename_i vs
        obtain ⟨i', name, email, rfl⟩ := List.length_eq_three.mp hlength
        simp only [Only, named, zipNames, slots] at hi hname hemail
        obtain rfl : i' = i := by simpa using hi
        obtain rfl : name = .ofString c.name := by simpa using hname
        obtain rfl : email = .ofString c.email := by simpa using hemail
        exact .array hid
  · intro h
    cases h with
    | object hi hid hname hemail =>
        exact ⟨_, _, .object _, filled_iff.mpr ⟨⟨_, hi, hid⟩, hname, hemail⟩, finish_eq_ok.mpr rfl⟩
    | array hid =>
        exact ⟨_, _, .array rfl, filled_iff.mpr ⟨⟨_, rfl, hid⟩, rfl, rfl⟩, finish_eq_ok.mpr rfl⟩

end Customer

/-! ## Orders -/

namespace Order

/-- The status that the members of an order give it. -/
inductive StatusIn (ms : Members) : Option String → Prop
  | missing : Missing ms "status" → StatusIn ms none
  | null : Only ms "status" .null → StatusIn ms none
  | text {s : String} : Only ms "status" (.ofString s) → StatusIn ms (some s)

/-- The value stands for the order. -/
inductive Denotes : Value → Order → Prop
  | object {ms : Members} {a : Value} {o : Order} : Only ms "id" (.ofString o.id) →
      Only ms "customerId" (.ofString o.customerId) → Only ms "amount" a →
      IsAmount a o.amount → StatusIn ms o.status → Only ms "valid" (.bool o.valid) →
      Denotes (.object ms) o
  | array {a : Value} {o : Order} : IsAmount a o.amount →
      Denotes (.array [.ofString o.id, .ofString o.customerId, a,
        o.status.elim .null .ofString, .bool o.valid]) o

theorem StatusIn.perm {ms ms' : Members} {s : Option String} (h : StatusIn ms s)
    (hperm : ms.Perm ms') : StatusIn ms' s := by
  cases h with
  | missing h => exact .missing (h.perm hperm)
  | null h => exact .null (h.perm hperm)
  | text h => exact .text (h.perm hperm)

/-- Members in another order stand for the same order. -/
theorem Denotes.perm {ms ms' : Members} {o : Order} (h : Denotes (.object ms) o)
    (hperm : ms.Perm ms') : Denotes (.object ms') o := by
  cases h with
  | object hid hcustomer ha hamount hstatus hvalid =>
      exact .object (hid.perm hperm) (hcustomer.perm hperm) (ha.perm hperm) hamount
        (hstatus.perm hperm) (hvalid.perm hperm)

/-- The slots of the draft of an order. -/
def slots : List (Slot Draft) :=
  [⟨String, "id", Draft.id, fun x d => { d with id := some x }, .text, IsText⟩,
   ⟨String, "customerId", Draft.customerId, fun x d => { d with customerId := some x }, .text,
    IsText⟩,
   ⟨Binary64, "amount", Draft.amount, fun x d => { d with amount := some x }, .amount, IsAmount⟩,
   ⟨Option String, "status", Draft.status, fun x d => { d with status := some x }, .optionalText,
    IsOptionalText⟩,
   ⟨Bool, "valid", Draft.valid, fun x d => { d with valid := some x }, .flag, IsFlag⟩]

theorem format_lawful : Lawful format slots where
  fields_eq := rfl
  nodup := by simp [slots]
  blank := by simp [slots, format]
  get_set := by simp [slots]
  frame := by simp [slots]
  ext := by
    rintro ⟨_, _, _, _, _⟩ ⟨_, _, _, _, _⟩ h
    simpa [slots] using h
  reads := by
    simp only [slots, List.forall_mem_cons]
    exact ⟨placed_reads _ text_reads, placed_reads _ text_reads, placed_reads _ amountValue_reads,
      placed_reads _ optionalText_reads, placed_reads _ flag_reads, List.forall_mem_nil _⟩
  unique := by
    simp only [slots, List.forall_mem_cons]
    exact ⟨fun _ _ _ => IsText.unique, fun _ _ _ => IsText.unique, fun _ _ _ => IsAmount.unique,
      fun _ _ _ => IsOptionalText.unique, fun _ _ _ => IsFlag.unique, List.forall_mem_nil _⟩

theorem finish_eq_ok {d : Draft} {o : Order} :
    d.finish = .ok o ↔ d.id = some o.id ∧ d.customerId = some o.customerId ∧
      d.amount = some o.amount ∧ d.status.getD none = o.status ∧ d.valid = some o.valid := by
  obtain ⟨id, customerId, amount, status, valid⟩ := d
  obtain ⟨id', customerId', amount', status', valid'⟩ := o
  cases id <;> cases customerId <;> cases amount <;> cases valid <;>
    simp [Draft.finish, require, Bind.bind, Except.bind, pure, Except.pure]

/-- The slot of the status is empty, or has a text or none. -/
theorem statusIn_iff {ms : Members} {s : Option String} :
    StatusIn ms s ↔ ∃ status : Option (Option String), status.getD none = s ∧
      ((Missing ms "status" ∧ status = none) ∨
        ∃ v x, Only ms "status" v ∧ IsOptionalText v x ∧ status = some x) := by
  constructor
  · intro h
    cases h with
    | missing h => exact ⟨none, rfl, .inl ⟨h, rfl⟩⟩
    | null h => exact ⟨some none, rfl, .inr ⟨_, none, h, rfl, rfl⟩⟩
    | text h => exact ⟨some (some _), rfl, .inr ⟨_, some _, h, rfl, rfl⟩⟩
  · rintro ⟨status, rfl, ⟨hmissing, rfl⟩ | ⟨v, x, honly, rfl, rfl⟩⟩
    · exact .missing hmissing
    · cases x with
      | none => exact .null honly
      | some s => exact .text honly

theorem filled_iff {ms : Members} {o : Order} {status : Option (Option String)} :
    Filled slots ms ⟨some o.id, some o.customerId, some o.amount, status, some o.valid⟩ ↔
      Only ms "id" (.ofString o.id) ∧ Only ms "customerId" (.ofString o.customerId) ∧
        (∃ a, Only ms "amount" a ∧ IsAmount a o.amount) ∧
        ((Missing ms "status" ∧ status = none) ∨
          ∃ v x, Only ms "status" v ∧ IsOptionalText v x ∧ status = some x) ∧
        Only ms "valid" (.bool o.valid) := by
  simp [Filled, slots, Slot.Filled, IsText, IsFlag]

theorem holds_members {ms : Members} {o : Order} :
    (∃ d, Filled slots ms d ∧ d.finish = .ok o) ↔
      Only ms "id" (.ofString o.id) ∧ Only ms "customerId" (.ofString o.customerId) ∧
        (∃ a, Only ms "amount" a ∧ IsAmount a o.amount) ∧ StatusIn ms o.status ∧
        Only ms "valid" (.bool o.valid) := by
  constructor
  · rintro ⟨⟨_, _, _, status, _⟩, hfilled, hfinish⟩
    obtain ⟨rfl, rfl, rfl, hstatus, rfl⟩ := finish_eq_ok.mp hfinish
    obtain ⟨hid, hcustomer, hamount, hslot, hvalid⟩ := filled_iff.mp hfilled
    exact ⟨hid, hcustomer, hamount, statusIn_iff.mpr ⟨status, hstatus, hslot⟩, hvalid⟩
  · rintro ⟨hid, hcustomer, hamount, hstatus, hvalid⟩
    obtain ⟨status, hgetD, hslot⟩ := statusIn_iff.mp hstatus
    exact ⟨⟨some o.id, some o.customerId, some o.amount, status, some o.valid⟩,
      filled_iff.mpr ⟨hid, hcustomer, hamount, hslot, hvalid⟩,
      finish_eq_ok.mpr ⟨rfl, rfl, rfl, hgetD, rfl⟩⟩

theorem statusIn_element {i c a s v : Value} {status : Option String}
    (h : StatusIn (zipNames slots [i, c, a, s, v]) status) :
    s = status.elim .null .ofString := by
  cases h with
  | missing h => simp [Missing, named, zipNames, slots] at h
  | null h => simpa [Only, named, zipNames, slots] using h
  | text h => simpa [Only, named, zipNames, slots] using h

theorem element_statusIn (i c a v : Value) (status : Option String) :
    StatusIn (zipNames slots [i, c, a, status.elim .null .ofString, v]) status := by
  cases status with
  | none => exact .null rfl
  | some s => exact .text rfl

theorem exists_five {vs : List Value} (h : vs.length = slots.length) :
    ∃ i c a s v, vs = [i, c, a, s, v] := by
  obtain ⟨i, vs, rfl⟩ := List.exists_cons_of_length_eq_add_one h
  obtain ⟨c, a, s, v, rfl⟩ := List.length_eq_four.mp (Nat.succ.inj h)
  exact ⟨i, c, a, s, v, rfl⟩

theorem holds_elements {a : Value} {o : Order} (ha : IsAmount a o.amount) :
    ∃ d, Filled slots (zipNames slots [.ofString o.id, .ofString o.customerId, a,
      o.status.elim .null .ofString, .bool o.valid]) d ∧ d.finish = .ok o :=
  holds_members.mpr ⟨rfl, rfl, ⟨_, rfl, ha⟩, element_statusIn .., rfl⟩

theorem holds_iff {v : Value} {o : Order} : Holds format slots v o ↔ Denotes v o := by
  constructor
  · rintro ⟨ms, d, hfields, hfilled, hfinish⟩
    obtain ⟨hid, hcustomer, ⟨a, ha, hamount⟩, hstatus, hvalid⟩ :=
      holds_members.mp ⟨d, hfilled, hfinish⟩
    cases hfields with
    | object => exact .object hid hcustomer ha hamount hstatus hvalid
    | array hlength =>
        obtain ⟨i, c, a', s, v, rfl⟩ := exists_five hlength
        obtain rfl := statusIn_element hstatus
        simp only [Only, named, zipNames, slots] at hid hcustomer ha hvalid
        obtain rfl : i = .ofString o.id := by simpa using hid
        obtain rfl : c = .ofString o.customerId := by simpa using hcustomer
        obtain rfl : a' = a := by simpa using ha
        obtain rfl : v = .bool o.valid := by simpa using hvalid
        exact .array hamount
  · intro h
    cases h with
    | object hid hcustomer ha hamount hstatus hvalid =>
        obtain ⟨d, hfilled, hfinish⟩ :=
          holds_members.mpr ⟨hid, hcustomer, ⟨_, ha, hamount⟩, hstatus, hvalid⟩
        exact ⟨_, d, .object _, hfilled, hfinish⟩
    | array hamount =>
        obtain ⟨d, hfilled, hfinish⟩ := holds_elements hamount
        exact ⟨_, d, .array rfl, hfilled, hfinish⟩

end Order

/-! ## The agreement -/

theorem Customer.decode_document {v : Value} {text : List Char} (h : Document v text)
    (c : Customer) : Customer.decode (Utf8.encode text) = .ok c ↔ Denotes v c :=
  (decode_reads (read_reads format_lawful) h c).trans holds_iff

theorem Order.decode_document {v : Value} {text : List Char} (h : Document v text)
    (o : Order) : Order.decode (Utf8.encode text) = .ok o ↔ Denotes v o :=
  (decode_reads (read_reads format_lawful) h o).trans holds_iff

/-- What decoding gives is what the value of the document stands for, and
a number is left out of account only where the reader calls it out of
range. -/
theorem decode_iff {v : Value} {text : List Char} (h : Document v text) :
    (∀ c, Customer.decode (Utf8.encode text) = .ok c ↔ Customer.Denotes v c) ∧
      (∀ o, Order.decode (Utf8.encode text) = .ok o ↔ Order.Denotes v o) ∧
      ∀ n : Numeral, n.value? = none ↔
        ∃ e, number n.negative (ofText n.magnitude) = .error e ∧ e.cause = .numberOutOfRange := by
  refine ⟨Customer.decode_document h, Order.decode_document h, ?_⟩
  intro n
  have hsettled := number_settled n stops_nil
  rw [List.append_nil] at hsettled
  exact hsettled.none_iff

/-- A customer with blanks, escapes in a name and in a value, a number for
an id, and a member that is passed over. -/
def spelled : List Char :=
  "\x7b\n \"extra\":[1E+2 ] ,\"na\\u006de\": \"Ann\",\"id\":70,\"email\":\"\\/\"\x7d ".toList

/-- The value of `spelled`. -/
def spelledValue : Value :=
  .object [("extra".toList, .array [.number "1E+2".toList]), ("name".toList, .ofString "Ann"),
    ("id".toList, .number "70".toList), ("email".toList, .ofString "/")]

/-- The number `1E+2`. -/
def hundred : Numeral where
  negative := false
  whole := ['1']
  fraction := []
  exponent := some ⟨'E', some '+', ['2'], .inr rfl, by simp, by simp, by simp [Digits]⟩
  whole_ne_nil := by simp
  whole_digits := by simp [Digits]
  no_leading_zero := by simp
  fraction_digits := by simp [Digits]

/-- The number `70`. -/
def seventy : Numeral where
  negative := false
  whole := ['7', '0']
  fraction := []
  exponent := none
  whole_ne_nil := by simp
  whole_digits := by simp [Digits]
  no_leading_zero := by simp
  fraction_digits := by simp [Digits]

theorem spelled_document : Document spelledValue spelled := by
  have hspace : Blank [' '] := by simp [Blank]
  have hbreak : Blank ['\n', ' '] := by simp [Blank]
  have hunit : HexUnit "006d".toList 'm'.toNat :=
    .mk (i := 0) (j := 0) (k := 6) (l := 13) ⟨by decide, .inl rfl⟩ ⟨by decide, .inl rfl⟩
      ⟨by decide, .inl rfl⟩ ⟨by decide, .inl rfl⟩
  have hname : Spelled "name".toList "na\\u006de".toList :=
    (spelled_escape "na".toList).append (.cons (.unit hunit) (spelled_escape ['e']))
  have hslash : SpelledChar '/' ['\\', '/'] := .letter (by simp [letterEscapes])
  have hemail : WrittenMembers false [("email".toList, .ofString "/")]
      ",\"email\":\"\\/\"\x7d".toList :=
    .quoted (gap_comma blank_nil) "email".toList blank_nil (.string (.cons hslash .nil))
      (.close blank_nil)
  have hid : WrittenMembers false
      [("id".toList, .number "70".toList), ("email".toList, .ofString "/")]
      ",\"id\":70,\"email\":\"\\/\"\x7d".toList :=
    .quoted (gap_comma blank_nil) "id".toList blank_nil (.number seventy) hemail
  have hmembers : WrittenMembers false
      [("name".toList, .ofString "Ann"), ("id".toList, .number "70".toList),
        ("email".toList, .ofString "/")]
      " ,\"na\\u006de\": \"Ann\",\"id\":70,\"email\":\"\\/\"\x7d".toList :=
    .more (.later hspace blank_nil) hname blank_nil hspace (written_quote "Ann".toList) hid
  have hextra : Written (.array [.number "1E+2".toList]) "[1E+2 ]".toList :=
    .array (.more (.first blank_nil) (.number hundred) (.close hspace))
  exact .mk blank_nil (.object (.quoted (.first hbreak) "extra".toList blank_nil hextra hmembers))
    hspace

theorem spelled_denotes : Customer.Denotes spelledValue ⟨"70", "Ann", "/"⟩ :=
  .object rfl (.inr ⟨.natural 70, ⟨seventy, rfl, rfl⟩, rfl⟩) rfl rfl

theorem spelled_decodes :
    Document spelledValue spelled ∧
      Customer.decode (Utf8.encode spelled) = .ok ⟨"70", "Ann", "/"⟩ ∧
      ∀ o, Order.decode (Utf8.encode spelled) ≠ .ok o := by
  refine ⟨spelled_document, ((decode_iff spelled_document).1 _).mpr spelled_denotes, ?_⟩
  intro o ho
  cases ((decode_iff spelled_document).2.1 o).mp ho with
  | object _ hcustomer => cases hcustomer

end OrderDesk
