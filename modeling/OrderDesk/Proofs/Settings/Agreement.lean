/-
# `Proofs.Settings.Agreement` — checking settings and using them

An address is looked at more often than once.  The checks read it before
anything is done; connecting to the customer API checks the same text
again, reads it once more to keep what it was read as, and each lookup
asks whether a segment can be put behind it.  The second reading and the
last question never fail (`Remote.connect_eq`).

So there are two answers to whether settings are good, that of the checks
and that of the connection, and `directory_agrees` compares them.

| settings                    | checks                  | connection       |
| :--                         | :--                     | :--              |
| remote, address refused     | complain about it       | the same error   |
| else, timeout 0             | complain about it       | a directory      |
| else                        | pass                    | a directory      |

Settings are asked for by name only (`Provider`), so a file as it was read
and the settings in effect can be checked and used alike.
-/
import OrderDesk.Proofs.Remote.Exchanges
import OrderDesk.Settings.Configuration

namespace OrderDesk

/-! ## The agreement -/

namespace Lookup

/-- How a question to a directory may end: with a customer, a failed exchange or a
refusal that names the id; not with an error in the configuration. -/
inductive Ending (id : String) : Except LookupError Customer → Prop
  | customer (c : Customer) : Ending id (.ok c)
  | exchange (failure : ExchangeFailure) : Ending id (.error (.exchange failure))
  | status (code : Nat) : Ending id (.error (.status code id))

end Lookup

namespace Remote

variable {timeout : Option Nat}

/-- A final response is a customer, a failed exchange or a refusal. -/
theorem record_ending (id : String) (r : Response timeout) : Lookup.Ending id (record id r) := by
  by_cases h : 200 ≤ r.status ∧ r.status ≤ 299
  · rcases record_accepted id h with ⟨c, -, hc⟩ | ⟨-, failure, hfailure⟩
    · rw [hc]
      exact .customer c
    · rw [hfailure]
      exact .exchange failure
  · rw [record_refused h]
    exact .status r.status

theorem ask_ending (net : Reaction timeout) (url : Url) (id : String) (made : List Request) :
    Lookup.Ending id (ask net url id made).value := by
  by_cases hreaches : ∃ r, Network.Reaches net made (Network.opening url) r
  · obtain ⟨r, hr⟩ := hreaches
    rw [ask_reached hr]
    exact record_ending id r
  · obtain ⟨failure, -, hfailure⟩ := ask_unreached (not_exists.mp hreaches)
    rw [hfailure]
    exact .exchange failure

theorem connect_eq_error {net : Network} {baseUrl : String} {e : LookupError} :
    connect net baseUrl timeout = .error e ↔
      Validation.address Settings.urlField baseUrl = .error e := by
  rw [connect_eq]
  cases Validation.address Settings.urlField baseUrl with
  | ok base => simp [Except.map]
  | error e' => simp [Except.map]

end Remote

namespace Settings

section Directory

variable {net : Network} {s : Settings}

/-- What the source decides. -/
theorem directory_eq : s.directory net = match s.source with
    | .canned => .ok Lookup.cannedDirectory
    | .remote => Remote.connect net s.baseUrl s.timeout := rfl

theorem directory_canned (h : s.source = .canned) :
    s.directory net = .ok Lookup.cannedDirectory := by
  rw [directory_eq, h]

theorem directory_remote (h : s.source = .remote) :
    s.directory net = Remote.connect net s.baseUrl s.timeout := by
  rw [directory_eq, h]

/-- There is no directory exactly if the address is needed and refused. -/
theorem directory_eq_error {e : LookupError} :
    s.directory net = .error e ↔
      s.source = .remote ∧ Validation.address urlField s.baseUrl = .error e := by
  cases hsource : s.source with
  | canned => simp [directory_canned hsource]
  | remote => simp [directory_remote hsource, Remote.connect_eq_error]

/-- There is one exactly if the address is in order. -/
theorem directory_ok_iff : (∃ d, s.directory net = .ok d) ↔ s.AddressFits := by
  cases hsource : s.source with
  | canned => simp [directory_canned hsource, AddressFits, hsource]
  | remote =>
      have hfits : s.AddressFits ↔ ∃ base, Validation.address urlField s.baseUrl = .ok base := by
        rw [Validation.address_ok_iff]
        simp [AddressFits, hsource]
      rw [directory_remote hsource, hfits]
      constructor
      · rintro ⟨d, hd⟩
        obtain ⟨base, hbase, -⟩ := Remote.connect_eq_ok.mp hd
        exact ⟨base, hbase⟩
      · rintro ⟨base, hbase⟩
        exact ⟨_, Remote.connect_eq_ok.mpr ⟨base, hbase, rfl⟩⟩

/-- A directory is the built-in one or that of the customer API. -/
theorem directory_cases {d : Directory (List Request)} (h : s.directory net = .ok d) :
    d = Lookup.cannedDirectory ∨
      ∃ base, d =
        { ask := fun id => Remote.ask (net s.timeout) (Remote.customerUrl base id) id } := by
  cases hsource : s.source with
  | canned =>
      rw [directory_canned hsource] at h
      exact .inl (Except.ok.inj h).symm
  | remote =>
      rw [directory_remote hsource] at h
      obtain ⟨base, -, hd⟩ := Remote.connect_eq_ok.mp h
      exact .inr ⟨base, hd⟩

/-- Questions to a directory do not end with an error in the configuration. -/
theorem directory_ending {d : Directory (List Request)} (h : s.directory net = .ok d)
    (id : String) (made : List Request) : Lookup.Ending id (d.ask id made).value := by
  rcases directory_cases h with rfl | ⟨base, rfl⟩
  · exact .customer (Lookup.canned id)
  · exact Remote.ask_ending (net s.timeout) (Remote.customerUrl base id) id made

end Directory

/-- The checks and the connection agree.  If the connection is refused, the
checks have refused for the same reason; if the checks pass, there is a
directory; and where there is one the checks complain only about a timeout
of zero.  A remote directory is had by checking the address once and asking
with the timeout that is set.  It makes no difference whether a file or the
settings it stands for are looked at. -/
theorem directory_agrees (net : Network) (s : Settings) :
    (∀ e, s.directory net = .error e ↔
      s.source = .remote ∧ Validation.address urlField s.baseUrl = .error e) ∧
    (∀ e, s.directory net = .error e → s.validate = .error e) ∧
    (s.validate = .ok () → ∃ d, s.directory net = .ok d) ∧
    (∀ d, s.directory net = .ok d →
      (∀ id made, Lookup.Ending id (d.ask id made).value) ∧
      ((∃ e, s.validate = .error e) ↔ s.timeout = some 0)) ∧
    (s.source = .remote → s.directory net = (Validation.address urlField s.baseUrl).map fun base =>
      { ask := fun id => Remote.ask (net s.timeout) (Remote.customerUrl base id) id }) ∧
    ∀ c : Configuration, Provider.validate c = (ofConfiguration c).validate ∧
      Provider.directory net c = (ofConfiguration c).directory net := by
  refine ⟨fun e => directory_eq_error, ?_, ?_, ?_, ?_, ?_⟩
  · intro e he
    obtain ⟨hsource, haddress⟩ := directory_eq_error.mp he
    exact validate_of_unfit hsource haddress
  · intro hvalid
    exact directory_ok_iff.mpr (validate_eq_ok.mp hvalid).1
  · intro d hd
    refine ⟨directory_ending hd, ?_⟩
    have hfits := directory_ok_iff.mp ⟨d, hd⟩
    constructor
    · rintro ⟨e, he⟩
      cases validate_eq_error.mp he with
      | address hsource hreason =>
          rcases hfits with hcanned | hweb
          · cases hsource.symm.trans hcanned
          · exact absurd hweb hreason.not_isWeb
      | timeout _ hzero => exact hzero
    · intro hzero
      exact ⟨_, validate_eq_error.mpr (.timeout hfits hzero)⟩
  · intro hsource
    rw [directory_remote hsource, Remote.connect_eq]
  · intro c
    exact ⟨rfl, rfl⟩

/-- Settings that can be used, and yet do not pass the checks. -/
def hasty : Settings := ⟨"http://[::1]:8080/v1", some 0, .remote⟩

/-- Their timeout is complained about, but their directory answers; an address
that is no address is refused by both. -/
theorem hasty_disagrees :
    (∃ d, hasty.directory Remote.moved = .ok d ∧ (∃ e, hasty.validate = .error e) ∧
      Lookup.Ending "7" (d.ask "7" []).value) ∧
    ∃ e, directory Remote.moved ⟨"", none, .remote⟩ = .error e ∧
      validate ⟨"", none, .remote⟩ = .error e := by
  obtain ⟨-, -, -, hdirectory, -⟩ := directory_agrees Remote.moved hasty
  obtain ⟨hiff, herror, -⟩ := directory_agrees Remote.moved ⟨"", none, .remote⟩
  obtain ⟨hending, htimeout⟩ :=
    hdirectory ((Remote.localClient (some 0)).directory Remote.moved) rfl
  refine ⟨⟨_, rfl, htimeout.mpr rfl, hending "7" []⟩, ?_⟩
  have hrefused := (hiff _).mpr ⟨rfl, rfl⟩
  exact ⟨_, hrefused, herror _ hrefused⟩

end Settings

end OrderDesk
