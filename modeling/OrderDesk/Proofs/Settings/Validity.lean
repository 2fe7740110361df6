/-
# `Proofs.Settings.Validity` — which settings can be used

The checks are made one after the other, and the address is looked at only
if the customer API is to be asked.  Here is what they come to, said
without that order: which texts are addresses of the web, what is wrong
with all other texts, and what there is to complain about in settings.

| | |
| :-- | :-- |
| `IsWeb text`          | the text is an address with the scheme `http` or `https` |
| `Unfit text reason`   | it is none, for this reason |
| `Complaint s e`       | this is wrong with the settings `s` |
| `validate_eq_ok`      | settings pass the checks if address and timeout are in order |
| `validate_eq_error`   | otherwise there is one complaint, about the address first |

An address is one of the web by its type or by its scheme, and these are
the same (`Address.web_iff`): reading branches on the scheme and keeps it.
-/
import OrderDesk.Settings

namespace OrderDesk

/-! ## Addresses and their schemes -/

namespace Address

/-- The scheme of an address. -/
def scheme : Address → List Char
  | .web url => url.scheme.name
  | .other url => url.scheme

theorem scheme_readWeb {s : Scheme} {rest : List Char} {url : Url}
    (h : Url.readWeb s rest = .ok url) : url.scheme = s := by
  rw [Url.readWeb] at h
  cases hauthority : Url.readAuthority (some s.port) rest with
  | error e =>
      rw [hauthority] at h
      cases h
  | ok authority =>
      rw [hauthority] at h
      cases h
      rfl

theorem kind_eq_web {name : List Char} {s : Scheme} :
    Url.kind name = .web s ↔ name = s.name := by
  constructor
  · intro h
    rw [Url.kind] at h
    split at h
    · next hname =>
        cases h
        exact hname
    split at h
    · next hname =>
        cases h
        exact hname
    split at h
    · cases h
    split at h
    · cases h
    split at h
    · cases h
    split at h
    · cases h
    · cases h
  · rintro rfl
    cases s with
    | http => rfl
    | https => rfl

theorem kind_eq_file {name : List Char} (h : Url.kind name = .file) : name = "file".toList := by
  rw [Url.kind] at h
  split at h
  · cases h
  split at h
  · cases h
  split at h
  · cases h
  split at h
  · cases h
  split at h
  · cases h
  split at h
  · assumption
  · cases h

/-- An address of another scheme is read as such. -/
theorem eq_other_of_map {x : Except UrlError OtherUrl} {a : Address}
    (h : x.map other = .ok a) : ∃ url, x = .ok url ∧ a = .other url := by
  cases x with
  | error e => cases h
  | ok url =>
      cases h
      exact ⟨url, rfl, rfl⟩

/-- A scheme that the last step of a reading gives is that of what is read. -/
theorem scheme_of_bind {x : Except UrlError α} {f : α → Except UrlError OtherUrl} {url : OtherUrl}
    {name : List Char} (h : x >>= f = .ok url)
    (hf : ∀ a url, f a = .ok url → url.scheme = name) : url.scheme = name := by
  cases x with
  | error e => cases h
  | ok a => exact hf a url h

/-- Reading behind a scheme keeps the scheme, and makes an address of the
web only of those of the web. -/
theorem parseAs_eq_ok {name rest : List Char} {a : Address} (h : parseAs name rest = .ok a) :
    a.scheme = name ∧ ((∃ url, a = .web url) ↔ ∃ s, Url.kind name = .web s) := by
  rw [parseAs] at h
  cases hkind : Url.kind name with
  | web s =>
      simp only [hkind] at h
      cases hread : Url.readWeb s (Url.dropSeparators rest) with
      | error e =>
          rw [hread] at h
          cases h
      | ok url =>
          rw [hread] at h
          cases h
          refine ⟨?_, ⟨fun _ => ⟨s, rfl⟩, fun _ => ⟨url, rfl⟩⟩⟩
          rw [scheme, scheme_readWeb hread, kind_eq_web.mp hkind]
  | hosted usual =>
      simp only [hkind] at h
      obtain ⟨url, hurl, rfl⟩ := eq_other_of_map h
      refine ⟨scheme_of_bind hurl ?_, by simp⟩
      rintro a url ⟨⟩
      rfl
  | file =>
      simp only [hkind] at h
      obtain ⟨url, hurl, rfl⟩ := eq_other_of_map h
      refine ⟨scheme_of_bind hurl ?_, by simp⟩
      rintro a url ⟨⟩
      exact (kind_eq_file hkind).symm
  | foreign =>
      simp only [hkind] at h
      obtain ⟨url, hurl, rfl⟩ := eq_other_of_map h
      refine ⟨scheme_of_bind hurl ?_, by simp⟩
      rintro a url ⟨⟩
      rfl

/-- An address is one of the web exactly by its scheme. -/
theorem web_iff {text : String} {a : Address} (h : parse text = .ok a) :
    (∃ url, a = .web url) ↔ a.scheme = "http".toList ∨ a.scheme = "https".toList := by
  rw [parse] at h
  split at h
  · cases h
  · obtain ⟨hscheme, hweb⟩ := parseAs_eq_ok h
    rw [hweb, hscheme]
    constructor
    · rintro ⟨s, hs⟩
      cases s with
      | http => exact .inl (kind_eq_web.mp hs)
      | https => exact .inr (kind_eq_web.mp hs)
    · rintro (hname | hname)
      · exact ⟨.http, kind_eq_web.mpr hname⟩
      · exact ⟨.https, kind_eq_web.mpr hname⟩

theorem parse_empty : parse "" = .error .relative := rfl

end Address

/-- The text is an address with one of the schemes of the web. -/
def IsWeb (text : String) : Prop :=
  ∃ a, Address.parse text = .ok a ∧ (a.scheme = "http".toList ∨ a.scheme = "https".toList)

/-- The text is no address of the web, and this is why. -/
inductive Unfit : String → String → Prop
  | empty : Unfit "" "URL cannot be empty"
  | scheme {text : String} {a : Address} : Address.parse text = .ok a →
      a.scheme ≠ "http".toList → a.scheme ≠ "https".toList →
      Unfit text ("Unsupported URL scheme: " ++ String.ofList a.scheme)
  | format {text : String} {e : UrlError} : text ≠ "" → Address.parse text = .error e →
      Unfit text ("Invalid URL format: " ++ e.message)

theorem isWeb_iff {text : String} : IsWeb text ↔ ∃ url, Address.parse text = .ok (.web url) := by
  constructor
  · rintro ⟨a, ha, hscheme⟩
    obtain ⟨url, rfl⟩ := (Address.web_iff ha).mpr hscheme
    exact ⟨url, ha⟩
  · rintro ⟨url, hurl⟩
    exact ⟨.web url, hurl, (Address.web_iff hurl).mp ⟨url, rfl⟩⟩

/-- No text is fit and unfit. -/
theorem Unfit.not_isWeb {text reason : String} (h : Unfit text reason) : ¬ IsWeb text := by
  rintro ⟨a, ha, hscheme⟩
  cases h with
  | empty => cases Address.parse_empty.symm.trans ha
  | scheme hparse hhttp hhttps =>
      cases hparse.symm.trans ha
      exact not_or.mpr ⟨hhttp, hhttps⟩ hscheme
  | format _ hparse => cases hparse.symm.trans ha

/-! ## The single checks -/

namespace Validation

section Address

variable {field value : String}

/-- An address passes as what it is read as. -/
theorem address_eq_ok {url : Url} :
    address field value = .ok url ↔ Address.parse value = .ok (.web url) := by
  rw [address]
  split
  · next hempty =>
      subst hempty
      constructor
      · intro h
        cases h
      · intro h
        cases Address.parse_empty.symm.trans h
  · split
    · next url' hparse => simp [hparse]
    · next other hparse => simp [hparse]
    · next e hparse => simp [hparse]

theorem address_ok_iff : (∃ url, address field value = .ok url) ↔ IsWeb value := by
  simp only [address_eq_ok, isWeb_iff]

/-- What is told of an address that does not pass: the field, the value as
it was given, and a reason. -/
theorem address_eq_error {e : LookupError} :
    address field value = .error e ↔
      ∃ reason, Unfit value reason ∧ e = .setting field value reason := by
  constructor
  · intro h
    rw [address] at h
    split at h
    · next hempty =>
        subst hempty
        cases h
        exact ⟨_, .empty, rfl⟩
    · next hne =>
        split at h
        · cases h
        · next other hparse =>
            cases h
            have hforeign : ¬ ∃ url, Address.other other = .web url := by simp
            have hscheme := not_or.mp (mt (Address.web_iff hparse).mpr hforeign)
            exact ⟨_, .scheme hparse hscheme.1 hscheme.2, rfl⟩
        · next e' hparse =>
            cases h
            exact ⟨_, .format hne hparse, rfl⟩
  · rintro ⟨reason, hunfit, rfl⟩
    cases hunfit with
    | empty => rfl
    | @scheme _ a hparse hhttp hhttps =>
        have hne : value ≠ "" := by
          rintro rfl
          cases Address.parse_empty.symm.trans hparse
        cases a with
        | web url =>
            have hweb := (Address.web_iff hparse).mp ⟨url, rfl⟩
            exact absurd hweb (not_or.mpr ⟨hhttp, hhttps⟩)
        | other name =>
            rw [address, if_neg hne]
            simp only [hparse, Address.scheme]
    | format hne hparse =>
        rw [address, if_neg hne]
        simp only [hparse]

end Address

/-- A number passes if it reaches its minimum. -/
theorem number_eq_ok {field : String} {value least : Nat} :
    number field value least = .ok () ↔ least ≤ value := by
  rw [number]
  split
  · next h => simp [Nat.not_le.mpr h]
  · next h => simp [Nat.le_of_not_lt h]

/-- A number below its minimum is told with field and minimum. -/
theorem number_eq_error {field : String} {value least : Nat} {e : LookupError} :
    number field value least = .error e ↔
      value < least ∧
        e = .setting field (String.ofList (Decimal.text value))
          ("Value must be at least " ++ String.ofList (Decimal.text least)) := by
  rw [number]
  split
  · next h => simp [h, eq_comm]
  · next h => simp [h]

end Validation

/-! ## Settings -/

namespace Settings

/-- The address is not needed, or it is one of the web. -/
def AddressFits (s : Settings) : Prop := s.source = .canned ∨ IsWeb s.baseUrl

/-- This is wrong with the settings; the timeout is only complained about if
the address is in order. -/
inductive Complaint (s : Settings) : LookupError → Prop
  | address {reason : String} : s.source = .remote → Unfit s.baseUrl reason →
      Complaint s (.setting "customer_api.base_url" s.baseUrl reason)
  | timeout : s.AddressFits → s.timeout = some 0 →
      Complaint s (.setting "customer_api.timeout_seconds" "0" "Value must be at least 1")

section Validate

variable {s : Settings}

/-- The checks, of the three settings themselves. -/
theorem validate_eq (s : Settings) : s.validate = (do
    if s.source = .remote then
      let _ ← Validation.address urlField s.baseUrl
    match s.timeout with
    | none => pure ()
    | some seconds => Validation.number timeoutField seconds 1) := rfl

/-- If the address is in order, only the timeout is left to check. -/
theorem validate_of_fits (h : s.AddressFits) :
    s.validate = match s.timeout with
      | none => .ok ()
      | some seconds => Validation.number timeoutField seconds 1 := by
  rw [validate_eq]
  rcases h with hcanned | hweb
  · rw [if_neg (by simp [hcanned])]
    rfl
  · obtain ⟨url, hurl⟩ := Validation.address_ok_iff.mpr hweb
    rw [hurl]
    by_cases hsource : s.source = .remote
    · rw [if_pos hsource]
      rfl
    · rw [if_neg hsource]
      rfl

/-- If it is not, nothing else is checked. -/
theorem validate_of_unfit {e : LookupError} (hsource : s.source = .remote)
    (h : Validation.address urlField s.baseUrl = .error e) : s.validate = .error e := by
  rw [validate_eq, if_pos hsource, h]
  rfl

/-- Either the address is in order, or it is needed and refused. -/
theorem fits_or_unfit (s : Settings) :
    s.AddressFits ∨
      s.source = .remote ∧ ∃ e, Validation.address urlField s.baseUrl = .error e := by
  cases hsource : s.source with
  | canned => exact .inl (.inl hsource)
  | remote =>
      cases haddress : Validation.address urlField s.baseUrl with
      | ok url => exact .inl (.inr (Validation.address_ok_iff.mp ⟨url, haddress⟩))
      | error e => exact .inr ⟨rfl, e, rfl⟩

/-- Settings pass the checks exactly if the address is in order and the
timeout, if there is one, is at least a second. -/
theorem validate_eq_ok :
    s.validate = .ok () ↔ s.AddressFits ∧ ∀ seconds, s.timeout = some seconds → 1 ≤ seconds := by
  rcases s.fits_or_unfit with hfits | ⟨hsource, e, he⟩
  · rw [validate_of_fits hfits]
    cases htimeout : s.timeout with
    | none => simp [hfits]
    | some seconds => simp [hfits, Validation.number_eq_ok]
  · rw [validate_of_unfit hsource he]
    constructor
    · intro h
      cases h
    · rintro ⟨hcanned | hweb, -⟩
      · cases hsource.symm.trans hcanned
      · have haddress : ∃ url, Validation.address urlField s.baseUrl = .ok url :=
          Validation.address_ok_iff.mpr hweb
        obtain ⟨url, hurl⟩ := haddress
        cases he.symm.trans hurl

/-- Settings that do not pass are told the one complaint there is. -/
theorem validate_eq_error {e : LookupError} : s.validate = .error e ↔ s.Complaint e := by
  constructor
  · intro h
    rcases s.fits_or_unfit with hfits | ⟨hsource, e', he'⟩
    · rw [validate_of_fits hfits] at h
      cases htimeout : s.timeout with
      | none =>
          rw [htimeout] at h
          cases h
      | some seconds =>
          rw [htimeout] at h
          obtain ⟨hzero, rfl⟩ := Validation.number_eq_error.mp h
          obtain rfl : seconds = 0 := Nat.lt_one_iff.mp hzero
          exact .timeout hfits htimeout
    · cases (validate_of_unfit hsource he').symm.trans h
      obtain ⟨reason, hreason, rfl⟩ := Validation.address_eq_error.mp he'
      exact .address hsource hreason
  · intro h
    cases h with
    | address hsource hreason =>
        exact validate_of_unfit hsource (Validation.address_eq_error.mpr ⟨_, hreason, rfl⟩)
    | timeout hfits hzero =>
        rw [validate_of_fits hfits, hzero]
        exact Validation.number_eq_error.mpr ⟨Nat.one_pos, rfl⟩

end Validate

end Settings

end OrderDesk
