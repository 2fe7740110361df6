/-
# `Proofs.Settings.Layers` — which layer a setting comes from

Each of the three settings comes from the uppermost place that gives it,
whatever the others do (`InEffect`):

| place            | gives a setting if                         |
| :--              | :--                                        |
| the command line | it has the option                          |
| the file         | its document sets it (`SetsUrl`, …)        |
| neither          | there is a standard one                    |

The file is read even if nothing of it is needed, so it can stop a run
whose settings all stand on the command line.  What is checked are the
settings in effect and nothing else (`Settings.Complaint`): a value that
another one replaces is never looked at.
-/
import OrderDesk.CommandLine
import OrderDesk.Proofs.Settings.Contents
import OrderDesk.Proofs.Settings.Validity

namespace OrderDesk

open Settings

/-- A setting comes from the command line, else from the document, else it is
the standard one. -/
inductive InEffect (flag : Option α) (sets : α → Prop) (standard : Option α) : Option α → Prop
  | flag {a : α} : flag = some a → InEffect flag sets standard (some a)
  | file {a : α} : flag = none → sets a → InEffect flag sets standard (some a)
  | standard : flag = none → (∀ a, ¬ sets a) → InEffect flag sets standard standard

/-- The setting in effect is the first one that there is. -/
theorem inEffect_iff {flag file standard b : Option α} {sets : α → Prop}
    (hfile : ∀ a, file = some a ↔ sets a) :
    InEffect flag sets standard b ↔ b = flag.or (file.or standard) := by
  constructor
  · intro h
    cases h with
    | flag hflag =>
        rw [hflag]
        rfl
    | file hflag ha =>
        rw [hflag, (hfile _).mpr ha]
        rfl
    | standard hflag hnone =>
        have hfile : file = none := by
          refine Option.eq_none_iff_forall_ne_some.mpr ?_
          intro a ha
          exact hnone a ((hfile a).mp ha)
        rw [hflag, hfile]
        rfl
  · rintro rfl
    cases hflag : flag with
    | some a => exact .flag rfl
    | none =>
        cases file with
        | some a => exact .file rfl ((hfile a).mp rfl)
        | none =>
            refine .standard rfl ?_
            intro a ha
            cases (hfile a).mpr ha

/-- What the file gives matters only without a flag. -/
theorem InEffect.congr {flag standard b : Option α} {sets sets' : α → Prop}
    (h : InEffect flag sets standard b) (hsame : flag = none → ∀ a, sets a ↔ sets' a) :
    InEffect flag sets' standard b := by
  cases h with
  | flag hflag => exact .flag hflag
  | file hflag ha => exact .file hflag ((hsame hflag _).mp ha)
  | standard hflag hnone =>
      refine .standard hflag ?_
      intro a ha
      exact hnone a ((hsame hflag a).mpr ha)

/-- Each setting by itself is the one in effect. -/
structure Settings.Effective (flags : Layer) (doc : Toml.Members) (x : Settings) : Prop where
  baseUrl : InEffect flags.baseUrl (SetsUrl doc)
    (some "https://jsonplaceholder.typicode.com") (some x.baseUrl)
  timeout : InEffect flags.timeout (SetsTimeout doc) none x.timeout
  source : InEffect flags.source (SetsSource doc) (some .canned) (some x.source)

/-- The documents set the same, apart from what the command line replaces. -/
structure SameBelow (flags : Layer) (doc doc' : Toml.Members) : Prop where
  baseUrl : flags.baseUrl = none → ∀ url, SetsUrl doc url ↔ SetsUrl doc' url
  timeout : flags.timeout = none → ∀ seconds, SetsTimeout doc seconds ↔ SetsTimeout doc' seconds
  source : flags.source = none → ∀ s, SetsSource doc s ↔ SetsSource doc' s

/-- The document below the options is the one in their file, and an empty one
if they name no file. -/
def Options.Reads (env : Environment) (files : Word → Except FileError (List UInt8)) (o : Options)
    (doc : Toml.Members) : Prop :=
  match o.config with
  | none => doc = []
  | some path => Contains env (files path) doc

namespace Settings

/-! ## Layers over the standard settings -/

/-- The settings in effect do not depend on what is replaced. -/
theorem Effective.congr {flags : Layer} {doc doc' : Toml.Members} {x : Settings}
    (h : x.Effective flags doc) (hsame : SameBelow flags doc doc') : x.Effective flags doc' :=
  ⟨h.baseUrl.congr hsame.baseUrl, h.timeout.congr hsame.timeout, h.source.congr hsame.source⟩

theorem describes_nil : Describes [] {} := describes_of_read Toml.Members.tidy_nil rfl

/-- Two layers over the standard settings come to the settings in effect. -/
theorem effective_iff {flags l : Layer} {doc : Toml.Members} {x : Settings}
    (h : Describes doc l) : x.Effective flags doc ↔ x = (standard.under l).under flags := by
  have hurl : some ((standard.under l).under flags).baseUrl =
      flags.baseUrl.or (l.baseUrl.or (some standardUrl)) := by
    rw [Option.or_some, Option.or_some]
    rfl
  have htimeout : ((standard.under l).under flags).timeout =
      flags.timeout.or (l.timeout.or none) := by
    simp only [under, Option.orElse_eq_orElse, Option.orElse_eq_or]
    rfl
  have hsource : some ((standard.under l).under flags).source =
      flags.source.or (l.source.or (some .canned)) := by
    rw [Option.or_some, Option.or_some]
    rfl
  constructor
  · rintro ⟨hxurl, hxtimeout, hxsource⟩
    have hxurl := ((inEffect_iff h.baseUrl).mp hxurl).trans hurl.symm
    have hxtimeout := ((inEffect_iff h.timeout).mp hxtimeout).trans htimeout.symm
    have hxsource := ((inEffect_iff h.source).mp hxsource).trans hsource.symm
    cases x
    cases hxurl
    cases hxtimeout
    cases hxsource
    rfl
  · rintro rfl
    exact ⟨(inEffect_iff h.baseUrl).mpr hurl, (inEffect_iff h.timeout).mpr htimeout,
      (inEffect_iff h.source).mpr hsource⟩

/-- One layer over another counts as one. -/
theorem under_under (s : Settings) (a b : Layer) : (s.under a).under b = s.under (b.over a) := by
  simp only [under, Layer.over, Option.orElse_eq_orElse, Option.orElse_eq_or, Option.getD_or,
    Option.or_assoc]

end Settings

/-! ## The settings of a command line -/

namespace Options

variable {env : Environment} {files : Word → Except FileError (List UInt8)} {o : Options}

theorem settings_of_none (hpath : o.config = none) :
    o.settings env files = .ok (standard.under o.layer) := by
  rw [settings, configuration, hpath]
  rfl

theorem settings_of_file {path : Word} (hpath : o.config = some path) :
    o.settings env files =
      (Layer.ofFile env (files path)).map fun l => (standard.under l).under o.layer := by
  rw [settings, configuration, hpath]
  simp only [Configuration.ofFile]
  cases Layer.ofFile env (files path) with
  | error e => rfl
  | ok l =>
      show Except.ok ((ofConfiguration (.ofLayer l)).under o.layer) = _
      rw [ofConfiguration_ofLayer]
      rfl

/-- Only a file can keep a command line from its settings. -/
theorem settings_eq_error {e : LookupError} :
    o.settings env files = .error e ↔
      ∃ path, o.config = some path ∧ Unreadable env (files path) e := by
  cases hpath : o.config with
  | none => simp [settings_of_none hpath]
  | some path =>
      rw [settings_of_file hpath]
      simp only [Option.some_inj, exists_eq_left', ← Layer.ofFile_eq_error]
      cases hfile : Layer.ofFile env (files path) with
      | error e' => simp [Except.map]
      | ok l => simp [Except.map]

/-- With a document below them, the options have settings. -/
theorem settings_of_reads {doc : Toml.Members} (h : o.Reads env files doc) :
    ∃ l, Describes doc l ∧ o.settings env files = .ok ((standard.under l).under o.layer) := by
  cases hpath : o.config with
  | none =>
      simp only [Reads, hpath] at h
      subst h
      exact ⟨{}, describes_nil, settings_of_none hpath⟩
  | some path =>
      simp only [Reads, hpath] at h
      obtain ⟨l, hl⟩ := describes_of_contains h
      refine ⟨l, hl, ?_⟩
      rw [settings_of_file hpath, Layer.ofFile_eq_ok.mpr ⟨doc, h, hl⟩]
      rfl

/-- Otherwise they are the settings in effect. -/
theorem settings_eq_ok {x : Settings} :
    o.settings env files = .ok x ↔ ∃ doc, o.Reads env files doc ∧ x.Effective o.layer doc := by
  constructor
  · intro h
    cases hpath : o.config with
    | none =>
        refine ⟨[], by simp only [Reads, hpath], ?_⟩
        rw [settings_of_none hpath] at h
        cases h
        exact (effective_iff describes_nil).mpr rfl
    | some path =>
        rw [settings_of_file hpath] at h
        cases hfile : Layer.ofFile env (files path) with
        | error e =>
            rw [hfile] at h
            cases h
        | ok l =>
            rw [hfile] at h
            cases h
            obtain ⟨doc, hdoc, hl⟩ := Layer.ofFile_eq_ok.mp hfile
            refine ⟨doc, ?_, (effective_iff hl).mpr rfl⟩
            simpa only [Reads, hpath] using hdoc
  · rintro ⟨doc, hdoc, hx⟩
    obtain ⟨l, hl, hsettings⟩ := settings_of_reads hdoc
    rw [hsettings, (effective_iff hl).mp hx]

/-- What the command line replaces makes no difference. -/
theorem settings_congr {env' : Environment} {files' : Word → Except FileError (List UInt8)}
    {doc doc' : Toml.Members} (hdoc : o.Reads env files doc) (hdoc' : o.Reads env' files' doc')
    (hsame : SameBelow o.layer doc doc') : o.settings env files = o.settings env' files' := by
  obtain ⟨l, hl, hsettings⟩ := settings_of_reads hdoc
  obtain ⟨l', hl', hsettings'⟩ := settings_of_reads hdoc'
  have heffective := ((effective_iff hl).mpr rfl).congr hsame
  rw [hsettings, hsettings', (effective_iff hl').mp heffective]

/-- The settings of a command line: they cannot be had only if the file that
it names cannot be read, and else each of them comes from the uppermost
place that gives it.  Layers can be put together beforehand, what an upper
one replaces makes no difference, and the checks are about what is in
effect, the address before the timeout. -/
theorem settings_layered (env : Environment) (files : Word → Except FileError (List UInt8))
    (o : Options) :
    (∀ e, o.settings env files = .error e ↔
      ∃ path, o.config = some path ∧ Unreadable env (files path) e) ∧
    (∀ x, o.settings env files = .ok x ↔
      ∃ doc, o.Reads env files doc ∧ x.Effective o.layer doc) ∧
    (∀ (s : Settings) (a b : Layer), (s.under a).under b = s.under (b.over a)) ∧
    (∀ env' files' doc doc', o.Reads env files doc → o.Reads env' files' doc' →
      SameBelow o.layer doc doc' → o.settings env files = o.settings env' files') ∧
    ∀ x : Settings,
      (x.validate = .ok () ↔
        (x.source = .canned ∨ IsWeb x.baseUrl) ∧
          ∀ seconds, x.timeout = some seconds → 1 ≤ seconds) ∧
      ∀ e, x.validate = .error e ↔ x.Complaint e := by
  refine ⟨fun e => settings_eq_error, fun x => settings_eq_ok, under_under, ?_, ?_⟩
  · intro env' files' doc doc' hdoc hdoc' hsame
    exact settings_congr hdoc hdoc' hsame
  · intro x
    exact ⟨validate_eq_ok, fun e => validate_eq_error⟩

/-- A timeout in effect that the command line does not give is the one that the
document sets. -/
theorem setsTimeout_iff {x : Settings} {doc : Toml.Members} (hdoc : o.Reads env files doc)
    (hx : o.settings env files = .ok x) (hflag : o.layer.timeout = none) (seconds : Nat) :
    SetsTimeout doc seconds ↔ x.timeout = some seconds := by
  obtain ⟨l, hl, hsettings⟩ := settings_of_reads hdoc
  obtain rfl := Except.ok.inj (hsettings.symm.trans hx)
  have htimeout : ((standard.under l).under o.layer).timeout = l.timeout := by
    simp only [under, hflag]
    cases l.timeout with
    | none => rfl
    | some seconds => rfl
  rw [htimeout, hl.timeout]

/-- A file `customer_api=["${H}",5]`, of which only the timeout can be used. -/
def halfBadFile : List UInt8 :=
  [99, 117, 115, 116, 111, 109, 101, 114, 95, 97, 112, 105, 61, 91, 34, 36, 123, 72, 125, 34, 44,
    53, 93]

/-- Options that replace everything but the timeout. -/
def replacing : Options :=
  { config := some [], layer := ⟨some "http://[::1]:8080/v1", none, some .remote⟩ }

/-- What is wrong with the address in the file is not told, while the timeout
that the document sets is in effect; that there is no file is told. -/
theorem replacing_settings :
    (∃ x doc, replacing.settings (fun _ => some "ftp://old") (fun _ => .ok halfBadFile) = .ok x ∧
      replacing.settings (fun _ => none) (fun _ => .ok halfBadFile) = .ok x ∧
      replacing.Reads (fun _ => none) (fun _ => .ok halfBadFile) doc ∧
      SetsTimeout doc 5 ∧ x.timeout = some 5 ∧ x.validate = .ok ()) ∧
    replacing.settings (fun _ => none) (fun _ => .error .missing) = .error (.file .missing) := by
  obtain ⟨-, hok, -, hcongr, hvalidate⟩ :=
    settings_layered (fun _ => some "ftp://old") (fun _ => .ok halfBadFile) replacing
  obtain ⟨-, hok', -⟩ := settings_layered (fun _ => none) (fun _ => .ok halfBadFile) replacing
  obtain ⟨herror, -⟩ := settings_layered (fun _ => none) (fun _ => .error .missing) replacing
  have hread : replacing.settings (fun _ => some "ftp://old") (fun _ => .ok halfBadFile) =
      .ok ⟨"http://[::1]:8080/v1", some 5, .remote⟩ := by decide +kernel
  have hread' : replacing.settings (fun _ => none) (fun _ => .ok halfBadFile) =
      .ok ⟨"http://[::1]:8080/v1", some 5, .remote⟩ := by decide +kernel
  obtain ⟨doc, hdoc, -⟩ := (hok _).mp hread
  obtain ⟨doc', hdoc', -⟩ := (hok' _).mp hread'
  have hsame : SameBelow replacing.layer doc doc' := by
    constructor
    · rintro ⟨⟩
    · intro hflag seconds
      rw [setsTimeout_iff hdoc hread hflag, setsTimeout_iff hdoc' hread' hflag]
    · rintro ⟨⟩
  have hweb : IsWeb "http://[::1]:8080/v1" := isWeb_iff.mpr ⟨_, rfl⟩
  refine ⟨⟨_, doc', hread, (hcongr _ _ doc doc' hdoc hdoc' hsame).symm.trans hread, hdoc',
    (setsTimeout_iff hdoc' hread' rfl 5).mpr rfl, rfl, ?_⟩, ?_⟩
  · refine (hvalidate _).1.mpr ⟨.inr hweb, ?_⟩
    rintro seconds ⟨⟩
    decide
  · exact (herror _).mpr ⟨[], rfl, .missing .missing⟩

end Options

end OrderDesk
