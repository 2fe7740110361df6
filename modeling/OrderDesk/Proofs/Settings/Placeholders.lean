/-
# `Proofs.Settings.Placeholders` — a variable as the value of a setting

A file is filled in before it is read at all.  What a variable holds is then
part of the text, and could say anything there; between quotation marks it
is a text and no more, if it has no quotation mark, no backslash and no
control character (`placeholder_delivers`).

| | |
| :-- | :-- |
| `Configuration.ofText env text` | a file with the standard values where it is silent |
| `fill_entry`                    | filling in goes no further than the marks |
-/
import OrderDesk.Settings.Configuration
import OrderDesk.Proofs.Template.Division
import OrderDesk.Proofs.Toml.Lines

namespace OrderDesk

namespace Settings

open Template (fill marker Division Divides Part)
open Toml (Bare Verbatim bind_eq_ok entry quoted)

/-- An entry up to the first quotation mark. -/
def entryFront (table key : List Char) : List Char :=
  '[' :: (table ++ [']', '\n']) ++ (key ++ [' ', '=', ' ', '"'])

theorem entry_eq (table key s : List Char) :
    entry table key s = entryFront table key ++ (s ++ ['"', '\n']) := by
  simp [entry, entryFront, quoted]

theorem dollar_not_mem_entryFront {table key : List Char} (htable : Bare table) (hkey : Bare key) :
    '$' ∉ entryFront table key := by
  have hbare : ∀ {name}, Bare name → '$' ∉ name := by
    intro name h hmem
    cases h.all '$' hmem
  simp [entryFront, hbare htable, hbare hkey]

/-- A placeholder between the marks of an entry is filled in there, and
nothing else is. -/
theorem fill_entry {table key name : List Char} (htable : Bare table) (hkey : Bare key)
    (hne : name ≠ []) (hfree : '\x7d' ∉ name) (env : Environment) :
    fill env (entry table key (marker name)) =
      entry table key ((Part.placeholder name).fill env) := by
  have hdivides : Divides (entry table key (marker name))
      ⟨[(entryFront table key, name)], ['"', '\n']⟩ := by
    rw [entry_eq]
    exact .mark (Template.silent_of_not_mem (dollar_not_mem_entryFront htable hkey) _) hne hfree
      (.last (Template.silent_of_not_mem (by decide) []))
  rw [hdivides.fill_eq env, entry_eq]
  simp [Division.write]

/-- A document that gives the address of the customer API by the name of a
variable. -/
def addressDocument (name : String) : String :=
  "[customer_api]\nbase_url = \"$\x7b" ++ name ++ "\x7d\"\n"

theorem toList_addressDocument (name : String) :
    (addressDocument name).toList =
      entry "customer_api".toList "base_url".toList (marker name.toList) := by
  have hfront : "[customer_api]\nbase_url = \"$\x7b".toList =
      entryFront "customer_api".toList "base_url".toList ++ ['$', '\x7b'] := rfl
  have hback : "\x7d\"\n".toList = ['\x7d'] ++ ['"', '\n'] := rfl
  unfold addressDocument
  rw [String.toList_append, String.toList_append, hfront, hback, entry_eq]
  simp [marker]

/-- The names that mean something in a file. -/
def fileNames : List String := ["customer_api", "base_url", "timeout_seconds", "lookup", "source"]

/-- They need no quotation marks. -/
theorem bare_of_mem (name : String) (h : name ∈ fileNames) : Bare name.toList := by
  have hall : (fileNames.all fun name =>
      !name.toList.isEmpty && name.toList.all Toml.isBareKey) = true := by decide
  obtain ⟨hne, hbare⟩ := Bool.and_eq_true_iff.mp (List.all_eq_true.mp hall name h)
  exact ⟨by simpa using hne, List.all_eq_true.mp hbare⟩

/-- An entry with an address gives the address and nothing else. -/
theorem ofToml_address {s : List Char} (h : Verbatim s) :
    Layer.ofToml (entry "customer_api".toList "base_url".toList s) =
      .ok { baseUrl := some (String.ofList s) } := by
  obtain ⟨here, inside, there, place, hdocument⟩ :=
    Toml.document_entry (bare_of_mem "customer_api" (by decide))
      (bare_of_mem "base_url" (by decide)) h
  rw [Layer.ofToml, hdocument, String.ofList_toList, String.ofList_toList]
  rfl

theorem ofText_address (env : Environment) {name : String} (hne : name ≠ "")
    (hfree : '\x7d' ∉ name.toList)
    (h : Verbatim ((Part.placeholder name.toList).fill env)) :
    Configuration.ofText env (addressDocument name) =
      .ok { api := { baseUrl := String.ofList ((Part.placeholder name.toList).fill env) } } := by
  have hnonempty : name.toList ≠ [] := by
    intro hnil
    exact hne (String.toList_eq_nil_iff.mp hnil)
  have hfilled : Layer.ofText env (addressDocument name) = .ok
      { baseUrl := some (String.ofList ((Part.placeholder name.toList).fill env)) } := by
    rw [Layer.ofText, toList_addressDocument, fill_entry (bare_of_mem _ (by decide))
      (bare_of_mem _ (by decide)) hnonempty hfree, ofToml_address h]
  exact bind_eq_ok.mpr ⟨_, hfilled, rfl⟩

/-- A name stands between marks as it is if what it is made of does. -/
theorem verbatim_marker {name : List Char} (h : Verbatim name) : Verbatim (marker name) := by
  refine List.forall_mem_cons.mpr ⟨by decide, List.forall_mem_cons.mpr ⟨by decide, ?_⟩⟩
  refine List.forall_mem_append.mpr ⟨h, ?_⟩
  exact List.forall_mem_singleton.mpr (by decide)

/-- A placeholder between quotation marks gives the setting the value of its
variable, whatever the value looks like, and its own text if there is no such
variable; it gives no other setting. -/
theorem placeholder_delivers (env : Environment) (name : String) (hne : name ≠ "")
    (hfree : '\x7d' ∉ name.toList) (hname : Verbatim name.toList) :
    (∀ value, env name = some value → Verbatim value.toList →
      Configuration.ofText env (addressDocument name) =
        .ok { api := { baseUrl := value, timeout := none }, lookup := { source := .canned } }) ∧
    (env name = none →
      Configuration.ofText env (addressDocument name) =
        .ok { api := { baseUrl := "$\x7b" ++ name ++ "\x7d", timeout := none },
              lookup := { source := .canned } }) := by
  constructor
  · intro value hvalue hplain
    have hfill : (Part.placeholder name.toList).fill env = value.toList := by
      rw [Part.fill, String.ofList_toList, hvalue]
    rw [ofText_address env hne hfree (hfill ▸ hplain), hfill, String.ofList_toList]
  · intro hunset
    have hfill : (Part.placeholder name.toList).fill env = marker name.toList := by
      rw [Part.fill, String.ofList_toList, hunset]
      rfl
    have htext : String.ofList (marker name.toList) = "$\x7b" ++ name ++ "\x7d" := by
      apply String.toList_inj.mp
      simp [marker]
    rw [ofText_address env hne hfree (hfill ▸ verbatim_marker hname), hfill, htext]

/-- One variable names another, one is empty, and all others are unset. -/
def forwarding : Environment := fun name =>
  if name = "API" then some "$\x7bHOST\x7d/über" else if name = "HOST" then some "" else none

/-- What looks like a placeholder is a text, nothing is a text, and a name
may be almost anything. -/
theorem forwarding_delivers :
    Configuration.ofText forwarding (addressDocument "API") =
        .ok { api := { baseUrl := "$\x7bHOST\x7d/über" } } ∧
      Configuration.ofText forwarding (addressDocument "HOST") = .ok { api := { baseUrl := "" } } ∧
      Configuration.ofText forwarding (addressDocument "$\x7b = #") =
        .ok { api := { baseUrl := "$\x7b$\x7b = #\x7d" } } := by
  refine ⟨?_, ?_, ?_⟩
  · exact (placeholder_delivers forwarding "API" (by decide) (by decide) (by decide)).1 _ rfl
      (by decide)
  · exact (placeholder_delivers forwarding "HOST" (by decide) (by decide) (by decide)).1 _ rfl
      (by decide)
  · exact (placeholder_delivers forwarding "$\x7b = #" (by decide) (by decide) (by decide)).2 rfl

end Settings

end OrderDesk
