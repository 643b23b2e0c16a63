import SipBench.Config.Load
import SipBench.Fault.Basic
import SipBench.Proofs.Config.Validation

/-!
# How the loading of a configuration ends

A configuration that is loaded is sound.  A failure is reported as one of the configuration unless
the content of the file cannot be read as text or as JSON values, or an environment variable sets a
field of a section that is no table.

* `Override.isReadable`, `IsSection`, `Loadable` : what the loading depends on
* `applyOverrides_reported` : the environment variables
* `load_reported` : the configuration
* `loadable_of_missing` : a missing file never stands in the way
-/

namespace SipBench.Config

/-- The kind of fault with which the loading of a configuration fails. -/
def failureKind? (loader : Loader) (files : Files) (env : Environment) (path : PathName) :
    Option FaultKind :=
  match (load loader files env path).1 with
  | .ok _ => none
  | .error e => some (Fault.configuration e).kind

theorem kind_configuration_iff {e : Error} :
    (Fault.configuration e).kind = .configuration ↔ e.isReported = true := by
  cases e <;> simp [Fault.kind, Fault.configurationKind, Error.isReported]

theorem failureKind?_iff {loader : Loader} {files : Files} {env : Environment} {path : PathName} :
    (∀ kind ∈ failureKind? loader files env path, kind = .configuration) ↔
      ∀ e, (load loader files env path).1 = .error e → e.isReported = true := by
  unfold failureKind?
  cases (load loader files env path).1 <;> simp [kind_configuration_iff]

/-! ### Sections -/

/-- A name that no value or a table stands under, so that a field can be set there. -/
def IsSection (fields : List (String × Value)) (name : String) : Prop :=
  ∀ v, fields.lookup name = some v → ∃ inner, v = .table inner

theorem lookup_cons_eq (key name : String) (value : Value) (fields : List (String × Value)) :
    ((key, value) :: fields).lookup name = if name = key then some value else fields.lookup name := by
  by_cases h : name = key
  · simp [h]
  · rw [List.lookup_cons, beq_false_of_ne h, if_neg h]

theorem lookup_map_set (fields : List (String × Value)) (key name : String) (value : Value) :
    (fields.map fun f => if f.1 == key then (key, value) else f).lookup name =
      if name = key then (fields.lookup key).map fun _ => value else fields.lookup name := by
  induction fields with
  | nil => simp
  | cons f fields ih =>
    obtain ⟨k, v⟩ := f
    by_cases hk : k = key
    · subst hk
      simp only [List.map_cons, beq_self_eq_true, ↓reduceIte, lookup_cons_eq, ih]
      split_ifs <;> rfl
    · have hne : (k == key) = false := beq_false_of_ne hk
      simp only [List.map_cons, hne, Bool.false_eq_true, ↓reduceIte, lookup_cons_eq, ih,
        Ne.symm hk]
      split_ifs with hname hkey
      · exact absurd (hname.symm.trans hkey) hk
      · rfl
      · rfl
      · rfl

theorem lookup_setField (fields : List (String × Value)) (key name : String) (value : Value) :
    (Json.setField fields key value).lookup name =
      if name = key then some value else fields.lookup name := by
  unfold Json.setField
  split_ifs with hthere hname hname
  · obtain ⟨old, hold⟩ := Option.isSome_iff_exists.1 hthere
    rw [lookup_map_set, if_pos hname, hold, Option.map_some]
  · rw [lookup_map_set, if_neg hname]
  · have hnone : fields.lookup key = none := Option.not_isSome_iff_eq_none.1 hthere
    rw [List.lookup_append, hname, hnone, Option.none_or, lookup_cons_eq, if_pos rfl]
  · rw [List.lookup_append, lookup_cons_eq, if_neg hname, List.lookup_nil, Option.or_none]

/-- A field can be set in a section and in nothing else, and setting it makes no section of anything
and nothing else of a section. -/
theorem setInSection_cases (fields : List (String × Value)) (sectionName key : String)
    (value : Value) :
    (¬ IsSection fields sectionName ∧
      ∃ e, setInSection fields sectionName key value = .error e ∧ e.isReported = false) ∨
    (IsSection fields sectionName ∧
      ∃ after, setInSection fields sectionName key value = .ok after ∧
        ∀ name, IsSection after name ↔ IsSection fields name) := by
  have hset (inner : List (String × Value)) (hsection : IsSection fields sectionName)
      (name : String) :
      IsSection (Json.setField fields sectionName (.table inner)) name ↔
        IsSection fields name := by
    by_cases hname : name = sectionName
    · subst hname
      refine iff_of_true (fun v hv => ⟨inner, ?_⟩) hsection
      rw [lookup_setField, if_pos rfl] at hv
      exact (Option.some.inj hv).symm
    · simp only [IsSection, lookup_setField, if_neg hname]
  unfold setInSection
  cases hlookup : fields.lookup sectionName with
  | none =>
    have hsection : IsSection fields sectionName := fun v hv => by
      rw [hlookup] at hv
      cases hv
    exact .inr ⟨hsection, _, rfl, hset _ hsection⟩
  | some found =>
    by_cases htable : ∃ inner, found = .table inner
    · obtain ⟨inner, rfl⟩ := htable
      have hsection : IsSection fields sectionName := fun v hv => by
        rw [hlookup] at hv
        exact ⟨inner, (Option.some.inj hv).symm⟩
      exact .inr ⟨hsection, _, rfl, hset _ hsection⟩
    · refine .inl ⟨fun h => htable (h found hlookup), .sectionNotTable found, ?_, rfl⟩
      cases found with
      | table inner => exact absurd ⟨inner, rfl⟩ htable
      | _ => rfl

/-! ### Environment variables -/

/-- Whether the variable, if it is set and not empty, holds a value for the field. -/
def Override.isReadable (env : Environment) (o : Override) : Bool :=
  match env.get? o.name with
  | none => true
  | some text =>
    match o.read text with
    | .ok _ => true
    | .error _ => false

/-- Whether the variable, if it is set and not empty, has a section to set its field in. -/
def Override.HasSection (env : Environment) (fields : List (String × Value)) (o : Override) :
    Prop :=
  (env.get? o.name).isSome = true → IsSection fields o.sectionName

/-- An override fails if its variable holds no value or has no section, and leaves the sections
where they are. -/
theorem applyOverride_cases (env : Environment) (o : Override) (fields : List (String × Value)) :
    (o.isReadable env = false ∧
      ∃ text e, o.read text = .error e ∧ (applyOverride env o fields).1 = .error e) ∨
    (o.isReadable env = true ∧ ¬ o.HasSection env fields ∧
      ∃ e, (applyOverride env o fields).1 = .error e ∧ e.isReported = false) ∨
    (o.isReadable env = true ∧ o.HasSection env fields ∧
      ∃ after, (applyOverride env o fields).1 = .ok after ∧
        ∀ name, IsSection after name ↔ IsSection fields name) := by
  unfold applyOverride Override.isReadable Override.HasSection
  cases hget : env.get? o.name with
  | none => exact .inr (.inr ⟨rfl, nofun, fields, rfl, fun _ => .rfl⟩)
  | some text =>
    cases hread : o.read text with
    | error e => exact .inl ⟨by simp [hread], text, e, hread, by simp [hread]⟩
    | ok value =>
      right
      obtain ⟨hnot, e, hset, he⟩ | ⟨hsection, after, hset, hafter⟩ :=
        setInSection_cases fields o.sectionName o.key value
      · exact .inl ⟨by simp [hread], fun h => hnot (h rfl), e, by simp [hread, hset], he⟩
      · exact .inr ⟨by simp [hread], fun _ => hsection, after, by simp [hread, hset], hafter⟩

theorem applyOverrides_cons (env : Environment) (o : Override) (os : List Override)
    (fields : List (String × Value)) :
    (applyOverrides env (o :: os) fields).1 =
      match (applyOverride env o fields).1 with
      | .error e => .error e
      | .ok after => (applyOverrides env os after).1 := by
  rw [applyOverrides]
  obtain ⟨result, log⟩ := applyOverride env o fields
  cases result <;> rfl

/-- **The failures of the environment are reported** exactly if every override up to the first one
that holds no value has a section to set its field in. -/
theorem applyOverrides_reported {env : Environment} {os : List Override}
    (hread : ∀ o ∈ os, ∀ text e, o.read text = .error e → e.isReported = true)
    (fields : List (String × Value)) :
    (∀ e, (applyOverrides env os fields).1 = .error e → e.isReported = true) ↔
      ∀ o ∈ os.takeWhile (·.isReadable env), o.HasSection env fields := by
  induction os generalizing fields with
  | nil => simp [applyOverrides]
  | cons o os ih =>
    obtain ⟨ho, hos⟩ := List.forall_mem_cons.1 hread
    rw [applyOverrides_cons, List.takeWhile_cons]
    obtain ⟨hreadable, text, e, htext, hresult⟩ | ⟨hreadable, hsection, e, hresult, he⟩ |
      ⟨hreadable, hsection, after, hresult, hafter⟩ := applyOverride_cases env o fields
    · have hreported := ho text e htext
      simp [hreadable, hresult, hreported]
    · simp [hreadable, hresult, hsection, he]
    · -- the sections are the same before and after
      have hsame (p : Override) : p.HasSection env after ↔ p.HasSection env fields :=
        imp_congr_right fun _ => hafter p.sectionName
      simp only [hreadable, hresult, ih hos after, hsame, ↓reduceIte, List.forall_mem_cons,
        hsection, true_and]

theorem isReported_of_read {o : Override} (ho : o ∈ overrides) {text : String} {e : Error}
    (h : o.read text = .error e) : e.isReported = true := by
  have hseconds {name : String} (hseconds : readSeconds name text = .error e) :
      e.isReported = true := by
    unfold readSeconds at hseconds
    split at hseconds
    · cases hseconds
    · cases hseconds
      rfl
  simp only [overrides, List.mem_cons, List.not_mem_nil, or_false] at ho
  obtain rfl | rfl | rfl | rfl | rfl := ho
  · exact hseconds h
  · exact hseconds h
  · cases h
  · cases h
  · cases h

/-! ### Files -/

/-- Octets that are text, and that are JSON unless they violate its grammar. -/
def IsReadable (nesting : ℕ) (content : List UInt8) : Prop :=
  ∃ cs, Text.Utf8.decode? content = some cs ∧
    ∀ e, Json.read nesting (plainLineEnds cs) = .error e → ∃ r, e = .refused r

theorem parseFile_reported (nesting : ℕ) (path : PathName) (content : List UInt8) :
    (∀ e, parseFile nesting path content = .error e → e.isReported = true) ↔
      IsReadable nesting content := by
  unfold parseFile IsReadable
  cases hdecode : Text.Utf8.decode? content with
  | none => simp [Error.isReported]
  | some cs =>
    cases hread : Json.read nesting (plainLineEnds cs) with
    | ok v => cases v <;> simp [hread, Error.isReported]
    | error e => cases e <;> simp [hread, Error.isReported]

theorem readFile_of_find {nesting : ℕ} {files : Files} {path : PathName} {content : List UInt8}
    (h : files.find path = .ok (.file content)) :
    (readFile nesting files path).1 = parseFile nesting path content := by
  simp only [readFile, Files.exists?, Files.read, h]
  cases parseFile nesting path content <;> rfl

/-- The failure to read a file is reported unless a name is too long or its content cannot be
read. -/
theorem readFile_reported (nesting : ℕ) (files : Files) (path : PathName) :
    (∀ e, (readFile nesting files path).1 = .error e → e.isReported = true) ↔
      files.find path ≠ .error .nameTooLong ∧
        ∀ content, files.find path = .ok (.file content) → IsReadable nesting content := by
  cases hfind : files.find path with
  | error problem => cases problem <;> simp [readFile, Files.exists?, hfind, Error.isReported]
  | ok node =>
    cases node with
    | directory => simp [readFile, Files.exists?, Files.read, hfind, Error.isReported]
    | file content => simp [readFile_of_find hfind, parseFile_reported]

/-! ### The configuration -/

variable {loader : Loader}

theorem load_of_error {files : Files} {path : PathName} {e : Error}
    (h : (readFile loader.nesting files path).1 = .error e) (env : Environment) :
    (load loader files env path).1 = .error e := by
  unfold load
  split <;> simp_all

/-- A configuration is that of the values in the file with those of the environment. -/
theorem load_of_ok {files : Files} {path : PathName} {fields : List (String × Value)}
    (h : (readFile loader.nesting files path).1 = .ok fields) (env : Environment) :
    (load loader files env path).1 =
      (applyOverrides env overrides fields).1.bind (loader.check path) := by
  unfold load
  rcases hread : readFile loader.nesting files path with ⟨result, log⟩
  rw [hread] at h
  obtain rfl : result = .ok fields := h
  rcases hmerged : applyOverrides env overrides fields with ⟨merged, more⟩
  cases merged <;> simp [hmerged, Except.bind]

theorem Loader.check_eq_ok_iff {path : PathName} {fields : List (String × Value)} {c : Config} :
    loader.check path fields = .ok c ↔ Config.check loader.validator fields = .ok c := by
  unfold Loader.check
  cases Config.check loader.validator fields <;> simp

theorem Loader.isReported_of_check {path : PathName} {fields : List (String × Value)} {e : Error}
    (h : loader.check path fields = .error e) : e.isReported = true := by
  unfold Loader.check at h
  split at h
  · cases h
  · cases h
    rfl

/-- What is needed for a configuration to be loaded or for the failure to be reported as one of the
configuration. -/
structure Loadable (loader : Loader) (files : Files) (env : Environment) (path : PathName) :
    Prop where
  /-- No name on the path is too long. -/
  reachable : files.find path ≠ .error .nameTooLong
  /-- The content of the file can be read. -/
  readable : ∀ content, files.find path = .ok (.file content) → IsReadable loader.nesting content
  /-- The variables that are set have their sections, up to the first one that holds no value. -/
  sections : ∀ fields, (readFile loader.nesting files path).1 = .ok fields →
    ∀ o ∈ overrides.takeWhile (·.isReadable env), o.HasSection env fields

/-- Where a file has been read, all depends on the environment. -/
theorem loadable_iff_of_ok {files : Files} {path : PathName} {fields : List (String × Value)}
    (h : (readFile loader.nesting files path).1 = .ok fields) (env : Environment) :
    Loadable loader files env path ↔
      ∀ o ∈ overrides.takeWhile (·.isReadable env), o.HasSection env fields := by
  obtain ⟨hreachable, hreadable⟩ := (readFile_reported loader.nesting files path).1 fun e he => by
    rw [h] at he
    cases he
  refine ⟨fun hload => hload.sections fields h, fun hsections => ⟨hreachable, hreadable, ?_⟩⟩
  intro other hother
  rw [h] at hother
  obtain rfl := Except.ok.inj hother
  exact hsections

theorem isSection_builtIn {o : Override} (ho : o ∈ overrides) : IsSection builtIn o.sectionName := by
  simp only [overrides, List.mem_cons, List.not_mem_nil, or_false] at ho
  obtain rfl | rfl | rfl | rfl | rfl := ho <;> exact fun v hv => ⟨_, (Option.some.inj hv).symm⟩

/-- Without a file every failure is reported, whatever the environment is. -/
theorem loadable_of_missing {files : Files} {path : PathName} (h : files.exists? path = .ok false)
    (env : Environment) : Loadable loader files env path := by
  have hfile : (readFile loader.nesting files path).1 = .ok builtIn := by simp only [readFile, h]
  refine (loadable_iff_of_ok hfile env).2 fun o ho _ => ?_
  exact isSection_builtIn (List.takeWhile_subset _ ho)

/-- Where a file has been read, a failure comes from the environment or from a check, and a failed
check is reported. -/
theorem load_reported_of_ok {files : Files} {path : PathName} {fields : List (String × Value)}
    (h : (readFile loader.nesting files path).1 = .ok fields) (env : Environment) :
    (∀ e, (load loader files env path).1 = .error e → e.isReported = true) ↔
      ∀ o ∈ overrides.takeWhile (·.isReadable env), o.HasSection env fields := by
  rw [load_of_ok h, ← applyOverrides_reported fun o ho text e => isReported_of_read ho]
  cases (applyOverrides env overrides fields).1 with
  | error e => simp [Except.bind]
  | ok merged => simpa [Except.bind] using fun e => Loader.isReported_of_check

/-- A configuration that is loaded comes from a file that was read and an environment that was
merged into it, and has passed its checks. -/
theorem load_eq_ok {files : Files} {env : Environment} {path : PathName} {c : Config}
    (h : (load loader files env path).1 = .ok c) :
    ∃ fields merged, (readFile loader.nesting files path).1 = .ok fields ∧
      (applyOverrides env overrides fields).1 = .ok merged ∧
      check loader.validator merged = .ok c := by
  cases hread : (readFile loader.nesting files path).1 with
  | error e =>
    rw [load_of_error hread] at h
    cases h
  | ok fields =>
    rw [load_of_ok hread] at h
    cases hmerged : (applyOverrides env overrides fields).1 with
    | error e =>
      rw [hmerged] at h
      cases h
    | ok merged =>
      rw [hmerged] at h
      exact ⟨fields, merged, rfl, hmerged, Loader.check_eq_ok_iff.1 h⟩

/-- **How the loading of a configuration ends**: a configuration that is loaded is sound, and every
failure is reported as one of the configuration exactly if the configuration is loadable. -/
theorem load_reported (loader : Loader) (files : Files) (env : Environment) (path : PathName) :
    (∀ c, (load loader files env path).1 = .ok c → c.Sound) ∧
    ((∀ kind ∈ failureKind? loader files env path, kind = .configuration) ↔
      Loadable loader files env path) := by
  rw [failureKind?_iff]
  refine ⟨fun c hc => ?_, ?_⟩
  · obtain ⟨fields, merged, -, -, hcheck⟩ := load_eq_ok hc
    exact check_sound hcheck
  have hfile := readFile_reported loader.nesting files path
  cases hread : (readFile loader.nesting files path).1 with
  | error e =>
    simp only [hread, Except.error.injEq, forall_eq'] at hfile
    simp only [load_of_error hread, Except.error.injEq, forall_eq', hfile]
    refine ⟨fun h => ⟨h.1, h.2, fun fields hfields => ?_⟩, fun h => ⟨h.reachable, h.readable⟩⟩
    rw [hread] at hfields
    cases hfields
  | ok fields =>
    rw [load_reported_of_ok hread, loadable_iff_of_ok hread]

/-- A file that is no text, and one whose polling section is a list in which a variable is to set a
field: neither failure is reported as one of the configuration. -/
theorem load_unreported :
    failureKind? .standard ⟨"", [(["c"], .file [0xff])]⟩ [] (.ofText "c") = some .undecodable ∧
    failureKind? .standard
      ⟨"", [(["c"], .file (Text.Utf8.encode "\x7b\"polling\": []\x7d".toList))]⟩
      [("SIP_TEST_POLL_INTERVAL", "1")] (.ofText "c") = some .wrongType := by
  decide +kernel

end SipBench.Config
