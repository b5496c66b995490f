import ApiSamples.CommandLine.Run

namespace ApiSamples

namespace Settings

def NamesPackage (name : String) : Prop := name ≠ "" ∧ ∀ c ∈ name.toList, Text.isBlank c = false

def IsSaid (name : Option String) : Prop := ∀ text, name = some text → ∃ c ∈ text.toList, Text.isBlank c = false

def packageFlaw (name : String) : Flaw :=
  if Text.allBlank name then .emptyPackageName else .blankInPackageName name

variable {s : Settings}

theorem namesPackage_iff {name : String} :
    NamesPackage name ↔ Text.allBlank name = false ∧ name.toList.any Text.isBlank = false := by
  have hempty : name = "" ↔ name.toList = [] := String.toList_eq_nil_iff.symm
  rw [NamesPackage, Ne, hempty, Text.allBlank]
  cases name.toList with
  | nil => simp
  | cons c cs => simp +contextual

theorem isBlankName_eq_false_iff {name : Option String} : isBlankName name = false ↔ IsSaid name := by
  cases name with
  | none => simp [isBlankName, IsSaid]
  | some text => simp [isBlankName, IsSaid, Text.allBlank]

theorem isValid_iff : s.isValid = true ↔
    NamesPackage s.packageName ∧ IsSaid s.clientName ∧ IsSaid s.clientPrefix := by
  rw [isValid, flaw?, namesPackage_iff, ← isBlankName_eq_false_iff, ← isBlankName_eq_false_iff]
  cases Text.allBlank s.packageName <;> cases s.packageName.toList.any Text.isBlank <;>
    cases isBlankName s.clientName <;> cases isBlankName s.clientPrefix <;> simp

theorem check_bind_eq_ok_iff {α : Type} {x : Except RunError α} {a : α} :
    (s.check >>= fun _ => x) = .ok a ↔ s.isValid = true ∧ x = .ok a := by
  rw [check, isValid]
  cases s.flaw? with
  | none => simp [bind, Except.bind]
  | some flaw => simp [bind, Except.bind]

theorem isValid_of_override {o : Options} (h : (s.override o).isValid = true) :
    s.isValid = true ↔ NamesPackage s.packageName := by
  obtain ⟨-, hclient⟩ := isValid_iff.mp h
  rw [isValid_iff]
  exact and_iff_left hclient

theorem check_of_not_namesPackage (h : ¬ NamesPackage s.packageName) :
    s.check = .error (.flawedSettings (packageFlaw s.packageName)) := by
  rw [namesPackage_iff, not_and, Bool.not_eq_false] at h
  rw [check, flaw?, packageFlaw]
  cases hblank : Text.allBlank s.packageName with
  | true => rfl
  | false => rw [h hblank]; rfl

/-- The settings of a file that can be read are checked as they are, and once more with the options. -/
theorem ofOptions_eq {read : Source} {o : Options} {p : FilePath} {text : String} (ho : o.settings = some p)
    (hread : read p = some text) (hs : parse? text = some s) :
    ofOptions read o = (do s.check; (s.override o).check; return s.override o) := by
  simp only [ofOptions, ho, loadFile, hread, load, hs]
  cases s.check <;> rfl

/-- Of the settings of a file and the options, nothing counts but what comes of putting the options in. -/
def FlagsDecide (read : Source) (o : Options) (s : Settings) : Prop :=
  ∀ t, ofOptions read o = .ok t ↔ (s.override o).isValid = true ∧ t = s.override o

/-- A run has the settings of a file with the options put in, if these are valid and the package name of the file
is good for something by itself. If it is not, the run fails by it, also where an option replaces it, and this
is the only way in which settings that an option replaces count. -/
theorem flags_decide_iff {read : Source} {o : Options} {p : FilePath} {text : String}
    (ho : o.settings = some p) (hread : read p = some text) (hs : parse? text = some s) :
    (∀ t, ofOptions read o = .ok t ↔
      NamesPackage s.packageName ∧ (s.override o).isValid = true ∧ t = s.override o) ∧
    (¬ NamesPackage s.packageName →
      ofOptions read o = .error (.flawedSettings (packageFlaw s.packageName))) ∧
    (FlagsDecide read o s ↔ NamesPackage s.packageName ∨ ¬ (s.override o).isValid = true) := by
  have hrun := ofOptions_eq ho hread hs
  have hok : ∀ t, ofOptions read o = .ok t ↔
      NamesPackage s.packageName ∧ (s.override o).isValid = true ∧ t = s.override o := by
    intro t
    have hpure : (pure (s.override o) : Except RunError Settings) = .ok t ↔ t = s.override o := by
      simp [pure, Except.pure, eq_comm]
    rw [hrun, check_bind_eq_ok_iff, check_bind_eq_ok_iff, hpure]
    exact and_congr_left fun hmerged => isValid_of_override hmerged.1
  refine ⟨hok, fun hname => ?_, ?_⟩
  · rw [hrun, check_of_not_namesPackage hname]
    rfl
  · constructor
    · intro h
      by_cases hvalid : (s.override o).isValid = true
      · have hmerged := (h (s.override o)).mpr ⟨hvalid, rfl⟩
        exact .inl ((hok _).mp hmerged).1
      · exact .inr hvalid
    · rintro hdecide t
      rw [hok]
      constructor
      · exact And.right
      · rintro ⟨hvalid, ht⟩
        exact ⟨hdecide.resolve_right (not_not_intro hvalid), hvalid, ht⟩

def acmeText : String := "package_name = \"acme\"\nclient_name = \"Acme\""

def acmeOptions : Options :=
  { settings := some ⟨"s.toml"⟩, packageName := some "@acme/widgets", packageVersion := some "2.3.0" }

theorem flags_decide_acme :
    parse? acmeText = some { packageName := "acme", clientName := some "Acme" } ∧
      ofOptions (fun _ => some acmeText) acmeOptions =
        .ok { packageName := "@acme/widgets", packageVersion := "2.3.0", clientName := some "Acme" } ∧
      FlagsDecide (fun _ => some acmeText) acmeOptions
        { packageName := "acme", clientName := some "Acme" } := by
  have hs : parse? acmeText = some { packageName := "acme", clientName := some "Acme" } := by
    decide +kernel
  have hname : NamesPackage "acme" := namesPackage_iff.mpr (by decide)
  obtain ⟨hok, -, hdecide⟩ :=
    @flags_decide_iff _ (fun _ => some acmeText) acmeOptions ⟨"s.toml"⟩ acmeText rfl rfl hs
  exact ⟨hs, (hok _).mpr ⟨hname, by decide, rfl⟩, hdecide.mpr (.inl hname)⟩

/-- An empty package name in the file ends the run, though an option gives one. -/
theorem not_flagsDecide_empty :
    parse? "package_name = \"\"" = some { packageName := "" } ∧
      (({ packageName := "" } : Settings).override { packageName := some "widgets" }).isValid = true ∧
      ¬ FlagsDecide (fun _ => some "package_name = \"\"")
        { settings := some ⟨"s.toml"⟩, packageName := some "widgets" } { packageName := "" } := by
  have hs : parse? "package_name = \"\"" = some { packageName := "" } := by decide +kernel
  refine ⟨hs, by decide, fun hdecide => ?_⟩
  have hok := (hdecide { packageName := "widgets" }).mpr ⟨by decide, rfl⟩
  rw [ofOptions_eq rfl rfl hs, check_of_not_namesPackage fun hname => hname.1 rfl] at hok
  cases hok

end Settings

end ApiSamples
