import ApiSamples.Proofs.Model.Defects
import ApiSamples.Proofs.Output.Retention

namespace ApiSamples

def RunError.isRefusal : RunError → Bool
  | .flawedSettings _ | .wrongFamily _ _ | .unresolvedType _ _ | .duplicateProperty _ _
  | .duplicatePath _ _ _ => true
  | .unreadableModel _ | .badModel _ | .unreadableSettings _ | .badSettings | .unwritable _ => false

namespace Settings

theorem isRefusal_of_check {s : Settings} {e : RunError} (h : s.check = .error e) : e.isRefusal = true := by
  unfold check at h
  split at h
  · next flaw _ =>
    obtain rfl := Except.error.inj h
    rfl
  · cases h

end Settings

namespace CodeModel

variable {m : CodeModel} {e : RunError}

theorem isRefusal_of_mem_typeDefects {owner : String} {type : TypeExpr}
    (h : e ∈ m.typeDefects owner type) : e.isRefusal = true := by
  obtain ⟨r, -, rfl⟩ := List.mem_map.mp h
  rfl

theorem isRefusal_of_mem_findings {α : Type} {look : List α → α → List RunError} {before xs : List α}
    (hlook : ∀ before x, ∀ e ∈ look before x, e.isRefusal = true) (h : e ∈ findings look before xs) :
    e.isRefusal = true := by
  induction xs generalizing before with
  | nil => cases h
  | cons x xs ih =>
    rcases List.mem_append.mp h with h | h
    · exact hlook before x e h
    · exact ih h

theorem isRefusal_of_mem_propertyDefects {c : Composite} {before : List Field} {p : Field}
    (h : e ∈ m.propertyDefects c before p) : e.isRefusal = true := by
  rcases List.mem_append.mp h with h | h
  · split at h
    · rw [List.mem_singleton.mp h]
      rfl
    · cases h
  · exact isRefusal_of_mem_typeDefects h

theorem isRefusal_of_mem_operationDefects {before : List (Group × Operation)} {entry : Group × Operation}
    (h : e ∈ m.operationDefects before entry) : e.isRefusal = true := by
  rcases List.mem_append.mp h with h | h
  · rw [pathDefects, Option.mem_toList] at h
    obtain ⟨first, -, rfl⟩ := Option.map_eq_some_iff.mp h
    rfl
  · obtain ⟨p, -, hp⟩ := List.mem_flatMap.mp h
    exact isRefusal_of_mem_typeDefects hp

theorem isRefusal_of_validate (h : m.validate.value = .error e) : e.isRefusal = true := by
  rw [validate_eq, failFirst_eq_error_iff] at h
  have hmem := List.mem_of_mem_head? h
  rcases List.mem_append.mp hmem with hmem | hoperations
  · rcases List.mem_append.mp hmem with hfamily | hcomposites
    · unfold familyDefects at hfamily
      split at hfamily
      · cases hfamily
      · rw [List.mem_singleton.mp hfamily]
        rfl
    · obtain ⟨c, -, hc⟩ := List.mem_flatMap.mp hcomposites
      exact isRefusal_of_mem_findings (fun _ _ _ => isRefusal_of_mem_propertyDefects) hc
  · exact isRefusal_of_mem_findings (fun _ _ _ => isRefusal_of_mem_operationDefects) hoperations

theorem isRefusal_of_validated {α : Type} {next : Noted α} (h : (m.validated next).value = .error e) :
    e.isRefusal = true := by
  rw [validated, Noted.value_bind] at h
  cases hm : m.validate.value with
  | error refusal =>
    rw [hm] at h
    obtain rfl := Except.error.inj h
    exact isRefusal_of_validate hm
  | ok =>
    rw [hm] at h
    cases h

end CodeModel

section

variable {α : Type}

/-- Outputs that are printed, or written up to the first failure, and the answer that goes with them. -/
def World.putOut (w : World) (d : Destination) (outputs : List (FilePath × String)) (answer : α) :
    World × Except RunError α :=
  if d.dryRun then ({ w with printed := w.printed ++ outputs }, .ok answer)
  else match w.files.replaceAll (d.targets outputs) with
    | (files, none) => ({ w with files }, .ok answer)
    | (files, some failed) => ({ w with files }, .error (.unwritable failed))

theorem World.putOut_nil (w : World) (d : Destination) (answer : α) :
    w.putOut d [] answer = (w, .ok answer) := by
  unfold putOut
  split
  · simp
  · rfl

theorem World.putOut_cons (w : World) (d : Destination) (p : FilePath) (content : String)
    (outputs : List (FilePath × String)) (answer : α) :
    w.putOut d ((p, content) :: outputs) answer =
      match w.emit d p content with
      | (w, .ok ()) => w.putOut d outputs answer
      | (w, .error e) => (w, .error e) := by
  cases hd : d.dryRun with
  | true => simp [putOut, emit, hd]
  | false =>
    simp only [putOut, emit, hd, Bool.false_eq_true, if_false, Destination.targets, List.map_cons,
      FileSystem.replaceAll]
    rcases w.files.replace (d.directory.join p) content with ⟨files, _ | failed⟩ <;> rfl

theorem World.map_emit_eq_putOut (w : World) (d : Destination) (p : FilePath) (content : String)
    (answer : α) :
    ((w.emit d p content).1, (w.emit d p content).2.map fun () => answer) =
      w.putOut d [(p, content)] answer := by
  rw [putOut_cons]
  rcases w.emit d p content with ⟨w, _ | _⟩
  · rfl
  · exact (w.putOut_nil d answer).symm

/-- The files go out one by one, and a summary that grows with them has counted them all in the end. -/
theorem World.emitFiles_eq_putOut (w : World) (d : Destination) (summary : Summary)
    (files : List SampleFile) :
    w.emitFiles d summary files =
      w.putOut d (files.map fun f => (f.path, f.content)) (files.foldl Summary.add summary) := by
  induction files generalizing w summary with
  | nil => rw [List.map_nil, List.foldl_nil, putOut_nil, emitFiles]
  | cons file files ih =>
    rw [List.map_cons, List.foldl_cons, putOut_cons, emitFiles]
    rcases w.emit d file.path file.content with ⟨w, _ | _⟩
    · rfl
    · exact ih w (summary.add file)

def Noted.putOut {ρ : Type} (rendered : Noted (Except RunError ρ)) (outputs : ρ → List (FilePath × String))
    (answer : ρ → α) (d : Destination) (w : World) : Noted (World × Except RunError α) :=
  (fun
    | .error e => (w, .error e)
    | .ok r => w.putOut d (outputs r) (answer r)) <$> rendered

/-- The outputs of what has been rendered, of which there are none if the checks have refused it. -/
def Noted.outputs {ρ : Type} (rendered : Noted (Except RunError ρ))
    (outputs : ρ → List (FilePath × String)) : List (FilePath × String) :=
  match rendered.value with
  | .error _ => []
  | .ok r => outputs r

/-- A dry run shows outputs and changes no file, and the real run writes the same outputs in the same order, as
far as the files let it. Refusals apart, nothing but a failure to write ends the real run, and both runs report
the same. -/
structure Foreshadows (paths : α → List FilePath) (directory : FilePath)
    (shown : List (FilePath × String)) (dry real : World → Noted (World × Except RunError α)) : Prop where
  files_kept : ∀ w, (dry w).value.1.files = w.files
  printed_eq : ∀ w, (dry w).value.1.printed = w.printed ++ shown
  world_eq : ∀ w, (real w).value.1 =
    { w with files := (w.files.replaceAll (Destination.targets ⟨directory, false⟩ shown)).1 }
  refused_iff : ∀ w e, (dry w).value.2 = .error e ↔ (real w).value.2 = .error e ∧ e.isRefusal = true
  failed_iff : ∀ w p, (real w).value.2 = .error (.unwritable p) ↔
    (w.files.replaceAll (Destination.targets ⟨directory, false⟩ shown)).2 = some p
  done_iff : ∀ w a, (real w).value.2 = .ok a ↔ (dry w).value.2 = .ok a ∧
    (w.files.replaceAll (Destination.targets ⟨directory, false⟩ shown)).2 = none
  listed : ∀ w a, (dry w).value.2 = .ok a → paths a = shown.map Prod.fst
  notes_eq : ∀ w, (real w).notes = (dry w).notes

section

variable {ρ : Type} {rendered : Noted (Except RunError ρ)} {outputs : ρ → List (FilePath × String)}
  {answer : ρ → α} {paths : α → List FilePath} (directory : FilePath)

theorem foreshadows_of_refused {e : RunError} (h : rendered.value = .error e) (he : e.isRefusal = true) :
    Foreshadows paths directory [] (rendered.putOut outputs answer ⟨directory, true⟩)
      (rendered.putOut outputs answer ⟨directory, false⟩) := by
  have hvalue : ∀ d w, (rendered.putOut outputs answer d w).value = (w, .error e) := by
    intro d w
    rw [Noted.putOut, Noted.value_map, h]
  exact {
    files_kept := fun w => by rw [hvalue]
    printed_eq := fun w => by rw [hvalue, List.append_nil]
    world_eq := fun w => by rw [hvalue]; rfl
    refused_iff := by
      intro w failure
      rw [hvalue, hvalue, Except.error.injEq]
      constructor
      · rintro rfl
        exact ⟨rfl, he⟩
      · exact And.left
    failed_iff := by
      intro w p
      rw [hvalue]
      constructor
      · intro hfailed
        obtain rfl := Except.error.inj hfailed
        cases he
      · intro hfailed
        cases hfailed
    done_iff := fun w a => by simp [hvalue]
    listed := by
      intro w a ha
      rw [hvalue] at ha
      cases ha
    notes_eq := fun w => by rw [Noted.putOut, Noted.putOut, Noted.notes_map, Noted.notes_map] }

theorem foreshadows_of_rendered {r : ρ} (h : rendered.value = .ok r)
    (hpaths : paths (answer r) = (outputs r).map Prod.fst) :
    Foreshadows paths directory (outputs r) (rendered.putOut outputs answer ⟨directory, true⟩)
      (rendered.putOut outputs answer ⟨directory, false⟩) := by
  have hdry : ∀ w, (rendered.putOut outputs answer ⟨directory, true⟩ w).value =
      ({ w with printed := w.printed ++ outputs r }, .ok (answer r)) := by
    intro w
    rw [Noted.putOut, Noted.value_map, h]
    rfl
  have hreal : ∀ w, (rendered.putOut outputs answer ⟨directory, false⟩ w).value =
      ({ w with files := (w.files.replaceAll (Destination.targets ⟨directory, false⟩ (outputs r))).1 },
        (w.files.replaceAll (Destination.targets ⟨directory, false⟩ (outputs r))).2.elim (.ok (answer r))
          fun failed => .error (.unwritable failed)) := by
    intro w
    rw [Noted.putOut, Noted.value_map, h]
    simp only [World.putOut, Bool.false_eq_true, if_false]
    rcases w.files.replaceAll (Destination.targets ⟨directory, false⟩ (outputs r)) with
      ⟨files, _ | failed⟩ <;> rfl
  exact {
    files_kept := fun w => by rw [hdry]
    printed_eq := fun w => by rw [hdry]
    world_eq := fun w => by rw [hreal]
    refused_iff := by
      intro w e
      rw [hdry, hreal]
      cases (w.files.replaceAll (Destination.targets ⟨directory, false⟩ (outputs r))).2 with
      | none => simp
      | some failed =>
        -- a failure to write is no refusal
        simp only [reduceCtorEq, Option.elim_some, Except.error.injEq, false_iff, not_and]
        rintro rfl
        exact Bool.false_ne_true
    failed_iff := by
      intro w p
      rw [hreal]
      cases (w.files.replaceAll (Destination.targets ⟨directory, false⟩ (outputs r))).2 <;> simp
    done_iff := by
      intro w a
      rw [hdry, hreal]
      cases (w.files.replaceAll (Destination.targets ⟨directory, false⟩ (outputs r))).2 <;> simp
    listed := by
      intro w a ha
      rw [hdry] at ha
      obtain rfl := Except.ok.inj ha
      exact hpaths
    notes_eq := fun w => by rw [Noted.putOut, Noted.putOut, Noted.notes_map, Noted.notes_map] }

theorem foreshadows_putOut (hrefused : ∀ e, rendered.value = .error e → e.isRefusal = true)
    (hpaths : ∀ r, paths (answer r) = (outputs r).map Prod.fst) :
    Foreshadows paths directory (rendered.outputs outputs)
      (rendered.putOut outputs answer ⟨directory, true⟩)
      (rendered.putOut outputs answer ⟨directory, false⟩) := by
  cases hrendered : rendered.value with
  | error e =>
    have hnone : rendered.outputs outputs = [] := by rw [Noted.outputs, hrendered]
    rw [hnone]
    exact foreshadows_of_refused directory hrendered (hrefused e hrendered)
  | ok r =>
    have hall : rendered.outputs outputs = outputs r := by rw [Noted.outputs, hrendered]
    rw [hall]
    exact foreshadows_of_rendered directory hrendered (hpaths r)

end

end

def Rendered.outputs (r : Rendered) : List (FilePath × String) := r.files.map fun f => (f.path, f.content)

def Rendered.summary (r : Rendered) : Summary := r.files.foldl Summary.add ⟨[], 0, r.suppressed⟩

theorem Summary.files_foldl_add (s : Summary) (files : List SampleFile) :
    (files.foldl add s).files = s.files ++ files.map SampleFile.path := by
  induction files generalizing s with
  | nil => simp
  | cons file files ih => simp [ih, add]

theorem Rendered.files_summary (r : Rendered) : r.summary.files = r.outputs.map Prod.fst := by
  rw [summary, Summary.files_foldl_add, outputs, List.map_map]
  rfl

def fragmentOutputs (content : Option String) : List (FilePath × String) :=
  (content.map fun text => (fragmentsPath, text)).toList

namespace CodeModel

theorem isRefusal_of_renderSamples {m : CodeModel} {s : Settings} {e : RunError}
    (h : (m.renderSamples s).value = .error e) : e.isRefusal = true := by
  unfold renderSamples at h
  split at h
  · next flaw hcheck =>
    obtain rfl := Except.error.inj h
    exact Settings.isRefusal_of_check hcheck
  · exact isRefusal_of_validated h

theorem generateSamples_eq_putOut (m : CodeModel) (s : Settings) (d : Destination) (w : World) :
    m.generateSamples s d w =
      (m.renderSamples s).putOut Rendered.outputs Rendered.summary d w := by
  rw [generateSamples, Noted.putOut, map_eq_pure_bind]
  refine bind_congr fun r => ?_
  cases r with
  | error e => rfl
  | ok rendered => exact congrArg pure (w.emitFiles_eq_putOut d _ _)

theorem generateFragments_eq_putOut (m : CodeModel) (s : Settings) (d : Destination) (w : World) :
    m.generateFragments s d w = (m.renderFragments s).putOut fragmentOutputs
      (fun content => content.map fun _ => fragmentsPath) d w := by
  rw [generateFragments, Noted.putOut, map_eq_pure_bind]
  refine bind_congr fun r => ?_
  rcases r with e | _ | text
  · rfl
  · exact congrArg pure (w.putOut_nil d none).symm
  · exact congrArg pure (w.map_emit_eq_putOut d fragmentsPath text (some fragmentsPath))

/-- Both runs of a model can be looked at beforehand: what a dry run prints is what has been rendered, the samples
or the fragments, and the real run writes the same below the directory, in order and up to the first failure,
whatever the file system is. -/
theorem dry_runs_foreshadow (m : CodeModel) (s : Settings) (directory : FilePath) :
    Foreshadows Summary.files directory ((m.renderSamples s).outputs Rendered.outputs)
      (m.generateSamples s ⟨directory, true⟩) (m.generateSamples s ⟨directory, false⟩) ∧
    Foreshadows Option.toList directory ((m.renderFragments s).outputs fragmentOutputs)
      (m.generateFragments s ⟨directory, true⟩) (m.generateFragments s ⟨directory, false⟩) := by
  have hsamples : ∀ d, m.generateSamples s d =
      (m.renderSamples s).putOut Rendered.outputs Rendered.summary d :=
    fun d => funext (m.generateSamples_eq_putOut s d)
  have hfragments : ∀ d, m.generateFragments s d =
      (m.renderFragments s).putOut fragmentOutputs (fun content => content.map fun _ => fragmentsPath) d :=
    fun d => funext (m.generateFragments_eq_putOut s d)
  rw [hsamples, hsamples, hfragments, hfragments]
  constructor
  · exact foreshadows_putOut directory (fun _ => isRefusal_of_renderSamples) Rendered.files_summary
  · refine foreshadows_putOut directory (fun _ => isRefusal_of_validated) fun content => ?_
    cases content <;> rfl

end CodeModel

end ApiSamples
