import SpriteStage.Command.Plan
import SpriteStage.Proofs.Loaders
/-!
Two ways to refuse a file. A check loads the scene and then the configuration, and ends with status 1 if
one of them does not load. A trial that should not load is judged by its scene alone. So the two agree on
all files but those in which the sprites are in order and the table `engine` is not: there the trial
fails, for its scene was loaded, and the check refuses the file nevertheless. A trial that should load
reads both, as a check does.
-/

namespace SpriteStage

open Command (RunRequest)

theorem Content.text_toUTF8 (source : String) : Content.text (.ok source.toUTF8) = .ok source := by
  have hread : String.fromUTF8? source.toUTF8 = some source := by
    simp only [String.fromUTF8?, String.toUTF8_eq_toByteArray, dif_pos source.isValidUTF8]
    rfl
  simp only [text, Except.bind, hread]

/-! ### What loads -/

section Loading

variable {source : String} {file : Nat}

@[simp] theorem isOk_ok {ε α : Type} (a : α) : (Except.ok a : Except ε α).isOk = true := rfl

@[simp] theorem isOk_error {ε α : Type} (e : ε) : (Except.error e : Except ε α).isOk = false := rfl

theorem isOk_iff {ε α : Type} {result : Except ε α} : result.isOk ↔ ∃ a, result = .ok a := by
  cases result <;> simp

theorem isOk_loadFrom_iff {α : Type} {content : Toml.Document → Except Toml.Fault α} :
    (loadFrom source file content).isOk ↔
      ∃ d, Toml.Document.read? source = some d ∧ ∃ a, content d = .ok a := by
  rw [isOk_iff]
  cases hread : Toml.Document.read? source with
  | none => simp [loadFrom_of_no_document hread]
  | some d =>
    rw [loadFrom_of_read hread]
    cases hcontent : content d <;> simp [Except.mapError, hcontent]

theorem Scene.isOk_load_iff : (Scene.load source file).isOk ↔
    ∃ d, Toml.Document.read? source = some d ∧ ∃ entries, entriesOf d = .ok entries := by
  have hentries : (loadFrom source file entriesOf).isOk ↔
      ∃ d, Toml.Document.read? source = some d ∧ ∃ entries, entriesOf d = .ok entries :=
    isOk_loadFrom_iff
  rw [← hentries, load]
  cases loadFrom source file entriesOf <;> rfl

theorem Config.isOk_load_iff : (Config.load source file).isOk ↔
    ∃ d, Toml.Document.read? source = some d ∧ ∃ config, ofDocument d = .ok config :=
  isOk_loadFrom_iff

/-- A source is at fault in its configuration only: it is a document, of which the sprites are read, and
the table `engine` is not. -/
def Config.AloneAtFault (source : String) : Prop :=
  ∃ d, Toml.Document.read? source = some d ∧
    (∃ entries, Scene.entriesOf d = .ok entries) ∧ ∃ fault, ofDocument d = .error fault

theorem Config.aloneAtFault_iff (file : Nat) : AloneAtFault source ↔
    (Scene.load source file).isOk ∧ ¬ (Config.load source file).isOk := by
  rw [Scene.isOk_load_iff, isOk_load_iff]
  constructor
  · rintro ⟨d, hread, hentries, fault, hfault⟩
    refine ⟨⟨d, hread, hentries⟩, ?_⟩
    rintro ⟨e, hsame, config, hconfig⟩
    obtain rfl : d = e := Option.some.inj (hread.symm.trans hsame)
    rw [hfault] at hconfig
    cases hconfig
  · rintro ⟨⟨d, hread, hentries⟩, hrefused⟩
    refine ⟨d, hread, hentries, ?_⟩
    cases hconfig : ofDocument d with
    | error fault => exact ⟨fault, rfl⟩
    | ok config => exact absurd ⟨d, hread, config, hconfig⟩ hrefused

end Loading

/-! ### Checks -/

def checkStatus (source : String) : Nat :=
  if (Scene.load source 0).isOk ∧ (Config.load source 0).isOk then 0 else 1

theorem checkStatus_eq_one_iff {source : String} :
    checkStatus source = 1 ↔ ¬ ((Scene.load source 0).isOk ∧ (Config.load source 0).isOk) := by
  rw [checkStatus]
  split <;> simp [*]

theorem checkStatus_eq_zero_or_one (source : String) :
    checkStatus source = 0 ∨ checkStatus source = 1 := by
  rw [checkStatus]
  split <;> simp

namespace Command.RunRequest

variable {r : RunRequest} {source : String}

theorem planScene_of_check (check : r.check = true) (scene : Scene) (config : Config)
    (complaints : List String) :
    r.planScene scene config complaints =
      .finish { complaints := complaints ++ [s!"ok: {r.file} loaded successfully"] } := by
  rw [planScene, if_pos check]

theorem planSource_of_check (check : r.check = true) :
    ∃ o, r.planSource source = .finish o ∧ o.status = checkStatus source := by
  cases hscene : Scene.load source 0 with
  | error f =>
    refine ⟨_, by rw [planSource, hscene], ?_⟩
    simp [checkStatus, hscene]
  | ok scene =>
    cases hconfig : Config.load source 0 with
    | error f =>
      refine ⟨_, by rw [planSource, hscene, hconfig], ?_⟩
      simp [checkStatus, hconfig]
    | ok config =>
      refine ⟨_, by rw [planSource, hscene, hconfig]; exact planScene_of_check check .., ?_⟩
      simp [checkStatus, hscene, hconfig]

theorem plan_file {content : Content} (text : content.text = .ok source) :
    r.plan (.ok (.file content)) = r.planSource source := by
  simp only [plan, Except.bind, Node.text, text]

end Command.RunRequest

/-! ### Trials -/

namespace Trial

variable {t : Trial} {source : String}

theorem failure?_eq_none_iff_of_fails (fails : t.fails = true) :
    t.failure? source = none ↔ ¬ (Scene.load source 0).isOk := by
  rw [failure?, fails]
  cases Scene.load source 0 <;> simp

theorem exists_of_fails (h : (ofSource source).toOption.map Trial.fails = some true) :
    ∃ t, ofSource source = .ok t ∧ t.fails = true := by
  cases hsource : ofSource source with
  | error fault => simp [hsource, Except.toOption] at h
  | ok t => exact ⟨t, rfl, by simpa [hsource, Except.toOption] using h⟩

theorem checkStatus_eq_zero_of_failure? (fails : t.fails = false)
    (passed : t.failure? source = none) : checkStatus source = 0 := by
  rw [failure?, fails] at passed
  cases hscene : Scene.load source 0 with
  | error f => simp [hscene] at passed
  | ok scene =>
    cases hconfig : Config.load source 0 with
    | error f => simp [hscene, sceneFailure?, hconfig] at passed
    | ok config => simp [checkStatus, hscene, hconfig]

end Trial

namespace TrialFile

variable {f : TrialFile} {r : RunRequest} {source : String} {t : Trial}

theorem passed_verdict_iff (text : f.content.text = .ok source)
    (header : Trial.ofSource source = .ok t) :
    f.verdict.passed = true ↔ t.failure? source = none := by
  simp only [verdict, text, header, Verdict.passed, Option.isNone_iff_eq_none]

theorem passed_verdict_iff_of_fails (text : f.content.text = .ok source)
    (header : Trial.ofSource source = .ok t) (fails : t.fails = true) :
    f.verdict.passed = true ↔ ¬ (Scene.load source 0).isOk :=
  (passed_verdict_iff text header).trans (Trial.failure?_eq_none_iff_of_fails fails)

theorem plan_of_check (text : f.content.text = .ok source) (check : r.check = true) :
    ∃ o, r.plan (.ok (.file f.content)) = .finish o ∧ o.status = checkStatus source := by
  rw [RunRequest.plan_file text]
  exact RunRequest.planSource_of_check check

theorem plan_of_check_of_passed (text : f.content.text = .ok source)
    (header : Trial.ofSource source = .ok t) (fails : t.fails = false)
    (passed : f.verdict.passed = true) (check : r.check = true) :
    ∃ o, r.plan (.ok (.file f.content)) = .finish o ∧ o.status = 0 := by
  obtain ⟨o, hplan, hstatus⟩ := plan_of_check text check
  have hnone : t.failure? source = none := (passed_verdict_iff text header).1 passed
  exact ⟨o, hplan, hstatus.trans (Trial.checkStatus_eq_zero_of_failure? fails hnone)⟩

/-- A trial that should not load passes only in a file that a check refuses. The other way round, this
is so for all files but those with a fault in the configuration alone. -/
theorem passed_iff_refused_iff (text : f.content.text = .ok source)
    (header : Trial.ofSource source = .ok t) (fails : t.fails = true) (check : r.check = true) :
    ∃ o, r.plan (.ok (.file f.content)) = .finish o ∧ (o.status = 0 ∨ o.status = 1) ∧
      (f.verdict.passed = true → o.status = 1) ∧
      ((f.verdict.passed = true ↔ o.status = 1) ↔ ¬ Config.AloneAtFault source) := by
  obtain ⟨o, hplan, hstatus⟩ := plan_of_check text check
  have hpassed : f.verdict.passed = true ↔ ¬ (Scene.load source 0).isOk :=
    passed_verdict_iff_of_fails text header fails
  have hrefused : o.status = 1 ↔ ¬ ((Scene.load source 0).isOk ∧ (Config.load source 0).isOk) := by
    rw [hstatus, checkStatus_eq_one_iff]
  refine ⟨o, hplan, hstatus ▸ checkStatus_eq_zero_or_one source, fun h => ?_, ?_⟩
  · exact hrefused.2 fun hboth => hpassed.1 h hboth.1
  · rw [hpassed, hrefused, Config.aloneAtFault_iff 0]
    by_cases hscene : (Scene.load source 0).isOk = true <;> simp [hscene]

theorem passed_iff_refused_iff_wrongSprites :
    let source := "expect_parse_error = true\nsprite = 5\n"
    let f : TrialFile := ⟨"t.test.toml", "t.test.toml", .ok source.toUTF8⟩
    let r : RunRequest := { file := "t.test.toml", check := true }
    ∃ t o, f.content.text = .ok source ∧ Trial.ofSource source = .ok t ∧ t.fails = true ∧
      r.check = true ∧ r.plan (.ok (.file f.content)) = .finish o ∧
      (f.verdict.passed = true ∧ o.status = 1) ∧
      ((f.verdict.passed = true ↔ o.status = 1) ↔ ¬ Config.AloneAtFault source) := by
  intro source f r
  obtain ⟨t, header, fails⟩ : ∃ t, Trial.ofSource source = .ok t ∧ t.fails = true :=
    Trial.exists_of_fails (by decide +kernel)
  have text : f.content.text = .ok source := Content.text_toUTF8 source
  obtain ⟨o, hplan, -, hrefused, hagree⟩ :=
    passed_iff_refused_iff (r := r) text header fails rfl
  have hpassed : f.verdict.passed = true :=
    (passed_verdict_iff_of_fails text header fails).2 (by decide +kernel)
  exact ⟨t, o, text, header, fails, rfl, hplan, ⟨hpassed, hrefused hpassed⟩, hagree⟩

theorem refused_of_wrongEngine :
    let source := "expect_parse_error = true\n[engine]\nbogus = 1\n"
    let f : TrialFile := ⟨"t.test.toml", "t.test.toml", .ok source.toUTF8⟩
    let r : RunRequest := { file := "t.test.toml", check := true }
    ∃ t o, f.content.text = .ok source ∧ Trial.ofSource source = .ok t ∧ t.fails = true ∧
      r.plan (.ok (.file f.content)) = .finish o ∧
      ¬ (f.verdict.passed = true ↔ o.status = 1) := by
  intro source f r
  obtain ⟨t, header, fails⟩ : ∃ t, Trial.ofSource source = .ok t ∧ t.fails = true :=
    Trial.exists_of_fails (by decide +kernel)
  have text : f.content.text = .ok source := Content.text_toUTF8 source
  obtain ⟨o, hplan, hstatus⟩ := plan_of_check (r := r) text rfl
  have hrefused : o.status = 1 := hstatus.trans (by decide +kernel)
  have hpassed : ¬ f.verdict.passed = true := fun h =>
    (passed_verdict_iff_of_fails text header fails).1 h (by decide +kernel)
  exact ⟨t, o, text, header, fails, hplan, fun hagree => hpassed (hagree.2 hrefused)⟩

end TrialFile

end SpriteStage
