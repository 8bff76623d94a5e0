import Mathlib.Data.List.Perm.Basic
import Mathlib.Data.List.TakeWhile
import SpriteStage.Command.Plan
/-!
The trials that are asked for. A request without the slashes around it names a folder, and covers the
categories in and below it. Judged are the categories that some request covers, or all of them if there
is no request: each once and in its place, whatever the order of the requests and however many of them
cover it. The status of the report is 0 if there is such a category and all its trials pass.
-/

namespace SpriteStage

/-! ### Requests -/

namespace Category

/-- What is left of a request without the slashes at its ends. -/
def Trims (request folder : String) : Prop :=
  ∃ before after : List Char, request.toList = before ++ folder.toList ++ after ∧
    (∀ c ∈ before, c = '/') ∧ (∀ c ∈ after, c = '/') ∧
    folder.toList.head? ≠ some '/' ∧ folder.toList.getLast? ≠ some '/'

def Covers (request name : String) : Prop :=
  ∃ folder, Trims request folder ∧ (name = folder ∨ ∃ rest, name = folder ++ "/" ++ rest)

/-- Whether a category is asked for. Who makes no request asks for all. -/
def Requested (requests : List String) (name : String) : Prop :=
  requests = [] ∨ ∃ request ∈ requests, Covers request name

variable {request folder name : String} {requests : List String} {categories : List Category}

theorem dropWhile_slashes {before rest : List Char} (h : ∀ c ∈ before, c = '/')
    (hrest : rest.head? ≠ some '/') : (before ++ rest).dropWhile (· = '/') = rest := by
  rw [List.dropWhile_append_of_pos (by simpa using h)]
  cases rest with
  | nil => rfl
  | cons c cs => exact List.dropWhile_cons_of_neg (by simpa using hrest)

theorem head?_dropWhile_slashes (cs : List Char) : (cs.dropWhile (· = '/')).head? ≠ some '/' := by
  intro h
  have hfirst := List.head?_dropWhile_not (fun c : Char => decide (c = '/')) cs
  rw [h] at hfirst
  simp at hfirst

theorem takeWhile_slashes (cs : List Char) : ∀ c ∈ cs.takeWhile (· = '/'), c = '/' := by
  intro c hc
  simpa using List.mem_takeWhile_imp hc

theorem trims_trimmed (request : String) : Trims request (trimmed request) := by
  let kept := request.toList.dropWhile (· = '/')
  have hfolder : (trimmed request).toList = (kept.reverse.dropWhile (· = '/')).reverse := by
    simp [trimmed, kept]
  have hkept : (trimmed request).toList ++ (kept.reverse.takeWhile (· = '/')).reverse = kept := by
    rw [hfolder, ← List.reverse_append, List.takeWhile_append_dropWhile, List.reverse_reverse]
  refine ⟨request.toList.takeWhile (· = '/'), (kept.reverse.takeWhile (· = '/')).reverse, ?_,
    takeWhile_slashes _, ?_, ?_, ?_⟩
  · rw [List.append_assoc, hkept]
    exact List.takeWhile_append_dropWhile.symm
  · intro c hc
    exact takeWhile_slashes _ c (List.mem_reverse.1 hc)
  · intro h
    have hhead : kept.head? = some '/' := by
      rw [← hkept, List.head?_append, h]
      rfl
    exact head?_dropWhile_slashes _ hhead
  · rw [hfolder, List.getLast?_reverse]
    exact head?_dropWhile_slashes _

theorem trimmed_of_trims (h : Trims request folder) : trimmed request = folder := by
  obtain ⟨before, after, hrequest, hbefore, hafter, hhead, hlast⟩ := h
  by_cases hempty : folder.toList = []
  · have hslashes : request.toList.dropWhile (· = '/') = [] := by
      rw [hrequest, hempty, List.append_nil, List.dropWhile_eq_nil_iff]
      simpa [or_imp, forall_and] using ⟨hbefore, hafter⟩
    have hfolder : folder = "" := String.toList_inj.1 hempty
    simp [trimmed, hslashes, hfolder]
  · have hfirst : (folder.toList ++ after).head? ≠ some '/' := by
      rw [List.head?_append_of_ne_nil _ hempty]
      exact hhead
    have hafter' : ∀ c ∈ after.reverse, c = '/' := fun c hc => hafter c (List.mem_reverse.1 hc)
    have hlast' : folder.toList.reverse.head? ≠ some '/' := by
      rw [List.head?_reverse]
      exact hlast
    simp only [trimmed, hrequest, List.append_assoc, dropWhile_slashes hbefore hfirst,
      List.reverse_append, dropWhile_slashes hafter' hlast', List.reverse_reverse,
      String.ofList_toList]

theorem isMeant_iff {c : Category} :
    isMeant folder c = true ↔ c.name = folder ∨ ∃ rest, c.name = folder ++ "/" ++ rest := by
  have hbelow : (folder ++ "/").toList <+: c.name.toList ↔ ∃ rest, c.name = folder ++ "/" ++ rest := by
    constructor
    · rintro ⟨rest, hrest⟩
      refine ⟨String.ofList rest, String.toList_inj.1 ?_⟩
      simp [← hrest]
    · rintro ⟨rest, hrest⟩
      exact ⟨rest.toList, by simp [hrest]⟩
  rw [isMeant, Bool.or_eq_true, decide_eq_true_iff, List.isPrefixOf_iff_prefix, hbelow]

theorem covers_iff {c : Category} : Covers request c.name ↔ isMeant (trimmed request) c = true := by
  rw [isMeant_iff]
  constructor
  · rintro ⟨folder, htrims, hname⟩
    rw [trimmed_of_trims htrims]
    exact hname
  · exact fun hname => ⟨trimmed request, trims_trimmed request, hname⟩

instance (request name : String) : Decidable (Covers request name) :=
  decidable_of_iff (isMeant (trimmed request) ⟨name, []⟩ = true) covers_iff.symm

instance (requests : List String) (name : String) : Decidable (Requested requests name) :=
  inferInstanceAs (Decidable (_ ∨ _))

theorem select_eq_filter (requests : List String) (categories : List Category) :
    select requests categories = categories.filter fun c => Requested requests c.name := by
  unfold select
  split
  · rename_i hempty
    simp [Requested, List.isEmpty_iff.1 hempty]
  · rename_i hsome
    have hne : requests ≠ [] := fun h => hsome (List.isEmpty_iff.2 h)
    refine List.filter_congr fun c _ => Bool.eq_iff_iff.2 ?_
    simp only [List.any_eq_true, decide_eq_true_iff, Requested, hne, false_or, covers_iff]

theorem select_eq_of_iff {requests requests' : List String}
    (h : ∀ c ∈ categories, Requested requests c.name ↔ Requested requests' c.name) :
    select requests categories = select requests' categories := by
  rw [select_eq_filter, select_eq_filter]
  exact List.filter_congr fun c hc => decide_eq_decide.2 (h c hc)

theorem requested_iff_of_mem_iff {requests requests' : List String}
    (h : ∀ x, x ∈ requests ↔ x ∈ requests') (name : String) :
    Requested requests name ↔ Requested requests' name := by
  simp only [Requested, List.eq_nil_iff_forall_not_mem, h]

theorem requested_append_iff {extra : List String} (hsome : requests ≠ [])
    (h : ∀ x ∈ extra, ¬ Covers x name) :
    Requested (requests ++ extra) name ↔ Requested requests name := by
  have hextra : ¬ ∃ x ∈ extra, Covers x name := fun ⟨x, hx, hcovers⟩ => h x hx hcovers
  simp only [Requested, List.append_eq_nil_iff, hsome, false_and, false_or, List.mem_append,
    or_and_right, exists_or, hextra, or_false]

/-! ### Categories that have been found -/

theorem nodup_eraseDups {α : Type} [BEq α] [LawfulBEq α] (xs : List α) : xs.eraseDups.Nodup := by
  induction hlength : xs.length using Nat.strongRecOn generalizing xs with
  | ind n ih =>
    cases xs with
    | nil => simp
    | cons x xs =>
      subst hlength
      have hless : (xs.filter fun y => !y == x).length < (x :: xs).length :=
        Nat.lt_succ_of_le (List.length_filter_le _ xs)
      rw [List.eraseDups_cons, List.nodup_cons]
      refine ⟨?_, ih _ hless _ rfl⟩
      simp [List.mem_eraseDups]

theorem flatMap_filter_perm {α β : Type} [DecidableEq β] {key : α → β} {names : List β}
    (distinct : names.Nodup) {xs : List α} (named : ∀ x ∈ xs, key x ∈ names) :
    (names.flatMap fun name => xs.filter fun x => key x = name).Perm xs := by
  induction names generalizing xs with
  | nil =>
    have hxs : xs = [] := List.eq_nil_iff_forall_not_mem.2 fun x hx => List.not_mem_nil (named x hx)
    simp [hxs]
  | cons name names ih =>
    obtain ⟨hfresh, hdistinct⟩ := List.nodup_cons.1 distinct
    let others := xs.filter fun x => !decide (key x = name)
    have hothers : ∀ x ∈ others, key x ∈ names := by
      intro x hx
      obtain ⟨hmem, hkey⟩ := List.mem_filter.1 hx
      exact (List.mem_cons.1 (named x hmem)).resolve_left (by simpa using hkey)
    have hsame : (names.flatMap fun n => xs.filter fun x => key x = n) =
        names.flatMap fun n => others.filter fun x => key x = n := by
      refine List.flatMap_congr fun n hn => ?_
      have hne : n ≠ name := fun h => hfresh (h ▸ hn)
      rw [List.filter_filter]
      refine List.filter_congr fun x _ => ?_
      by_cases hkey : key x = n <;> simp [hkey, hne]
    rw [List.flatMap_cons, hsame]
    exact ((ih hdistinct hothers).append_left _).trans
      (List.filter_append_perm (fun x => decide (key x = name)) xs)

def names (found : List (List String × TrialFile)) : List String :=
  (found.map fun t => nameOf t.1).eraseDups.mergeSort fun a b => !(b < a)

theorem nodup_names (found : List (List String × TrialFile)) : (names found).Nodup :=
  (List.mergeSort_perm _ _).nodup_iff.2 (nodup_eraseDups _)

theorem mem_names {found : List (List String × TrialFile)} :
    name ∈ names found ↔ ∃ t ∈ found, nameOf t.1 = name := by
  rw [names, (List.mergeSort_perm _ _).mem_iff, List.mem_eraseDups, List.mem_map]

def members (found : List (List String × TrialFile)) (name : String) : List TrialFile :=
  let sorted := (found.filter fun (folders, _) => nameOf folders = name).mergeSort
    fun (f, a) (g, b) => !(g ++ [b.name] < f ++ [a.name])
  sorted.map Prod.snd

theorem ofTrials_eq (found : List (List String × TrialFile)) :
    ofTrials found = (names found).map fun name => ⟨name, members found name⟩ := rfl

theorem exists_of_mem_ofTrials {found : List (List String × TrialFile)} {c : Category}
    (h : c ∈ ofTrials found) : ∃ t ∈ found, nameOf t.1 = c.name := by
  rw [ofTrials_eq] at h
  obtain ⟨name, hname, rfl⟩ := List.mem_map.1 h
  exact mem_names.1 hname

theorem members_perm (found : List (List String × TrialFile)) (name : String) :
    (members found name).Perm ((found.filter fun t => nameOf t.1 = name).map Prod.snd) :=
  (List.mergeSort_perm _ _).map Prod.snd

theorem files_requested_perm (requests : List String) (found : List (List String × TrialFile)) :
    (((ofTrials found).filter fun c => Requested requests c.name).flatMap Category.files).Perm
      ((found.filter fun t => Requested requests (nameOf t.1)).map Prod.snd) := by
  let wanted := found.filter fun t => Requested requests (nameOf t.1)
  let wantedNames := (names found).filter fun name => Requested requests name
  have distinct : wantedNames.Nodup := (nodup_names found).filter _
  have named : ∀ t ∈ wanted, nameOf t.1 ∈ wantedNames := by
    intro t ht
    obtain ⟨hfound, hrequested⟩ := List.mem_filter.1 ht
    exact List.mem_filter.2 ⟨mem_names.2 ⟨t, hfound, rfl⟩, hrequested⟩
  have hmembers : ∀ name ∈ wantedNames,
      (found.filter fun t => nameOf t.1 = name) = wanted.filter fun t => nameOf t.1 = name := by
    intro name hname
    have hrequested : Requested requests name := by simpa using (List.mem_filter.1 hname).2
    rw [List.filter_filter]
    refine List.filter_congr fun t _ => ?_
    by_cases hkey : nameOf t.1 = name <;> simp [hkey, hrequested]
  have hcategories : ((ofTrials found).filter fun c => Requested requests c.name) =
      wantedNames.map fun name => ⟨name, members found name⟩ := by
    rw [ofTrials_eq, List.filter_map]
    rfl
  have hgrouped : (wantedNames.flatMap fun name => wanted.filter fun t => nameOf t.1 = name).Perm
      wanted := flatMap_filter_perm distinct named
  rw [hcategories, List.flatMap_map]
  refine List.Perm.trans ?_ (hgrouped.map Prod.snd)
  rw [List.map_flatMap]
  refine List.Perm.flatMap_left _ fun name hname => ?_
  rw [← hmembers name hname]
  exact members_perm found name

end Category

/-! ### Reports -/

theorem verdicts_judge (selected : List Category) :
    (selected.map Category.judge).flatMap Judged.verdicts =
      (selected.flatMap Category.files).map TrialFile.verdict := by
  rw [List.flatMap_map, List.map_flatMap]
  rfl

theorem allPassed_iff (judged : List Judged) :
    allPassed judged = true ↔ ∀ v ∈ judged.flatMap Judged.verdicts, v.passed = true := by
  rw [List.forall_mem_flatMap]
  simp [allPassed]

theorem getLast?_reportLines (theme : Theme) (judged : List Judged) :
    (reportLines theme judged).getLast? =
      let verdicts := judged.flatMap Judged.verdicts
      some (summaryLine theme (verdicts.countP Verdict.passed)
        (verdicts.countP fun v => !v.passed)) := by
  simp [reportLines, List.partition_eq_filter_filter, List.countP_eq_length_filter,
    Function.comp_def]

namespace Command.TrialRequest

variable {r : TrialRequest} {theme : Theme} {categories : List Category}

theorem suite_of_none (theme : Theme) (h : Category.select r.categories categories = []) :
    (r.suite theme categories).status = 1 := by
  rw [suite, h]

theorem suite_of_some (theme : Theme) (h : Category.select r.categories categories ≠ []) :
    r.suite theme categories =
      judged theme ((Category.unmet r.categories categories).map (unmetLine categories))
        ((Category.select r.categories categories).map Category.judge) := by
  rw [suite]
  split
  · contradiction
  · rename_i hselected
    rw [hselected]

theorem status_suite (r : TrialRequest) (theme : Theme) (categories : List Category) :
    (r.suite theme categories).status =
      if Category.select r.categories categories ≠ [] ∧
          ∀ f ∈ (Category.select r.categories categories).flatMap Category.files,
            f.verdict.passed = true
        then 0 else 1 := by
  by_cases h : Category.select r.categories categories = []
  · rw [suite_of_none theme h, if_neg fun hboth => hboth.1 h]
  · rw [suite_of_some theme h, judged]
    simp only [allPassed_iff, verdicts_judge, List.forall_mem_map, ne_eq, h, not_false_eq_true,
      true_and]

theorem getLast?_judged (theme : Theme) (before : List String) (selected : List Category) :
    (judged theme before (selected.map Category.judge)).complaints.getLast? =
      let asked := selected.flatMap Category.files
      some (summaryLine theme (asked.countP fun f => f.verdict.passed)
        (asked.countP fun f => !f.verdict.passed)) := by
  simp only [judged, List.getLast?_append, getLast?_reportLines, verdicts_judge, List.countP_map,
    Option.some_or]
  rfl

theorem status_output (entries : List (String × Node)) (judging : r.listCategories = false) :
    (r.output theme (.ok (.folder entries))).status =
      (r.suite theme (categoriesOf r.path (.ok (.folder entries)))).status := by
  unfold output
  rw [if_neg (by simp [judging])]
  split
  · rename_i hfile
    cases hfile
  · rename_i hnone _
    rw [hnone]
    exact (suite_of_none theme (by simp [Category.select_eq_filter])).symm
  · rename_i hsome _
    rw [hsome]

/-- Judged are the categories that are asked for, each in its place: those that a request covers, or all
of them if there is no request, whatever the order of the requests and however often one is made. The
status is 0 exactly if there is such a category and all its trials pass; a further request that covers
nothing does not change that. The report counts the trials that passed and those that failed, and there
are no others. Of trials found in folders, each one in a folder that is asked for is judged once. -/
theorem suite_judges_requested (r : TrialRequest) (theme : Theme) (categories : List Category) :
    let selected := categories.filter fun c => Category.Requested r.categories c.name
    let asked := selected.flatMap Category.files
    let passed := asked.countP fun f => f.verdict.passed
    let failed := asked.countP fun f => !f.verdict.passed
    let o := r.suite theme categories
    Category.select r.categories categories = selected ∧
      (∀ requests, (∀ x, x ∈ requests ↔ x ∈ r.categories) →
        Category.select requests categories = selected) ∧
      (∀ extra, r.categories ≠ [] → (∀ x ∈ extra, ∀ c ∈ categories, ¬ Category.Covers x c.name) →
        ({ r with categories := r.categories ++ extra }.suite theme categories).status = o.status) ∧
      (o.status = 0 ↔ selected ≠ [] ∧ ∀ f ∈ asked, f.verdict.passed = true) ∧
      (o.status = 0 ∨ o.status = 1) ∧
      (selected ≠ [] →
        o = judged theme ((Category.unmet r.categories categories).map (unmetLine categories))
            (selected.map Category.judge) ∧
          o.complaints.getLast? = some (summaryLine theme passed failed)) ∧
      passed + failed = asked.length ∧
      (∀ found, categories = Category.ofTrials found →
        asked.Perm ((found.filter fun t =>
          Category.Requested r.categories (Category.nameOf t.1)).map Prod.snd)) ∧
      (∀ entries, r.listCategories = false →
        categories = categoriesOf r.path (.ok (.folder entries)) →
          (r.output theme (.ok (.folder entries))).status = o.status) := by
  intro selected asked passed failed o
  have hselect : Category.select r.categories categories = selected :=
    Category.select_eq_filter r.categories categories
  have hstatus : o.status =
      if selected ≠ [] ∧ ∀ f ∈ asked, f.verdict.passed = true then 0 else 1 := by
    have hsuite := status_suite r theme categories
    rw [hselect] at hsuite
    exact hsuite
  refine ⟨hselect, fun requests hsame => ?_, fun extra hsome hextra => ?_, ?_, ?_, fun hsome => ?_,
    ?_, ?_, ?_⟩
  · rw [← hselect]
    exact Category.select_eq_of_iff fun c _ => Category.requested_iff_of_mem_iff hsame c.name
  · have hsame : Category.select (r.categories ++ extra) categories = selected := by
      rw [← hselect]
      exact Category.select_eq_of_iff fun c hc =>
        Category.requested_append_iff hsome fun x hx => hextra x hx c hc
    rw [hstatus, status_suite, hsame]
  · simp only [hstatus, ite_eq_left_iff, Nat.one_ne_zero, imp_false, not_not]
  · rw [hstatus]
    split <;> simp
  · have hreport : o = judged theme ((Category.unmet r.categories categories).map
        (unmetLine categories)) (selected.map Category.judge) := by
      have hsuite := suite_of_some theme (hselect ▸ hsome : Category.select r.categories _ ≠ [])
      rw [hselect] at hsuite
      exact hsuite
    refine ⟨hreport, ?_⟩
    rw [hreport]
    exact getLast?_judged theme _ selected
  · have hcount := List.length_eq_countP_add_countP (fun f : TrialFile => f.verdict.passed) (l := asked)
    simpa [passed, failed] using hcount.symm
  · rintro found rfl
    exact Category.files_requested_perm r.categories found
  · rintro entries judging rfl
    exact status_output entries judging

def sampleFolders : List (String × Node) :=
  let sound : Node := .file (.ok "".toUTF8)
  [("a", .folder [("x.test.toml", sound), ("deep", .folder [("y.test.toml", sound)])]),
    ("ab", .folder [("z.test.toml", .file (.error .notFound))])]

def sampleTrials : List (List String × TrialFile) :=
  let a := entryPath "t" "a"
  [(["a"], ⟨entryPath a "x.test.toml", "x.test.toml", .ok "".toUTF8⟩),
    (["a", "deep"], ⟨entryPath (entryPath a "deep") "y.test.toml", "y.test.toml", .ok "".toUTF8⟩),
    (["ab"], ⟨entryPath (entryPath "t" "ab") "z.test.toml", "z.test.toml", .error .notFound⟩)]

theorem trials_sampleFolders : (Node.folder sampleFolders).trials "t" [] = sampleTrials := by
  have hx : isTrialName "x.test.toml" = true := by decide
  have hy : isTrialName "y.test.toml" = true := by decide
  have hz : isTrialName "z.test.toml" = true := by decide
  simp [Node.trials, Node.trialsOf, sampleFolders, sampleTrials, hx, hy, hz]

theorem suite_judges_requested_overlapping :
    let categories := Category.ofTrials sampleTrials
    let r : TrialRequest := { path := "t", categories := ["/a/", "a"] }
    let selected := categories.filter fun c => Category.Requested r.categories c.name
    let asked := selected.flatMap Category.files
    (∀ x, x ∈ ["a", "/a/", "a"] ↔ x ∈ r.categories) ∧ r.categories ≠ [] ∧
      (∀ x ∈ ["c"], ∀ c ∈ categories, ¬ Category.Covers x c.name) ∧ selected ≠ [] ∧
      r.listCategories = false ∧
      categories = categoriesOf r.path (.ok (.folder sampleFolders)) ∧
      Category.select ["a", "/a/", "a"] categories = selected ∧
      (asked.map TrialFile.path).Perm ["t/a/x.test.toml", "t/a/deep/y.test.toml"] ∧
      (r.suite ⟨false⟩ categories).complaints.getLast? =
        some "test result: ok. 2 passed, 0 failed" ∧
      ({ r with categories := ["/a/", "a", "c"] }.suite ⟨false⟩ categories).status = 0 ∧
      (r.output ⟨false⟩ (.ok (.folder sampleFolders))).status = 0 := by
  intro categories r selected asked
  obtain ⟨-, hagain, hextra, hstatus, -, hreport, -, hfound, houtput⟩ :=
    suite_judges_requested r ⟨false⟩ categories
  have same : ∀ x, x ∈ ["a", "/a/", "a"] ↔ x ∈ r.categories := by
    intro x
    simp only [r, List.mem_cons, List.not_mem_nil]
    grind
  have stranger : ∀ x ∈ ["c"], ∀ c ∈ categories, ¬ Category.Covers x c.name := by
    intro x hx c hc
    obtain ⟨t, ht, hname⟩ := Category.exists_of_mem_ofTrials hc
    have hnone : ∀ t ∈ sampleTrials, ¬ Category.Covers "c" (Category.nameOf t.1) := by
      decide +kernel
    rw [List.mem_singleton.1 hx, ← hname]
    exact hnone t ht
  have found : categories = categoriesOf r.path (.ok (.folder sampleFolders)) :=
    congrArg Category.ofTrials trials_sampleFolders.symm
  let wanted := (sampleTrials.filter fun t =>
    Category.Requested r.categories (Category.nameOf t.1)).map Prod.snd
  have hasked : asked.Perm wanted := hfound sampleTrials rfl
  have hpaths : wanted.map TrialFile.path = ["t/a/x.test.toml", "t/a/deep/y.test.toml"] := by
    decide +kernel
  have hpassed : ∀ f ∈ wanted, f.verdict.passed = true := by decide +kernel
  have some_selected : selected ≠ [] := by
    intro hnone
    have hlength : asked.length = 2 := hasked.length_eq.trans (by decide +kernel)
    simp [asked, hnone] at hlength
  have hzero : (r.suite ⟨false⟩ categories).status = 0 :=
    hstatus.2 ⟨some_selected, fun f hf => hpassed f (hasked.mem_iff.1 hf)⟩
  have hsummary : (r.suite ⟨false⟩ categories).complaints.getLast? =
      some "test result: ok. 2 passed, 0 failed" := by
    rw [(hreport some_selected).2, hasked.countP_eq, hasked.countP_eq]
    decide +kernel
  exact ⟨same, by decide, stranger, some_selected, rfl, found, hagain _ same,
    hpaths ▸ hasked.map TrialFile.path, hsummary, (hextra ["c"] (by decide) stranger).trans hzero,
    (houtput sampleFolders rfl found).trans hzero⟩

end Command.TrialRequest

end SpriteStage
