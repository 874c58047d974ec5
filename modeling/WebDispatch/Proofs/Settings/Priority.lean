import Mathlib.Data.List.Nodup
import WebDispatch.Proofs.Sorting
import WebDispatch.Settings.Source

/-!
# Which source decides a setting

Sources are loaded in ascending order of priority, each onto what is there, so that every key has
the text of the most important source that has the key: of those of one priority the last. That
goes for keys as they are spelled (`get?_ofSources`). A recognised key has two spellings, and these
are told apart only after all sources have been put together. So the bare spelling in a source of
little importance stands before the marked one in a source of great importance. A recognised key is
decided by priority exactly when no source has its bare spelling, or the most important one that
has it has the text that should be (`decided_by_priority_iff`).

* `SettingSource.Gives` — a source has a text, found in a given way;
* `SettingSource.Decides` — the text of the most important source that has one;
* `Settings.ParsedBy` — settings whose recognised keys are parsed from given texts.
-/

namespace WebDispatch

/-! ## Sources -/

namespace SettingSource

variable {find : SettingValues → Option String} {s : SettingSource} {values : SettingValues}

/-- The texts of a source are under distinct keys; those of files and of the environment always
are. -/
def Proper : SettingSource → Prop
  | memory values => values.keys.Nodup
  | _ => True

/-- A source has a text, found in what it loads in a given way. -/
def Gives (find : SettingValues → Option String) (s : SettingSource) (v : String) : Prop :=
  ∃ values, s.load = .ok values ∧ find values = some v

def Silent (find : SettingValues → Option String) (s : SettingSource) : Prop :=
  ∀ v, ¬ s.Gives find v

theorem gives_iff_of_load (h : s.load = .ok values) {v : String} :
    s.Gives find v ↔ find values = some v := by
  constructor
  · rintro ⟨values', hload, hfind⟩
    obtain rfl := Except.ok.inj (h.symm.trans hload)
    exact hfind
  · exact fun hfind => ⟨values, h, hfind⟩

theorem silent_iff_of_load (h : s.load = .ok values) : s.Silent find ↔ find values = none := by
  rw [Option.eq_none_iff_forall_ne_some]
  exact forall_congr' fun v => not_congr (gives_iff_of_load h)

theorem nodup_keys_of_load (hproper : s.Proper) (h : s.load = .ok values) : values.keys.Nodup := by
  cases s with
  | memory given =>
      obtain rfl := Except.ok.inj h
      exact hproper
  | file path content =>
      cases content with
      | none => cases h
      | some content =>
          rw [load] at h
          split at h
          · obtain rfl := Except.ok.inj h
            exact OrderedMap.nodup_keys_ofList _
          · cases h
  | environment start vars =>
      obtain rfl := Except.ok.inj h
      exact OrderedMap.nodup_keys_ofList _

/-! ## The source that decides -/

variable {sources : List SettingSource} {v : String}

/-- A text is that of the most important source that has one; of those of one priority, the last
one counts. -/
def Decides (find : SettingValues → Option String) (sources : List SettingSource) (v : String) :
    Prop :=
  ∃ before s after, sources = before ++ s :: after ∧ s.Gives find v ∧
    (∀ t ∈ before, t.priority ≤ s.priority ∨ t.Silent find) ∧
    ∀ t ∈ after, t.priority < s.priority ∨ t.Silent find

def LastGives (find : SettingValues → Option String) (sources : List SettingSource) (v : String) :
    Prop :=
  ∃ before s after, sources = before ++ s :: after ∧ s.Gives find v ∧ ∀ t ∈ after, t.Silent find

theorem lastGives_cons_iff :
    LastGives find (s :: sources) v ↔
      LastGives find sources v ∨ s.Gives find v ∧ ∀ t ∈ sources, t.Silent find := by
  constructor
  · rintro ⟨_ | ⟨b, before⟩, u, after, hsplit, hgives, hafter⟩
    · obtain ⟨rfl, rfl⟩ := List.cons.inj hsplit
      exact Or.inr ⟨hgives, hafter⟩
    · exact Or.inl ⟨before, u, after, (List.cons.inj hsplit).2, hgives, hafter⟩
  · rintro (⟨before, u, after, rfl, hgives, hafter⟩ | ⟨hgives, hsilent⟩)
    · exact ⟨s :: before, u, after, rfl, hgives, hafter⟩
    · exact ⟨[], s, sources, rfl, hgives, hsilent⟩

def level (sources : List SettingSource) (p : Nat) : List SettingSource :=
  sources.filter fun t => t.priority = p

theorem mem_level_iff {p : Nat} : s ∈ level sources p ↔ s ∈ sources ∧ s.priority = p :=
  Sorting.mem_level_iff

/-- Only the sources of one priority matter, the highest at which there is a text. -/
theorem decides_iff_level :
    Decides find sources v ↔
      ∃ p, LastGives find (level sources p) v ∧
        ∀ t ∈ sources, t.priority ≤ p ∨ t.Silent find := by
  constructor
  · rintro ⟨before, s, after, rfl, hgives, hbefore, hafter⟩
    refine ⟨s.priority, ⟨level before s.priority, s, level after s.priority, ?_, hgives, ?_⟩, ?_⟩
    · simp [level]
    · intro t ht
      obtain ⟨hmem, hp⟩ := mem_level_iff.mp ht
      exact (hafter t hmem).resolve_left (hp ▸ Nat.lt_irrefl _)
    · intro t ht
      rcases List.mem_append.mp ht with ht | ht
      · exact hbefore t ht
      · rcases List.mem_cons.mp ht with rfl | ht
        · exact Or.inl (Nat.le_refl _)
        · exact (hafter t ht).imp_left Nat.le_of_lt
  · rintro ⟨p, ⟨before, s, after, hlevel, hgives, hafter⟩, hhighest⟩
    obtain ⟨left, rest, rfl, -, hrest⟩ := List.filter_eq_append_iff.mp hlevel
    obtain ⟨skipped, right, rfl, -, hp, hright⟩ := List.filter_eq_cons_iff.mp hrest
    obtain rfl := of_decide_eq_true hp
    refine ⟨left ++ skipped, s, right, (List.append_assoc _ _ _).symm, hgives, ?_, ?_⟩
    · intro t ht
      exact hhighest t (by rw [← List.append_assoc]; exact List.mem_append_left _ ht)
    · intro t ht
      rcases hhighest t (by simp [ht]) with hle | hsilent
      · rcases Nat.lt_or_eq_of_le hle with hlt | heq
        · exact Or.inl hlt
        · exact Or.inr (hafter t (hright ▸ mem_level_iff.mpr ⟨ht, heq⟩))
      · exact Or.inr hsilent

def ascending (sources : List SettingSource) : List SettingSource :=
  sources.mergeSort fun a b => a.priority ≤ b.priority

theorem level_ascending (sources : List SettingSource) (p : Nat) :
    level (ascending sources) p = level sources p :=
  Sorting.level_mergeSort sources p

theorem decides_ascending_iff : Decides find (ascending sources) v ↔ Decides find sources v := by
  simp only [decides_iff_level, level_ascending]
  simp only [ascending, List.mem_mergeSort]

/-- In ascending order the last source that has a text decides. -/
theorem decides_iff_lastGives
    (h : sources.Pairwise fun a b => decide (a.priority ≤ b.priority) = true) :
    Decides find sources v ↔ LastGives find sources v := by
  constructor
  · rintro ⟨before, s, after, rfl, hgives, -, hafter⟩
    have hrest := (List.pairwise_cons.mp (List.pairwise_append.mp h).2.1).1
    refine ⟨before, s, after, rfl, hgives, fun t ht => (hafter t ht).resolve_left fun hlt => ?_⟩
    exact Nat.not_lt.mpr (of_decide_eq_true (hrest t ht)) hlt
  · rintro ⟨before, s, after, rfl, hgives, hafter⟩
    refine ⟨before, s, after, rfl, hgives, fun t ht => Or.inl ?_, fun t ht => Or.inr (hafter t ht)⟩
    exact of_decide_eq_true ((List.pairwise_append.mp h).2.2 t ht s List.mem_cons_self)

theorem decides_iff_lastGives_ascending :
    Decides find sources v ↔ LastGives find (ascending sources) v := by
  rw [← decides_ascending_iff]
  exact decides_iff_lastGives
    (List.pairwise_mergeSort (Sorting.rank_trans _) (Sorting.rank_total _) sources)

theorem exists_lastGives_or_silent (find : SettingValues → Option String)
    (sources : List SettingSource) :
    (∃ v, LastGives find sources v) ∨ ∀ s ∈ sources, s.Silent find := by
  induction sources with
  | nil => exact Or.inr nofun
  | cons s sources ih =>
      rcases ih with ⟨v, hv⟩ | hsilent
      · exact Or.inl ⟨v, lastGives_cons_iff.mpr (Or.inl hv)⟩
      · by_cases hs : s.Silent find
        · exact Or.inr (List.forall_mem_cons.mpr ⟨hs, hsilent⟩)
        · obtain ⟨v, hv⟩ := not_forall_not.mp hs
          exact Or.inl ⟨v, lastGives_cons_iff.mpr (Or.inr ⟨hv, hsilent⟩)⟩

/-- Some source decides, unless none has a text. -/
theorem exists_decides_or_silent (find : SettingValues → Option String)
    (sources : List SettingSource) :
    (∃ v, Decides find sources v) ∨ ∀ s ∈ sources, s.Silent find := by
  simp only [decides_iff_lastGives_ascending]
  rcases exists_lastGives_or_silent find (ascending sources) with h | h
  · exact Or.inl h
  · exact Or.inr fun s hs => h s (List.mem_mergeSort.mpr hs)

theorem not_silent_of_decides (h : Decides find sources v) : ¬ ∀ s ∈ sources, s.Silent find := by
  obtain ⟨before, s, after, rfl, hgives, -, -⟩ := h
  exact fun hsilent => hsilent s (by simp) v hgives

/-- Two ways to find a text that agree on all sources have the same source decide. -/
theorem Decides.congr {find' : SettingValues → Option String}
    (hsame : ∀ s ∈ sources, ∀ values, s.load = .ok values → find values = find' values)
    (h : Decides find sources v) : Decides find' sources v := by
  have hgives : ∀ s ∈ sources, ∀ w, s.Gives find' w ↔ s.Gives find w := by
    intro s hs w
    refine exists_congr fun values => and_congr_right fun hload => ?_
    rw [hsame s hs values hload]
  have hsilent : ∀ s ∈ sources, s.Silent find → s.Silent find' :=
    fun s hs h w hw => h w ((hgives s hs w).mp hw)
  obtain ⟨before, s, after, rfl, hs, hbefore, hafter⟩ := h
  refine ⟨before, s, after, rfl, (hgives s (by simp) v).mpr hs, fun t ht => ?_, fun t ht => ?_⟩
  · exact (hbefore t ht).imp_right (hsilent t (by simp [ht]))
  · exact (hafter t ht).imp_right (hsilent t (by simp [ht]))

end SettingSource

open SettingSource

variable {sources : List SettingSource} {v : String}

/-! ## Sources put together -/

namespace SettingValues

variable {values loaded : SettingValues}

theorem loadAll_ok_iff :
    (∃ loaded, loadAll values sources = .ok loaded) ↔
      ∀ s ∈ sources, ∃ loaded, s.load = .ok loaded := by
  induction sources generalizing values with
  | nil => exact iff_of_true ⟨values, rfl⟩ nofun
  | cons s sources ih =>
      rw [List.forall_mem_cons, loadAll]
      cases s.load with
      | error e => simp
      | ok loaded => simpa using ih

/-- Each key has the text of the last source that has the key, if there is one. -/
theorem get?_loadAll_iff (hproper : ∀ s ∈ sources, s.Proper)
    (h : loadAll values sources = .ok loaded) (key : String) :
    loaded.get? key = some v ↔
      LastGives (fun m => m.get? key) sources v ∨
        (∀ s ∈ sources, s.Silent fun m => m.get? key) ∧ values.get? key = some v := by
  induction sources generalizing values with
  | nil =>
      obtain rfl := Except.ok.inj h
      simp [LastGives]
  | cons s sources ih =>
      obtain ⟨hs, hrest⟩ := List.forall_mem_cons.mp hproper
      rw [loadAll] at h
      cases hload : s.load with
      | error e =>
          rw [hload] at h
          cases h
      | ok own =>
          rw [hload] at h
          have hkeys := nodup_keys_of_load hs hload
          rw [ih hrest h, lastGives_cons_iff, gives_iff_of_load hload, List.forall_mem_cons,
            silent_iff_of_load hload, OrderedMap.get?_insertAll_toList values hkeys]
          cases own.get? key with
          | none => simp
          | some w => simp [and_comm]

end SettingValues

/-! ## Settings -/

namespace Settings

/-- Settings whose recognised keys are parsed from given texts. -/
structure ParsedBy (find : String → Option String) (s : Settings) : Prop where
  debugAuthorization : s.debugAuthorization =
    ((find "debug_all").any isTruthy || (find "debug_authorization").any isTruthy)
  debugNotFound : s.debugNotFound =
    ((find "debug_all").any isTruthy || (find "debug_notfound").any isTruthy)
  debugRouteMatch : s.debugRouteMatch =
    ((find "debug_all").any isTruthy || (find "debug_routematch").any isTruthy)
  preventHttpCache : s.preventHttpCache = (find "prevent_http_cache").any isTruthy
  defaultLocaleName : s.defaultLocaleName = (find "default_locale_name").getD "en"
  tweens : s.tweens = ((find "tweens").map Text.words).getD []

theorem flag_eq (values : SettingValues) (key : String) :
    flag values key = (lookup? values key).any isTruthy := by
  cases h : lookup? values key <;> simp [flag, h]

theorem parsedBy_ofValues (values : SettingValues) :
    (ofValues values).ParsedBy (lookup? values) where
  debugAuthorization := by simp only [ofValues, flag_eq]
  debugNotFound := by simp only [ofValues, flag_eq]
  debugRouteMatch := by simp only [ofValues, flag_eq]
  preventHttpCache := by simp only [ofValues, flag_eq]
  defaultLocaleName := rfl
  tweens := rfl

theorem ofSources_ok_iff {settings : Settings} :
    ofSources sources = .ok settings ↔
      ∃ values, SettingValues.loadAll {} (ascending sources) = .ok values ∧
        ofValues values = settings := by
  change (SettingValues.loadAll {} (ascending sources)).map ofValues = _ ↔ _
  cases SettingValues.loadAll {} (ascending sources) with
  | error e => simp [Except.map]
  | ok values => simp [Except.map]

variable {settings : Settings}

/-- A key, as it is spelled, has the text of the source that decides. -/
theorem get?_ofSources (hproper : ∀ s ∈ sources, s.Proper) (h : ofSources sources = .ok settings)
    (key : String) :
    settings.values.get? key = some v ↔ Decides (fun m => m.get? key) sources v := by
  obtain ⟨values, hload, rfl⟩ := ofSources_ok_iff.mp h
  have hascending : ∀ s ∈ ascending sources, s.Proper :=
    fun s hs => hproper s (List.mem_mergeSort.mp hs)
  change values.get? key = some v ↔ _
  rw [SettingValues.get?_loadAll_iff hascending hload, decides_iff_lastGives_ascending]
  exact or_iff_left fun hempty => Option.some_ne_none v hempty.2.symm

/-- The text of a recognised key is that of the source that decides its bare spelling; the marked
spelling counts where no source has the bare one. -/
theorem lookup?_ofSources_iff (hproper : ∀ s ∈ sources, s.Proper)
    (h : ofSources sources = .ok settings) (key : String) :
    lookup? settings.values key = some v ↔
      Decides (fun m => m.get? key) sources v ∨
        (∀ s ∈ sources, s.Silent fun m => m.get? key) ∧
          Decides (fun m => m.get? (mark ++ key)) sources v := by
  rw [lookup?, ← get?_ofSources hproper h key, ← get?_ofSources hproper h (mark ++ key)]
  rcases exists_decides_or_silent (fun m => m.get? key) sources with ⟨w, hw⟩ | hsilent
  · have hbare := (get?_ofSources hproper h key).mpr hw
    simp [hbare, not_silent_of_decides hw]
  · have hbare : settings.values.get? key = none :=
      Option.eq_none_iff_forall_ne_some.mpr fun w hw =>
        not_silent_of_decides ((get?_ofSources hproper h key).mp hw) hsilent
    simpa [hbare] using fun _ => hsilent

/-- Without a bare spelling anywhere, the marked one alone decides. -/
theorem decides_marked (key : String) (hsilent : ∀ s ∈ sources, s.Silent fun m => m.get? key)
    (h : Decides (fun m => lookup? m key) sources v) :
    Decides (fun m => m.get? (mark ++ key)) sources v := by
  refine h.congr fun s hs values hload => ?_
  have hbare : values.get? key = none := (silent_iff_of_load hload).mp (hsilent s hs)
  simp [lookup?, hbare]

/-- **The most important source decides a setting, up to its spelling.** Settings come from sources
exactly when all of these can be loaded, and recognised keys are then parsed from what is found
under their two spellings. That is the text of the most important source that has the key in either
spelling, bare before marked within the source, exactly when no source has the bare spelling, or the
most important one that has it has this text there. -/
theorem decided_by_priority_iff (hproper : ∀ s ∈ sources, s.Proper) :
    ((∃ settings, ofSources sources = .ok settings) ↔
      ∀ s ∈ sources, ∃ values, s.load = .ok values) ∧
    ∀ settings, ofSources sources = .ok settings →
      settings.ParsedBy (lookup? settings.values) ∧
      ∀ key v, Decides (fun m => lookup? m key) sources v →
        (lookup? settings.values key = some v ↔
          (∀ s ∈ sources, s.Silent fun m => m.get? key) ∨
            Decides (fun m => m.get? key) sources v) := by
  refine ⟨?_, fun settings h => ⟨?_, fun key v hdecides => ?_⟩⟩
  · have hload : (∃ loaded, SettingValues.loadAll {} (ascending sources) = .ok loaded) ↔
        ∀ s ∈ ascending sources, ∃ loaded, s.load = .ok loaded := SettingValues.loadAll_ok_iff
    simp only [ascending, List.mem_mergeSort] at hload
    rw [← hload]
    constructor
    · rintro ⟨settings, h⟩
      obtain ⟨values, hvalues, -⟩ := ofSources_ok_iff.mp h
      exact ⟨values, hvalues⟩
    · rintro ⟨values, hvalues⟩
      exact ⟨_, ofSources_ok_iff.mpr ⟨values, hvalues, rfl⟩⟩
  · obtain ⟨values, -, rfl⟩ := ofSources_ok_iff.mp h
    exact parsedBy_ofValues values
  · rw [lookup?_ofSources_iff hproper h, or_comm]
    exact or_congr_left (and_iff_left_of_imp fun hsilent => decides_marked key hsilent hdecides)

def variableAndDefault : List SettingSource :=
  [.environment SettingSource.defaultStart [("CORNICE_DEBUG_NOTFOUND", "true")],
    .memory (.ofList [("debug_notfound", "false"), ("cornice.debug_notfound", "false")])]

/-- The variable decides, in whatever order the sources are given. -/
theorem decided_by_environment :
    (∀ s ∈ variableAndDefault, s.Proper) ∧
      Decides (fun m => lookup? m "debug_notfound") variableAndDefault "true" ∧
      ∃ settings, ofSources variableAndDefault = .ok settings ∧
        lookup? settings.values "debug_notfound" = some "true" := by
  have hproper : ∀ s ∈ variableAndDefault, s.Proper := by
    simp [variableAndDefault, SettingSource.Proper]
  have hload : (SettingSource.environment SettingSource.defaultStart
      [("CORNICE_DEBUG_NOTFOUND", "true")]).load = .ok (.ofList [("debug_notfound", "true")]) := by
    decide +kernel
  -- nothing is given after the variable that is as important
  have hdecides : ∀ find : SettingValues → Option String,
      find (.ofList [("debug_notfound", "true")]) = some "true" →
        Decides find variableAndDefault "true" := fun find hfind =>
    ⟨[], _, [_], rfl, ⟨_, hload, hfind⟩, nofun, by simp [SettingSource.priority]⟩
  obtain ⟨hloads, hdecided⟩ := decided_by_priority_iff hproper
  obtain ⟨settings, h⟩ := hloads.mpr
    (List.forall_mem_cons.mpr ⟨⟨_, hload⟩, List.forall_mem_singleton.mpr ⟨_, rfl⟩⟩)
  exact ⟨hproper, hdecides _ (by decide), settings, h,
    ((hdecided settings h).2 _ _ (hdecides _ (by decide))).mpr (Or.inr (hdecides _ (by decide)))⟩

def markedFile : SettingSource :=
  .file "settings.toml" (some "[cornice]\ndebug_notfound = true\n")

def defaultAndFile : List SettingSource :=
  [.memory (.ofList [("debug_notfound", "false")]), markedFile]

/-- The default stands although the file is more important. -/
theorem not_decided_behind_mark :
    ∃ settings, ofSources defaultAndFile = .ok settings ∧
      Decides (fun m => lookup? m "debug_notfound") defaultAndFile "true" ∧
      isTruthy "true" = true ∧ lookup? settings.values "debug_notfound" = some "false" ∧
      settings.debugNotFound = false := by
  have hascending : ascending defaultAndFile = defaultAndFile :=
    List.mergeSort_of_pairwise (by simp [defaultAndFile, markedFile, SettingSource.priority])
  have hload : SettingValues.loadAll {} (ascending defaultAndFile) = .ok (.ofList
      [("debug_notfound", "false"), ("cornice.debug_notfound", "true")]) := by
    rw [hascending]
    decide +kernel
  have hfile : markedFile.load = .ok (.ofList [("cornice.debug_notfound", "true")]) := by
    decide +kernel
  refine ⟨_, ofSources_ok_iff.mpr ⟨_, hload, rfl⟩, ⟨[_], _, [], rfl, ⟨_, hfile, ?_⟩, ?_, nofun⟩, ?_⟩
  · decide
  · simp [markedFile, SettingSource.priority]
  · decide +kernel

end Settings

end WebDispatch
