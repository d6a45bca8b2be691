import CardHealth.Proofs.Monitor.Memory

/-!
# Kept settings and the kept engine

Settings and the engine are kept once they have been had, each until it is cleared.  A `Cache` is
either of them.  What a step leaves in a cache is what was there before, or what could be had then
(`Cache.Fills`); so whatever is had between two clears is what could be had when it was first had
(`Cache.exists_isFirst`).  `caches_cohere` says what that means for the settings, the engine and the
name of the application.
-/

namespace CardHealth

open Http Config

namespace Monitor

variable {m next last : Monitor}

/-! ### What is kept -/

theorem settings_keptSettings (m : Monitor) :
    m.settings.2.keptSettings = m.settings.1.toOption := by
  unfold settings
  cases hkept : m.keptSettings with
  | some settings => exact hkept
  | none =>
    cases Settings.read [] m.host.environment m.host.variableFile with
    | error e => exact hkept
    | ok settings => rfl

theorem settings_keptEngine (m : Monitor) : m.settings.2.keptEngine = m.keptEngine := by
  obtain ⟨settings, hframe⟩ := m.settings_frame
  rw [hframe]

theorem engine_keptEngine (m : Monitor) : m.engine.2.keptEngine = m.engine.1.toOption := by
  have hsame := m.settings_keptEngine
  unfold engine
  cases hkept : m.keptEngine with
  | some engine => exact hkept
  | none =>
    generalize m.settings = result at hsame ⊢
    obtain ⟨outcome, next⟩ := result
    cases outcome with
    | error f => exact hsame.trans hkept
    | ok settings =>
      dsimp only at hsame ⊢
      cases Engine.ofSettings settings with
      | error e => exact hsame.trans hkept
      | ok engine => rfl

/-- Having the engine leaves settings that are had for it. -/
theorem engine_keptSettings (m : Monitor) :
    m.engine.2.keptSettings =
      if m.keptEngine.isSome then m.keptSettings else m.settings.1.toOption := by
  rw [← m.settings_keptSettings]
  unfold engine
  cases m.keptEngine with
  | some engine => rfl
  | none =>
    generalize m.settings = result
    obtain ⟨outcome, next⟩ := result
    cases outcome with
    | error f => rfl
    | ok settings =>
      dsimp only
      cases Engine.ofSettings settings <;> rfl

theorem settings_fst_of_kept {settings : Settings} (h : m.keptSettings = some settings) :
    m.settings.1 = .ok settings := by
  rw [settings_fst, h]

theorem engine_fst_of_kept {engine : Engine} (h : m.keptEngine = some engine) :
    m.engine.1 = .ok engine := by
  rw [engine_fst, h]

theorem settings_fst_of_not_kept (h : m.keptSettings = none) :
    m.settings.1 =
      (Settings.read [] m.host.environment m.host.variableFile).mapError .settings := by
  rw [settings_fst, h]

theorem engine_fst_of_not_kept (h : m.keptEngine = none) :
    m.engine.1 =
      m.settings.1 >>= fun settings => (Engine.ofSettings settings).mapError .engine := by
  rw [engine_fst, h]

/-! ### Caches -/

/-- Something that is kept once it has been had. -/
structure Cache (α : Type) where
  kept : Monitor → Option α
  had : Monitor → Except Failure α
  had_of_kept : ∀ {m : Monitor} {a : α}, kept m = some a → had m = .ok a

/-- The settings as they are kept. -/
def settingsCache : Cache Settings :=
  ⟨keptSettings, fun m => m.settings.1, settings_fst_of_kept⟩

/-- The engine as it is kept. -/
def engineCache : Cache Engine :=
  ⟨keptEngine, fun m => m.engine.1, engine_fst_of_kept⟩

namespace Cache

variable {α : Type} (cache : Cache α)

theorem kept_eq_none {f : Failure} (h : cache.had m = .error f) : cache.kept m = none := by
  cases hkept : cache.kept m with
  | none => rfl
  | some a => cases h.symm.trans (cache.had_of_kept hkept)

/-- What is kept stays, or what can be had is kept. -/
def Fills (m next : Monitor) : Prop :=
  cache.kept next = cache.kept m ∨ cache.kept next = (cache.had m).toOption

variable {cache} {steps : List Step} {a : α}

/-- What is kept stays as it is. -/
theorem Fills.kept_eq (h : cache.Fills m next) (hm : cache.kept m = some a) :
    cache.kept next = some a := by
  rcases h with h | h
  · rw [h, hm]
  · rw [h, cache.had_of_kept hm]
    rfl

/-- What is kept after nothing was kept could be had before. -/
theorem Fills.had_eq (h : cache.Fills m next) (hm : cache.kept m = none)
    (hnext : cache.kept next = some a) : cache.had m = .ok a := by
  rcases h with h | h
  · rw [hnext, hm] at h
    cases h
  · exact eq_ok_of_toOption_eq_some (h.symm.trans hnext)

/-- **What is kept stays**, whatever happens but a clear. -/
theorem run_kept (hsteps : ∀ step ∈ steps, ∀ m, cache.Fills m (m.perform step).2)
    (hm : cache.kept m = some a) : cache.kept (m.run steps).2 = some a :=
  run_preserves (P := fun m => cache.kept m = some a)
    (Q := fun step => ∀ m, cache.Fills m (m.perform step).2)
    (fun m _ hm hstep => (hstep m).kept_eq hm) hm hsteps

/-- The part of the steps after which something was had and kept, for the first time. -/
structure IsFirst (cache : Cache α) (m : Monitor) (steps first : List Step) (a : α) : Prop where
  isPrefix : first <+: steps
  /-- Until then, nothing was kept. -/
  before : ∀ earlier, earlier <+: first → cache.kept (m.run earlier).2 = none
  had : cache.had (m.run first).2 = .ok a
  /-- From the next step on, it is kept. -/
  after : ∀ later, first <+: later → later <+: steps → later ≠ first →
    cache.kept (m.run later).2 = some a

/-- **What is had is what could be had first**: if nothing was kept, and something can be had in the
end, there is a first time when it could be had and was kept from then on. -/
theorem exists_isFirst (hsteps : ∀ step ∈ steps, ∀ m, cache.Fills m (m.perform step).2)
    (hm : cache.kept m = none) (hlast : cache.had (m.run steps).2 = .ok a) :
    ∃ first, cache.IsFirst m steps first a := by
  -- The first step decides whether that was it, or the first time is to come.
  induction steps generalizing m with
  | nil =>
    refine ⟨[], List.nil_prefix, fun earlier h => ?_, hlast, fun later _ h hne => ?_⟩
    · obtain rfl := List.prefix_nil.mp h
      exact hm
    · exact absurd (List.prefix_nil.mp h) hne
  | cons step steps ih =>
    obtain ⟨hstep, hrest⟩ := List.forall_mem_cons.mp hsteps
    cases hkept : cache.kept (m.perform step).2 with
    | none =>
      obtain ⟨first, hfirst, hearlier, hhad, hlater⟩ := ih hrest hkept hlast
      refine ⟨step :: first, List.cons_prefix_cons.mpr ⟨rfl, hfirst⟩, fun earlier h => ?_, hhad,
        fun later h hsteps hne => ?_⟩
      · rcases List.prefix_cons_iff.mp h with rfl | ⟨rest, rfl, hpart⟩
        · exact hm
        · exact hearlier rest hpart
      · rcases List.prefix_cons_iff.mp hsteps with rfl | ⟨rest, rfl, hpart⟩
        · cases List.prefix_nil.mp h
        · exact hlater rest (List.cons_prefix_cons.mp h).2 hpart fun heq => hne (heq ▸ rfl)
    | some b =>
      -- It was had in this step, and is what is had in the end.
      obtain rfl : b = a :=
        Except.ok.inj ((cache.had_of_kept (run_kept hrest hkept)).symm.trans hlast)
      refine ⟨[], List.nil_prefix, fun earlier h => ?_, (hstep m).had_eq hm hkept,
        fun later _ hsteps hne => ?_⟩
      · obtain rfl := List.prefix_nil.mp h
        exact hm
      · rcases List.prefix_cons_iff.mp hsteps with rfl | ⟨rest, rfl, hpart⟩
        · exact absurd rfl hne
        · exact run_kept (m := (m.perform step).2)
            (fun step hmem => hrest step (hpart.subset hmem)) hkept

end Cache

/-! ### Steps -/

/-- Both caches are filled, or stay as they are. -/
structure Fills (m next : Monitor) : Prop where
  settings : settingsCache.Fills m next
  engine : engineCache.Fills m next

namespace Fills

theorem refl (m : Monitor) : m.Fills m :=
  ⟨.inl rfl, .inl rfl⟩

theorem having_settings (m : Monitor) : m.Fills m.settings.2 :=
  ⟨.inr m.settings_keptSettings, .inl m.settings_keptEngine⟩

theorem having_engine (m : Monitor) : m.Fills m.engine.2 := by
  refine ⟨?_, .inr m.engine_keptEngine⟩
  show m.engine.2.keptSettings = m.keptSettings ∨
    m.engine.2.keptSettings = m.settings.1.toOption
  rw [m.engine_keptSettings]
  split
  · exact .inl rfl
  · exact .inr rfl

theorem of_isUsed (h : m.IsUsed next) : m.Fills next := by
  obtain rfl | ⟨count, -, log, rfl⟩ := h
  · exact refl _
  · have h := having_engine m
    exact ⟨h.settings, h.engine⟩

/-- On the same host, filled caches do not change what can be had. -/
theorem settings_fst_eq (h : m.Fills next) (hhost : next.host = m.host) :
    next.settings.1 = m.settings.1 := by
  cases hkept : m.keptSettings with
  | some settings =>
    have hnext : next.keptSettings = some settings := h.settings.kept_eq hkept
    rw [settings_fst_of_kept hnext, settings_fst_of_kept hkept]
  | none =>
    cases hnext : next.keptSettings with
    | none => rw [settings_fst_of_not_kept hnext, settings_fst_of_not_kept hkept, hhost]
    | some settings =>
      have hhad : m.settings.1 = .ok settings := h.settings.had_eq hkept hnext
      rw [settings_fst_of_kept hnext, hhad]

theorem engine_fst_eq (h : m.Fills next) (hhost : next.host = m.host) :
    next.engine.1 = m.engine.1 := by
  cases hkept : m.keptEngine with
  | some engine =>
    have hnext : next.keptEngine = some engine := h.engine.kept_eq hkept
    rw [engine_fst_of_kept hnext, engine_fst_of_kept hkept]
  | none =>
    cases hnext : next.keptEngine with
    | none =>
      rw [engine_fst_of_not_kept hnext, engine_fst_of_not_kept hkept, h.settings_fst_eq hhost]
    | some engine =>
      have hhad : m.engine.1 = .ok engine := h.engine.had_eq hkept hnext
      rw [engine_fst_of_kept hnext, hhad]

theorem trans (h : m.Fills next) (hhost : next.host = m.host) (hlast : next.Fills last) :
    m.Fills last := by
  constructor
  · rcases hlast.settings with hsame | hfilled
    · exact h.settings.imp hsame.trans hsame.trans
    · exact .inr (hfilled.trans (congrArg Except.toOption (h.settings_fst_eq hhost)))
  · rcases hlast.engine with hsame | hfilled
    · exact h.engine.imp hsame.trans hsame.trans
    · exact .inr (hfilled.trans (congrArg Except.toOption (h.engine_fst_eq hhost)))

end Fills

theorem performEngine_snd (m : Monitor) :
    m.performEngine.2 = m.engine.2 ∨ m.performEngine.2 = m.engine.2.engine.2 := by
  unfold performEngine
  generalize m.engine = result
  obtain ⟨outcome, next⟩ := result
  cases outcome with
  | error f => exact .inl rfl
  | ok engine =>
    right
    dsimp only
    generalize next.engine = again
    obtain ⟨outcome, last⟩ := again
    cases outcome <;> rfl

theorem reload_snd_of_ok {settings : Settings} (h : m.settings.1 = .ok settings) :
    m.reload.2 = { m.settings.2 with appName := settings.appName } := by
  unfold reload
  generalize m.settings = result at h ⊢
  obtain ⟨outcome, next⟩ := result
  obtain rfl := h
  dsimp only
  split <;> rfl

theorem reload_snd_of_error {f : Failure} (h : m.settings.1 = .error f) :
    m.reload.2 = m.settings.2 := by
  unfold reload
  generalize m.settings = result at h ⊢
  obtain ⟨outcome, next⟩ := result
  obtain rfl := h
  rfl

theorem reload_fills (m : Monitor) : m.Fills m.reload.2 := by
  have h := Fills.having_settings m
  cases hsettings : m.settings.1 with
  | ok settings =>
    rw [reload_snd_of_ok hsettings]
    exact ⟨h.settings, h.engine⟩
  | error f =>
    rw [reload_snd_of_error hsettings]
    exact h

theorem change_fills {α : Type} (m : Monitor)
    (f : Store.Database → Except Store.Error (Store.Database × α)) : m.Fills (m.change f).2 := by
  have h := Fills.of_isUsed (m.change_isUsed f)
  exact ⟨h.settings, h.engine⟩

/-- **A step fills caches or leaves them as they are**, unless it clears them. -/
theorem perform_fills {step : Step} (hstep : ∀ settings engine, step ≠ .clear settings engine)
    (m : Monitor) : m.Fills (m.perform step).2 := by
  cases step with
  | load | update | delete | createTables | dropTable =>
    rw [perform, ofOutcome_snd]
    exact m.change_fills _
  | list | request | openAndClose | session => exact .of_isUsed (perform_isUsed rfl m)
  | smoke raises clock =>
    have hrespond (next : Monitor) (r : Request) (h : m.Fills next ∧ next.host = m.host) :
        m.Fills (next.respond r).2 ∧ (next.respond r).2.host = m.host :=
      ⟨h.1.trans h.2 (.of_isUsed (next.respond_isUsed r)), (next.respond_host r).trans h.2⟩
    -- Between its requests the host stays the same, so what can be had does.
    exact (SmokeClient.run_preserves hrespond ⟨.refl m, rfl⟩ raises clock).1
  | setVariables | writeFile | makeDirectory => exact ⟨.inl rfl, .inl rfl⟩
  | clear settings engine => exact absurd rfl (hstep settings engine)
  | settings =>
    rw [perform, ofOutcome_snd]
    exact .having_settings m
  | engine =>
    show m.Fills m.performEngine.2
    rcases m.performEngine_snd with h | h
    · rw [h]
      exact .having_engine m
    · rw [h]
      exact (Fills.having_engine m).trans m.engine_host (.having_engine _)
  | reload =>
    rw [perform, ofOutcome_snd]
    exact m.reload_fills

/-- Whether a step clears the settings. -/
def Step.clearsSettings : Step → Bool
  | .clear cleared _ => cleared
  | _ => false

/-- Whether a step clears the engine. -/
def Step.clearsEngine : Step → Bool
  | .clear _ cleared => cleared
  | _ => false

theorem perform_fills_settings {step : Step} (hstep : step.clearsSettings = false) (m : Monitor) :
    settingsCache.Fills m (m.perform step).2 := by
  cases step with
  | clear settings engine =>
    obtain rfl : settings = false := hstep
    exact .inl rfl
  | _ => exact (perform_fills (by simp) m).settings

theorem perform_fills_engine {step : Step} (hstep : step.clearsEngine = false) (m : Monitor) :
    engineCache.Fills m (m.perform step).2 := by
  cases step with
  | clear settings engine =>
    obtain rfl : engine = false := hstep
    exact .inl rfl
  | _ => exact (perform_fills (by simp) m).engine

/-! ### The name of the application -/

theorem change_appName {α : Type} (m : Monitor)
    (f : Store.Database → Except Store.Error (Store.Database × α)) :
    (m.change f).2.appName = m.appName :=
  (m.change_isUsed f).appName_eq

theorem perform_appName {step : Step} (hstep : step ≠ .reload) (m : Monitor) :
    (m.perform step).2.appName = m.appName := by
  cases step with
  | load | update | delete | createTables | dropTable =>
    rw [perform, ofOutcome_snd]
    exact m.change_appName _
  | list | request | openAndClose | session => exact (perform_isUsed rfl m).appName_eq
  | smoke raises clock =>
    have hrespond (next : Monitor) (r : Request) (h : next.appName = m.appName) :
        (next.respond r).2.appName = m.appName :=
      (next.respond_isUsed r).appName_eq.trans h
    exact SmokeClient.run_preserves hrespond rfl raises clock
  | setVariables | writeFile | makeDirectory | clear => rfl
  | settings =>
    rw [perform, ofOutcome_snd]
    exact m.settings_appName
  | engine =>
    show m.performEngine.2.appName = m.appName
    rcases m.performEngine_snd with h | h
    · rw [h, engine_appName]
    · rw [h, engine_appName, engine_appName]
  | reload => exact absurd rfl hstep

/-- The application keeps its name as long as it is not loaded anew under settings. -/
theorem run_appName {steps : List Step}
    (hreloads : ∀ before after, steps = before ++ .reload :: after →
      ∃ f, (m.run before).2.settings.1 = .error f) : (m.run steps).2.appName = m.appName := by
  induction steps generalizing m with
  | nil => rfl
  | cons step steps ih =>
    have hstep : (m.perform step).2.appName = m.appName := by
      by_cases hreload : step = .reload
      · subst hreload
        obtain ⟨f, hf⟩ : ∃ f, m.settings.1 = .error f := hreloads [] steps rfl
        rw [perform, ofOutcome_snd, reload_snd_of_error hf, settings_appName]
      · exact perform_appName hreload m
    rw [← hstep]
    refine ih fun before after hsplit => hreloads (step :: before) after ?_
    rw [hsplit, List.cons_append]

theorem respond_root {r : Request} (hpreflight : Cors.isPreflight r = false)
    (hroute : Route.find r.method (Text.percentDecode r.path.toList) = .handled .root)
    (m : Monitor) :
    (m.respond r).1 = .ofResponse r (.json 200 (.object [("app", .string m.appName)])) := by
  rw [respond, hpreflight, hroute]
  rfl

/-! ### Coherence -/

theorem settings_snd_of_error {f : Failure} (h : m.settings.1 = .error f) : m.settings.2 = m := by
  unfold settings at h ⊢
  cases hkept : m.keptSettings with
  | some settings => simp [hkept] at h
  | none =>
    cases hread : Settings.read [] m.host.environment m.host.variableFile with
    | error e => rfl
    | ok settings => simp [hkept, hread] at h

theorem engine_snd_of_error {f : Failure} (h : m.engine.1 = .error f) :
    m.engine.2 = m.settings.2 := by
  unfold engine at h ⊢
  cases hkept : m.keptEngine with
  | some engine => simp [hkept] at h
  | none =>
    rw [hkept] at h
    generalize m.settings = result at h ⊢
    obtain ⟨outcome, next⟩ := result
    cases outcome with
    | error f => rfl
    | ok settings =>
      dsimp only at h ⊢
      cases hof : Engine.ofSettings settings with
      | error e => rfl
      | ok engine => simp [hof] at h

/-- Settings that are had for the first time are those of the host then. -/
theorem read_of_isFirst {steps first : List Step} {s : Settings}
    (h : settingsCache.IsFirst m steps first s) :
    Settings.read [] (m.run first).2.host.environment (m.run first).2.host.variableFile =
      .ok s := by
  have hnone : (m.run first).2.keptSettings = none := h.before first List.prefix_rfl
  have hhad : (m.run first).2.settings.1 = .ok s := h.had
  rw [settings_fst_of_not_kept hnone] at hhad
  exact mapError_eq_ok_iff.mp hhad

/-- An engine that is had for the first time is the one for the settings then. -/
theorem ofSettings_of_isFirst {steps first : List Step} {e : Engine}
    (h : engineCache.IsFirst m steps first e) :
    ∃ s, (m.run first).2.settings.1 = .ok s ∧ Engine.ofSettings s = .ok e := by
  have hnone : (m.run first).2.keptEngine = none := h.before first List.prefix_rfl
  have hhad : (m.run first).2.engine.1 = .ok e := h.had
  rw [engine_fst_of_not_kept hnone] at hhad
  obtain ⟨s, hs, hof⟩ := bind_eq_ok_iff.mp hhad
  exact ⟨s, hs, mapError_eq_ok_iff.mp hof⟩

/-- **The caches are coherent**, whatever steps are performed.  As long as the settings are not
cleared, they are those that were had first, read from the environment and the variable file of that
time; and so is the engine, which was built for the settings that could be had at that time.  What
fails is kept nowhere, and is tried again the next time.  The application tells the name that it was
last loaded under.  Clearing the engine leaves the settings that can be had; clearing the settings
leaves the engine if it is kept, and otherwise the engine is built for settings that are read
anew. -/
theorem caches_cohere (m : Monitor) (steps : List Step) :
    ((∀ step ∈ steps, step.clearsSettings = false) →
      (∀ s, m.settings.1 = .ok s → (m.settings.2.run steps).2.settings.1 = .ok s) ∧
      (m.keptSettings = none → ∀ s, (m.run steps).2.settings.1 = .ok s →
        ∃ first, settingsCache.IsFirst m steps first s ∧
          Settings.read [] (m.run first).2.host.environment (m.run first).2.host.variableFile =
            .ok s)) ∧
    ((∀ step ∈ steps, step.clearsEngine = false) →
      (∀ e, m.engine.1 = .ok e → (m.engine.2.run steps).2.engine.1 = .ok e) ∧
      (m.keptEngine = none → ∀ e, (m.run steps).2.engine.1 = .ok e →
        ∃ first s, engineCache.IsFirst m steps first e ∧ (m.run first).2.settings.1 = .ok s ∧
          Engine.ofSettings s = .ok e)) ∧
    (∀ f, m.settings.1 = .error f → m.settings.2 = m ∧
      ∀ host : Host, ({ m with host } : Monitor).settings.1 =
        (Settings.read [] host.environment host.variableFile).mapError .settings) ∧
    (∀ f, m.engine.1 = .error f → m.engine.2 = m.settings.2 ∧
      ∀ host : Host, ({ m.settings.2 with host } : Monitor).engine.1 =
        ({ m.settings.2 with host } : Monitor).settings.1 >>= fun s =>
          (Engine.ofSettings s).mapError .engine) ∧
    (∀ s, m.settings.1 = .ok s →
      (∀ before after, steps = before ++ .reload :: after →
        ∃ f, (m.reload.2.run before).2.settings.1 = .error f) →
      ∀ r : Request, Cors.isPreflight r = false →
        Route.find r.method (Text.percentDecode r.path.toList) = .handled .root →
        ((m.reload.2.run steps).2.respond r).1 =
          .ofResponse r (.json 200 (.object [("app", .string s.appName)]))) ∧
    (m.clear false true).settings.1 = m.settings.1 ∧
    (∀ e, m.keptEngine = some e → (m.clear true false).engine.1 = .ok e) ∧
    (m.keptEngine = none → (m.clear true false).engine.1 =
      (Settings.read [] m.host.environment m.host.variableFile).mapError .settings >>= fun s =>
        (Engine.ofSettings s).mapError .engine) := by
  refine ⟨fun hsteps => ⟨fun s hs => ?_, fun hnone s hs => ?_⟩,
    fun hsteps => ⟨fun e he => ?_, fun hnone e he => ?_⟩, fun f hf => ⟨?_, fun host => ?_⟩,
    fun f hf => ⟨?_, fun host => ?_⟩, fun s hs hreloads r hpreflight hroute => ?_, ?_,
    fun e he => ?_, fun hnone => ?_⟩
  · have hkept : m.settings.2.keptSettings = some s := by rw [settings_keptSettings, hs]; rfl
    have hlast : settingsCache.kept (m.settings.2.run steps).2 = some s :=
      Cache.run_kept (fun step h => perform_fills_settings (hsteps step h)) hkept
    exact settings_fst_of_kept hlast
  · obtain ⟨first, hfirst⟩ : ∃ first, settingsCache.IsFirst m steps first s :=
      Cache.exists_isFirst (fun step h => perform_fills_settings (hsteps step h)) hnone hs
    exact ⟨first, hfirst, read_of_isFirst hfirst⟩
  · have hkept : m.engine.2.keptEngine = some e := by rw [engine_keptEngine, he]; rfl
    have hlast : engineCache.kept (m.engine.2.run steps).2 = some e :=
      Cache.run_kept (fun step h => perform_fills_engine (hsteps step h)) hkept
    exact engine_fst_of_kept hlast
  · obtain ⟨first, hfirst⟩ : ∃ first, engineCache.IsFirst m steps first e :=
      Cache.exists_isFirst (fun step h => perform_fills_engine (hsteps step h)) hnone he
    obtain ⟨s, hs, hof⟩ := ofSettings_of_isFirst hfirst
    exact ⟨first, s, hfirst, hs, hof⟩
  · exact settings_snd_of_error hf
  · exact settings_fst_of_not_kept (settingsCache.kept_eq_none hf)
  · exact engine_snd_of_error hf
  · have hnone : m.settings.2.keptEngine = none :=
      m.settings_keptEngine.trans (engineCache.kept_eq_none hf)
    exact engine_fst_of_not_kept hnone
  · rw [respond_root hpreflight hroute, run_appName hreloads, reload_snd_of_ok hs]
  · rw [settings_fst, settings_fst]
    rfl
  · exact engine_fst_of_kept he
  · have hsettings : (m.clear true false).settings.1 =
        (Settings.read [] m.host.environment m.host.variableFile).mapError .settings :=
      settings_fst_of_not_kept rfl
    rw [← hsettings]
    exact engine_fst_of_not_kept hnone

/-- A new service on a host with one variable. -/
def addressed : Monitor :=
  start { environment := [("CARDMONITOR_MYSQL_HOST", "a.example")] }

/-- The variable is changed. -/
def readdress : Step :=
  .setVariables [("CARDMONITOR_MYSQL_HOST", some "b.example")]

theorem caches_cohere_small :
    (addressed.settings.2.run [readdress, .clear false true, .engine]).2.settings.1 =
      .ok { mysqlHost := "a.example" } ∧
    (∃ first s e, engineCache.IsFirst addressed [.settings, readdress, .engine] first e ∧
      (addressed.run first).2.settings.1 = .ok s ∧ Engine.ofSettings s = .ok e) ∧
    ((addressed.reload.2.run [readdress, .clear true true]).2.respond (.ofPath "/")).1 =
      .ofResponse (.ofPath "/") (.json 200 (.object [("app", .string "Card Monitor")])) := by
  have hsettings : addressed.settings.1 = .ok { mysqlHost := "a.example" } :=
    eq_ok_of_toOption_eq_some (by decide +kernel)
  refine ⟨?_, ?_, ?_⟩
  · obtain ⟨hkept, -⟩ := caches_cohere addressed [readdress, .clear false true, .engine]
    exact (hkept (by decide)).1 _ hsettings
  · obtain ⟨-, hkept, -⟩ := caches_cohere addressed [.settings, readdress, .engine]
    have hengine : (addressed.run [.settings, readdress, .engine]).2.engine.1.toOption.isSome =
        true := by decide +kernel
    obtain ⟨e, he⟩ := Option.isSome_iff_exists.mp hengine
    obtain ⟨first, s, hfirst⟩ := (hkept (by decide)).2 rfl e (eq_ok_of_toOption_eq_some he)
    exact ⟨first, s, e, hfirst⟩
  · obtain ⟨-, -, -, -, hname, -⟩ := caches_cohere addressed [readdress, .clear true true]
    refine hname _ hsettings (fun before after hsplit => ?_) (.ofPath "/") (by decide)
      (by decide +kernel)
    have hmem : Step.reload ∈ [readdress, .clear true true] := by simp [hsplit]
    simp [readdress] at hmem

/-- Clearing the settings does not always leave the engine that can be had. -/
theorem not_forall_engine_eq_of_clear :
    ¬ ∀ m : Monitor, (m.clear true false).engine.1 = m.engine.1 := by
  intro h
  have hsame := congrArg (fun outcome => outcome.toOption.map fun engine => engine.url.host)
    (h (addressed.run [.settings, readdress]).2)
  revert hsame
  decide +kernel

end Monitor

end CardHealth
