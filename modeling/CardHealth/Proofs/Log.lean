import CardHealth.Log

/-!
# Setting up the root logger again and again

Only the first call for a level has an effect, whatever comes of it (`configureAll_cons`): it
installs the handler before it looks at the level, and a root logger with a handler is left as it
is.  So a first call that fails is not made good by a later one.  `TakesEffectOnce` says what one
would expect of a list of calls, and `first_call_decides` for which lists it is true.
-/

namespace CardHealth.Log

/-- The number of a level named in any case, if it is known. -/
def levelNumber? (level : String) : Option Nat :=
  levels.lookup (Text.upper level)

/-- Sets up the root logger for one level after the other, and tells the error of each call. -/
def configureAll (r : Root) : List String → Root × List (Option UnknownLevel)
  | [] => (r, [])
  | level :: levels =>
    let (r, e) := configure r level
    let (r, es) := configureAll r levels
    (r, e :: es)

variable {r : Root} {level : String}

/-! ### One call -/

/-- The first call installs a handler, and sets the level if it is known. -/
theorem configure_initial (level : String) :
    configure .initial level =
      match levelNumber? level with
      | some n => (⟨n, 1⟩, none)
      | none => (⟨Root.initial.level, 1⟩, some ⟨Text.upper level⟩) :=
  rfl

theorem configure_of_handlers (h : r.handlers ≠ 0) (level : String) :
    configure r level = (r, none) :=
  if_neg h

/-- There is a handler after every call, also after one that fails. -/
theorem handlers_configure_ne (r : Root) (level : String) : (configure r level).1.handlers ≠ 0 := by
  by_cases h : r.handlers = 0
  · unfold configure
    rw [if_pos h]
    dsimp only
    split <;> exact Nat.one_ne_zero
  · rw [configure_of_handlers h]
    exact h

/-! ### Lists of calls -/

/-- The first call, and then the others. -/
theorem configureAll_step (r : Root) (level : String) (levels : List String) :
    configureAll r (level :: levels) =
      ((configureAll (configure r level).1 levels).1,
        (configure r level).2 :: (configureAll (configure r level).1 levels).2) :=
  rfl

theorem configureAll_of_handlers (h : r.handlers ≠ 0) (levels : List String) :
    configureAll r levels = (r, levels.map fun _ => none) := by
  induction levels with
  | nil => rfl
  | cons level levels ih =>
    rw [configureAll_step, configure_of_handlers h, ih]
    rfl

/-- **Only the first call has an effect**, and only the first one can fail. -/
theorem configureAll_cons (r : Root) (level : String) (levels : List String) :
    configureAll r (level :: levels) =
      ((configure r level).1, (configure r level).2 :: levels.map fun _ => none) := by
  rw [configureAll_step, configureAll_of_handlers (handlers_configure_ne r level)]

/-- A call that is not the first one changes nothing. -/
theorem configure_configureAll_of_ne_nil {before : List String} (h : before ≠ [])
    (level : String) :
    configure (configureAll r before).1 level = ((configureAll r before).1, none) := by
  obtain ⟨first, rest, rfl⟩ := List.exists_cons_of_ne_nil h
  rw [configureAll_cons]
  exact configure_of_handlers (handlers_configure_ne r first) level

/-! ### What one would expect -/

/-- What one would expect of calls for a list of levels, which start at the initial root logger. -/
structure TakesEffectOnce (levels : List String) : Prop where
  /-- A call that fails changes nothing. -/
  eq_of_error : ∀ before level after e, levels = before ++ level :: after →
    (configure (configureAll .initial before).1 level).2 = some e →
    (configure (configureAll .initial before).1 level).1 = (configureAll .initial before).1
  /-- The first known level counts, and there is a handler if there is such a level. -/
  fst_eq : (configureAll .initial levels).1 =
    match levels.findSome? levelNumber? with
    | some n => ⟨n, 1⟩
    | none => .initial
  /-- After a call that does not fail, no call changes anything. -/
  eq_of_success : ∀ before first between level after,
    levels = before ++ first :: (between ++ level :: after) →
    (configure (configureAll .initial before).1 first).2 = none →
    (configure (configureAll .initial (before ++ first :: between)).1 level).1 =
      (configureAll .initial (before ++ first :: between)).1

theorem takesEffectOnce_nil : TakesEffectOnce [] where
  eq_of_error before level after e h := absurd h.symm (by simp)
  fst_eq := rfl
  eq_of_success before first between level after h := absurd h.symm (by simp)

theorem takesEffectOnce_cons {n : Nat} (h : levelNumber? level = some n) (levels : List String) :
    TakesEffectOnce (level :: levels) where
  eq_of_error before last after e hlevels herror := by
    cases before with
    | nil =>
      -- The first call does not fail.
      obtain ⟨rfl, -⟩ := List.cons_eq_cons.mp hlevels
      rw [configureAll, configure_initial, h] at herror
      cases herror
    | cons first rest =>
      rw [configure_configureAll_of_ne_nil (List.cons_ne_nil first rest)]
  fst_eq := by
    rw [configureAll_cons, configure_initial, List.findSome?_cons, h]
  eq_of_success before first between last after _ _ := by
    rw [configure_configureAll_of_ne_nil (by simp)]

/-- A first call that fails leaves a handler behind. -/
theorem not_takesEffectOnce_cons (h : levelNumber? level = none) (levels : List String) :
    ¬ TakesEffectOnce (level :: levels) := by
  intro hlevels
  have hcall : configure .initial level = (⟨30, 1⟩, some ⟨Text.upper level⟩) := by
    rw [configure_initial, h]
    rfl
  have hsame := hlevels.eq_of_error [] level levels ⟨Text.upper level⟩ rfl (by
    rw [configureAll, hcall])
  rw [configureAll, hcall] at hsame
  cases hsame

/-- **The first call decides**.  If its level is known, that is the level of the root logger, and
otherwise the root logger keeps its level and an error is raised; there is one handler afterwards in
both cases, and no later call changes or raises anything.  So the calls do what one would expect
exactly if there is none, or if the first one has a known level. -/
theorem first_call_decides (levels : List String) :
    configureAll .initial levels =
      (match levels with
      | [] => (.initial, [])
      | level :: rest =>
        match levelNumber? level with
        | some n => (⟨n, 1⟩, none :: rest.map fun _ => none)
        | none => (⟨Root.initial.level, 1⟩, some ⟨Text.upper level⟩ :: rest.map fun _ => none)) ∧
    (TakesEffectOnce levels ↔ ∀ level ∈ levels.head?, (levelNumber? level).isSome = true) := by
  cases levels with
  | nil => exact ⟨rfl, iff_of_true takesEffectOnce_nil (by simp)⟩
  | cons level levels =>
    cases h : levelNumber? level with
    | some n =>
      refine ⟨?_, iff_of_true (takesEffectOnce_cons h levels) (by simp [h])⟩
      simp only [configureAll_cons, configure_initial, h]
    | none =>
      refine ⟨?_, iff_of_false (not_takesEffectOnce_cons h levels) (by simp [h])⟩
      simp only [configureAll_cons, configure_initial, h]

/-- Calls do not always do what one would expect: after one for an unknown level, one for a known
level is without effect. -/
theorem not_forall_takesEffectOnce : ¬ ∀ levels, TakesEffectOnce levels := by
  intro h
  have hlevel : (configureAll .initial ["verbose", "debug"]).1 = ⟨10, 1⟩ :=
    (h ["verbose", "debug"]).fst_eq
  revert hlevel
  decide

end CardHealth.Log
