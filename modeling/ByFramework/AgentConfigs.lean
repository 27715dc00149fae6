import ByFramework.AgentConfigCore

/-! What the config manager keeps over any history of calls, and the calls that break it. -/

namespace ByFramework

open Collections AgentConfigManager

/-- Every config is stored under its own id, and no id is stored twice. -/
structure AgentConfigManager.Consistent (manager : AgentConfigManager) : Prop where
  keyed : ∀ entry ∈ manager.configs.entries, entry.2.agentId = some entry.1
  apart : (manager.listConfigs.map AgentConfig.agentId).Nodup

/-- In a run from this manager every call leaves a consistent one, and one that throws, the same. -/
def AgentConfigManager.Lawful (manager : AgentConfigManager) : List ManagerOp → Prop
  | [] => True
  | op :: rest =>
      (op.perform manager).2.Consistent ∧
      (∀ error, (op.perform manager).1 = some error → (op.perform manager).2 = manager) ∧
      (op.perform manager).2.Lawful rest

def Repeats (configs : List AgentConfig) : Prop :=
  ∃ before config after, configs = before ++ config :: after ∧
    config.onConflict = some .error ∧ config.agentId ∈ before.map AgentConfig.agentId

def AgentConfigManager.Holds (manager : AgentConfigManager) (config : AgentConfig) : Prop :=
  ∃ held, manager.getConfig config.agentId = some held ∧
    (config.onConflict = some .skip ∨ config.onConflict = some .error ∨ held = config.stored)

/--
An update does not rename what it updates; an iteration that fails has changed nothing by then; and
`setConfigs` is given no repeated id to refuse.
-/
def ManagerOp.Sound (manager : AgentConfigManager) : ManagerOp → Prop
  | .updateConfig agentId updates =>
      manager.hasConfig agentId = true → updates.agentId.getD (some agentId) = some agentId
  | .addConfigs configs => configs.failure ≠ none → ∀ config ∈ configs.items, manager.Holds config
  | .setConfigs configs =>
      configs.failure = none ∧ ¬ Repeats configs.items ∨ manager.count = 0 ∧ configs.items = []
  | _ => True

def AgentConfigManager.SoundRun (manager : AgentConfigManager) : List ManagerOp → Prop
  | [] => True
  | op :: rest => op.Sound manager ∧ (op.perform manager).2.SoundRun rest

/-! ### One call -/

namespace AgentConfigManager

theorem consistent_of_keyed {manager : AgentConfigManager}
    (keyed : ∀ entry ∈ manager.configs.entries, entry.2.agentId = some entry.1) :
    manager.Consistent := by
  refine ⟨keyed, ?_⟩
  have same : manager.listConfigs.map AgentConfig.agentId = manager.configs.keys.map some := by
    unfold listConfigs InsertionMap.values InsertionMap.keys
    rw [List.map_map, List.map_map]
    exact List.map_congr_left keyed
  rw [same]
  exact manager.configs.distinct.map fun _ _ => Option.some.inj

theorem consistent_empty : Consistent ⟨.empty⟩ :=
  consistent_of_keyed fun _ listed => nomatch listed

theorem Consistent.store {manager : AgentConfigManager} (consistent : manager.Consistent)
    {agentId : String} {config : AgentConfig (Option String)} (own : config.agentId = some agentId) :
    AgentConfigManager.Consistent ⟨manager.configs.set agentId config⟩ := by
  apply consistent_of_keyed
  rintro ⟨key, held⟩ listed
  rcases InsertionMap.mem_set listed with ⟨same, stored⟩ | ⟨_, before⟩
  · rw [same, stored, own]
  · exact consistent.keyed (key, held) before

theorem addConfig_cases (manager : AgentConfigManager) (config : AgentConfig) :
    (∃ flag, manager.addConfig config =
        (.ok flag, ⟨manager.configs.set config.agentId config.stored⟩) ∧
      (manager.configs.has config.agentId = true → config.onConflict ≠ some .skip ∧
        config.onConflict ≠ some .error)) ∨
    manager.addConfig config = (.ok false, manager) ∧
      manager.configs.has config.agentId = true ∧ config.onConflict = some .skip ∨
    ∃ error, manager.addConfig config = (.error error, manager) ∧
      manager.configs.has config.agentId = true ∧ config.onConflict = some .error := by
  unfold addConfig
  by_cases known : manager.configs.has config.agentId = true
  · simp only [if_pos known]
    cases strategy : config.onConflict with
    | none => exact .inl ⟨true, rfl, fun _ => ⟨nofun, nofun⟩⟩
    | some chosen =>
        cases chosen with
        | error => exact .inr (.inr ⟨_, rfl, known, rfl⟩)
        | overwrite => exact .inl ⟨true, rfl, fun _ => ⟨nofun, nofun⟩⟩
        | skip => exact .inr (.inl ⟨rfl, known, rfl⟩)
  · simp only [if_neg known]
    exact .inl ⟨true, rfl, fun held => absurd held known⟩

theorem Consistent.addConfig {manager : AgentConfigManager} (consistent : manager.Consistent)
    (config : AgentConfig) : (manager.addConfig config).2.Consistent := by
  rcases addConfig_cases manager config with ⟨_, added, _⟩ | ⟨skipped, _⟩ | ⟨_, refused, _⟩
  · rw [added]
    exact consistent.store rfl
  · rw [skipped]
    exact consistent
  · rw [refused]
    exact consistent

theorem addConfig_atomic {manager : AgentConfigManager} {config : AgentConfig} {error : JsError}
    (threw : (manager.addConfig config).1 = .error error) :
    (manager.addConfig config).2 = manager := by
  rcases addConfig_cases manager config with ⟨_, added, _⟩ | ⟨skipped, _⟩ | ⟨_, refused, _⟩
  · rw [added] at threw
    cases threw
  · rw [skipped]
  · rw [refused]

theorem Holds.addConfig {manager : AgentConfigManager} {config : AgentConfig}
    (holds : Holds manager config) : (manager.addConfig config).2 = manager := by
  obtain ⟨held, found, strategy⟩ := holds
  have known : manager.configs.has config.agentId = true := Option.isSome_of_mem found
  rcases addConfig_cases manager config with ⟨_, added, stores⟩ | ⟨skipped, _⟩ | ⟨_, refused, _⟩
  · rcases strategy with skip | refuse | same
    · exact absurd skip (stores known).1
    · exact absurd refuse (stores known).2
    · rw [added]
      rw [same] at found
      have kept : manager.configs.set config.agentId config.stored = manager.configs :=
        InsertionMap.set_same found
      rw [kept]
  · rw [skipped]
  · rw [refused]

theorem Consistent.addEach : ∀ (configs : List AgentConfig) {manager : AgentConfigManager},
    manager.Consistent → (manager.addEach configs).2.Consistent := by
  intro configs
  induction configs with
  | nil => intro manager consistent; exact consistent
  | cons config rest ih =>
      intro manager consistent
      exact ih (consistent.addConfig config)

theorem addEach_holds : ∀ (configs : List AgentConfig) (manager : AgentConfigManager),
    (∀ config ∈ configs, manager.Holds config) → (manager.addEach configs).2 = manager := by
  intro configs
  induction configs with
  | nil => intro manager _; rfl
  | cons config rest ih =>
      intro manager holds
      have kept : (manager.addConfig config).2 = manager := Holds.addConfig (holds config (by simp))
      have later := ih manager fun other listed => holds other (by simp [listed])
      change ((manager.addConfig config).2.addEach rest).2 = manager
      rw [kept, later]

theorem Consistent.addUntilRefused : ∀ (configs : List AgentConfig) {manager : AgentConfigManager},
    manager.Consistent → (manager.addUntilRefused configs).2.Consistent := by
  intro configs
  induction configs with
  | nil => intro manager consistent; exact consistent
  | cons config rest ih =>
      intro manager consistent
      have next := consistent.addConfig config
      unfold AgentConfigManager.addUntilRefused
      split
      · rename_i after refused
        rw [refused] at next
        exact next
      · rename_i after added
        rw [added] at next
        exact ih next

theorem addUntilRefused_ok : ∀ (configs before : List AgentConfig) (manager : AgentConfigManager),
    (∀ key, key ∈ manager.configs.keys ↔ key ∈ before.map AgentConfig.agentId) →
    ¬ Repeats (before ++ configs) →
    ∃ after, manager.addUntilRefused configs = (.ok (), after) := by
  intro configs
  induction configs with
  | nil => intro before manager _ _; exact ⟨manager, rfl⟩
  | cons config rest ih =>
      intro before manager stored fresh
      have longer : before ++ config :: rest = (before ++ [config]) ++ rest := by simp
      have further : ∀ key, (key = config.agentId ∨ key ∈ manager.configs.keys) ↔
          key ∈ (before ++ [config]).map AgentConfig.agentId := by
        intro key
        rw [stored key]
        simp [or_comm]
      unfold AgentConfigManager.addUntilRefused
      rcases addConfig_cases manager config with
        ⟨_, added, _⟩ | ⟨skipped, known, _⟩ | ⟨_, refused, known, strategy⟩
      · rw [added]
        refine ih (before ++ [config]) _ ?_ (longer ▸ fresh)
        intro key
        rw [← further key]
        exact InsertionMap.mem_keys_set _ _ _ _
      · rw [skipped]
        refine ih (before ++ [config]) manager ?_ (longer ▸ fresh)
        intro key
        rw [← further key]
        constructor
        · exact Or.inr
        · rintro (rfl | listed)
          · exact (InsertionMap.has_iff _ _).mp known
          · exact listed
      · exact absurd ⟨before, config, rest, rfl, strategy,
          (stored _).mp ((InsertionMap.has_iff _ _).mp known)⟩ fresh

/-! ### Runs -/

theorem Consistent.perform {manager : AgentConfigManager} (consistent : manager.Consistent)
    (op : ManagerOp) (sound : op.Sound manager) : (op.perform manager).2.Consistent := by
  cases op with
  | addConfig config => exact consistent.addConfig config
  | addConfigs configs =>
      have added := consistent.addEach configs.items
      simp only [ManagerOp.perform, AgentConfigManager.addConfigs]
      split
      · exact added
      · exact added
  | removeConfig agentId =>
      exact consistent_of_keyed fun entry listed =>
        consistent.keyed entry (InsertionMap.mem_delete listed)
  | updateConfig agentId updates =>
      simp only [ManagerOp.perform, AgentConfigManager.updateConfig]
      split
      · exact consistent
      · rename_i config found
        have renamed := sound (Option.isSome_of_mem found)
        have own : config.agentId = some agentId :=
          consistent.keyed (agentId, config) (InsertionMap.mem_of_get? found)
        have kept : (config.updated updates).agentId = some agentId := by
          change updates.agentId.getD config.agentId = some agentId
          rw [own, renamed]
        exact consistent.store kept
  | setConfigs configs =>
      have added := consistent_empty.addUntilRefused configs.items
      simp only [ManagerOp.perform, AgentConfigManager.setConfigs, removeAllConfigs]
      split
      · rename_i refused
        rw [refused] at added
        exact added
      · rename_i finished
        rw [finished] at added
        split
        · exact added
        · exact added
  | removeAllConfigs => exact consistent_empty

theorem perform_atomic {manager : AgentConfigManager} (op : ManagerOp) (sound : op.Sound manager)
    {error : JsError} (threw : (op.perform manager).1 = some error) :
    (op.perform manager).2 = manager := by
  cases op with
  | addConfig config =>
      change thrown (manager.addConfig config).1 = some error at threw
      cases outcome : (manager.addConfig config).1 with
      | error error => exact addConfig_atomic outcome
      | ok flag => rw [outcome] at threw; cases threw
  | addConfigs configs =>
      simp only [ManagerOp.perform, AgentConfigManager.addConfigs] at threw ⊢
      split at threw
      · rename_i failed
        exact addEach_holds configs.items manager (sound (by rw [failed]; nofun))
      · cases threw
  | removeConfig agentId => cases threw
  | updateConfig agentId updates => cases threw
  | setConfigs configs =>
      rcases sound with ⟨whole, fresh⟩ | ⟨nothing, none_left⟩
      · obtain ⟨after, finished⟩ := addUntilRefused_ok configs.items [] ⟨.empty⟩
          (fun key => Iff.rfl) fresh
        simp only [ManagerOp.perform, AgentConfigManager.setConfigs, removeAllConfigs, finished,
          whole] at threw
        cases threw
      · have empty : manager = ⟨.empty⟩ := by
          obtain ⟨⟨entries, distinct⟩⟩ := manager
          have no_entries : entries = [] := List.length_eq_zero_iff.mp nothing
          subst no_entries
          rfl
        simp only [ManagerOp.perform, AgentConfigManager.setConfigs, removeAllConfigs, none_left,
          AgentConfigManager.addUntilRefused]
        rw [empty]
        split <;> rfl
  | removeAllConfigs => cases threw

theorem Consistent.lawful : ∀ (ops : List ManagerOp) {manager : AgentConfigManager},
    manager.Consistent → manager.SoundRun ops → manager.Lawful ops := by
  intro ops
  induction ops with
  | nil => intro manager _ _; trivial
  | cons op rest ih =>
      intro manager consistent sound
      have next := consistent.perform op sound.1
      refine ⟨next, ?_, ih next sound.2⟩
      intro error threw
      exact perform_atomic op sound.1 threw

theorem construct_consistent {configs : Option (List AgentConfig)} {manager : AgentConfigManager}
    (constructed : construct configs = .ok manager) : manager.Consistent := by
  unfold construct at constructed
  split at constructed
  · cases constructed
    exact consistent_empty
  · rename_i configs
    have added := consistent_empty.addUntilRefused configs
    split at constructed
    · cases constructed
    · rename_i finished
      cases constructed
      rw [finished] at added
      exact added

/-- Over every history of sound calls the stored configs stay consistent, and no throw changes them. -/
theorem manager_lawful (configs : Option (List AgentConfig)) (ops : List ManagerOp)
    (manager : AgentConfigManager) (constructed : construct configs = .ok manager)
    (sound : manager.SoundRun ops) : manager.Consistent ∧ manager.Lawful ops :=
  have consistent := construct_consistent constructed
  ⟨consistent, consistent.lawful ops sound⟩

def managerOfOne : AgentConfigManager := ⟨InsertionMap.empty.set "a" { agentId := some "a" }⟩

theorem manager_lawful_example :
    construct (some [{ agentId := "a" }]) = .ok managerOfOne ∧
      managerOfOne.Lawful [.updateConfig "a" { name := some (some "first") },
        .addConfig { agentId := "a", onConflict := some .error },
        .setConfigs ⟨[{ agentId := "b" }], none⟩] := by
  have constructed : construct (some [{ agentId := "a" }]) = .ok managerOfOne := by decide
  have fresh : ¬ Repeats [{ agentId := "b" }] := by
    rintro ⟨before, config, after, spelled, strategy, _⟩
    have listed : config ∈ [({ agentId := "b" } : AgentConfig)] := by simp [spelled]
    rw [List.mem_singleton.mp listed] at strategy
    cases strategy
  have lawful := manager_lawful (some [{ agentId := "a" }])
    [.updateConfig "a" { name := some (some "first") },
      .addConfig { agentId := "a", onConflict := some .error },
      .setConfigs ⟨[{ agentId := "b" }], none⟩] managerOfOne constructed
    ⟨fun _ => rfl, trivial, .inl ⟨rfl, fresh⟩, trivial⟩
  exact ⟨constructed, lawful.2⟩

/-- A renaming update, one that leaves no id, a repeated id refused midway, and an iteration that
fails midway. -/
theorem manager_unlawful :
    construct (some [{ agentId := "a" }]) = .ok managerOfOne ∧
      ¬ managerOfOne.Lawful [.updateConfig "a" { agentId := some (some "b") }] ∧
      ¬ managerOfOne.Lawful [.updateConfig "a" { agentId := some none }] ∧
      ¬ managerOfOne.Lawful
        [.setConfigs ⟨[{ agentId := "b" }, { agentId := "b", onConflict := some .error }], none⟩] ∧
      ¬ managerOfOne.Lawful [.addConfigs ⟨[{ agentId := "b" }], some ⟨"Error", "unreadable"⟩⟩] := by
  refine ⟨by decide, ?_, ?_, ?_, ?_⟩
  · rintro ⟨consistent, _⟩
    have keyed := consistent.keyed ("a", { agentId := some "b" }) (by decide)
    exact absurd keyed (by decide)
  · rintro ⟨consistent, _⟩
    have keyed := consistent.keyed ("a", { agentId := none }) (by decide)
    exact absurd keyed (by decide)
  · rintro ⟨_, atomic, _⟩
    have kept := atomic ⟨"Error", "AgentConfig with id 'b' already exists"⟩ (by decide)
    exact absurd kept (by decide)
  · rintro ⟨_, atomic, _⟩
    have kept := atomic ⟨"Error", "unreadable"⟩ (by decide)
    exact absurd kept (by decide)

end AgentConfigManager

end ByFramework
