import ByFramework.PluginCore

/-! Which plugins get their configurations registered, whatever the others return. -/

namespace ByFramework

namespace PluginRegistry

def configIds (registry : PluginRegistry) : List String :=
  registry.agentConfigs.map AgentConfig.agentId

section Returned

variable (returned : Plugin → Option (List AgentConfig))

def configsOf (plugin : Plugin) : List AgentConfig := (returned plugin).getD []

/-- Each plugin returns nothing or configs with ids of their own and the default strategy. -/
structure OwnConfigs (plugins : List Plugin) : Prop where
  hooks : ∀ plugin ∈ plugins, ∀ context,
    (plugin.registerAgentConfigs context).answer = .ok (returned plugin) ∧
      (plugin.registerAgentConfigs context).context = context
  plain : ∀ plugin ∈ plugins, ∀ config ∈ configsOf returned plugin,
    config.onConflict.getD .error = .error
  apart : ((plugins.flatMap (configsOf returned)).map AgentConfig.agentId).Nodup

/-- Every plugin is initialised, and what is registered is what they returned, each id once. -/
structure AllRegistered (plugins : List Plugin) (registry : PluginRegistry) : Prop where
  initialised : ∀ plugin ∈ plugins, plugin.pluginId ∈ registry.initializedPlugins
  exact : ∀ config, config ∈ registry.agentConfigs ↔
    ∃ plugin ∈ plugins, ∃ own ∈ configsOf returned plugin, config = normalizeAgentConfig own
  once : registry.configIds.Nodup

/--
A plugin returns configs with ids; or it returns nothing while the context lists nothing, or while
another plugin of its id is still to come; and one whose id is initialised adds no configs.
-/
def Compatible (context : List AgentConfig) (initialised : List String) : List Plugin → Prop
  | [] => True
  | plugin :: rest =>
      if plugin.pluginId ∈ initialised then
        configsOf returned plugin = [] ∧ Compatible context initialised rest
      else
        match returned plugin with
        | some configs =>
            (∀ config ∈ configs, config.agentId ≠ "") ∧
              Compatible configs (initialised ++ [plugin.pluginId]) rest
        | none =>
            if context = [] then Compatible [] (initialised ++ [plugin.pluginId]) rest
            else (∃ later ∈ rest, later.pluginId = plugin.pluginId) ∧
              Compatible context initialised rest

end Returned

/-- The hook answers before its timer, if it has one. -/
def Prompt (plugin : Plugin) : Prop :=
  ∀ context, plugin.inTime (plugin.registerAgentConfigs context).takes = true

/-- The hook never answers before its timer. -/
def Belated (plugin : Plugin) : Prop :=
  ∀ context, plugin.inTime (plugin.registerAgentConfigs context).takes = false

theorem findAgentConfig_eq_none {registry : PluginRegistry} {agentId : String} :
    registry.findAgentConfig agentId = none ↔ agentId ∉ registry.configIds := by
  unfold findAgentConfig configIds
  rw [List.find?_eq_none]
  constructor
  · intro absent listed
    obtain ⟨config, member, same⟩ := List.mem_map.mp listed
    exact absent config member (by simpa using same)
  · intro absent config member same
    exact absent (List.mem_map.mpr ⟨config, member, by simpa using same⟩)

theorem registerAgentConfig_fresh {registry : PluginRegistry} {config : AgentConfig}
    (filled : config.agentId ≠ "") (fresh : config.agentId ∉ registry.configIds) :
    registry.registerAgentConfig config =
      (.ok (), { registry with
        agentConfigs := registry.agentConfigs ++ [normalizeAgentConfig config] }) := by
  have valid : validateAgentConfig (normalizeAgentConfig config) = .ok () := if_neg filled
  have absent : registry.findAgentConfig (normalizeAgentConfig config).agentId = none :=
    findAgentConfig_eq_none.mpr fresh
  unfold registerAgentConfig
  dsimp only
  rw [valid, absent]

theorem registerAgentConfig_known {registry : PluginRegistry} {config : AgentConfig}
    (plain : config.onConflict.getD .error = .error)
    (known : config.agentId ∈ registry.configIds) :
    ∃ error, registry.registerAgentConfig config = (.error error, registry) := by
  have strategy : (normalizeAgentConfig config).onConflict.getD .error = .error := plain
  unfold registerAgentConfig
  dsimp only
  cases validateAgentConfig (normalizeAgentConfig config) with
  | error error => exact ⟨error, rfl⟩
  | ok done =>
      cases found : registry.findAgentConfig (normalizeAgentConfig config).agentId with
      | none => exact absurd known (findAgentConfig_eq_none.mp found)
      | some existing =>
          dsimp only
          rw [strategy]
          exact ⟨_, rfl⟩

theorem configIds_append (registry : PluginRegistry) (configs : List AgentConfig) :
    configIds { registry with
        agentConfigs := registry.agentConfigs ++ configs.map normalizeAgentConfig } =
      registry.configIds ++ configs.map AgentConfig.agentId := by
  unfold configIds
  rw [List.map_append, List.map_map]
  rfl

theorem registerEach_fresh : ∀ {configs : List AgentConfig} {registry : PluginRegistry},
    (∀ config ∈ configs, config.agentId ≠ "") →
    (∀ config ∈ configs, config.agentId ∉ registry.configIds) →
    (configs.map AgentConfig.agentId).Nodup →
    registry.registerEach configs =
      (.ok (), { registry with
        agentConfigs := registry.agentConfigs ++ configs.map normalizeAgentConfig }) := by
  intro configs
  induction configs with
  | nil =>
      intro registry _ _ _
      unfold registerEach
      rw [List.map_nil, List.append_nil]
  | cons config rest ih =>
      intro registry filled fresh apart
      rw [List.map_cons, List.nodup_cons] at apart
      have first := registerAgentConfig_fresh (filled config (by simp)) (fresh config (by simp))
      have ids := configIds_append registry [config]
      unfold registerEach
      rw [first]
      dsimp only
      rw [ih (fun other listed => filled other (by simp [listed])) ?_ apart.2]
      · rw [List.map_cons, List.append_assoc]
        rfl
      · intro other listed known
        rw [List.map_cons, List.map_nil] at ids
        rw [ids, List.mem_append] at known
        rcases known with before | same
        · exact fresh other (by simp [listed]) before
        · have equal : other.agentId = config.agentId := by simpa using same
          exact apart.1 (List.mem_map.mpr ⟨other, listed, equal⟩)

theorem registerEach_known {registry : PluginRegistry} {config : AgentConfig}
    {rest : List AgentConfig} (plain : config.onConflict.getD .error = .error)
    (known : config.agentId ∈ registry.configIds) :
    ∃ error, registry.registerEach (config :: rest) = (.error error, registry) := by
  obtain ⟨error, refused⟩ := registerAgentConfig_known plain known
  refine ⟨error, ?_⟩
  unfold registerEach
  rw [refused]

theorem registerAgentConfig_filled {registry : PluginRegistry} (config : AgentConfig)
    (filled : ∀ other ∈ registry.agentConfigs, other.agentId ≠ "") :
    ∀ other ∈ (registry.registerAgentConfig config).2.agentConfigs, other.agentId ≠ "" := by
  unfold registerAgentConfig validateAgentConfig
  dsimp only
  by_cases empty : (normalizeAgentConfig config).agentId = ""
  · rw [if_pos empty]
    exact filled
  · rw [if_neg empty]
    have pushed : ∀ before : List AgentConfig, (∀ other ∈ before, other.agentId ≠ "") →
        ∀ other ∈ before ++ [normalizeAgentConfig config], other.agentId ≠ "" := by
      intro before known other listed
      rcases List.mem_append.mp listed with old | new
      · exact known other old
      · rw [List.mem_singleton.mp new]
        exact empty
    cases registry.findAgentConfig (normalizeAgentConfig config).agentId with
    | none => exact pushed _ filled
    | some existing =>
        dsimp only
        cases (normalizeAgentConfig config).onConflict.getD .error with
        | error => exact filled
        | skip => exact filled
        | overwrite =>
            exact pushed _ fun other listed => filled other (List.mem_of_mem_filter listed)

theorem registerEach_filled : ∀ (configs : List AgentConfig) {registry : PluginRegistry},
    (∀ other ∈ registry.agentConfigs, other.agentId ≠ "") →
    ∀ other ∈ (registry.registerEach configs).2.agentConfigs, other.agentId ≠ "" := by
  intro configs
  induction configs with
  | nil => intro registry filled; exact filled
  | cons config rest ih =>
      intro registry filled
      have one := registerAgentConfig_filled config filled
      unfold registerEach
      cases step : registry.registerAgentConfig config with
      | mk outcome after =>
          rw [step] at one
          cases outcome with
          | error error => exact one
          | ok done => exact ih one

theorem registerEach_initialised : ∀ (configs : List AgentConfig) (registry : PluginRegistry),
    (registry.registerEach configs).2.initializedPlugins = registry.initializedPlugins := by
  intro configs
  induction configs with
  | nil => intro registry; rfl
  | cons config rest ih =>
      intro registry
      have one : (registry.registerAgentConfig config).2.initializedPlugins =
          registry.initializedPlugins := by
        unfold registerAgentConfig
        dsimp only
        repeat' split
        all_goals rfl
      unfold registerEach
      cases step : registry.registerAgentConfig config with
      | mk outcome after =>
          rw [step] at one
          cases outcome with
          | error error => exact one
          | ok done => exact (ih after).trans one

theorem answered_keeps (fact : PluginRegistry → Prop)
    (keeps : ∀ registry configs, fact registry → fact (registry.registerEach configs).2)
    (state : Initialization) (answer : HookAnswer) (known : fact state.registry) :
    fact (state.answered answer).2.registry := by
  cases answer with
  | error error => exact known
  | ok newConfigs => exact keeps _ _ known

theorem passTo_keeps (fact : PluginRegistry → Prop)
    (keeps : ∀ registry configs, fact registry → fact (registry.registerEach configs).2)
    (state : Initialization) (instant : ℚ) (known : fact state.registry) :
    fact (state.passTo instant).registry := by
  have folded : ∀ (due : List (ℚ × HookAnswer)) (first : Initialization), fact first.registry →
      fact (due.foldl (fun state late => (state.answered late.2).2) first).registry := by
    intro due
    induction due with
    | nil => intro first before; exact before
    | cons late rest ih => intro first before; exact ih _ (answered_keeps fact keeps _ _ before)
  exact folded _ _ known

theorem executeHook_keeps (fact : PluginRegistry → Prop)
    (keeps : ∀ registry configs, fact registry → fact (registry.registerEach configs).2)
    (state : Initialization) (plugin : Plugin) (known : fact state.registry) :
    fact (state.executeHook plugin).2.registry := by
  unfold Initialization.executeHook
  dsimp only
  split
  · exact answered_keeps fact keeps _ _ (passTo_keeps fact keeps _ _ known)
  · exact passTo_keeps fact keeps _ _ known

theorem initializeEach_filled : ∀ (plugins : List Plugin) {state : Initialization},
    (∀ other ∈ state.registry.agentConfigs, other.agentId ≠ "") →
    ∀ other ∈ (state.initializeEach plugins).registry.agentConfigs, other.agentId ≠ "" := by
  intro plugins
  induction plugins with
  | nil => intro state filled; exact filled
  | cons plugin rest ih =>
      intro state filled
      have one := executeHook_keeps
        (fun registry => ∀ other ∈ registry.agentConfigs, other.agentId ≠ "")
        (fun _ configs known => registerEach_filled configs known) state plugin filled
      unfold Initialization.initializeEach
      dsimp only
      split
      · exact ih filled
      · split
        · exact ih one
        · exact ih one

/-- Only plugins that answered in time are initialised. -/
theorem initialised_of_prompt : ∀ (plugins : List Plugin) (state : Initialization),
    ∀ pluginId ∈ (state.initializeEach plugins).registry.initializedPlugins,
      pluginId ∈ state.registry.initializedPlugins ∨
        ∃ plugin ∈ plugins, plugin.pluginId = pluginId ∧ ¬ Belated plugin := by
  intro plugins
  induction plugins with
  | nil => intro state pluginId known; exact .inl known
  | cons plugin rest ih =>
      intro state pluginId known
      have kept := executeHook_keeps
        (fun registry => registry.initializedPlugins = state.registry.initializedPlugins)
        (fun registry configs same => (registerEach_initialised configs registry).trans same)
        state plugin rfl
      have passed : ∀ after : Initialization,
          pluginId ∈ (after.initializeEach rest).registry.initializedPlugins →
          after.registry.initializedPlugins = state.registry.initializedPlugins →
          pluginId ∈ state.registry.initializedPlugins ∨
            ∃ other ∈ plugin :: rest, other.pluginId = pluginId ∧ ¬ Belated other := by
        intro after reached same
        rcases ih after pluginId reached with before | ⟨other, listed, fits⟩
        · exact .inl (same ▸ before)
        · exact .inr ⟨other, List.mem_cons_of_mem _ listed, fits⟩
      unfold Initialization.initializeEach at known
      dsimp only at known
      split at known
      · exact passed state known rfl
      · split at known
        · rename_i succeeded
          rcases ih _ pluginId known with before | ⟨other, listed, fits⟩
          · rcases List.mem_append.mp before with old | own
            · exact .inl (kept ▸ old)
            · refine .inr ⟨plugin, List.mem_cons_self, (List.mem_singleton.mp own).symm, ?_⟩
              intro late
              have lost := late state.context.freezePrevAgentConfigs
              unfold Initialization.executeHook at succeeded
              simp [lost] at succeeded
          · exact .inr ⟨other, List.mem_cons_of_mem _ listed, fits⟩
        · exact passed _ known kept

/-! ### One plugin -/

section Returned

variable {returned : Plugin → Option (List AgentConfig)}

/-- The next plugins' configs are new, and what the context lists cannot be registered again. -/
structure Ready (returned : Plugin → Option (List AgentConfig)) (state : Initialization)
    (plugins : List Plugin) : Prop where
  own : OwnConfigs returned plugins
  prompt : ∀ plugin ∈ plugins, Prompt plugin
  settled : state.late = []
  filled : ∀ plugin ∈ plugins, ∀ config ∈ configsOf returned plugin, config.agentId ≠ ""
  fresh : ∀ plugin ∈ plugins, ∀ config ∈ configsOf returned plugin,
    config.agentId ∉ state.registry.configIds
  held : ∀ first more, state.context.agentConfigs = first :: more →
    first.agentId ∈ state.registry.configIds ∧ first.onConflict.getD .error = .error

theorem OwnConfigs.tail {plugin : Plugin} {rest : List Plugin}
    (own : OwnConfigs returned (plugin :: rest)) : OwnConfigs returned rest where
  hooks := fun other listed => own.hooks other (List.mem_cons_of_mem _ listed)
  plain := fun other listed => own.plain other (List.mem_cons_of_mem _ listed)
  apart := by
    have apart := own.apart
    rw [List.flatMap_cons, List.map_append] at apart
    exact (List.nodup_append.mp apart).2.1

theorem OwnConfigs.first_apart {plugin : Plugin} {rest : List Plugin}
    (own : OwnConfigs returned (plugin :: rest)) :
    ((configsOf returned plugin).map AgentConfig.agentId).Nodup ∧
      ∀ later ∈ rest, ∀ config ∈ configsOf returned later,
        config.agentId ∉ (configsOf returned plugin).map AgentConfig.agentId := by
  have apart := own.apart
  rw [List.flatMap_cons, List.map_append] at apart
  obtain ⟨first, _, between⟩ := List.nodup_append.mp apart
  refine ⟨first, ?_⟩
  intro later listed config member known
  have behind : config.agentId ∈
      (rest.flatMap (configsOf returned)).map AgentConfig.agentId :=
    List.mem_map_of_mem (List.mem_flatMap.mpr ⟨later, listed, member⟩)
  exact between _ known _ behind rfl

theorem Ready.tail {state : Initialization} {plugin : Plugin} {rest : List Plugin}
    (ready : Ready returned state (plugin :: rest)) : Ready returned state rest where
  own := ready.own.tail
  prompt := fun other listed => ready.prompt other (List.mem_cons_of_mem _ listed)
  settled := ready.settled
  filled := fun other listed => ready.filled other (List.mem_cons_of_mem _ listed)
  fresh := fun other listed => ready.fresh other (List.mem_cons_of_mem _ listed)
  held := ready.held

def settledBy (registry : PluginRegistry) (plugin : Plugin) (configs : List AgentConfig) :
    PluginRegistry :=
  { registry with
    agentConfigs := registry.agentConfigs ++ configs.map normalizeAgentConfig
    initializedPlugins := registry.initializedPlugins ++ [plugin.pluginId] }

theorem configIds_settledBy (registry : PluginRegistry) (plugin : Plugin)
    (configs : List AgentConfig) :
    (registry.settledBy plugin configs).configIds =
      registry.configIds ++ configs.map AgentConfig.agentId :=
  configIds_append registry configs

inductive FirstPlugin (returned : Plugin → Option (List AgentConfig)) (registry : PluginRegistry)
    (context : List AgentConfig) (plugin : Plugin) :
    PluginRegistry → List AgentConfig → Prop where
  | skipped : plugin.pluginId ∈ registry.initializedPlugins →
      FirstPlugin returned registry context plugin registry context
  | listed (configs : List AgentConfig) : plugin.pluginId ∉ registry.initializedPlugins →
      returned plugin = some configs →
      FirstPlugin returned registry context plugin (registry.settledBy plugin configs) configs
  | idle : plugin.pluginId ∉ registry.initializedPlugins → returned plugin = none →
      context = [] →
      FirstPlugin returned registry context plugin (registry.settledBy plugin []) []
  | stuck : plugin.pluginId ∉ registry.initializedPlugins → returned plugin = none →
      context ≠ [] → FirstPlugin returned registry context plugin registry context

theorem passTo_settled {state : Initialization} (settled : state.late = []) (instant : ℚ) :
    state.passTo instant = { state with clock := instant } := by
  unfold Initialization.passTo
  rw [settled]
  simp

/-- What `executeHook` comes to for a plugin that answers in time, once all before it have. -/
theorem executeHook_eq {state : Initialization} {plugin : Plugin} {rest : List Plugin}
    (ready : Ready returned state (plugin :: rest)) :
    let configs := (returned plugin).getD state.context.agentConfigs
    ∃ clock, state.executeHook plugin =
      ((state.registry.registerEach configs).1.isOk,
        ⟨(state.registry.registerEach configs).2, ⟨state.context.agentConfigs, configs⟩, clock,
          []⟩) := by
  obtain ⟨answer, kept⟩ := ready.own.hooks plugin List.mem_cons_self
    state.context.freezePrevAgentConfigs
  have inTime := ready.prompt plugin List.mem_cons_self state.context.freezePrevAgentConfigs
  refine ⟨state.clock +
    (plugin.registerAgentConfigs state.context.freezePrevAgentConfigs).takes, ?_⟩
  unfold Initialization.executeHook
  dsimp only
  rw [if_pos inTime, passTo_settled, answer, kept, ready.settled]
  · cases returned plugin with
    | none => rfl
    | some configs => rfl
  · exact ready.settled

/-- A registration that succeeds leaves everything ready for the plugins behind it. -/
theorem Ready.next {state : Initialization} {plugin : Plugin} {rest : List Plugin}
    (ready : Ready returned state (plugin :: rest)) {configs : List AgentConfig}
    (own : configs = configsOf returned plugin) (before : List AgentConfig) (clock : ℚ) :
    Ready returned ⟨state.registry.settledBy plugin configs, ⟨before, configs⟩, clock, []⟩
      rest where
  own := ready.own.tail
  prompt := ready.tail.prompt
  settled := rfl
  filled := ready.tail.filled
  fresh := by
    intro later listed config member known
    rw [configIds_settledBy, List.mem_append, own] at known
    rcases known with before | same
    · exact ready.tail.fresh later listed config member before
    · exact ready.own.first_apart.2 later listed config member same
  held := by
    intro first more shape
    have member : first ∈ configs := by
      rw [show configs = first :: more from shape]
      exact List.mem_cons_self
    rw [configIds_settledBy]
    refine ⟨List.mem_append_right _ (List.mem_map_of_mem member), ?_⟩
    exact ready.own.plain plugin List.mem_cons_self first (own ▸ member)

theorem initializeEach_ok {state after : Initialization} {plugin : Plugin} (rest : List Plugin)
    (new : plugin.pluginId ∉ state.registry.initializedPlugins)
    (ran : state.executeHook plugin = (true, after)) :
    state.initializeEach (plugin :: rest) =
      (after.markInitialized plugin.pluginId).initializeEach rest := by
  rw [Initialization.initializeEach, if_neg new, ran]
  rfl

theorem initializeEach_failed {state after : Initialization} {plugin : Plugin}
    (rest : List Plugin) (new : plugin.pluginId ∉ state.registry.initializedPlugins)
    (ran : state.executeHook plugin = (false, after)) :
    state.initializeEach (plugin :: rest) = after.initializeEach rest := by
  rw [Initialization.initializeEach, if_neg new, ran]
  rfl

theorem initializeEach_cons {state : Initialization} {plugin : Plugin} {rest : List Plugin}
    (ready : Ready returned state (plugin :: rest)) :
    ∃ after, state.initializeEach (plugin :: rest) = after.initializeEach rest ∧
      Ready returned after rest ∧
      FirstPlugin returned state.registry state.context.agentConfigs plugin after.registry
        after.context.agentConfigs := by
  by_cases known : plugin.pluginId ∈ state.registry.initializedPlugins
  · refine ⟨state, ?_, ready.tail, .skipped known⟩
    rw [Initialization.initializeEach, if_pos known]
  obtain ⟨clock, ran⟩ := executeHook_eq ready
  cases answer : returned plugin with
  | some configs =>
      have own : configs = configsOf returned plugin := by
        unfold configsOf
        rw [answer]
        rfl
      have registered := registerEach_fresh
        (fun config member => ready.filled plugin List.mem_cons_self config (own ▸ member))
        (fun config member => ready.fresh plugin List.mem_cons_self config (own ▸ member))
        (own ▸ ready.own.first_apart.1)
      rw [answer, Option.getD_some, registered] at ran
      exact ⟨_, initializeEach_ok rest known ran, ready.next own state.context.agentConfigs clock,
        .listed configs known answer⟩
  | none =>
      have own : [] = configsOf returned plugin := by
        unfold configsOf
        rw [answer]
        rfl
      rw [answer, Option.getD_none] at ran
      cases listing : state.context.agentConfigs with
      | nil =>
          rw [listing] at ran
          have same : state.registry.settledBy plugin [] = { state.registry with
              initializedPlugins :=
                state.registry.initializedPlugins ++ [plugin.pluginId] } := by
            unfold settledBy
            rw [List.map_nil, List.append_nil]
          refine ⟨⟨state.registry.settledBy plugin [], ⟨[], []⟩, clock, []⟩, ?_,
            ready.next own [] clock, .idle known answer rfl⟩
          rw [same]
          exact initializeEach_ok rest known ran
      | cons first more =>
          obtain ⟨listed, plain⟩ := ready.held first more listing
          obtain ⟨error, refused⟩ := @registerEach_known state.registry first more plain listed
          rw [listing, refused] at ran
          refine ⟨⟨state.registry, ⟨first :: more, first :: more⟩, clock, []⟩, ?_, ?_,
            .stuck known answer (List.cons_ne_nil _ _)⟩
          · exact initializeEach_failed rest known ran
          · exact ⟨ready.tail.own, ready.tail.prompt, rfl, ready.tail.filled, ready.tail.fresh,
              fun other others shape => ready.held other others (listing.trans shape)⟩

/-! ### All plugins -/

namespace FirstPlugin

variable {registry after : PluginRegistry} {context used : List AgentConfig} {plugin : Plugin}

theorem initialised_kept (first : FirstPlugin returned registry context plugin after used)
    {pluginId : String} (known : pluginId ∈ registry.initializedPlugins) :
    pluginId ∈ after.initializedPlugins := by
  cases first with
  | skipped _ => exact known
  | stuck _ _ _ => exact known
  | listed configs _ _ => exact List.mem_append_left _ known
  | idle _ _ _ => exact List.mem_append_left _ known

theorem configs_kept (first : FirstPlugin returned registry context plugin after used)
    {config : AgentConfig} (known : config ∈ registry.agentConfigs) :
    config ∈ after.agentConfigs := by
  cases first with
  | skipped _ => exact known
  | stuck _ _ _ => exact known
  | listed configs _ _ => exact List.mem_append_left _ known
  | idle _ _ _ => exact List.mem_append_left _ known

theorem initialised_from (first : FirstPlugin returned registry context plugin after used)
    {pluginId : String} (known : pluginId ∈ after.initializedPlugins) :
    pluginId ∈ registry.initializedPlugins ∨ plugin.pluginId = pluginId := by
  have added : pluginId ∈ registry.initializedPlugins ++ [plugin.pluginId] →
      pluginId ∈ registry.initializedPlugins ∨ plugin.pluginId = pluginId := by
    intro listed
    rcases List.mem_append.mp listed with before | last
    · exact .inl before
    · exact .inr (List.mem_singleton.mp last).symm
  cases first with
  | skipped _ => exact .inl known
  | stuck _ _ _ => exact .inl known
  | listed configs _ _ => exact added known
  | idle _ _ _ => exact added known

theorem configs_from (first : FirstPlugin returned registry context plugin after used)
    {config : AgentConfig} (known : config ∈ after.agentConfigs) :
    config ∈ registry.agentConfigs ∨
      ∃ own ∈ configsOf returned plugin, config = normalizeAgentConfig own := by
  cases first with
  | skipped _ => exact .inl known
  | stuck _ _ _ => exact .inl known
  | idle _ _ _ =>
      rcases List.mem_append.mp known with before | never
      · exact .inl before
      · cases never
  | listed configs _ answer =>
      rcases List.mem_append.mp known with before | new
      · exact .inl before
      · obtain ⟨own, member, same⟩ := List.mem_map.mp new
        refine .inr ⟨own, ?_, same.symm⟩
        unfold configsOf
        rw [answer]
        exact member

theorem once {state : Initialization} {rest : List Plugin}
    (ready : Ready returned state (plugin :: rest))
    (first : FirstPlugin returned state.registry context plugin after used)
    (apart : state.registry.configIds.Nodup) : after.configIds.Nodup := by
  cases first with
  | skipped _ => exact apart
  | stuck _ _ _ => exact apart
  | idle _ _ _ =>
      rw [configIds_settledBy, List.map_nil, List.append_nil]
      exact apart
  | listed _ _ answer =>
      have own : configsOf returned plugin = used := by
        unfold configsOf
        rw [answer]
        rfl
      have distinct := ready.own.first_apart.1
      rw [own] at distinct
      rw [configIds_settledBy]
      refine List.nodup_append.mpr ⟨apart, distinct, ?_⟩
      intro before known agentId member same
      obtain ⟨config, listed, named⟩ := List.mem_map.mp member
      have fresh := ready.fresh plugin List.mem_cons_self config (own ▸ listed)
      rw [named, ← same] at fresh
      exact fresh known

end FirstPlugin

theorem initialised_grows : ∀ {plugins : List Plugin} {state : Initialization},
    Ready returned state plugins →
    ∀ pluginId ∈ state.registry.initializedPlugins,
      pluginId ∈ (state.initializeEach plugins).registry.initializedPlugins := by
  intro plugins
  induction plugins with
  | nil => intro state _ pluginId known; exact known
  | cons plugin rest ih =>
      intro state ready pluginId known
      obtain ⟨after, runs, later, first⟩ := initializeEach_cons ready
      rw [runs]
      exact ih later pluginId (first.initialised_kept known)

theorem configs_grow : ∀ {plugins : List Plugin} {state : Initialization},
    Ready returned state plugins →
    ∀ config ∈ state.registry.agentConfigs,
      config ∈ (state.initializeEach plugins).registry.agentConfigs := by
  intro plugins
  induction plugins with
  | nil => intro state _ config known; exact known
  | cons plugin rest ih =>
      intro state ready config known
      obtain ⟨after, runs, later, first⟩ := initializeEach_cons ready
      rw [runs]
      exact ih later config (first.configs_kept known)

theorem initialised_sources : ∀ {plugins : List Plugin} {state : Initialization},
    Ready returned state plugins →
    ∀ pluginId ∈ (state.initializeEach plugins).registry.initializedPlugins,
      pluginId ∈ state.registry.initializedPlugins ∨
        ∃ plugin ∈ plugins, plugin.pluginId = pluginId := by
  intro plugins
  induction plugins with
  | nil => intro state _ pluginId known; exact .inl known
  | cons plugin rest ih =>
      intro state ready pluginId known
      obtain ⟨after, runs, later, first⟩ := initializeEach_cons ready
      rw [runs] at known
      rcases ih later pluginId known with before | ⟨other, listed, same⟩
      · rcases first.initialised_from before with old | own
        · exact .inl old
        · exact .inr ⟨plugin, List.mem_cons_self, own⟩
      · exact .inr ⟨other, List.mem_cons_of_mem _ listed, same⟩

theorem configs_sources : ∀ {plugins : List Plugin} {state : Initialization},
    Ready returned state plugins →
    ∀ config ∈ (state.initializeEach plugins).registry.agentConfigs,
      config ∈ state.registry.agentConfigs ∨
        ∃ plugin ∈ plugins, ∃ own ∈ configsOf returned plugin,
          config = normalizeAgentConfig own := by
  intro plugins
  induction plugins with
  | nil => intro state _ config known; exact .inl known
  | cons plugin rest ih =>
      intro state ready config known
      obtain ⟨after, runs, later, first⟩ := initializeEach_cons ready
      rw [runs] at known
      rcases ih later config known with before | ⟨other, listed, own⟩
      · rcases first.configs_from before with old | own
        · exact .inl old
        · exact .inr ⟨plugin, List.mem_cons_self, own⟩
      · exact .inr ⟨other, List.mem_cons_of_mem _ listed, own⟩

theorem configs_once : ∀ {plugins : List Plugin} {state : Initialization},
    Ready returned state plugins →
    state.registry.configIds.Nodup → (state.initializeEach plugins).registry.configIds.Nodup := by
  intro plugins
  induction plugins with
  | nil => intro state _ apart; exact apart
  | cons plugin rest ih =>
      intro state ready apart
      obtain ⟨after, runs, later, first⟩ := initializeEach_cons ready
      rw [runs]
      exact ih later (first.once ready apart)

def Arrived (returned : Plugin → Option (List AgentConfig)) (plugins : List Plugin)
    (registry : PluginRegistry) : Prop :=
  ∀ plugin ∈ plugins, plugin.pluginId ∈ registry.initializedPlugins ∧
    ∀ own ∈ configsOf returned plugin, normalizeAgentConfig own ∈ registry.agentConfigs

theorem arrived_cons {plugin : Plugin} {rest : List Plugin} {registry : PluginRegistry} :
    Arrived returned (plugin :: rest) registry ↔
      (plugin.pluginId ∈ registry.initializedPlugins ∧
        ∀ own ∈ configsOf returned plugin, normalizeAgentConfig own ∈ registry.agentConfigs) ∧
      Arrived returned rest registry :=
  List.forall_mem_cons

theorem own_absent {state : Initialization} {final : PluginRegistry} {plugin : Plugin}
    {rest : List Plugin} (ready : Ready returned state (plugin :: rest))
    (sources : ∀ config ∈ final.agentConfigs, config ∈ state.registry.agentConfigs ∨
      ∃ later ∈ rest, ∃ own ∈ configsOf returned later, config = normalizeAgentConfig own)
    {own : AgentConfig} (member : own ∈ configsOf returned plugin) :
    normalizeAgentConfig own ∉ final.agentConfigs := by
  intro registered
  rcases sources _ registered with before | ⟨later, listed, other, its, same⟩
  · exact ready.fresh plugin List.mem_cons_self own member
      (List.mem_map.mpr ⟨normalizeAgentConfig own, before, rfl⟩)
  · have ids : (normalizeAgentConfig own).agentId = (normalizeAgentConfig other).agentId :=
      congrArg AgentConfig.agentId same
    exact ready.own.first_apart.2 later listed other its
      (List.mem_map.mpr ⟨own, member, ids⟩)

theorem arrived_iff : ∀ {plugins : List Plugin} {state : Initialization},
    Ready returned state plugins →
    (Arrived returned plugins (state.initializeEach plugins).registry ↔
      Compatible returned state.context.agentConfigs state.registry.initializedPlugins
        plugins) := by
  intro plugins
  induction plugins with
  | nil =>
      intro state _
      exact ⟨fun _ => trivial, fun _ => List.forall_mem_nil _⟩
  | cons plugin rest ih =>
      intro state ready
      obtain ⟨after, runs, later, first⟩ := initializeEach_cons ready
      have rest_iff := ih later
      have initialisedGrow := initialised_grows later
      have configsGrow := configs_grow later
      have initialisedFrom := initialised_sources later
      have configsFrom := configs_sources later
      rw [runs, arrived_cons]
      generalize (after.initializeEach rest).registry = final at *
      generalize after.context.agentConfigs = listing at first rest_iff
      generalize after.registry = reached at *
      rw [rest_iff, Compatible]
      cases first with
      | skipped known =>
          rw [if_pos known]
          refine and_congr_left fun _ => ?_
          constructor
          · rintro ⟨_, registered⟩
            refine List.eq_nil_iff_forall_not_mem.mpr fun own member => ?_
            exact own_absent ready configsFrom member (registered own member)
          · intro nothing
            rw [nothing]
            exact ⟨initialisedGrow _ known, List.forall_mem_nil _⟩
      | listed _ new answer =>
          have own : configsOf returned plugin = listing := by
            unfold configsOf
            rw [answer]
            rfl
          have filled := ready.filled plugin List.mem_cons_self
          rw [own] at filled ⊢
          rw [if_neg new, answer]
          refine and_congr_left fun _ => ⟨fun _ => filled, fun _ => ⟨?_, ?_⟩⟩
          · exact initialisedGrow _ (List.mem_append_right _ List.mem_cons_self)
          · intro config member
            exact configsGrow _ (List.mem_append_right _ (List.mem_map_of_mem member))
      | idle new answer empty =>
          have own : configsOf returned plugin = [] := by
            unfold configsOf
            rw [answer]
            rfl
          rw [if_neg new, answer, own]
          dsimp only
          rw [if_pos empty]
          refine ⟨And.right, fun compatible => ⟨⟨?_, List.forall_mem_nil _⟩, compatible⟩⟩
          exact initialisedGrow _ (List.mem_append_right _ List.mem_cons_self)
      | stuck new answer filled =>
          have own : configsOf returned plugin = [] := by
            unfold configsOf
            rw [answer]
            rfl
          rw [if_neg new, answer, own]
          dsimp only
          rw [if_neg filled]
          constructor
          · rintro ⟨⟨known, _⟩, compatible⟩
            rcases initialisedFrom _ known with before | named
            · exact absurd before new
            · exact ⟨named, compatible⟩
          · rintro ⟨⟨other, listed, same⟩, compatible⟩
            have arrived := (rest_iff.mpr compatible other listed).1
            rw [same] at arrived
            exact ⟨⟨arrived, List.forall_mem_nil _⟩, compatible⟩

theorem filled_of_compatible : ∀ {plugins : List Plugin} {context : List AgentConfig}
    {initialised : List String}, Compatible returned context initialised plugins →
    ∀ plugin ∈ plugins, ∀ config ∈ configsOf returned plugin, config.agentId ≠ "" := by
  intro plugins
  induction plugins with
  | nil => intro context initialised _; exact List.forall_mem_nil _
  | cons plugin rest ih =>
      intro context initialised compatible
      rw [Compatible] at compatible
      rw [List.forall_mem_cons]
      by_cases known : plugin.pluginId ∈ initialised
      · rw [if_pos known] at compatible
        rw [compatible.1]
        exact ⟨List.forall_mem_nil _, ih compatible.2⟩
      · rw [if_neg known] at compatible
        unfold configsOf
        cases answer : returned plugin with
        | some configs =>
            rw [answer] at compatible
            exact ⟨compatible.1, ih compatible.2⟩
        | none =>
            rw [answer] at compatible
            dsimp only at compatible
            refine ⟨List.forall_mem_nil _, ?_⟩
            by_cases empty : context = []
            · rw [if_pos empty] at compatible
              exact ih compatible
            · rw [if_neg empty] at compatible
              exact ih compatible.2

/--
If all hooks answer in time, all is registered exactly when no plugin returns nothing behind one
that returned configs. Of plugins with one id, some hook answers in time wherever all is registered.
-/
theorem initializePlugins_iff (localeCompare : String → String → Int) (plugins : List Plugin)
    (returned : Plugin → Option (List AgentConfig))
    (own : OwnConfigs returned (getActivePlugins localeCompare { plugins := plugins })) :
    ((∀ plugin ∈ getActivePlugins localeCompare { plugins := plugins }, Prompt plugin) →
      (AllRegistered returned (getActivePlugins localeCompare { plugins := plugins })
          (initializePlugins localeCompare { plugins := plugins } none) ↔
        Compatible returned [] [] (getActivePlugins localeCompare { plugins := plugins }))) ∧
    (AllRegistered returned (getActivePlugins localeCompare { plugins := plugins })
        (initializePlugins localeCompare { plugins := plugins } none) →
      ∀ plugin ∈ getActivePlugins localeCompare { plugins := plugins },
        ∃ other ∈ getActivePlugins localeCompare { plugins := plugins },
          other.pluginId = plugin.pluginId ∧ ¬ Belated other) := by
  have started : initializePlugins localeCompare { plugins := plugins } none =
      (Initialization.initializeEach { registry := { plugins := plugins }, context := {} }
        (getActivePlugins localeCompare { plugins := plugins })).registry := rfl
  rw [started]
  generalize getActivePlugins localeCompare { plugins := plugins } = active at own ⊢
  generalize at_first : ({ registry := { plugins := plugins }, context := {} } : Initialization) =
    state
  refine ⟨fun prompt => ?_, fun registered plugin listed => ?_⟩
  · have readyOf : (∀ plugin ∈ active, ∀ config ∈ configsOf returned plugin,
        config.agentId ≠ "") → Ready returned state active := by
      intro filled
      subst at_first
      refine ⟨own, prompt, rfl, filled, ?_, ?_⟩
      · intro plugin listed config member
        exact List.not_mem_nil
      · intro first more shape
        cases shape
    have empty : state.registry.agentConfigs = [] := at_first ▸ rfl
    have context : state.context.agentConfigs = [] := at_first ▸ rfl
    have uninitialised : state.registry.initializedPlugins = [] := at_first ▸ rfl
    have arrivedIff := fun filled => arrived_iff (readyOf filled)
    rw [context, uninitialised] at arrivedIff
    constructor
    · intro registered
      have ids : ∀ config ∈ (state.initializeEach active).registry.agentConfigs,
          config.agentId ≠ "" :=
        initializeEach_filled active (empty ▸ List.forall_mem_nil _)
      refine (arrivedIff fun plugin listed config member =>
        ids (normalizeAgentConfig config)
          ((registered.exact _).mpr ⟨plugin, listed, config, member, rfl⟩)).mp
        fun plugin listed => ⟨registered.initialised plugin listed, ?_⟩
      intro config member
      exact (registered.exact _).mpr ⟨plugin, listed, config, member, rfl⟩
    · intro compatible
      have filled := filled_of_compatible compatible
      have arrived := (arrivedIff filled).mpr compatible
      have once : state.registry.configIds.Nodup := by
        unfold configIds
        rw [empty]
        exact List.nodup_nil
      refine ⟨fun plugin listed => (arrived plugin listed).1, ?_,
        configs_once (readyOf filled) once⟩
      intro config
      constructor
      · intro known
        rcases configs_sources (readyOf filled) config known with never | from_plugins
        · rw [empty] at never
          cases never
        · exact from_plugins
      · rintro ⟨plugin, listed, config, member, rfl⟩
        exact (arrived plugin listed).2 config member
  · rcases initialised_of_prompt active state plugin.pluginId
      (registered.initialised plugin listed) with never | found
    · subst at_first
      cases never
    · exact found

end Returned

def steadyPlugin (pluginId : String) (priority : ℚ) (configs : Option (List AgentConfig)) :
    Plugin where
  manifest := { pluginId := pluginId, priority := priority }
  registerAgentConfigs := fun context =>
    { answer := .ok configs, context := context, takes := 20 }
  hookTimeoutSeconds := some 5

theorem steadyPlugin_inTime {pluginId : String} {priority : ℚ}
    {configs : Option (List AgentConfig)} :
    (steadyPlugin pluginId priority configs).inTime 20 = true := by
  have limit : (steadyPlugin "" 0 none).inTime 20 = true := by decide +kernel
  exact limit

def answerOf (plugin : Plugin) : Option (List AgentConfig) :=
  match (plugin.registerAgentConfigs {}).answer with
  | .ok configs => configs
  | .error _ => none

def alphabetical (left right : String) : Int :=
  if left < right then -1 else if left = right then 0 else 1

def speaking (priority : ℚ) : Plugin :=
  steadyPlugin "speaking" priority (some [{ agentId := "helper" }])

def silent (priority : ℚ) : Plugin := steadyPlugin "silent" priority none

theorem silent_first :
    getActivePlugins alphabetical { plugins := [speaking 1, silent 0] } =
      [silent 0, speaking 1] := by
  have behind : notAfter alphabetical (speaking 1) (silent 0) = false := by decide +kernel
  change [speaking 1, silent 0].mergeSort (notAfter alphabetical) = _
  simp [List.mergeSort, behind]

theorem silent_last :
    getActivePlugins alphabetical { plugins := [speaking 0, silent 1] } =
      [speaking 0, silent 1] := by
  have ahead : notAfter alphabetical (speaking 0) (silent 1) = true := by decide +kernel
  change [speaking 0, silent 1].mergeSort (notAfter alphabetical) = _
  simp [List.mergeSort, ahead]

theorem steady_own {plugins : List Plugin}
    (steady : ∀ plugin ∈ plugins, ∃ pluginId priority configs,
      plugin = steadyPlugin pluginId priority configs)
    (plain : ∀ plugin ∈ plugins, ∀ config ∈ configsOf answerOf plugin,
      config.onConflict.getD .error = .error)
    (apart : ((plugins.flatMap (configsOf answerOf)).map AgentConfig.agentId).Nodup) :
    OwnConfigs answerOf plugins := by
  refine ⟨?_, plain, apart⟩
  intro plugin listed context
  obtain ⟨pluginId, priority, configs, rfl⟩ := steady plugin listed
  exact ⟨rfl, rfl⟩

theorem initializePlugins_silent_first :
    AllRegistered answerOf (getActivePlugins alphabetical { plugins := [speaking 1, silent 0] })
      (initializePlugins alphabetical { plugins := [speaking 1, silent 0] } none) := by
  have own : OwnConfigs answerOf
      (getActivePlugins alphabetical { plugins := [speaking 1, silent 0] }) := by
    rw [silent_first]
    refine steady_own ?_ (by decide) (by decide)
    intro plugin listed
    simp only [List.mem_cons, List.not_mem_nil, or_false] at listed
    rcases listed with rfl | rfl
    · exact ⟨_, _, _, rfl⟩
    · exact ⟨_, _, _, rfl⟩
  refine ((initializePlugins_iff alphabetical [speaking 1, silent 0] answerOf own).1 ?_).mpr ?_
  · rw [silent_first]
    intro plugin listed context
    simp only [List.mem_cons, List.not_mem_nil, or_false] at listed
    rcases listed with rfl | rfl
    · exact steadyPlugin_inTime
    · exact steadyPlugin_inTime
  · rw [silent_first]
    simp [Compatible, answerOf, silent, speaking, steadyPlugin, Plugin.pluginId]

/-- A plugin that returns nothing after one that returned a config is not initialised. -/
theorem silent_last_fails :
    OwnConfigs answerOf (getActivePlugins alphabetical { plugins := [speaking 0, silent 1] }) ∧
      ¬ AllRegistered answerOf
        (getActivePlugins alphabetical { plugins := [speaking 0, silent 1] })
        (initializePlugins alphabetical { plugins := [speaking 0, silent 1] } none) := by
  constructor
  · rw [silent_last]
    refine steady_own ?_ (by decide) (by decide)
    intro plugin listed
    simp only [List.mem_cons, List.not_mem_nil, or_false] at listed
    rcases listed with rfl | rfl
    · exact ⟨_, _, _, rfl⟩
    · exact ⟨_, _, _, rfl⟩
  · intro registered
    have known := registered.initialised (silent 1) (by rw [silent_last]; simp)
    unfold initializePlugins at known
    rw [silent_last] at known
    revert known
    decide +kernel

end PluginRegistry

end ByFramework
