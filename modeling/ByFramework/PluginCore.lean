import ByFramework.AgentConfigCore
import Mathlib.Data.Rat.Defs

/-! Plugins, the context they build configurations in, and the registry that collects them. -/

namespace ByFramework

structure PluginBuildContext where
  prevAgentConfigs : List AgentConfig := []
  agentConfigs : List AgentConfig := []
deriving DecidableEq

namespace PluginBuildContext

def setAgentConfigs (context : PluginBuildContext) (configs : List AgentConfig) :
    PluginBuildContext :=
  { context with agentConfigs := configs }

def listAgentConfigs (context : PluginBuildContext) : List AgentConfig := context.agentConfigs

def freezePrevAgentConfigs (context : PluginBuildContext) : PluginBuildContext :=
  { context with prevAgentConfigs := context.agentConfigs }

end PluginBuildContext

structure PluginManifest where
  pluginId : String
  version : String := "1.0.0"
  priority : ℚ := 0
  enabled : Bool := true

/-- A list of configs, nothing, or an exception. -/
abbrev HookAnswer := Except JsError (Option (List AgentConfig))

/-- What a hook does to the context at once, and what it answers after some time. -/
structure HookRun where
  answer : HookAnswer
  context : PluginBuildContext
  takes : ℚ := 0

/-- A plugin; times are in milliseconds where nothing else is said. -/
structure Plugin where
  manifest : PluginManifest
  registerAgentConfigs : PluginBuildContext → HookRun
  hookTimeoutSeconds : Option ℚ := none

def Plugin.pluginId (plugin : Plugin) : String := plugin.manifest.pluginId

def Plugin.name (plugin : Plugin) : String := plugin.manifest.pluginId

/-- `setTimeout` takes other delays for a millisecond, and fractions off. -/
def timerDelay (delay : ℚ) : ℚ := if 1 ≤ delay ∧ delay ≤ 2147483647 then delay.floor else 1

/-- The delay of the timer that `executeHook` sets against a hook, if it sets one. -/
def Plugin.timer (plugin : Plugin) : Option ℚ :=
  match plugin.hookTimeoutSeconds with
  | some timeoutSeconds =>
      if 0 < timeoutSeconds then some (timerDelay (timeoutSeconds * 1000)) else none
  | none => none

/-- The timer is set after the hook was called: an answer at the same time comes first. -/
def Plugin.inTime (plugin : Plugin) (takes : ℚ) : Bool :=
  plugin.timer.all fun limit => decide (takes ≤ limit)

structure PluginRegistry where
  plugins : List Plugin := []
  agentConfigs : List AgentConfig := []
  initializedPlugins : List String := []

namespace PluginRegistry

/-- `priorityGap`, or how the names compare when there is none, is at most zero -/
def notAfter (localeCompare : String → String → Int) (left right : Plugin) : Bool :=
  let priorityGap := left.manifest.priority - right.manifest.priority
  if priorityGap ≠ 0 then priorityGap ≤ 0 else localeCompare left.name right.name ≤ 0

def getActivePlugins (localeCompare : String → String → Int) (registry : PluginRegistry) :
    List Plugin :=
  (registry.plugins.filter fun plugin => plugin.manifest.enabled).mergeSort
    (notAfter localeCompare)

def findAgentConfig (registry : PluginRegistry) (agentId : String) : Option AgentConfig :=
  registry.agentConfigs.find? fun config => config.agentId = agentId

def validateAgentConfig (config : AgentConfig) : Except JsError Unit :=
  if config.agentId = "" then .error ⟨"Error", "AgentConfig.agent_id must not be empty"⟩
  else .ok ()

def registerAgentConfig (registry : PluginRegistry) (config : AgentConfig) :
    Except JsError Unit × PluginRegistry :=
  let normalized := normalizeAgentConfig config
  match validateAgentConfig normalized with
  | .error error => (.error error, registry)
  | .ok _ =>
      match registry.findAgentConfig normalized.agentId with
      | none => (.ok (), { registry with agentConfigs := registry.agentConfigs ++ [normalized] })
      | some _ =>
          -- `existing === normalized` compares objects, and the copy just made is a new one.
          match normalized.onConflict.getD .error with
          | .error =>
              (.error ⟨"Error", "agent_config '" ++ normalized.agentId ++
                "' is already registered"⟩, registry)
          | .skip => (.ok (), registry)
          | .overwrite =>
              let others := registry.agentConfigs.filter fun other =>
                other.agentId ≠ normalized.agentId
              (.ok (), { registry with agentConfigs := others ++ [normalized] })

/-- The loop over the context's configs: the first refusal ends it. -/
def registerEach (registry : PluginRegistry) :
    List AgentConfig → Except JsError Unit × PluginRegistry
  | [] => (.ok (), registry)
  | config :: rest =>
      match registry.registerAgentConfig config with
      | (.error error, after) => (.error error, after)
      | (.ok _, after) => after.registerEach rest

end PluginRegistry

/-- What `initializePlugins` works on. Hooks that were late have their answers yet to come. -/
structure Initialization where
  registry : PluginRegistry
  context : PluginBuildContext
  clock : ℚ := 0
  late : List (ℚ × HookAnswer) := []

namespace Initialization

/-- What is left of a registration once its hook has answered. -/
def answered (state : Initialization) : HookAnswer → Except JsError Unit × Initialization
  | .error error => (.error error, state)
  | .ok newConfigs =>
      let context := match newConfigs with
        | some configs => state.context.setAgentConfigs configs
        | none => state.context
      let (outcome, registry) := state.registry.registerEach context.listAgentConfigs
      (outcome, { state with registry := registry, context := context })

/-- Time passes, and nobody heeds what becomes of the registrations that were late. -/
def passTo (state : Initialization) (instant : ℚ) : Initialization :=
  let due := (state.late.filter fun late => late.1 ≤ instant).mergeSort
    fun left right => left.1 ≤ right.1
  due.foldl (fun state late => (state.answered late.2).2)
    { state with clock := instant, late := state.late.filter fun late => instant < late.1 }

/-- The registration of one plugin; exceptions and time-outs are kept from the caller. -/
def executeHook (state : Initialization) (plugin : Plugin) : Bool × Initialization :=
  let run := plugin.registerAgentConfigs state.context.freezePrevAgentConfigs
  let called := { state with context := run.context }
  if plugin.inTime run.takes then
    let (outcome, after) := (called.passTo (state.clock + run.takes)).answered run.answer
    (outcome.isOk, after)
  else
    -- The race is lost, and the hook goes on.
    let after := called.passTo (state.clock + plugin.timer.getD 0)
    (false, { after with late := after.late ++ [(state.clock + run.takes, run.answer)] })

def markInitialized (state : Initialization) (pluginId : String) : Initialization :=
  { state with registry := { state.registry with
      initializedPlugins := state.registry.initializedPlugins ++ [pluginId] } }

/-- The loop of `initializePlugins`. -/
def initializeEach (state : Initialization) : List Plugin → Initialization
  | [] => state
  | plugin :: rest =>
      if plugin.pluginId ∈ state.registry.initializedPlugins then state.initializeEach rest
      else
        let (ok, after) := state.executeHook plugin
        if ok then (after.markInitialized plugin.pluginId).initializeEach rest
        else after.initializeEach rest

end Initialization

def PluginRegistry.initializePlugins (localeCompare : String → String → Int)
    (registry : PluginRegistry) (buildContext : Option PluginBuildContext) : PluginRegistry :=
  let context := buildContext.getD { agentConfigs := registry.agentConfigs }
  let started : Initialization := { registry := registry, context := context }
  (started.initializeEach (registry.getActivePlugins localeCompare)).registry

end ByFramework
