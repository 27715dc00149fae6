import ByFramework.Collections.InsertionMap
import ByFramework.Protocol

/-! Agent configurations: their defaults, and the manager that stores them by id. -/

namespace ByFramework

open Collections

inductive ConflictStrategy where
  | error
  | overwrite
  | skip
deriving DecidableEq, Repr

inductive CallbackType where
  | beforeModelCallback
  | afterModelCallback
  | beforeToolCallback
  | afterToolCallback
  | beforeAgentCallback
  | afterAgentCallback
deriving DecidableEq, Repr

/-- An agent's configuration. A callback is known by its number. `Id` is the type of its id: an
update may leave a stored configuration without one. -/
structure AgentConfig (Id : Type := String) where
  agentId : Id
  name : Option String := none
  description : Option String := none
  prompts : Option (List (String × JsonValue)) := none
  tools : Option (List (String × JsonValue)) := none
  skills : Option (List (String × JsonValue)) := none
  callbacks : Option (List (CallbackType × List Nat)) := none
  knowledgeBases : Option (List (String × JsonValue)) := none
  subAgents : Option (List String) := none
  onConflict : Option ConflictStrategy := none
deriving DecidableEq

def normalizeAgentConfig (config : AgentConfig) : AgentConfig :=
  { config with
    name := some (config.name.getD "")
    description := some (config.description.getD "")
    prompts := some (config.prompts.getD [])
    tools := some (config.tools.getD [])
    skills := some (config.skills.getD [])
    callbacks := some (config.callbacks.getD [])
    knowledgeBases := some (config.knowledgeBases.getD [])
    subAgents := some (config.subAgents.getD [])
    onConflict := some (config.onConflict.getD .error) }

/-- `Partial<AgentConfig>`: an optional property may be left out, or present without a value. -/
structure AgentConfigUpdates where
  agentId : Option (Option String) := none
  name : Option (Option String) := none
  description : Option (Option String) := none
  prompts : Option (Option (List (String × JsonValue))) := none
  tools : Option (Option (List (String × JsonValue))) := none
  skills : Option (Option (List (String × JsonValue))) := none
  callbacks : Option (Option (List (CallbackType × List Nat))) := none
  knowledgeBases : Option (Option (List (String × JsonValue))) := none
  subAgents : Option (Option (List String)) := none
  onConflict : Option (Option ConflictStrategy) := none
deriving DecidableEq

def AgentConfig.stored (config : AgentConfig) : AgentConfig (Option String) :=
  { config with agentId := some config.agentId }

/-- `{ ...config, ...updates }` -/
def AgentConfig.updated (config : AgentConfig (Option String)) (updates : AgentConfigUpdates) :
    AgentConfig (Option String) where
  agentId := updates.agentId.getD config.agentId
  name := updates.name.getD config.name
  description := updates.description.getD config.description
  prompts := updates.prompts.getD config.prompts
  tools := updates.tools.getD config.tools
  skills := updates.skills.getD config.skills
  callbacks := updates.callbacks.getD config.callbacks
  knowledgeBases := updates.knowledgeBases.getD config.knowledgeBases
  subAgents := updates.subAgents.getD config.subAgents
  onConflict := updates.onConflict.getD config.onConflict

/-- What iterating yields: the items, and the exception that ends the iteration early, if any. -/
structure Iterable (Item : Type) where
  items : List Item
  failure : Option JsError := none
deriving DecidableEq

structure AgentConfigManager where
  configs : InsertionMap String (AgentConfig (Option String))
deriving DecidableEq

namespace AgentConfigManager

def addConfig (manager : AgentConfigManager) (config : AgentConfig) :
    Except JsError Bool × AgentConfigManager :=
  let stored : AgentConfigManager := ⟨manager.configs.set config.agentId config.stored⟩
  if manager.configs.has config.agentId then
    match config.onConflict with
    | some .overwrite => (.ok true, stored)
    | some .error =>
        (.error ⟨"Error", "AgentConfig with id '" ++ config.agentId ++ "' already exists"⟩, manager)
    | some .skip => (.ok false, manager)
    | none => (.ok true, stored)
  else (.ok true, stored)

/-- The loop of `addConfigs`: an item that is refused counts as `false`. -/
def addEach (manager : AgentConfigManager) : List AgentConfig → List Bool × AgentConfigManager
  | [] => ([], manager)
  | config :: rest =>
      let (outcome, after) := manager.addConfig config
      let added := match outcome with
        | .ok flag => flag
        | .error _ => false
      let (results, last) := after.addEach rest
      (added :: results, last)

def addConfigs (manager : AgentConfigManager) (configs : Iterable AgentConfig) :
    Except JsError (List Bool) × AgentConfigManager :=
  let (results, after) := manager.addEach configs.items
  match configs.failure with
  | some error => (.error error, after)
  | none => (.ok results, after)

def removeConfig (manager : AgentConfigManager) (agentId : String) : Bool × AgentConfigManager :=
  (manager.configs.has agentId, ⟨manager.configs.delete agentId⟩)

def removeAllConfigs (_ : AgentConfigManager) : AgentConfigManager := ⟨.empty⟩

def getConfig (manager : AgentConfigManager) (agentId : String) :
    Option (AgentConfig (Option String)) :=
  manager.configs.get? agentId

def listConfigs (manager : AgentConfigManager) : List (AgentConfig (Option String)) :=
  manager.configs.values

def listAgentIds (manager : AgentConfigManager) : List String := manager.configs.keys

def count (manager : AgentConfigManager) : Nat := manager.configs.size

def hasConfig (manager : AgentConfigManager) (agentId : String) : Bool :=
  manager.configs.has agentId

def getSubAgents (manager : AgentConfigManager) (agentId : String) :
    List (AgentConfig (Option String)) :=
  match (manager.getConfig agentId).bind AgentConfig.subAgents with
  | none => []
  | some subAgents => subAgents.filterMap manager.getConfig

def updateConfig (manager : AgentConfigManager) (agentId : String)
    (updates : AgentConfigUpdates) : Option (AgentConfig (Option String)) × AgentConfigManager :=
  match manager.configs.get? agentId with
  | none => (none, manager)
  | some config =>
      let updatedConfig := config.updated updates
      (some updatedConfig, ⟨manager.configs.set agentId updatedConfig⟩)

/-- The loop of `setConfigs` and of the constructor: the first refusal ends it. -/
def addUntilRefused (manager : AgentConfigManager) :
    List AgentConfig → Except JsError Unit × AgentConfigManager
  | [] => (.ok (), manager)
  | config :: rest =>
      match manager.addConfig config with
      | (.error error, after) => (.error error, after)
      | (.ok _, after) => after.addUntilRefused rest

def setConfigs (manager : AgentConfigManager) (configs : Iterable AgentConfig) :
    Except JsError Unit × AgentConfigManager :=
  match manager.removeAllConfigs.addUntilRefused configs.items with
  | (.error error, after) => (.error error, after)
  | (.ok _, after) =>
      match configs.failure with
      | some error => (.error error, after)
      | none => (.ok (), after)

/-- `new AgentConfigManager(configs)` -/
def construct (configs : Option (List AgentConfig)) : Except JsError AgentConfigManager :=
  match configs with
  | none => .ok ⟨.empty⟩
  | some configs =>
      match addUntilRefused ⟨.empty⟩ configs with
      | (.error error, _) => .error error
      | (.ok _, manager) => .ok manager

end AgentConfigManager

inductive ManagerOp where
  | addConfig (config : AgentConfig)
  | addConfigs (configs : Iterable AgentConfig)
  | removeConfig (agentId : String)
  | updateConfig (agentId : String) (updates : AgentConfigUpdates)
  | setConfigs (configs : Iterable AgentConfig)
  | removeAllConfigs
deriving DecidableEq

def thrown {Result : Type} : Except JsError Result → Option JsError
  | .error error => some error
  | .ok _ => none

/-- What the call throws, if it throws, and the manager it leaves. -/
def ManagerOp.perform (manager : AgentConfigManager) :
    ManagerOp → Option JsError × AgentConfigManager
  | .addConfig config =>
      let (outcome, after) := manager.addConfig config
      (thrown outcome, after)
  | .addConfigs configs =>
      let (outcome, after) := manager.addConfigs configs
      (thrown outcome, after)
  | .removeConfig agentId => (none, (manager.removeConfig agentId).2)
  | .updateConfig agentId updates => (none, (manager.updateConfig agentId updates).2)
  | .setConfigs configs =>
      let (outcome, after) := manager.setConfigs configs
      (thrown outcome, after)
  | .removeAllConfigs => (none, manager.removeAllConfigs)

end ByFramework
