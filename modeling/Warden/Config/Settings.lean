import Warden.Access.Decision
import Warden.Authority.Hierarchy
import Warden.Config.Environment
import Warden.Toml.Reader

/-!
# Settings

The settings of a filter chain, decoded from a TOML document with their defaults (unknown keys
refused), and then checked.
-/

namespace Warden.Config

/-- How anonymous visitors are handled. -/
structure AnonymousSettings where
  enabled : Bool
  key : String
  principal : String
  authorities : List String
  deriving DecidableEq, Repr

/-- How secured calls run under a substitute identity. -/
structure RunAsSettings where
  key : String
  rolePrefix : String
  deriving DecidableEq, Repr

structure RuleSettings where
  pattern : String
  method : Option String
  attributes : List String
  deriving DecidableEq, Repr

/-- The settings of a filter chain. -/
structure Settings where
  rejectPublic : Bool
  strategy : Strategy
  allowIfAllAbstain : Bool
  allowIfEqual : Bool
  roleHierarchy : Option String
  anonymous : AnonymousSettings
  runAs : Option RunAsSettings
  rules : List RuleSettings
  deriving DecidableEq, Repr

def AnonymousSettings.default : AnonymousSettings :=
  { enabled := false, key := "", principal := "anonymousUser",
    authorities := ["ROLE_ANONYMOUS"] }

/-! ## Decoding -/

/-- The value of a setting, or none when it is not given. -/
abbrev Lookup := String → Option Toml.Value

/-- The settings of a group with the keys `keys`: a table of those keys, or an array. -/
def groupOf (keys : List String) : Toml.Value → Except String Lookup
  | .table entries =>
    match entries.find? fun e => !keys.contains e.1 with
    | some e => .error s!"unknown field {e.1}"
    | none => .ok fun k => entries.lookup k
  | .array items => .ok fun k => (keys.idxOf? k).bind fun i => items[i]?
  | _ => .error "expected a table"

def textOf : Toml.Value → Except String String
  | .string s => .ok s
  | _ => .error "expected a string"

def flagOf : Toml.Value → Except String Bool
  | .boolean b => .ok b
  | _ => .error "expected a boolean"

def textsOf : Toml.Value → Except String (List String)
  | .array items => items.mapM textOf
  | _ => .error "expected an array"

def strategyNamed : String → Except String Strategy
  | "affirmative" => .ok .affirmative
  | "consensus" => .ok .consensus
  | "unanimous" => .ok .unanimous
  | _ => .error "unknown decision strategy"

/-- A strategy setting: its name, or a table whose one key names it. -/
def strategyOf : Toml.Value → Except String Strategy
  | .string s => strategyNamed s
  | .table [(name, .table [])] => strategyNamed name
  | .table [(name, .array [])] => strategyNamed name
  | _ => .error "expected a decision strategy"

def settingOr {β : Type} (get : Lookup) (key : String) (decode : Toml.Value → Except String β)
    (default : β) : Except String β :=
  match get key with
  | some v => decode v
  | none => .ok default

def required {β : Type} (get : Lookup) (key : String) (decode : Toml.Value → Except String β) :
    Except String β :=
  match get key with
  | some v => decode v
  | none => .error s!"missing field {key}"

def anonymousOf (v : Toml.Value) : Except String AnonymousSettings := do
  let get ← groupOf ["enabled", "key", "principal", "authorities"] v
  let d := AnonymousSettings.default
  return { enabled := ← settingOr get "enabled" flagOf d.enabled,
           key := ← settingOr get "key" textOf d.key,
           principal := ← settingOr get "principal" textOf d.principal,
           authorities := ← settingOr get "authorities" textsOf d.authorities }

def runAsOf (v : Toml.Value) : Except String RunAsSettings := do
  let get ← groupOf ["key", "role_prefix"] v
  return { key := ← required get "key" textOf,
           rolePrefix := ← settingOr get "role_prefix" textOf "ROLE_" }

def ruleOf (v : Toml.Value) : Except String RuleSettings := do
  let get ← groupOf ["pattern", "method", "attributes"] v
  return { pattern := ← required get "pattern" textOf,
           method := ← settingOr get "method" (fun m => some <$> textOf m) none,
           attributes := ← settingOr get "attributes" textsOf [] }

def rulesOf : Toml.Value → Except String (List RuleSettings)
  | .array items => items.mapM ruleOf
  | _ => .error "expected an array of rules"

/-- Decodes the settings of a document. -/
def settingsOf (v : Toml.Value) : Except String Settings := do
  let get ← groupOf ["reject_public_invocations", "decision_strategy", "allow_if_all_abstain",
    "allow_if_equal_granted_denied", "role_hierarchy", "anonymous", "run_as", "rules"] v
  return { rejectPublic := ← settingOr get "reject_public_invocations" flagOf false,
           strategy := ← settingOr get "decision_strategy" strategyOf .affirmative,
           allowIfAllAbstain := ← settingOr get "allow_if_all_abstain" flagOf false,
           allowIfEqual := ← settingOr get "allow_if_equal_granted_denied" flagOf true,
           roleHierarchy := ← settingOr get "role_hierarchy" (fun h => some <$> textOf h) none,
           anonymous := ← settingOr get "anonymous" anonymousOf AnonymousSettings.default,
           runAs := ← settingOr get "run_as" (fun r => some <$> runAsOf r) none,
           rules := ← settingOr get "rules" rulesOf [] }

/-! ## Checking and reading -/

def blankRule? (rules : List RuleSettings) : Option Nat :=
  rules.findIdx? fun r => Text.trim r.pattern = ""

/-- Checks the anonymous settings: an enabled filter needs a key, then authorities. -/
def AnonymousSettings.check (a : AnonymousSettings) : Except ConfigError Unit :=
  if a.enabled then
    if a.key = "" then throw (.invalid "anonymous.key is required when anonymous.enabled = true")
    else if a.authorities = [] then throw (.invalid "anonymous.authorities cannot be empty")
    else pure ()
  else pure ()

/-- Checks the run-as settings, when given: the key must not be empty. -/
def checkRunAs : Option RunAsSettings → Except ConfigError Unit
  | some r => if r.key = "" then throw (.invalid "run_as.key cannot be empty") else pure ()
  | none => pure ()

/-- Checks the role hierarchy, when given: it must be a valid declaration. -/
def checkHierarchy : Option String → Except ConfigError Unit
  | some d =>
    match RoleHierarchy.ofDeclaration d with
    | .error e => throw (.security e)
    | .ok _ => pure ()
  | none => pure ()

/-- Checks that no rule has a blank pattern, naming the first that has. -/
def checkRules (rules : List RuleSettings) : Except ConfigError Unit :=
  match blankRule? rules with
  | some i => throw (.invalid s!"rules[{i}].pattern cannot be empty")
  | none => pure ()

/-- Checks the rules that settings must keep, in order. -/
def Settings.check (s : Settings) : Except ConfigError Unit := do
  s.anonymous.check
  checkRunAs s.runAs
  checkHierarchy s.roleHierarchy
  checkRules s.rules

/-- Reads settings from a configuration text: expanded, parsed, decoded and checked. -/
def Settings.read (env : Environment) (text : String) : Except ConfigError Settings := do
  let expanded ← expand env text
  let doc ← (Toml.read expanded).mapError .parse
  let s ← (settingsOf doc).mapError .parse
  s.check
  return s

end Warden.Config
