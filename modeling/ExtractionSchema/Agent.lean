import ExtractionSchema.Settings

/-!
# Agents

A schema may come with post-processing agents: named steps with a prompt, run in ascending order. A
list of agents is checked agent by agent, and within an agent check by check; the first violation
ends the reading.

* `Agent.listOfValue` reads a list of agents.
* `runOrder` is the order in which the enabled agents run.
-/

namespace ExtractionSchema

/-- A post-processing step. -/
structure Agent where
  name : String
  prompt : String
  order : Nat
  enabled : Bool
  description : Option String
deriving DecidableEq

/-- What is wrong with a list of agents. -/
inductive AgentFault where
  | notAList
  | tooMany (most : Nat)
  | notObject (index : Nat)
  | noName (index : Nat)
  | noPrompt (index : Nat)
  | noOrder (index : Nat)
  | nameNotText (index : Nat)
  | nameEmpty (index : Nat)
  | nameTooLong (most : Nat)
  | nameTaken (name : String)
  | promptNotText (index : Nat)
  | promptEmpty (index : Nat)
  | promptTooLong (most : Nat)
  | orderNotNumber (index : Nat)
  | orderNotPositive
  | orderTaken (order : Nat)
  | enabledNotFlag (index : Nat)
  | descriptionNotText (index : Nat)
  | descriptionTooLong (most : Nat)
deriving DecidableEq

/-- What a message says about a list of agents. -/
def AgentFault.message : AgentFault → String
  | .notAList => "Agents must be an array"
  | .tooMany most => s!"Maximum {most} agents allowed per schema"
  | .notObject index => s!"Agent at index {index} must be an object"
  | .noName index => s!"Agent at index {index} must have a name"
  | .noPrompt index => s!"Agent at index {index} must have a prompt"
  | .noOrder index => s!"Agent at index {index} must have an order"
  | .nameNotText index => s!"Agent name at index {index} must be a string"
  | .nameEmpty index => s!"Agent name at index {index} must not be empty"
  | .nameTooLong most => s!"Agent name must not exceed {most} characters"
  | .nameTaken name =>
    "Agent names must be unique within schema (duplicate: " ++ Text.quoted name ++ ")"
  | .promptNotText index => s!"Agent prompt at index {index} must be a string"
  | .promptEmpty index => s!"Agent prompt at index {index} must not be empty"
  | .promptTooLong most => s!"Agent prompt must not exceed {most} characters"
  | .orderNotNumber index => s!"Agent order at index {index} must be a number"
  | .orderNotPositive => "Agent order must be a positive integer"
  | .orderTaken order =>
    if hasTooManyDigits order then Obstacle.digits.message
    else s!"Agent order values must be unique within schema (duplicate: {order})"
  | .enabledNotFlag index => s!"Agent enabled at index {index} must be a boolean"
  | .descriptionNotText index => s!"Agent description at index {index} must be a string"
  | .descriptionTooLong most => s!"Agent description must not exceed {most} characters"

/-- What stands in the way of telling a fault, if anything. -/
def AgentFault.obstacle : AgentFault → Option Obstacle
  | .orderTaken order => if hasTooManyDigits order then some .digits else none
  | _ => none

namespace Agent

/-! ## Checks of a field -/

/-- A condition that must hold. -/
def ensure (holds : Bool) (fault : AgentFault) : Except AgentFault Unit :=
  if holds then .ok () else .error fault

/-- Checks a name against the names before it. -/
def checkName (settings : Settings) (index : Nat) (taken : List String) (v : Value) :
    Except AgentFault String :=
  match v with
  | .string s => do
    ensure (s ≠ "") (.nameEmpty index)
    ensure (s.length ≤ settings.agentNameLimit) (.nameTooLong settings.agentNameLimit)
    ensure (!taken.contains s) (.nameTaken s)
    return s
  | _ => .error (.nameNotText index)

/-- Checks a prompt. -/
def checkPrompt (settings : Settings) (index : Nat) (v : Value) : Except AgentFault String :=
  match v with
  | .string s => do
    ensure (s ≠ "") (.promptEmpty index)
    ensure (s.length ≤ settings.agentPromptLimit) (.promptTooLong settings.agentPromptLimit)
    return s
  | _ => .error (.promptNotText index)

/-- Checks an order against the orders before it: a positive number without a fraction. -/
def checkOrder (index : Nat) (taken : List Nat) (v : Value) : Except AgentFault Nat :=
  match v with
  | .number n =>
    match n.toInt? with
    | some i =>
      if i ≤ 0 then .error .orderNotPositive
      else if taken.contains i.toNat then .error (.orderTaken i.toNat)
      else .ok i.toNat
    | none => .error .orderNotPositive
  | _ => .error (.orderNotNumber index)

/-- Checks whether an agent is enabled; it is unless it says otherwise. -/
def checkEnabled (index : Nat) (v : Value) : Except AgentFault Bool :=
  match v with
  | .null => .ok true
  | .bool b => .ok b
  | _ => .error (.enabledNotFlag index)

/-- Checks a description. -/
def checkDescription (settings : Settings) (index : Nat) (v : Value) :
    Except AgentFault (Option String) :=
  match v with
  | .null => .ok none
  | .string s => do
    ensure (s.length ≤ settings.agentDescriptionLimit)
      (.descriptionTooLong settings.agentDescriptionLimit)
    return some s
  | _ => .error (.descriptionNotText index)

/-! ## Lists of agents -/

/-- Checks an agent against the agents before it. -/
def check (settings : Settings) (index : Nat) (before : List Agent) (v : Value) :
    Except AgentFault Agent :=
  match v with
  | .object entries => do
    let name := Value.getD entries "name"
    let prompt := Value.getD entries "prompt"
    let order := Value.getD entries "order"
    ensure (name ≠ .null) (.noName index)
    ensure (prompt ≠ .null) (.noPrompt index)
    ensure (order ≠ .null) (.noOrder index)
    let name ← checkName settings index (before.map Agent.name) name
    let prompt ← checkPrompt settings index prompt
    let order ← checkOrder index (before.map Agent.order) order
    let enabled ← checkEnabled index (Value.getD entries "enabled")
    let description ← checkDescription settings index (Value.getD entries "description")
    return ⟨name, prompt, order, enabled, description⟩
  | _ => .error (.notObject index)

/-- Checks the agents from an index on; `before` holds those before it. -/
def checkFrom (settings : Settings) (index : Nat) (before : List Agent) :
    List Value → Except AgentFault (List Agent)
  | [] => .ok before
  | v :: vs => do
    let agent ← check settings index before v
    checkFrom settings (index + 1) (before ++ [agent]) vs

/-- Reads a list of agents. -/
def listOfValue (settings : Settings) : Value → Except AgentFault (List Agent)
  | .list items => do
    ensure (items.length ≤ settings.maxAgents) (.tooMany settings.maxAgents)
    checkFrom settings 0 [] items
  | _ => .error .notAList

/-- The written form of an agent. -/
def toValue (a : Agent) : Value :=
  .record ([("name", .string a.name), ("prompt", .string a.prompt), ("order", .int a.order),
    ("enabled", .bool a.enabled)] ++
    match a.description with
    | some s => [("description", .string s)]
    | none => [])

end Agent

/-- The enabled agents in ascending order. -/
def runOrder (agents : List Agent) : List Agent :=
  (agents.filter Agent.enabled).mergeSort fun a b => a.order ≤ b.order

end ExtractionSchema
