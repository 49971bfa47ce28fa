import ExtractionSchema.Agent
import ExtractionSchema.Proofs.Reading.Items
import Mathlib.Data.List.Nodup

/-!
# Which lists of agents are accepted

A list is checked agent by agent, each against those before it. Acceptance itself has no order:
every item describes an agent by itself, and no two agents share a name or an order.

* `Agent.Describes` says what it takes for the entries of an object to describe an agent.
* `Agent.listOfValue_eq_ok_iff`: a list is accepted exactly when its items describe agents of
  distinct names and distinct orders.
-/

namespace ExtractionSchema.Agent

/-- The entries state the agent, and the agent keeps the limits. -/
structure Describes (settings : Settings) (entries : Value.Entries) (a : Agent) : Prop where
  name : Value.getD entries "name" = .string a.name
  name_ne : a.name ≠ ""
  name_le : a.name.length ≤ settings.agentNameLimit
  prompt : Value.getD entries "prompt" = .string a.prompt
  prompt_ne : a.prompt ≠ ""
  prompt_le : a.prompt.length ≤ settings.agentPromptLimit
  order : ∃ n, Value.getD entries "order" = .number n ∧ n.toInt? = some (a.order : Int)
  order_pos : 0 < a.order
  enabled : Value.getD entries "enabled" = .bool a.enabled ∨
    Value.getD entries "enabled" = .null ∧ a.enabled = true
  description : Value.getD entries "description" = (a.description.map .string).getD .null
  description_le : ∀ s ∈ a.description, s.length ≤ settings.agentDescriptionLimit

/-- The value is an object that describes the agent. -/
def IsDescribedBy (settings : Settings) (v : Value) (a : Agent) : Prop :=
  ∃ entries, v = .object entries ∧ Describes settings entries a

/-! ## Checks of a field -/

section Fields

variable {settings : Settings} {index : Nat} {v : Value}

theorem ensure_eq_ok_iff {holds : Bool} {fault : AgentFault} {u : Unit} :
    ensure holds fault = .ok u ↔ holds = true := by
  cases holds <;> simp [ensure]

theorem checkName_eq_ok_iff {taken : List String} {s : String} :
    checkName settings index taken v = .ok s ↔
      v = .string s ∧ s ≠ "" ∧ s.length ≤ settings.agentNameLimit ∧ s ∉ taken := by
  cases v with
  | string t =>
    simp only [checkName, bind_eq_ok_iff, ensure_eq_ok_iff, pure, Except.pure, Except.ok.injEq,
      Value.string.injEq]
    constructor
    · rintro ⟨-, hne, -, hle, -, htaken, rfl⟩
      exact ⟨rfl, by simpa using hne, by simpa using hle, by simpa using htaken⟩
    · rintro ⟨rfl, hne, hle, htaken⟩
      exact ⟨(), by simpa using hne, (), by simpa using hle, (), by simpa using htaken, rfl⟩
  | _ => simp [checkName]

theorem checkPrompt_eq_ok_iff {s : String} : checkPrompt settings index v = .ok s ↔
    v = .string s ∧ s ≠ "" ∧ s.length ≤ settings.agentPromptLimit := by
  cases v with
  | string t =>
    simp only [checkPrompt, bind_eq_ok_iff, ensure_eq_ok_iff, pure, Except.pure, Except.ok.injEq,
      Value.string.injEq]
    constructor
    · rintro ⟨-, hne, -, hle, rfl⟩
      exact ⟨rfl, by simpa using hne, by simpa using hle⟩
    · rintro ⟨rfl, hne, hle⟩
      exact ⟨(), by simpa using hne, (), by simpa using hle, rfl⟩
  | _ => simp [checkPrompt]

theorem checkOrder_eq_ok_iff {taken : List Nat} {order : Nat} :
    checkOrder index taken v = .ok order ↔
      (∃ n, v = .number n ∧ n.toInt? = some (order : Int)) ∧ 0 < order ∧ order ∉ taken := by
  cases v with
  | number n =>
    cases hint : n.toInt? with
    | none => simp [checkOrder, hint]
    | some i =>
      have hvalue : (∃ m, Value.number n = .number m ∧ m.toInt? = some (order : Int)) ↔
          i = order := by
        simp [hint]
      rw [hvalue, checkOrder]
      simp only [hint]
      by_cases hpos : i ≤ 0
      · rw [if_pos hpos]
        constructor
        · intro h
          cases h
        · rintro ⟨rfl, hlt, -⟩
          omega
      · rw [if_neg hpos]
        by_cases htaken : i.toNat ∈ taken
        · rw [if_pos (by simpa using htaken)]
          constructor
          · intro h
            cases h
          · rintro ⟨rfl, -, hfree⟩
            exact absurd htaken hfree
        · rw [if_neg (by simpa using htaken), Except.ok.injEq]
          constructor
          · rintro rfl
            exact ⟨by omega, by omega, htaken⟩
          · rintro ⟨rfl, -, -⟩
            rfl
  | _ => simp [checkOrder]

theorem checkEnabled_eq_ok_iff {b : Bool} : checkEnabled index v = .ok b ↔
    v = .bool b ∨ v = .null ∧ b = true := by
  cases v <;> simp [checkEnabled, eq_comm]

theorem checkDescription_eq_ok_iff {description : Option String} :
    checkDescription settings index v = .ok description ↔
      v = (description.map .string).getD .null ∧
        ∀ s ∈ description, s.length ≤ settings.agentDescriptionLimit := by
  cases v with
  | null => cases description <;> simp [checkDescription]
  | string t =>
    simp only [checkDescription, bind_eq_ok_iff, ensure_eq_ok_iff, pure, Except.pure,
      Except.ok.injEq]
    cases description with
    | none => simp
    | some s =>
      constructor
      · rintro ⟨-, hle, heq⟩
        cases heq
        exact ⟨rfl, by simpa using hle⟩
      · rintro ⟨heq, hle⟩
        cases heq
        exact ⟨(), by simpa using hle, rfl⟩
  | _ => cases description <;> simp [checkDescription]

end Fields

/-! ## Agents -/

/-- An agent is accepted exactly when it is described, and neither its name nor its order is taken
by one before it. -/
theorem check_eq_ok_iff {settings : Settings} {index : Nat} {before : List Agent} {v : Value}
    {a : Agent} : check settings index before v = .ok a ↔
      IsDescribedBy settings v a ∧ a.name ∉ before.map Agent.name ∧
        a.order ∉ before.map Agent.order := by
  obtain ⟨name, prompt, order, enabled, description⟩ := a
  cases v with
  | object entries =>
    simp only [check, bind_eq_ok_iff, ensure_eq_ok_iff, checkName_eq_ok_iff, checkPrompt_eq_ok_iff,
      checkOrder_eq_ok_iff, checkEnabled_eq_ok_iff, checkDescription_eq_ok_iff, pure, Except.pure,
      Except.ok.injEq, IsDescribedBy, Value.object.injEq, exists_eq_left']
    constructor
    · rintro ⟨-, -, -, -, -, -, _, ⟨hname, hne, hle, hfree⟩, _, ⟨hprompt, hpne, hple⟩, _,
        ⟨horder, hpos, hunused⟩, _, henabled, _, ⟨hdescription, hdle⟩, heq⟩
      cases heq
      exact ⟨⟨hname, hne, hle, hprompt, hpne, hple, horder, hpos, henabled, hdescription, hdle⟩,
        hfree, hunused⟩
    · rintro ⟨h, hfree, hunused⟩
      obtain ⟨n, hn, hint⟩ := h.order
      refine ⟨(), by simp [h.name], (), by simp [h.prompt], (), by simp [hn], name,
        ⟨h.name, h.name_ne, h.name_le, hfree⟩, prompt, ⟨h.prompt, h.prompt_ne, h.prompt_le⟩, order,
        ⟨⟨n, hn, hint⟩, h.order_pos, hunused⟩, enabled, h.enabled, description,
        ⟨h.description, h.description_le⟩, rfl⟩
  | _ => simp [check, IsDescribedBy]

/-! ## Lists of agents -/

/-- No two agents have the same name, and no two the same order. -/
structure AreDistinct (as : List Agent) : Prop where
  names : (as.map Agent.name).Nodup
  orders : (as.map Agent.order).Nodup

theorem areDistinct_nil : AreDistinct [] := ⟨List.nodup_nil, List.nodup_nil⟩

theorem AreDistinct.perm {as bs : List Agent} (h : AreDistinct as) (hperm : as.Perm bs) :
    AreDistinct bs :=
  ⟨(hperm.map _).nodup_iff.mp h.names, (hperm.map _).nodup_iff.mp h.orders⟩

theorem AreDistinct.of_append {as bs : List Agent} (h : AreDistinct (as ++ bs)) :
    AreDistinct as := by
  obtain ⟨hnames, horders⟩ := h
  rw [List.map_append] at hnames horders
  exact ⟨(List.nodup_append.mp hnames).1, (List.nodup_append.mp horders).1⟩

/-- One more agent stays distinct from those before it when its name and its order are free. -/
theorem areDistinct_concat_iff {before : List Agent} {a : Agent} :
    AreDistinct (before ++ [a]) ↔ AreDistinct before ∧ a.name ∉ before.map Agent.name ∧
      a.order ∉ before.map Agent.order := by
  have hconcat : ∀ {α : Type} (xs : List α) (x : α), (xs ++ [x]).Nodup ↔ xs.Nodup ∧ x ∉ xs := by
    intro α xs x
    rw [(List.perm_append_singleton x xs).nodup_iff, List.nodup_cons, and_comm]
  constructor
  · rintro ⟨hnames, horders⟩
    rw [List.map_append, List.map_singleton, hconcat] at hnames horders
    exact ⟨⟨hnames.1, horders.1⟩, hnames.2, horders.2⟩
  · rintro ⟨⟨hnames, horders⟩, hname, horder⟩
    constructor
    · rw [List.map_append, List.map_singleton, hconcat]
      exact ⟨hnames, hname⟩
    · rw [List.map_append, List.map_singleton, hconcat]
      exact ⟨horders, horder⟩

/-- What the loop over the items gives: the agents before it, and one for each item. -/
theorem checkFrom_eq_ok_iff {settings : Settings} {index : Nat} {before as : List Agent}
    {vs : List Value} (hbefore : AreDistinct before) :
    checkFrom settings index before vs = .ok as ↔
      ∃ more, as = before ++ more ∧ List.Forall₂ (IsDescribedBy settings) vs more ∧
        AreDistinct as := by
  induction vs generalizing index before with
  | nil =>
    rw [checkFrom, Except.ok.injEq]
    constructor
    · rintro rfl
      exact ⟨[], (List.append_nil before).symm, .nil, hbefore⟩
    · rintro ⟨more, rfl, hmore, -⟩
      cases hmore
      exact (List.append_nil before).symm
  | cons v vs ih =>
    rw [checkFrom, bind_eq_ok_iff]
    constructor
    · rintro ⟨a, ha, hrest⟩
      obtain ⟨hdescribed, hfree⟩ := check_eq_ok_iff.mp ha
      have hnext : AreDistinct (before ++ [a]) := areDistinct_concat_iff.mpr ⟨hbefore, hfree⟩
      obtain ⟨more, rfl, hmore, hall⟩ := (ih hnext).mp hrest
      exact ⟨a :: more, by simp, .cons hdescribed hmore, hall⟩
    · rintro ⟨more, rfl, hmore, hall⟩
      cases hmore with
      | @cons _ a _ more hdescribed hmore =>
        have hall' : AreDistinct ((before ++ [a]) ++ more) := by simpa using hall
        have hnext := hall'.of_append
        obtain ⟨-, hfree⟩ := areDistinct_concat_iff.mp hnext
        refine ⟨a, check_eq_ok_iff.mpr ⟨hdescribed, hfree⟩, ?_⟩
        exact (ih hnext).mpr ⟨more, by simp, hmore, hall⟩

/-- A list is accepted exactly when it is not too long and its items describe agents of distinct
names and distinct orders. -/
theorem listOfValue_eq_ok_iff {settings : Settings} {items : List Value} {as : List Agent} :
    listOfValue settings (.list items) = .ok as ↔
      items.length ≤ settings.maxAgents ∧ List.Forall₂ (IsDescribedBy settings) items as ∧
        AreDistinct as := by
  rw [listOfValue, bind_eq_ok_iff]
  simp only [ensure_eq_ok_iff, decide_eq_true_eq, exists_const,
    checkFrom_eq_ok_iff areDistinct_nil, List.nil_append]
  constructor
  · rintro ⟨hlength, more, rfl, hmore, hall⟩
    exact ⟨hlength, hmore, hall⟩
  · rintro ⟨hlength, hmore, hall⟩
    exact ⟨hlength, as, rfl, hmore, hall⟩

end ExtractionSchema.Agent
