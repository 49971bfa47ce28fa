import ExtractionSchema.Proofs.Agent.Acceptance

/-!
# The first breach of a list of agents

A list that is refused breaks a rule, and the fault is that of the first rule it breaks: the first
by the index of the item, and for that item the first in the order of the checks. A rule is told by
itself, of the item as it is written and of the items before it, whatever the other rules say.

* `AgentRule.breach` tells whether an item breaks a rule, and with which fault.
* `Agent.IsFirstBreach`: of all rules that the items of a list break, this one comes first.
* `Agent.listOfValue_first_breach`: a list is accepted, or refused for its first breach. The fault
  has a message unless it is an order that is taken and has too many digits.
-/

namespace ExtractionSchema

/-! ## Rules -/

/-- What an item of a list of agents is checked for. -/
inductive AgentRule where
  | object
  | namePresent
  | promptPresent
  | orderPresent
  | nameText
  | nameNotEmpty
  | nameLength
  | nameFree
  | promptText
  | promptNotEmpty
  | promptLength
  | orderNumber
  | orderPositive
  | orderFree
  | enabledFlag
  | descriptionText
  | descriptionLength
deriving DecidableEq

namespace AgentRule

/-- The rules in the order of the checks: of the object, its name, prompt, order, flag and
description. -/
def inOrder : List AgentRule :=
  [.object, .namePresent, .promptPresent, .orderPresent, .nameText, .nameNotEmpty, .nameLength,
    .nameFree, .promptText, .promptNotEmpty, .promptLength, .orderNumber, .orderPositive,
    .orderFree, .enabledFlag, .descriptionText, .descriptionLength]

/-- The place of a rule among the checks. -/
def place (r : AgentRule) : Nat := inOrder.idxOf r

theorem mem_inOrder (r : AgentRule) : r ∈ inOrder := by cases r <;> decide

/-- What an item states under a key: nothing where the key is absent or the item is no object. -/
def entryOf (key : String) : Value → Value
  | .object entries => Value.getD entries key
  | _ => .null

/-- The integer that a value is, if it is a number without a fraction. -/
def whole? : Value → Option Int
  | .number n => n.toInt?
  | _ => none

/-- The fault, if the rule is broken. -/
def faultIf (broken : Prop) [Decidable broken] (fault : AgentFault) : Option AgentFault :=
  if broken then some fault else none

/-- The fault of an item that breaks the rule; `earlier` are the items before it. A rule of texts is
broken by no other value, a rule of numbers by none but numbers. -/
def breach (settings : Settings) (earlier : List Value) (v : Value) : AgentRule → Option AgentFault
  | .object =>
    match v with
    | .object _ => none
    | _ => some (.notObject earlier.length)
  | .namePresent => faultIf (entryOf "name" v = .null) (.noName earlier.length)
  | .promptPresent => faultIf (entryOf "prompt" v = .null) (.noPrompt earlier.length)
  | .orderPresent => faultIf (entryOf "order" v = .null) (.noOrder earlier.length)
  | .nameText =>
    match entryOf "name" v with
    | .string _ => none
    | _ => some (.nameNotText earlier.length)
  | .nameNotEmpty => faultIf (entryOf "name" v = .string "") (.nameEmpty earlier.length)
  | .nameLength =>
    match entryOf "name" v with
    | .string s =>
      faultIf (settings.agentNameLimit < s.length) (.nameTooLong settings.agentNameLimit)
    | _ => none
  | .nameFree =>
    match entryOf "name" v with
    | .string s => faultIf (∃ w ∈ earlier, entryOf "name" w = .string s) (.nameTaken s)
    | _ => none
  | .promptText =>
    match entryOf "prompt" v with
    | .string _ => none
    | _ => some (.promptNotText earlier.length)
  | .promptNotEmpty => faultIf (entryOf "prompt" v = .string "") (.promptEmpty earlier.length)
  | .promptLength =>
    match entryOf "prompt" v with
    | .string s =>
      faultIf (settings.agentPromptLimit < s.length) (.promptTooLong settings.agentPromptLimit)
    | _ => none
  | .orderNumber =>
    match entryOf "order" v with
    | .number _ => none
    | _ => some (.orderNotNumber earlier.length)
  | .orderPositive =>
    match entryOf "order" v with
    | .number n => faultIf (∀ i ∈ n.toInt?, i ≤ 0) .orderNotPositive
    | _ => none
  | .orderFree =>
    match whole? (entryOf "order" v) with
    | some i => faultIf (∃ w ∈ earlier, whole? (entryOf "order" w) = some i) (.orderTaken i.toNat)
    | none => none
  | .enabledFlag =>
    match entryOf "enabled" v with
    | .null | .bool _ => none
    | _ => some (.enabledNotFlag earlier.length)
  | .descriptionText =>
    match entryOf "description" v with
    | .null | .string _ => none
    | _ => some (.descriptionNotText earlier.length)
  | .descriptionLength =>
    match entryOf "description" v with
    | .string s =>
      faultIf (settings.agentDescriptionLimit < s.length)
        (.descriptionTooLong settings.agentDescriptionLimit)
    | _ => none

/-! ## Rules before a rule -/

/-- The rules that stand before a rule are those of a lower place. -/
theorem mem_iff_place_lt {before after : List AgentRule} {r s : AgentRule}
    (h : inOrder = before ++ r :: after) : s ∈ before ↔ s.place < r.place := by
  have hnodup : inOrder.Nodup := by decide
  rw [h] at hnodup
  have hr : r ∉ before := fun hr => (List.nodup_append.mp hnodup).2.2 r hr r (by simp) rfl
  have hplace : r.place = before.length := by
    rw [place, h, List.idxOf_append_of_notMem hr, List.idxOf_cons_self, Nat.add_zero]
  rw [hplace, place, h]
  constructor
  · intro hs
    rw [List.idxOf_append_of_mem hs]
    exact List.idxOf_lt_length_of_mem hs
  · intro hlt
    by_contra hs
    rw [List.idxOf_append_of_notMem hs] at hlt
    omega

end AgentRule

/-- The one fault that may not be told: an order that is taken. -/
theorem AgentFault.obstacle_eq_some_iff {fault : AgentFault} {obstacle : Obstacle} :
    fault.obstacle = some obstacle ↔
      ∃ order, fault = .orderTaken order ∧ hasTooManyDigits order = true ∧ obstacle = .digits := by
  cases fault with
  | orderTaken order =>
    cases hdigits : hasTooManyDigits order <;>
      simp [AgentFault.obstacle, hdigits, eq_comm (a := obstacle)]
  | _ => simp [AgentFault.obstacle]

namespace Agent

open AgentRule

/-! ## Checks that report their first breach -/

/-- The fault that a check ends with, if it does. -/
def faultOf {α : Type} : Except AgentFault α → Option AgentFault
  | .ok _ => none
  | .error fault => some fault

/-- The check ends with the fault of the first of the rules that is broken. -/
def Reports {α : Type} (breach : AgentRule → Option AgentFault) (rules : List AgentRule)
    (x : Except AgentFault α) : Prop :=
  faultOf x = rules.findSome? breach

section Reports

variable {α β : Type} {breach : AgentRule → Option AgentFault}

/-- A check after a check reports the rules of the first, then its own. -/
theorem Reports.bind {rules more : List AgentRule} {x : Except AgentFault α}
    {f : α → Except AgentFault β} (hx : Reports breach rules x)
    (hf : ∀ a, x = .ok a → Reports breach more (f a)) :
    Reports breach (rules ++ more) (x >>= f) := by
  unfold Reports at *
  rw [List.findSome?_append, ← hx]
  cases x with
  | ok a => exact hf a rfl
  | error fault => rfl

theorem Reports.map {rules : List AgentRule} {x : Except AgentFault α} {f : α → β}
    (hx : Reports breach rules x) :
    Reports breach rules (x >>= fun a => pure (f a)) := by
  cases x <;> exact hx

theorem Reports.cons_of_none {r : AgentRule} {rules : List AgentRule} {x : Except AgentFault α}
    (hr : breach r = none) (hx : Reports breach rules x) : Reports breach (r :: rules) x := by
  unfold Reports
  rw [List.findSome?_cons, hr]
  exact hx

theorem reports_ensure {r : AgentRule} {broken : Prop} [Decidable broken] {holds : Bool}
    {fault : AgentFault} (h : breach r = faultIf broken fault) (hholds : broken ↔ holds = false) :
    Reports breach [r] (ensure holds fault) := by
  unfold Reports
  rw [List.findSome?_singleton, h]
  cases holds <;> simp [faultIf, hholds, ensure, faultOf]

end Reports

/-! ## Fields -/

section Fields

variable {settings : Settings} {earlier : List Value} {v : Value}

theorem reports_checkName {taken : List String}
    (htaken : ∀ s, s ∈ taken ↔ ∃ w ∈ earlier, entryOf "name" w = .string s) :
    Reports (breach settings earlier v) [.nameText, .nameNotEmpty, .nameLength, .nameFree]
      (checkName settings earlier.length taken (entryOf "name" v)) := by
  cases hname : entryOf "name" v with
  | string s =>
    have htext : breach settings earlier v .nameText = none := by
      simp [breach, hname]
    have hlength : breach settings earlier v .nameLength =
        faultIf (settings.agentNameLimit < s.length) (.nameTooLong settings.agentNameLimit) := by
      simp [breach, hname]
    have hfree : breach settings earlier v .nameFree =
        faultIf (∃ w ∈ earlier, entryOf "name" w = .string s) (.nameTaken s) := by
      simp [breach, hname]
    refine .cons_of_none htext ?_
    refine (reports_ensure rfl (by simp [hname])).bind fun _ _ => ?_
    refine (reports_ensure hlength (by simp)).bind fun _ _ => ?_
    exact (reports_ensure hfree (by simp [htaken])).map
  | _ => simp [Reports, checkName, breach, hname, faultOf]

theorem reports_checkPrompt :
    Reports (breach settings earlier v) [.promptText, .promptNotEmpty, .promptLength]
      (checkPrompt settings earlier.length (entryOf "prompt" v)) := by
  cases hprompt : entryOf "prompt" v with
  | string s =>
    have htext : breach settings earlier v .promptText = none := by
      simp [breach, hprompt]
    have hlength : breach settings earlier v .promptLength =
        faultIf (settings.agentPromptLimit < s.length)
          (.promptTooLong settings.agentPromptLimit) := by
      simp [breach, hprompt]
    refine .cons_of_none htext ?_
    refine (reports_ensure rfl (by simp [hprompt])).bind fun _ _ => ?_
    exact (reports_ensure hlength (by simp)).map
  | _ => simp [Reports, checkPrompt, breach, hprompt, faultOf]

theorem reports_checkOrder {taken : List Nat}
    (htaken : ∀ n : Nat, n ∈ taken ↔ ∃ w ∈ earlier, whole? (entryOf "order" w) = some (n : Int)) :
    Reports (breach settings earlier v) [.orderNumber, .orderPositive, .orderFree]
      (checkOrder earlier.length taken (entryOf "order" v)) := by
  cases horder : entryOf "order" v with
  | number n =>
    have hnumber : breach settings earlier v .orderNumber = none := by
      simp [breach, horder]
    refine .cons_of_none hnumber ?_
    cases hint : n.toInt? with
    | none =>
      simp [Reports, checkOrder, breach, horder, hint, faultOf, faultIf]
    | some i =>
      by_cases hpos : i ≤ 0
      · simp [Reports, checkOrder, breach, horder, hint, hpos, faultOf, faultIf]
      · have hfree : (∃ w ∈ earlier, whole? (entryOf "order" w) = some i) ↔ i.toNat ∈ taken := by
          rw [htaken, Int.toNat_of_nonneg (by omega)]
        have hwhole : whole? (.number n) = some i := hint
        by_cases hmem : i.toNat ∈ taken <;>
          simp [Reports, checkOrder, breach, horder, hint, hpos, hfree, hmem, hwhole, faultOf,
            faultIf]
  | _ => simp [Reports, checkOrder, breach, horder, faultOf]

theorem reports_checkEnabled : Reports (breach settings earlier v) [.enabledFlag]
    (checkEnabled earlier.length (entryOf "enabled" v)) := by
  cases henabled : entryOf "enabled" v <;>
    simp [Reports, checkEnabled, breach, henabled, faultOf]

theorem reports_checkDescription :
    Reports (breach settings earlier v) [.descriptionText, .descriptionLength]
      (checkDescription settings earlier.length (entryOf "description" v)) := by
  cases hdescription : entryOf "description" v with
  | string s =>
    have htext : breach settings earlier v .descriptionText = none := by
      simp [breach, hdescription]
    have hlength : breach settings earlier v .descriptionLength =
        faultIf (settings.agentDescriptionLimit < s.length)
          (.descriptionTooLong settings.agentDescriptionLimit) := by
      simp [breach, hdescription]
    refine .cons_of_none htext ?_
    exact (reports_ensure hlength (by simp)).map
  | _ => simp [Reports, checkDescription, breach, hdescription, faultOf]

end Fields

/-! ## Agents -/

theorem IsDescribedBy.stated_name {settings : Settings} {v : Value} {a : Agent}
    (h : IsDescribedBy settings v a) : entryOf "name" v = .string a.name := by
  obtain ⟨entries, rfl, hentries⟩ := h
  exact hentries.name

theorem IsDescribedBy.whole?_order {settings : Settings} {v : Value} {a : Agent}
    (h : IsDescribedBy settings v a) : whole? (entryOf "order" v) = some (a.order : Int) := by
  obtain ⟨entries, rfl, hentries⟩ := h
  obtain ⟨n, hn, hint⟩ := hentries.order
  rw [entryOf, hn]
  exact hint

/-- What some agent has, and what some item states, is the same where each agent has what its item
states. -/
theorem exists_mem_iff_of_forall₂ {settings : Settings} {earlier : List Value} {before : List Agent}
    (h : List.Forall₂ (IsDescribedBy settings) earlier before) {has : Agent → Prop}
    {states : Value → Prop} (heach : ∀ w a, IsDescribedBy settings w a → (has a ↔ states w)) :
    (∃ a ∈ before, has a) ↔ ∃ w ∈ earlier, states w := by
  induction h with
  | nil => simp
  | cons hw _ ih => simp only [List.mem_cons, exists_eq_or_imp, heach _ _ hw, ih]

/-- An item is checked for all rules in their order. -/
theorem reports_check {settings : Settings} {earlier : List Value} {before : List Agent}
    (hbefore : List.Forall₂ (IsDescribedBy settings) earlier before) (v : Value) :
    Reports (breach settings earlier v) inOrder (check settings earlier.length before v) := by
  have hnames : ∀ s, s ∈ before.map Agent.name ↔ ∃ w ∈ earlier, entryOf "name" w = .string s := by
    intro s
    rw [List.mem_map]
    refine exists_mem_iff_of_forall₂ hbefore fun w a hw => ?_
    rw [hw.stated_name, Value.string.injEq]
  have horders : ∀ n : Nat, n ∈ before.map Agent.order ↔
      ∃ w ∈ earlier, whole? (entryOf "order" w) = some (n : Int) := by
    intro n
    rw [List.mem_map]
    refine exists_mem_iff_of_forall₂ hbefore fun w a hw => ?_
    rw [hw.whole?_order, Option.some.injEq, Int.natCast_inj]
  cases v with
  | object entries =>
    refine .cons_of_none rfl ?_
    refine (reports_ensure rfl (by simp [entryOf])).bind fun _ _ => ?_
    refine (reports_ensure rfl (by simp [entryOf])).bind fun _ _ => ?_
    refine (reports_ensure rfl (by simp [entryOf])).bind fun _ _ => ?_
    refine (reports_checkName hnames).bind fun name _ => ?_
    refine reports_checkPrompt.bind fun prompt _ => ?_
    refine (reports_checkOrder horders).bind fun order _ => ?_
    refine reports_checkEnabled.bind fun enabled _ => ?_
    exact reports_checkDescription.map
  | _ => rfl

/-! ## The first breach of a list -/

/-- The item at an index of the list breaks the rule, with this fault. -/
def BreaksAt (settings : Settings) (items : List Value) (i : Nat) (r : AgentRule)
    (fault : AgentFault) : Prop :=
  ∃ v, items[i]? = some v ∧ r.breach settings (items.take i) v = some fault

/-- The item at the index breaks the rule, no item before it breaks any, and it breaks none before
this one. -/
structure IsFirstBreach (settings : Settings) (items : List Value) (i : Nat) (r : AgentRule)
    (fault : AgentFault) : Prop where
  breaks : BreaksAt settings items i r fault
  first : ∀ j s fault', BreaksAt settings items j s fault' → i < j ∨ i = j ∧ r.place ≤ s.place

section FirstBreach

variable {settings : Settings} {items : List Value} {i j : Nat} {r s : AgentRule}
  {fault fault' : AgentFault}

/-- There is one first breach at most. -/
theorem IsFirstBreach.unique (h : IsFirstBreach settings items i r fault)
    (h' : IsFirstBreach settings items j s fault') : i = j ∧ r = s ∧ fault = fault' := by
  have hle := h.first j s fault' h'.breaks
  have hge := h'.first i r fault h.breaks
  have hi : i = j := by omega
  have hplace : r.place = s.place := by omega
  have hr : r = s := (List.idxOf_inj (mem_inOrder r)).mp hplace
  subst hi hr
  obtain ⟨v, hv, hfault⟩ := h.breaks
  obtain ⟨w, hw, hfault'⟩ := h'.breaks
  rw [hv, Option.some.injEq] at hw
  rw [← hw, hfault, Option.some.injEq] at hfault'
  exact ⟨rfl, rfl, hfault'⟩

/-- The first rule that an item breaks is the first breach of the list when no item before it breaks
any. -/
theorem isFirstBreach_of_findSome? {v : Value} (hv : items[i]? = some v)
    (hfault : inOrder.findSome? (breach settings (items.take i) v) = some fault)
    (hbefore : ∀ j s fault', j < i → ¬ BreaksAt settings items j s fault') :
    ∃ r, IsFirstBreach settings items i r fault := by
  obtain ⟨before, r, after, hsplit, hr, hnone⟩ := List.findSome?_eq_some_iff.mp hfault
  refine ⟨r, ⟨v, hv, hr⟩, fun j s fault' hbreaks => ?_⟩
  rcases Nat.lt_trichotomy i j with hlt | rfl | hgt
  · exact .inl hlt
  · obtain ⟨w, hw, hs⟩ := hbreaks
    rw [hv, Option.some.injEq] at hw
    subst hw
    refine .inr ⟨rfl, Nat.le_of_not_lt fun hlt => ?_⟩
    rw [hnone s ((mem_iff_place_lt hsplit).mpr hlt)] at hs
    cases hs
  · exact absurd hbreaks (hbefore j s fault' hgt)

/-- An item that passes the check breaks no rule. -/
theorem not_breaksAt_of_check {before : List Agent} {earlier vs : List Value} {v : Value}
    {a : Agent}
    (hdescribed : List.Forall₂ (IsDescribedBy settings) earlier before)
    (hcheck : check settings earlier.length before v = .ok a) :
    ¬ BreaksAt settings (earlier ++ v :: vs) earlier.length r fault := by
  have hreports := reports_check hdescribed v
  rw [Reports, hcheck] at hreports
  have hnone := List.findSome?_eq_none_iff.mp hreports.symm r (mem_inOrder r)
  rintro ⟨w, hw, hfault⟩
  have hat : (earlier ++ v :: vs)[earlier.length]? = some v := by simp
  have htake : (earlier ++ v :: vs).take earlier.length = earlier := by simp
  rw [hat, Option.some.injEq] at hw
  rw [htake, ← hw, hnone] at hfault
  cases hfault

/-- What the loop over the items comes to, when the items before those that are left have been
accepted and break no rule: either no item of the whole list breaks any, or the fault is that of its
first breach. -/
theorem checkFrom_first_breach {settings : Settings} {before : List Agent} {earlier vs : List Value}
    (hdescribed : List.Forall₂ (IsDescribedBy settings) earlier before)
    (hnone : ∀ j s fault, j < earlier.length → ¬ BreaksAt settings (earlier ++ vs) j s fault) :
    match checkFrom settings earlier.length before vs with
    | .ok _ => ∀ j s fault, ¬ BreaksAt settings (earlier ++ vs) j s fault
    | .error fault => ∃ i r, IsFirstBreach settings (earlier ++ vs) i r fault := by
  induction vs generalizing earlier before with
  | nil =>
    rintro j s fault ⟨v, hv, hfault⟩
    rw [List.append_nil] at hv
    obtain ⟨hlt, -⟩ := List.getElem?_eq_some_iff.mp hv
    exact hnone j s fault hlt ⟨v, by rwa [List.append_nil], hfault⟩
  | cons v vs ih =>
    cases hcheck : check settings earlier.length before v with
    | error fault =>
      have hreports := reports_check hdescribed v
      rw [Reports, hcheck] at hreports
      rw [checkFrom, hcheck]
      refine ⟨earlier.length, isFirstBreach_of_findSome? (v := v) (by simp) ?_ hnone⟩
      rw [List.take_left]
      exact hreports.symm
    | ok a =>
      obtain ⟨hv, -⟩ := check_eq_ok_iff.mp hcheck
      have hdescribed' : List.Forall₂ (IsDescribedBy settings) (earlier ++ [v]) (before ++ [a]) :=
        List.rel_append hdescribed (.cons hv .nil)
      have hnone' : ∀ j s fault, j < (earlier ++ [v]).length →
          ¬ BreaksAt settings (earlier ++ [v] ++ vs) j s fault := by
        intro j s fault hj
        rw [List.append_assoc, List.singleton_append]
        rw [List.length_append, List.length_singleton] at hj
        by_cases hlast : j = earlier.length
        · rw [hlast]
          exact not_breaksAt_of_check hdescribed hcheck
        · exact hnone j s fault (by omega)
      have hrest := ih hdescribed' hnone'
      rw [List.append_assoc, List.singleton_append, List.length_append, List.length_singleton]
        at hrest
      rw [checkFrom, hcheck]
      exact hrest

end FirstBreach

/-! ## Lists of agents -/

/-- The loop over a list ends with the fault of its first breach, if there is one. -/
theorem checkFrom_eq_error_iff {settings : Settings} {items : List Value} {fault : AgentFault} :
    checkFrom settings 0 [] items = .error fault ↔
      ∃ i r, IsFirstBreach settings items i r fault := by
  have hloop := @checkFrom_first_breach settings [] [] items .nil
    (fun j s fault hj => absurd hj (Nat.not_lt_zero j))
  rw [List.nil_append, List.length_nil] at hloop
  cases hchecked : checkFrom settings 0 [] items with
  | ok as =>
    rw [hchecked] at hloop
    constructor
    · intro h
      cases h
    · rintro ⟨i, r, hfirst⟩
      exact absurd hfirst.breaks (hloop i r fault)
  | error fault' =>
    rw [hchecked] at hloop
    obtain ⟨i, r, hfirst⟩ := hloop
    constructor
    · intro h
      cases h
      exact ⟨i, r, hfirst⟩
    · rintro ⟨j, s, hfirst'⟩
      rw [(hfirst.unique hfirst').2.2]

/-- A list is refused with a fault exactly when it is no list, is too long, or has its first breach
with that fault. -/
theorem listOfValue_eq_error_iff {settings : Settings} {v : Value} {fault : AgentFault} :
    listOfValue settings v = .error fault ↔
      ((∀ items, v ≠ .list items) ∧ fault = .notAList) ∨
      ∃ items, v = .list items ∧
        ((settings.maxAgents < items.length ∧ fault = .tooMany settings.maxAgents) ∨
          (items.length ≤ settings.maxAgents ∧ ∃ i r, IsFirstBreach settings items i r fault)) := by
  cases v with
  | list items =>
    by_cases hlength : items.length ≤ settings.maxAgents
    · have hrun : listOfValue settings (.list items) = checkFrom settings 0 [] items := by
        rw [listOfValue, ensure, if_pos (by simpa using hlength)]
        rfl
      rw [hrun, checkFrom_eq_error_iff]
      simp [hlength, Nat.not_lt.mpr hlength]
    · have hrun : listOfValue settings (.list items) = .error (.tooMany settings.maxAgents) := by
        rw [listOfValue, ensure, if_neg (by simpa using hlength)]
        rfl
      rw [hrun]
      simp [Nat.lt_of_not_le hlength, hlength, eq_comm]
  | _ => simp [listOfValue, eq_comm]

/-- Only a rule of free orders is broken with the fault that an order is taken. -/
theorem eq_orderFree_of_orderTaken {settings : Settings} {earlier : List Value} {v : Value}
    {r : AgentRule} {order : Nat} (h : r.breach settings earlier v = some (.orderTaken order)) :
    r = .orderFree := by
  cases r with
  | orderFree => rfl
  | _ =>
    simp only [breach, faultIf] at h
    repeat' split at h
    all_goals simp_all

/-- A list is accepted exactly when it is not too long and its items describe agents of distinct
names and distinct orders. Otherwise it is no list, is too long, or is refused for its first breach:
that of the first item that breaks a rule, by the first rule that it breaks. The fault can be told
unless that rule is broken by an order that is taken and has too many digits to be written. -/
theorem listOfValue_first_breach (settings : Settings) (v : Value) :
    (∀ as, listOfValue settings v = .ok as ↔
      ∃ items, v = .list items ∧ items.length ≤ settings.maxAgents ∧
        List.Forall₂ (IsDescribedBy settings) items as ∧ AreDistinct as) ∧
    (∀ fault, listOfValue settings v = .error fault ↔
      ((∀ items, v ≠ .list items) ∧ fault = .notAList) ∨
      ∃ items, v = .list items ∧
        ((settings.maxAgents < items.length ∧ fault = .tooMany settings.maxAgents) ∨
          (items.length ≤ settings.maxAgents ∧ ∃ i r, IsFirstBreach settings items i r fault))) ∧
    ∀ fault obstacle,
      (listOfValue settings v = .error fault ∧ fault.obstacle = some obstacle) ↔
        ∃ items i order, v = .list items ∧ items.length ≤ settings.maxAgents ∧
          IsFirstBreach settings items i .orderFree fault ∧ fault = .orderTaken order ∧
          hasTooManyDigits order = true ∧ obstacle = .digits := by
  refine ⟨fun as => ?_, fun fault => listOfValue_eq_error_iff, fun fault obstacle => ?_⟩
  · cases v with
    | list items => simp [listOfValue_eq_ok_iff]
    | _ => simp [listOfValue]
  · rw [listOfValue_eq_error_iff, AgentFault.obstacle_eq_some_iff]
    constructor
    · rintro ⟨⟨-, rfl⟩ | ⟨items, rfl, ⟨-, rfl⟩ | ⟨hlength, i, r, hfirst⟩⟩, order, horder, hdigits⟩
      · cases horder
      · cases horder
      · subst horder
        obtain ⟨w, -, hbreach⟩ := hfirst.breaks
        obtain rfl := eq_orderFree_of_orderTaken hbreach
        exact ⟨items, i, order, rfl, hlength, hfirst, rfl, hdigits⟩
    · rintro ⟨items, i, order, rfl, hlength, hfirst, rfl, hdigits⟩
      exact ⟨.inr ⟨items, rfl, .inr ⟨hlength, i, .orderFree, hfirst⟩⟩, order, rfl, hdigits⟩

/-- Two agents that are to run at one place. -/
def latecomers (order : Nat) : List Value := ["a", "b"].map fun name =>
  .record [("name", .string name), ("prompt", .string "p"), ("order", .int order)]

theorem listOfValue_latecomers {order : Nat} (hpos : 0 < order) :
    listOfValue .standard (.list (latecomers order)) = .error (.orderTaken order) := by
  have hne : order ≠ 0 := Nat.ne_of_gt hpos
  have hlength : "a".length = 1 ∧ "b".length = 1 ∧ "p".length = 1 := ⟨rfl, rfl, rfl⟩
  simp [hlength, latecomers, Value.record, listOfValue, checkFrom, check, checkName, checkPrompt,
    checkOrder, checkEnabled, checkDescription, ensure, Value.getD, Value.lookup, Number.toInt?,
    hne, Settings.standard, bind, Except.bind, pure, Except.pure]

/-- Not every refusal can be told: the order may have too many digits to be written. -/
theorem listOfValue_latecomers_untold : ∃ fault,
    listOfValue .standard (.list (latecomers (Nat.pow 10 digitLimit))) = .error fault ∧
      fault.obstacle = some .digits := by
  have hdigits := hasTooManyDigits_ten_pow
  generalize Nat.pow 10 digitLimit = order at hdigits ⊢
  have hpos : 0 < order := by
    rw [Nat.pos_iff_ne_zero]
    rintro rfl
    exact absurd hdigits (by decide)
  refine ⟨_, listOfValue_latecomers hpos, ?_⟩
  rw [AgentFault.obstacle, if_pos hdigits]

end Agent
end ExtractionSchema
