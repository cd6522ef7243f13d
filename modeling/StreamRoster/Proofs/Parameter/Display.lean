import Mathlib.Data.List.Induction
import StreamRoster.Parameter.Detail

/-!
# What a Panel Shows

A panel shows the representation that was chosen last of the value that came
last, and says so on its two channels as often as there is a reason to.

The value and the toggle are published on channels of their own, and a step
may touch one, both or none of them. `values` and `choices` are read off the
steps alone: the values that came, and the representations that were chosen.
That they settle the panel is an invariant (`Shows`). The one case that needs
an argument is a choice in front of the first value. Nothing is published
then, so the value channel must not have been touched, and the choice has to
be kept for the value that comes later.

How often a channel was published is not a matter of the panel but of the
step: `publishes` says it of a step and what was before it. Counting goes by
versions, since publishing moves the version on even if the value is the same.

## Main definitions

* `Step.value?`, `Step.choice?`: What a step brings.
* `values`, `choices`: What several steps bring.
* `publishes`: Whether a step publishes a value.
* `Shows`: The panel that some steps lead to.

## Theorems

* `step_cases`: A step brings a value, a choice, or neither.
* `shows_step`, `shows_run`: Steps lead to the panel that they settle.
* `versions_step`: How often a step publishes on the channels.
* `display_of_run`: What a panel shows and publishes over any steps.
-/

namespace StreamRoster

namespace Detail

/-- The value that a step brings. -/
def Step.value? : Step → Option ParameterValue
  | .value v => some v
  | .valueText text => (Json.readAll (ParameterValue.read Json.topRoom) text).toOption
  | .parameter _ | .parameterText _ | .choose _ => none

/-- The representation that a step chooses. -/
def Step.choice? : Step → Option Bool
  | .choose raw => some raw
  | .parameter _ | .parameterText _ | .value _ | .valueText _ => none

/-- The values that came, in order. -/
def values (steps : List Step) : List ParameterValue := steps.filterMap Step.value?

/-- The representations that were chosen, in order. -/
def choices (steps : List Step) : List Bool := steps.filterMap Step.choice?

/-- Whether a step behind others publishes a value: it brings one, or it
    chooses a representation of one that came before. -/
def publishes (steps : List Step) (s : Step) : Bool :=
  s.value?.isSome || (s.choice?.isSome && !(values steps).isEmpty)

theorem run_concat (d : Detail) (steps : List Step) (s : Step) :
    d.run (steps ++ [s]) = (d.run steps).step s := by
  rw [run, List.foldl_append, List.foldl_cons, List.foldl_nil, ← run]

/-- A step brings a value, or a choice, or neither and then it leaves all but
    the definition of the parameter alone. -/
theorem step_cases (d : Detail) (s : Step) :
    (∃ v, s.value? = some v ∧ s.choice? = none ∧ d.step s = d.setValue v) ∨
      (∃ raw, s.value? = none ∧ s.choice? = some raw ∧ d.step s = d.choose raw) ∨
      (s.value? = none ∧ s.choice? = none ∧ ∃ p, d.step s = { d with parameter := p }) := by
  cases s with
  | parameter p => exact Or.inr (Or.inr ⟨rfl, rfl, some p, rfl⟩)
  | value v => exact Or.inl ⟨v, rfl, rfl, rfl⟩
  | choose raw => exact Or.inr (Or.inl ⟨raw, rfl, rfl, rfl⟩)
  | parameterText text =>
      refine Or.inr (Or.inr ⟨rfl, rfl, ?_⟩)
      rw [step]
      cases Json.readAll (Parameter.read Json.topRoom) text with
      | ok p => exact ⟨some p, rfl⟩
      | error failure => exact ⟨d.parameter, rfl⟩
  | valueText text =>
      rw [Step.value?, step]
      cases Json.readAll (ParameterValue.read Json.topRoom) text with
      | ok v => exact Or.inl ⟨v, rfl, rfl, rfl⟩
      | error failure => exact Or.inr (Or.inr ⟨rfl, rfl, d.parameter, rfl⟩)

/-! ### The representation and the channels -/

@[simp] theorem setValue_current (d : Detail) (v : ParameterValue) :
    (d.setValue v).current = some v := rfl

@[simp] theorem setValue_showRaw (d : Detail) (v : ParameterValue) :
    (d.setValue v).showRaw = d.showRaw := rfl

@[simp] theorem setValue_value (d : Detail) (v : ParameterValue) :
    (d.setValue v).value = d.value.publish (some (chosen d.showRaw.value v)) := rfl

@[simp] theorem choose_current (d : Detail) (raw : Bool) :
    (d.choose raw).current = d.current := by
  unfold choose republish
  cases d.current <;> rfl

@[simp] theorem choose_showRaw (d : Detail) (raw : Bool) :
    (d.choose raw).showRaw = d.showRaw.publish raw := by
  unfold choose republish
  cases d.current <;> rfl

/-- A choice publishes the current value, if there is one. -/
@[simp] theorem choose_value (d : Detail) (raw : Bool) :
    (d.choose raw).value
      = d.current.elim d.value fun v => d.value.publish (some (chosen raw v)) := by
  unfold choose republish
  cases d.current <;> rfl

/-! ### Runs -/

/-- The panel that some steps lead to. -/
structure Shows (steps : List Step) (d : Detail) : Prop where
  current : d.current = (values steps).getLast?
  raw : d.showRaw.value = (choices steps).getLast?.getD false
  value : d.value.value = d.current.map (chosen d.showRaw.value)

theorem shows_start (parameter : Option Parameter) : Shows [] (start parameter) :=
  ⟨rfl, rfl, rfl⟩

theorem values_concat (steps : List Step) (s : Step) :
    values (steps ++ [s]) = values steps ++ s.value?.toList := by
  rw [values, List.filterMap_append, ← values]
  cases hvalue : s.value? <;> simp [hvalue]

theorem choices_concat (steps : List Step) (s : Step) :
    choices (steps ++ [s]) = choices steps ++ s.choice?.toList := by
  rw [choices, List.filterMap_append, ← choices]
  cases hchoice : s.choice? <;> simp [hchoice]

theorem shows_step (steps : List Step) (s : Step) (d : Detail) (h : Shows steps d) :
    Shows (steps ++ [s]) (d.step s) := by
  rcases step_cases d s with ⟨v, hvalue, hchoice, hstep⟩ | ⟨raw, hvalue, hchoice, hstep⟩ |
    ⟨hvalue, hchoice, p, hstep⟩
  · refine ⟨?_, ?_, ?_⟩
    · rw [hstep, values_concat, hvalue, Option.toList_some, List.getLast?_concat, setValue_current]
    · rw [hstep, choices_concat, hchoice, Option.toList_none, List.append_nil, setValue_showRaw,
        h.raw]
    · rw [hstep]
      rfl
  · have hcurrent : (d.choose raw).current = (values steps).getLast? := by
      rw [choose_current, h.current]
    refine ⟨?_, ?_, ?_⟩
    · rw [hstep, values_concat, hvalue, Option.toList_none, List.append_nil, hcurrent]
    · rw [hstep, choices_concat, hchoice, Option.toList_some, List.getLast?_concat, choose_showRaw]
      rfl
    · rw [hstep, choose_value, choose_showRaw, choose_current]
      cases hnow : d.current with
      | some v => rfl
      | none =>
          -- In front of the first value the channel holds nothing, and still does.
          have hnothing := h.value
          rw [hnow] at hnothing
          exact hnothing
  · refine ⟨?_, ?_, ?_⟩
    · rw [hstep, values_concat, hvalue, Option.toList_none, List.append_nil, h.current]
    · rw [hstep, choices_concat, hchoice, Option.toList_none, List.append_nil, h.raw]
    · rw [hstep]
      exact h.value

/-- Steps lead to the panel that they settle, by induction along them. -/
theorem shows_run (parameter : Option Parameter) (steps : List Step) :
    Shows steps ((start parameter).run steps) := by
  induction steps using List.reverseRecOn with
  | nil => exact shows_start parameter
  | append_singleton steps s ih =>
      rw [run_concat]
      exact shows_step steps s _ ih

/-- How often a step publishes on the channels: once or not at all. -/
theorem versions_step (steps : List Step) (s : Step) (d : Detail) (h : Shows steps d) :
    (d.step s).value.version = d.value.version + (publishes steps s).toNat ∧
      (d.step s).showRaw.version = d.showRaw.version + s.choice?.isSome.toNat := by
  rcases step_cases d s with ⟨v, hvalue, hchoice, hstep⟩ | ⟨raw, hvalue, hchoice, hstep⟩ |
    ⟨hvalue, hchoice, p, hstep⟩
  · rw [hstep, publishes, hvalue, hchoice]
    exact ⟨rfl, rfl⟩
  · rw [hstep, publishes, hvalue, hchoice, choose_value, choose_showRaw, h.current]
    -- Whether a value came before decides whether there is a current one.
    cases values steps with
    | nil => exact ⟨rfl, rfl⟩
    | cons v vs =>
        rw [List.getLast?_cons]
        exact ⟨rfl, rfl⟩
  · rw [hstep, publishes, hvalue, hchoice]
    exact ⟨rfl, rfl⟩

/-- What a panel shows and publishes over any steps. It shows the last value in
    the representation that was chosen last, and the engineering one as long
    as none was. A value is published by every step that brings one and by
    every choice behind the first value, the toggle by every choice, each of
    them once. Whatever brings neither, as a text that cannot be read, leaves
    both channels and the current value alone. -/
theorem display_of_run (parameter : Option Parameter) (steps : List Step) :
    ((start parameter).run steps).showRaw.value = (choices steps).getLast?.getD false ∧
      ((start parameter).run steps).current = (values steps).getLast? ∧
      ((start parameter).run steps).value.value = (values steps).getLast?.map (fun v =>
        if ((start parameter).run steps).showRaw.value then v.raw else v.engineering) ∧
      ∀ s : Step,
        ((start parameter).run (steps ++ [s])).value.version
            = ((start parameter).run steps).value.version + (publishes steps s).toNat ∧
          ((start parameter).run (steps ++ [s])).showRaw.version
            = ((start parameter).run steps).showRaw.version + s.choice?.isSome.toNat ∧
          (s.value?.isSome ∨ s.choice?.isSome ∨
            (((start parameter).run (steps ++ [s])).value
                = ((start parameter).run steps).value ∧
              ((start parameter).run (steps ++ [s])).showRaw
                = ((start parameter).run steps).showRaw ∧
              ((start parameter).run (steps ++ [s])).current
                = ((start parameter).run steps).current)) := by
  have h := shows_run parameter steps
  refine ⟨h.raw, h.current, ?_, fun s => ?_⟩
  · rw [← h.current]
    exact h.value
  · rw [run_concat]
    rcases versions_step steps s _ h with ⟨hvalue, htoggle⟩
    refine ⟨hvalue, htoggle, ?_⟩
    -- Only setting a parameter leaves value, choice and current value alone.
    rcases step_cases ((start parameter).run steps) s with ⟨v, hv, _⟩ | ⟨raw, _, hraw, _⟩ |
      ⟨_, _, p, hstep⟩
    · exact Or.inl (Option.isSome_of_eq_some hv)
    · exact Or.inr (Or.inl (Option.isSome_of_eq_some hraw))
    · rw [hstep]
      exact Or.inr (Or.inr ⟨rfl, rfl, rfl⟩)

end Detail

end StreamRoster
