import Boardswarm.Device

/-! # Mode transitions

`Device::set_mode` looks the mode up by name, checks its prerequisite and
clears the current mode in one critical section, then runs the mode's steps:
each step's actuator is looked up in the actuator registry when the step runs
and invoked with the step's parameters. A missing or failing actuator ends the
transition with the current mode left cleared; otherwise the mode is recorded.
This file runs one call to completion, with the registry and the actuators'
answers fixed for its duration.
-/

namespace Boardswarm

/-- `DeviceSetModeError`. -/
inductive DeviceSetModeError where
  | modeNotFound
  | wrongCurrentMode
  | actuatorFailed
deriving DecidableEq, Repr

variable {A : Type}

/-- `Server::find_actuator`: the first registered actuator whose properties
satisfy the criteria. -/
def findActuator (actuators : Registry A) (criteria : List (String × String)) : Option A :=
  (actuators.find criteria).map (·.2.2)

/-- The mode `set_mode` targets: the first one with the requested name. -/
def Device.findMode (d : Device) (mode : String) : Option DeviceMode :=
  d.modes.find? (·.name == mode)

/-- The prerequisite check of the critical section. -/
def DeviceMode.dependsMet (target : DeviceMode) (current : Option String) : Bool :=
  match target.depends with
  | some depend => current == some depend
  | none => true

/-- The `for step in &target.sequence` loop, given whether each actuator
accepts each parameter payload: the outcome and the invocations made, in order. -/
def runSequence (actuators : Registry A) (ok : A → Parameters → Bool) :
    List Config.ModeStep → Except DeviceSetModeError Unit × List (A × Parameters)
  | [] => (.ok (), [])
  | step :: rest =>
    match findActuator actuators step.match_ with
    | none => (.error .actuatorFailed, [])
    | some provider =>
      if ok provider step.parameters then
        let r := runSequence actuators ok rest
        (r.1, (provider, step.parameters) :: r.2)
      else (.error .actuatorFailed, [(provider, step.parameters)])

/-- `Device::set_mode` with no concurrent call: the result, the device
afterwards and the actuator invocations. -/
def Device.setMode (d : Device) (actuators : Registry A) (ok : A → Parameters → Bool)
    (mode : String) : Except DeviceSetModeError Unit × Device × List (A × Parameters) :=
  match d.findMode mode with
  | none => (.error .modeNotFound, d, [])
  | some target =>
    if target.dependsMet d.currentMode then
      let r := runSequence actuators ok (target.sequence.map (·.config))
      match r.1 with
      | .ok () => (.ok (), { d with currentMode := some mode }, r.2)
      | .error e => (.error e, { d with currentMode := none }, r.2)
    else (.error .wrongCurrentMode, d, [])

section Spec

variable (actuators : Registry A) (ok : A → Parameters → Bool)

/-- A step whose actuator is registered and accepts its parameters. -/
def StepSucceeds (step : Config.ModeStep) : Prop :=
  ∃ a, findActuator actuators step.match_ = some a ∧ ok a step.parameters = true

/-- The invocation a step makes, if its actuator is registered. -/
def invocation (step : Config.ModeStep) : Option (A × Parameters) :=
  (findActuator actuators step.match_).map (·, step.parameters)

/-- The loop succeeds through a prefix of the steps; either it ran them all,
or the next step's actuator was missing or failed, and that step was the last
one invoked, if its actuator was there. -/
theorem runSequence_spec (steps : List Config.ModeStep) :
    ∃ pre rest, steps = pre ++ rest ∧ (∀ s ∈ pre, StepSucceeds actuators ok s) ∧
      ((rest = [] ∧ runSequence actuators ok steps = (.ok (), pre.filterMap (invocation actuators))) ∨
        ∃ s rest', rest = s :: rest' ∧ ¬ StepSucceeds actuators ok s ∧
          runSequence actuators ok steps =
            (.error .actuatorFailed, (pre ++ [s]).filterMap (invocation actuators))) := by
  induction steps with
  | nil => exact ⟨[], [], rfl, by simp, .inl ⟨rfl, rfl⟩⟩
  | cons step steps ih =>
    cases hf : findActuator actuators step.match_ with
    | none =>
      refine ⟨[], step :: steps, rfl, by simp, .inr ⟨step, steps, rfl, ?_, ?_⟩⟩
      · simp [StepSucceeds, hf]
      · simp [runSequence, invocation, hf]
    | some a =>
      by_cases hok : ok a step.parameters = true
      · obtain ⟨pre, rest, rfl, hpre, hrest⟩ := ih
        have hs : StepSucceeds actuators ok step := ⟨a, hf, hok⟩
        have hinv : invocation actuators step = some (a, step.parameters) := by simp [invocation, hf]
        refine ⟨step :: pre, rest, rfl, by simpa [hs] using hpre, ?_⟩
        rcases hrest with ⟨rfl, h⟩ | ⟨s, rest', rfl, hs', h⟩
        · rw [List.append_nil] at h
          exact .inl ⟨rfl, by simp [runSequence, hf, hok, h, hinv]⟩
        · exact .inr ⟨s, rest', rfl, hs', by simp [runSequence, hf, hok, h, hinv]⟩
      · refine ⟨[], step :: steps, rfl, by simp, .inr ⟨step, steps, rfl, ?_, ?_⟩⟩
        · simp [StepSucceeds, hf, hok]
        · simp [runSequence, invocation, hf, hok]

theorem findMode_eq_none {d : Device} {mode : String} :
    d.findMode mode = none ↔ ∀ m ∈ d.modes, m.name ≠ mode := by
  simp [Device.findMode, List.find?_eq_none]

/-- `set_mode` run alone: `ModeNotFound` exactly when no mode has the name,
`WrongCurrentMode` exactly when the first such mode's prerequisite is not the
current mode, and then nothing changes and no actuator runs. Otherwise the steps'
actuators run in order up to the first step whose actuator is missing or fails;
such a step ends the call with `ActuatorFailed` and no current mode, and if
there is none the call succeeds and records the mode. -/
theorem setMode_spec (d : Device) (mode : String) :
    ((d.setMode actuators ok mode).1 = .error .modeNotFound ↔ ∀ m ∈ d.modes, m.name ≠ mode) ∧
    ((d.setMode actuators ok mode).1 = .error .wrongCurrentMode ↔
      ∃ target p, d.findMode mode = some target ∧ target.depends = some p ∧
        d.currentMode ≠ some p) ∧
    ((d.setMode actuators ok mode).1 = .error .modeNotFound ∨
        (d.setMode actuators ok mode).1 = .error .wrongCurrentMode →
      (d.setMode actuators ok mode).2 = (d, [])) ∧
    ∀ target, d.findMode mode = some target → target.dependsMet d.currentMode = true →
      ∃ pre rest, target.sequence.map (·.config) = pre ++ rest ∧
        (∀ s ∈ pre, StepSucceeds actuators ok s) ∧
        ((rest = [] ∧ d.setMode actuators ok mode =
            (.ok (), { d with currentMode := some mode }, pre.filterMap (invocation actuators))) ∨
          ∃ s rest', rest = s :: rest' ∧ ¬ StepSucceeds actuators ok s ∧
            d.setMode actuators ok mode = (.error .actuatorFailed, { d with currentMode := none },
              (pre ++ [s]).filterMap (invocation actuators))) := by
  have hdep : ∀ target : DeviceMode, target.dependsMet d.currentMode = false ↔
      ∃ p, target.depends = some p ∧ d.currentMode ≠ some p := fun target => by
    unfold DeviceMode.dependsMet
    split <;> simp_all
  rw [← findMode_eq_none]
  cases hm : d.findMode mode with
  | none => simp [Device.setMode, hm]
  | some target =>
    cases ht : target.dependsMet d.currentMode
    case false => simpa [Device.setMode, hm, ht] using (hdep target).1 ht
    case true =>
      have hne : ¬ ∃ p, target.depends = some p ∧ d.currentMode ≠ some p := fun h => by
        simp [(hdep target).2 h] at ht
      obtain ⟨pre, rest, hsteps, hpre, h⟩ :=
        runSequence_spec actuators ok (target.sequence.map (·.config))
      rcases h with ⟨hr, h⟩ | ⟨s, rest', hr, hs, h⟩
      · have hres : d.setMode actuators ok mode =
            (.ok (), { d with currentMode := some mode }, pre.filterMap (invocation actuators)) := by
          simp [Device.setMode, hm, ht, h]
        refine ⟨by simp [hres], by simpa [hres] using hne, by simp [hres], ?_⟩
        rintro t ⟨⟩ -
        exact ⟨pre, rest, hsteps, hpre, .inl ⟨hr, hres⟩⟩
      · have hres : d.setMode actuators ok mode = (.error .actuatorFailed,
            { d with currentMode := none }, (pre ++ [s]).filterMap (invocation actuators)) := by
          simp [Device.setMode, hm, ht, h]
        refine ⟨by simp [hres], by simpa [hres] using hne, by simp [hres], ?_⟩
        rintro t ⟨⟩ -
        exact ⟨pre, rest, hsteps, hpre, .inr ⟨s, rest', hr, hs, hres⟩⟩

end Spec

end Boardswarm
