import Boardswarm.DeviceTasks
import Mathlib.Data.List.Forall2

/-! # Which modes can be entered, and what the current mode can be

`device_info` reports a mode available when every step of its sequence is bound
to an actuator, but `set_mode` looks each step's actuator up again with
`find_actuator`. In a run without lag, once the engine has read every change
queued for it, a bound step's actuator is registered and accepted, so a mode
reported available is entered whenever its actuators accept their parameters.
Whatever the interleaving and whatever the channels drop, a current mode is a
configured mode whose whole sequence some call has run, each step on the
actuator `find_actuator` returned for it.
-/

namespace Boardswarm

variable {A C U : Type}

section Available

/-- A registered entry the criteria accept makes `find_actuator` succeed. -/
theorem findActuator_isSome {r : Registry A} {criteria : List (String × String)} {j : Nat}
    {p : Properties} {x : A} (he : (j, p, x) ∈ r.contents) (hm : p.matches_ criteria = true) :
    (findActuator r criteria).isSome := by
  simp only [findActuator, Registry.find, Option.isSome_map', List.find?_isSome]
  exact ⟨_, he, hm⟩

/-- With every step's actuator registered and accepting, the loop runs to the end. -/
theorem runSequence_ok {actuators : Registry A} {ok : A → Parameters → Bool}
    (hok : ∀ a p, ok a p = true) {steps : List Config.ModeStep}
    (h : ∀ s ∈ steps, (findActuator actuators s.match_).isSome) :
    (runSequence actuators ok steps).1 = .ok () := by
  induction steps with
  | nil => rfl
  | cons step rest ih =>
    obtain ⟨a, ha⟩ := Option.isSome_iff_exists.1 (h step (List.mem_cons_self _ _))
    simp [runSequence, ha, hok, ih fun s hs => h s (List.mem_cons_of_mem _ hs)]

/-- Once a lossless engine has caught up, every bound mode step names a
registered actuator it accepts. -/
theorem World.Inv.steps_present {w : World A C U} (hi : w.Inv) (hd : w.Drained) :
    BoundPresent w.actuators w.device.steps := by
  cases hm : w.engine.monitors with
  | none => exact fun i hs j hj => by simp [hi.unbound hm .actuator i hs] at hj
  | some m => exact (hi.sides m hm .actuator).present (hd.get hm .actuator)

theorem World.Inv.setCurrentMode {w : World A C U} (hi : w.Inv) (mode : Option String) :
    (w.setCurrentMode mode).Inv :=
  ⟨hi.valid, hi.unbound, hi.sides⟩

theorem DeviceRun.Reachable.worldInv {config : Config.Device} {s : DeviceRun A C U}
    (h : s.Reachable config) : s.world.Inv := by
  induction h with
  | init => exact World.Inv.init config
  | step _ hs ih =>
    cases hs with
    | world b w h => exact ih.step h
    | setModeCleared mode steps h => exact ih.setCurrentMode none
    | call i c ok c' e h hs =>
      cases e with
      | setCurrent mode => exact ih.setCurrentMode (some mode)
      | silent | invoked | notify => exact ih
    | setModeRejected | deviceInfo | updates | wait | emit => exact ih

theorem find?_view_modes (d : Device) (mode : String) :
    d.view.modes.find? (·.name == mode) =
      (d.findMode mode).map fun m => ⟨m.name, m.depends, m.sequence.all fun s => s.get.isSome⟩ :=
  List.find?_map _ _

/-- In every run of a device without lag, once the engine has read every change
queued for it: if the view `device_info` sends shows the mode `set_mode` would
pick as available and its prerequisite as the current mode, and every actuator
accepts its parameters, `set_mode` enters the mode; no step fails for want of
an actuator. -/
theorem available_mode_entered {config : Config.Device} {s : DeviceRun A C U} (h : s.Reachable config)
    (hd : s.world.Drained) {ok : A → Parameters → Bool} (hok : ∀ a p, ok a p = true) {mode : String}
    {m : Protocol.Mode} (hm : s.world.device.view.modes.find? (·.name == mode) = some m)
    (ha : m.available = true)
    (hdep : ∀ p, m.depends = some p → s.world.device.view.currentMode = some p) :
    (s.world.device.setMode s.world.actuators ok mode).1 = .ok () ∧
      (s.world.device.setMode s.world.actuators ok mode).2.1 =
        { s.world.device with currentMode := some mode } := by
  rw [find?_view_modes] at hm
  obtain ⟨target, hfind, rfl⟩ := Option.map_eq_some'.1 hm
  have hfound : ∀ st ∈ target.sequence.map (·.config),
      (findActuator s.world.actuators st.match_).isSome := by
    simp only [List.mem_map, List.all_eq_true] at ha ⊢
    rintro _ ⟨st, hs, rfl⟩
    obtain ⟨j, hj⟩ := Option.isSome_iff_exists.1 (ha st hs)
    have hstep : st ∈ s.world.device.steps :=
      List.mem_flatMap.2 ⟨target, List.mem_of_find?_eq_some hfind, hs⟩
    obtain ⟨p, x, he, hp⟩ := h.worldInv.steps_present hd st hstep j hj
    exact findActuator_isSome he hp
  have hmet : target.dependsMet s.world.device.currentMode = true := by
    unfold DeviceMode.dependsMet
    split
    · next p hp => simpa using hdep p hp
    · rfl
  simp [Device.setMode, hfind, hmet, runSequence_ok hok hfound]

/-- A board whose `on` mode needs `off` first and the power switch. -/
def pduBoard : Config.Device := ⟨"pdu-board", [], [], [⟨"off", none, []⟩, ⟨"on", some "off", [powerStep]⟩]⟩

/-- `pduBoard` once the engine bound `on`'s step to the power switch and a lone
`set_mode("off")` returned. -/
def poweredRun : DeviceRun Unit Unit Unit :=
  { world := { (World.init pduBoard : World Unit Unit Unit) with
      actuators := pduActuators
      device := { Device.fromConfig pduBoard with
        currentMode := some "off"
        modes := [⟨"off", none, []⟩, ⟨"on", some "off", [⟨powerStep, some 1⟩]⟩] }
      engine := .select ⟨⟨1, false⟩, ⟨0, false⟩, ⟨0, false⟩⟩ }
    calls := [.returned (.ok ())]
    streams := []
    modeLog := [none, some "off"]
    invocations := [] }

theorem poweredRun_on_entered : poweredRun.Reachable pduBoard ∧ poweredRun.world.Drained ∧
    (∀ a p, (fun _ _ => true : Unit → Parameters → Bool) a p = true) ∧
    poweredRun.world.device.view.modes.find? (·.name == "on") = some ⟨"on", some "off", true⟩ ∧
    (⟨"on", some "off", true⟩ : Protocol.Mode).available = true ∧
    (∀ p, (⟨"on", some "off", true⟩ : Protocol.Mode).depends = some p →
      poweredRun.world.device.view.currentMode = some p) ∧
    (poweredRun.world.device.setMode poweredRun.world.actuators (fun _ _ => true) "on").1 = .ok () ∧
    (poweredRun.world.device.setMode poweredRun.world.actuators (fun _ _ => true) "on").2.1 =
      { poweredRun.world.device with currentMode := some "on" } := by
  have r₀ : (DeviceRun.init pduBoard : DeviceRun Unit Unit Unit).Reachable pduBoard := .init
  have r₁ := r₀.step (.world _ false _ (.subscribe _ rfl))
  have r₂ := r₁.step (.world _ false _ (.walk _ _ rfl))
  have r₃ := r₂.step (.world _ false _ (.register _ .actuator powerSwitch ()))
  have r₄ := r₃.step (.world _ false _ (.recv _ _ .actuator (.added 1 powerSwitch ()) ⟨1, false⟩ rfl rfl))
  have r₅ := r₄.step (.world _ true _ (.notify _ _ rfl))
  have r₆ := r₅.step (.setModeCleared _ "off" [] rfl)
  have r₇ := r₆.step (.call _ 0 (.running "off" []) false (.committed "off") (.setCurrent "off") rfl rfl)
  have hr : poweredRun.Reachable pduBoard :=
    r₇.step (.call _ 0 (.committed "off") false (.returned (.ok ())) .notify rfl rfl)
  have hd : poweredRun.world.Drained := fun m hm => by cases hm; exact ⟨rfl, rfl, rfl⟩
  have hm : poweredRun.world.device.view.modes.find? (·.name == "on") = some ⟨"on", some "off", true⟩ :=
    rfl
  have hdep : ∀ p, (⟨"on", some "off", true⟩ : Protocol.Mode).depends = some p →
      poweredRun.world.device.view.currentMode = some p := fun p hp => by cases hp; rfl
  exact ⟨hr, hd, fun _ _ => rfl, hm, rfl, hdep,
    available_mode_entered hr hd (fun _ _ => rfl) hm rfl hdep⟩

end Available

section CurrentMode

def DeviceMode.toConfig (m : DeviceMode) : Config.Mode := ⟨m.name, m.depends, m.sequence.map (·.config)⟩

/-- What only `set_mode` changes: the current mode, and the configuration of the modes. -/
def Device.modeState (d : Device) : Option String × List Config.Mode :=
  (d.currentMode, d.modes.map DeviceMode.toConfig)

theorem DeviceMode.toConfig_fromConfig (m : Config.Mode) : (DeviceMode.fromConfig m).toConfig = m := by
  simp [DeviceMode.toConfig, DeviceMode.fromConfig, DeviceItem.new, Function.comp_def]

namespace World

variable {w w' : World A C U}

theorem pass_modeState (k : Kind) (c : RegistryChange (k.Res A C U)) :
    (w.pass k c).1.device.modeState = w.device.modeState := by
  cases k
  · simp [World.pass, World.actuatorPass, Device.changeSteps, Device.modeState, DeviceMode.toConfig,
      change, changeWith_items, Function.comp_def]
  all_goals rfl

theorem Step.modeState {b : Bool} (hs : w.Step b w') : w'.device.modeState = w.device.modeState := by
  cases hs with
  | walk m h =>
    have hk : ∀ (k : Kind) es (v : World A C U) ch,
        (walkEntries k es v ch).1.device.modeState = v.device.modeState := fun k es v ch =>
      walkEntries_induct (fun v' => v'.device.modeState = v.device.modeState) _ _ _ rfl
        fun _ _ _ hw => (pass_modeState _ _).trans hw
    exact (hk _ _ _ _).trans ((hk _ _ _ _).trans (hk _ _ _ _))
  | recv m k c rx h hr => exact pass_modeState k c
  | register | unregister => simp
  | subscribe | notify | restart => rfl

theorem Lag.modeState (hl : w.Lag w') : w'.device.modeState = w.device.modeState := by
  cases hl
  rfl

end World

/-- The actuator invocations call `i` made, in order. -/
def invokedBy (invocations : List (Invocation A)) (i : Nat) : List (Invocation A) :=
  invocations.filter (·.call == i)

theorem invokedBy_append (invocations : List (Invocation A)) (k : Nat) (inv : Invocation A) :
    invokedBy (invocations ++ [inv]) k = invokedBy invocations k ++ if inv.call = k then [inv] else [] := by
  by_cases h : inv.call = k <;> simp [invokedBy, h]

theorem invokedBy_of_le {invocations : List (Invocation A)} {n : Nat}
    (h : ∀ e ∈ invocations, e.call < n) : invokedBy invocations n = [] := by
  simp only [invokedBy, List.filter_eq_nil_iff, beq_iff_eq]
  exact fun e he hn => Nat.lt_irrefl n (hn ▸ h e he)

/-- An invocation made for a mode step: of the actuator `find_actuator` returned
for the step's criteria, with the step's parameters. -/
def Invocation.For (step : Config.ModeStep) (inv : Invocation A) : Prop :=
  findActuator inv.registry step.match_ = some inv.actuator ∧ inv.parameters = step.parameters

/-- How far a call has come through the steps of the first configured mode of
its name, against what it invoked: a call in its loop has invoked the steps
before the ones still to run, in order, and a call about to notify all of them. -/
def ModeCall.Ran (config : Config.Device) (invoked : List (Invocation A)) : ModeCall → Prop
  | .running mode rest | .sleeping mode rest =>
    ∃ target, config.modes.find? (·.name == mode) = some target ∧
      ∃ done, target.sequence = done ++ rest ∧ List.Forall₂ Invocation.For done invoked
  | .committed mode =>
    ∃ target, config.modes.find? (·.name == mode) = some target ∧
      List.Forall₂ Invocation.For target.sequence invoked
  | .returned _ => True

/-- Everything one step of a call can do. -/
theorem ModeCall.step_eq_some {actuators : Registry A} {ok : Bool} {c c' : ModeCall}
    {e : CallEffect A} (h : c.step actuators ok = some (c', e)) :
    (∃ mode step rest, c = .running mode (step :: rest) ∧
      (c' = .returned (.error .actuatorFailed) ∧ e = .silent ∨
        ∃ a, findActuator actuators step.match_ = some a ∧ e = .invoked a step.parameters ∧
          (c' = .sleeping mode rest ∨ c' = .running mode rest ∨
            c' = .returned (.error .actuatorFailed)))) ∨
    (∃ mode, c = .running mode [] ∧ c' = .committed mode ∧ e = .setCurrent mode) ∨
    (∃ mode rest, c = .sleeping mode rest ∧ c' = .running mode rest ∧ e = .silent) ∨
    (∃ mode, c = .committed mode ∧ c' = .returned (.ok ()) ∧ e = .notify) := by
  cases c with
  | running mode steps =>
    cases steps with
    | nil =>
      simp only [ModeCall.step, Option.some.injEq, Prod.mk.injEq] at h
      obtain ⟨rfl, rfl⟩ := h
      simp
    | cons step rest =>
      refine .inl ⟨mode, step, rest, rfl, ?_⟩
      simp only [ModeCall.step] at h
      split at h
      · simp_all
      · next a ha =>
        simp only [Option.some.injEq, Prod.mk.injEq] at h
        refine .inr ⟨a, ha, h.2.symm, ?_⟩
        rw [← h.1]
        split
        · split <;> simp
        · simp
  | sleeping mode rest | committed mode =>
    simp only [ModeCall.step, Option.some.injEq, Prod.mk.injEq] at h
    obtain ⟨rfl, rfl⟩ := h
    simp
  | returned r => cases h

namespace DeviceRun

/-- What every run of a device keeps: the modes keep their configuration, every
recorded invocation is by a call that exists, each call has run the steps of
its mode up to where it is, and a current mode was written by a call, no longer
in its loop, that invoked the mode's whole sequence. -/
structure ModeInv (config : Config.Device) (s : DeviceRun A C U) : Prop where
  modes : s.world.device.modes.map DeviceMode.toConfig = config.modes
  indices : ∀ e ∈ s.invocations, e.call < s.calls.length
  calls : ∀ i (c : ModeCall), s.calls[i]? = some c → c.Ran config (invokedBy s.invocations i)
  current : ∀ mode, s.world.device.currentMode = some mode → ∃ target,
    config.modes.find? (·.name == mode) = some target ∧ ∃ i, i < s.calls.length ∧
      List.Forall₂ Invocation.For target.sequence (invokedBy s.invocations i) ∧
      ∀ c : ModeCall, s.calls[i]? = some c → ¬ c.InTransition

variable {config : Config.Device} {s s' : DeviceRun A C U}

@[simp] theorem perform_calls (s : DeviceRun A C U) (i : Nat) (e : CallEffect A) :
    (s.perform i e).calls = s.calls := by
  cases e <;> rfl

@[simp] theorem perform_modes (s : DeviceRun A C U) (i : Nat) (e : CallEffect A) :
    (s.perform i e).world.device.modes = s.world.device.modes := by
  cases e <;> rfl

theorem ModeInv.init (config : Config.Device) :
    (DeviceRun.init config : DeviceRun A C U).ModeInv config := by
  refine ⟨?_, fun _ h => (nomatch h), fun _ _ h => (nomatch h), fun _ h => (nomatch h)⟩
  simp [DeviceRun.init, World.init, Device.fromConfig, DeviceMode.toConfig_fromConfig,
    Function.comp_def]

theorem ModeInv.of_same (hi : s.ModeInv config)
    (h : s'.world.device.modeState = s.world.device.modeState ∧ s'.calls = s.calls ∧
      s'.invocations = s.invocations) : s'.ModeInv config := by
  obtain ⟨hm, hc, hv⟩ := h
  simp only [Device.modeState, Prod.mk.injEq] at hm
  refine ⟨hm.2 ▸ hi.modes, hc ▸ hv ▸ hi.indices, hc ▸ hv ▸ hi.calls, ?_⟩
  rw [hm.1, hc, hv]
  exact hi.current

/-- A call appended to `calls` before it invoked anything; the current mode is
kept or cleared. -/
theorem ModeInv.append (hi : s.ModeInv config) {c : ModeCall}
    (h : s'.world.device.modes = s.world.device.modes ∧ s'.calls = s.calls ++ [c] ∧
      s'.invocations = s.invocations) (hc : c.Ran config ([] : List (Invocation A)))
    (hcur : s'.world.device.currentMode = s.world.device.currentMode ∨
      s'.world.device.currentMode = none) : s'.ModeInv config := by
  obtain ⟨hm, hcs, hv⟩ := h
  refine ⟨hm ▸ hi.modes, fun e he => ?_, fun k c₀ hc₀ => ?_, fun mode hmode => ?_⟩
  · rw [hcs, List.length_append]
    exact Nat.lt_succ_of_lt (hi.indices e (hv ▸ he))
  · rw [hcs] at hc₀
    rw [hv]
    rcases Registry.getElem?_concat_eq_some hc₀ with ⟨-, hc₀⟩ | ⟨rfl, rfl⟩
    · exact hi.calls k c₀ hc₀
    · rwa [invokedBy_of_le hi.indices]
  · rcases hcur with hcur | hcur
    · obtain ⟨t, ht, i₀, hlt, hinv, hn⟩ := hi.current mode (hcur ▸ hmode)
      refine ⟨t, ht, i₀, ?_, hv ▸ hinv, fun c₀ hc₀ => ?_⟩
      · rw [hcs, List.length_append]
        exact Nat.lt_succ_of_lt hlt
      · rw [hcs, List.getElem?_append_left hlt] at hc₀
        exact hn c₀ hc₀
    · rw [hcur] at hmode
      cases hmode

theorem ModeInv.checkSetMode (hi : s.ModeInv config) {mode : String} {steps : List Config.ModeStep}
    (h : s.world.device.checkSetMode mode = .running mode steps) :
    ∃ target, config.modes.find? (·.name == mode) = some target ∧ target.sequence = steps := by
  unfold Device.checkSetMode at h
  split at h
  · cases h
  · next target hfind =>
    split at h
    · cases h
      refine ⟨target.toConfig, ?_, rfl⟩
      rw [← hi.modes, List.find?_map]
      simp only [Device.findMode] at hfind
      exact congrArg (Option.map DeviceMode.toConfig) hfind
    · cases h

theorem getElem?_set_eq_some {α : Type} {l : List α} {i k : Nat} {a b : α}
    (h : (l.set i a)[k]? = some b) : (k = i ∧ a = b) ∨ (k ≠ i ∧ l[k]? = some b) := by
  by_cases hk : k = i
  · subst hk
    rw [List.getElem?_set_self'] at h
    exact .inl ⟨rfl, by cases hl : l[k]? <;> simp_all⟩
  · exact .inr ⟨hk, by rwa [List.getElem?_set_ne (Ne.symm hk)] at h⟩

/-- Call `i` moves on without invoking an actuator or writing the current mode;
if it leaves its loop it is not the call a current mode was written by. -/
theorem ModeInv.set (hi : s.ModeInv config) {i : Nat} {c n : ModeCall} (h : s.calls[i]? = some c)
    (hn' : n.Ran config (invokedBy s.invocations i)) (ht : c.InTransition ∨ ¬ n.InTransition) :
    ({ s with calls := s.calls.set i n }).ModeInv config := by
  refine ⟨hi.modes, by simpa using hi.indices, fun k c₀ hc₀ => ?_, fun mode hm => ?_⟩
  · rcases getElem?_set_eq_some hc₀ with ⟨rfl, rfl⟩ | ⟨-, hc₀⟩
    · exact hn'
    · exact hi.calls k c₀ hc₀
  · obtain ⟨t, hfind, i₀, hlt₀, hinv, hn⟩ := hi.current mode hm
    refine ⟨t, hfind, i₀, by simpa using hlt₀, hinv, fun c₀ hc₀ => ?_⟩
    rcases getElem?_set_eq_some hc₀ with ⟨rfl, rfl⟩ | ⟨-, hc₀⟩
    · exact ht.resolve_left (hn c h)
    · exact hn c₀ hc₀

/-- Call `i` took a step: only its own entry of `calls` and its own invocations changed. -/
theorem ModeInv.call (hi : s.ModeInv config) {i : Nat} {c c' : ModeCall} {ok : Bool}
    {e : CallEffect A} (h : s.calls[i]? = some c) (hs : c.step s.world.actuators ok = some (c', e)) :
    ({ s with calls := s.calls.set i c' }.perform i e).ModeInv config := by
  have hlt : i < s.calls.length := (List.getElem?_eq_some_iff.1 h).1
  have hran := hi.calls i c h
  rcases ModeCall.step_eq_some hs with ⟨mode, step, rest, rfl, ⟨rfl, rfl⟩ | ⟨a, ha, rfl, hc'⟩⟩ |
    ⟨mode, rfl, rfl, rfl⟩ | ⟨mode, rest, rfl, rfl, rfl⟩ | ⟨mode, rfl, rfl, rfl⟩
  · exact hi.set h trivial (.inr id)
  · -- the call invoked its next step's actuator: its invocations grow by that step
    obtain ⟨target, hfind, done, hseq, hdone⟩ := hran
    let inv : Invocation A := ⟨i, a, step.parameters, s.world.actuators⟩
    have hinvs : ∀ k, k ≠ i → invokedBy (s.invocations ++ [inv]) k = invokedBy s.invocations k :=
      fun k hk => by simp [invokedBy_append, inv, Ne.symm hk]
    have hc'ran : c'.Ran config (invokedBy (s.invocations ++ [inv]) i) := by
      have hinv : List.Forall₂ Invocation.For (done ++ [step]) (invokedBy (s.invocations ++ [inv]) i) := by
        rw [invokedBy_append, if_pos rfl]
        exact List.rel_append hdone (.cons ⟨ha, rfl⟩ .nil)
      have hseq' : target.sequence = (done ++ [step]) ++ rest := by simp [hseq]
      rcases hc' with rfl | rfl | rfl
      · exact ⟨target, hfind, done ++ [step], hseq', hinv⟩
      · exact ⟨target, hfind, done ++ [step], hseq', hinv⟩
      · trivial
    refine ⟨hi.modes, fun e he => ?_, fun k c₀ hc₀ => ?_, fun mode' hm => ?_⟩
    · rcases List.mem_append.1 he with he | he
      · simpa using hi.indices e he
      · simp only [List.mem_singleton] at he; subst he; simpa using hlt
    · simp only [DeviceRun.perform] at hc₀ ⊢
      rcases getElem?_set_eq_some hc₀ with ⟨rfl, rfl⟩ | ⟨hk, hc₀⟩
      · exact hc'ran
      · exact hinvs k hk ▸ hi.calls k c₀ hc₀
    · obtain ⟨t, ht, i₀, hlt₀, hinv, hn⟩ := hi.current mode' hm
      have hne : i₀ ≠ i := fun he => hn (.running mode (step :: rest)) (he ▸ h) trivial
      refine ⟨t, ht, i₀, by simpa using hlt₀, (hinvs i₀ hne).symm ▸ hinv, fun c₀ hc₀ => ?_⟩
      simp only [DeviceRun.perform] at hc₀
      rw [List.getElem?_set_ne (Ne.symm hne)] at hc₀
      exact hn c₀ hc₀
  · -- the loop is done: the call writes its mode, having invoked all of its steps
    obtain ⟨target, hfind, done, hseq, hdone⟩ := hran
    have hcommit := hi.set h (n := .committed mode) ⟨target, hfind, by rwa [hseq, List.append_nil]⟩
      (.inr id)
    refine ⟨hcommit.modes, hcommit.indices, hcommit.calls, fun mode' hm => ?_⟩
    simp only [DeviceRun.perform, World.setCurrentMode, Option.some.injEq] at hm
    subst hm
    refine ⟨target, hfind, i, by simpa using hlt, by rwa [hseq, List.append_nil], fun c₀ hc₀ => ?_⟩
    simp only [DeviceRun.perform, List.getElem?_set_self hlt, Option.some.injEq] at hc₀
    subst hc₀
    exact id
  · exact hi.set h hran (.inl trivial)
  · exact (hi.set h (n := .returned (.ok ())) trivial (.inr id)).of_same ⟨rfl, rfl, rfl⟩

theorem ModeInv.step (hi : s.ModeInv config) (hs : s.Step s') : s'.ModeInv config := by
  cases hs with
  | world b w h =>
    exact hi.of_same ⟨h.modeState, rfl, rfl⟩
  | setModeRejected mode e h => exact hi.append ⟨rfl, rfl, rfl⟩ trivial (.inl rfl)
  | setModeCleared mode steps h =>
    obtain ⟨target, hfind, hseq⟩ := hi.checkSetMode h
    exact hi.append ⟨rfl, rfl, rfl⟩ ⟨target, hfind, [], by simp [hseq], .nil⟩ (.inr rfl)
  | call i c ok c' e h hs => exact hi.call h hs
  | _ => exact hi.of_same ⟨rfl, rfl, rfl⟩

theorem ModeInv.lag (hi : s.ModeInv config) (hl : s.Lag s') : s'.ModeInv config := by
  cases hl with
  | drop w h => exact hi.of_same ⟨h.modeState, rfl, rfl⟩

theorem LossyReachable.modeInv (h : s.LossyReachable config) : s.ModeInv config := by
  induction h with
  | init => exact ModeInv.init config
  | step _ hs ih => exact ih.step hs
  | lag _ hl ih => exact ih.lag hl

/-- In every run of a device, whatever the interleaving of `set_mode` calls
with each other, the binding engine, the providers and the `device_info`
streams, and whatever the engine's channels drop: a current mode is always the
name of a configured mode, and some call has invoked every step of the first
configured mode of that name, in order, each on the actuator `find_actuator`
returned for the step's criteria and with the step's parameters. -/
theorem current_mode_sequence_invoked (h : s.LossyReachable config) {mode : String}
    (hc : s.world.device.currentMode = some mode) :
    ∃ target, config.modes.find? (·.name == mode) = some target ∧
      ∃ i, List.Forall₂ (fun step inv => findActuator inv.registry step.match_ = some inv.actuator ∧
        inv.parameters = step.parameters) target.sequence (invokedBy s.invocations i) := by
  obtain ⟨target, hfind, i, -, hinv, -⟩ := h.modeInv.current mode hc
  exact ⟨target, hfind, i, hinv⟩

/-- `reset` entered by a lone call after the power switch was registered and the
engine's channel dropped its `Added` change, so that no slot was ever bound. -/
def resetRun : DeviceRun Unit Unit Unit :=
  { world := { (World.init labBoard : World Unit Unit Unit) with
      actuators := pduActuators
      device := { Device.fromConfig labBoard with currentMode := some "reset" }
      engine := .walk ⟨⟨1, true⟩, ⟨0, false⟩, ⟨0, false⟩⟩ }
    calls := [.returned (.ok ())]
    streams := []
    modeLog := [none, some "reset"]
    invocations := [⟨0, (), "on", pduActuators⟩] }

theorem resetRun_sequence_invoked : resetRun.LossyReachable labBoard ∧
    resetRun.world.device.currentMode = some "reset" ∧
    ∃ target, labBoard.modes.find? (·.name == "reset") = some target ∧
      ∃ i, List.Forall₂ (fun step inv => findActuator inv.registry step.match_ = some inv.actuator ∧
        inv.parameters = step.parameters) target.sequence (invokedBy resetRun.invocations i) := by
  have r₀ : (DeviceRun.init labBoard : DeviceRun Unit Unit Unit).LossyReachable labBoard := .init
  have r₁ := r₀.step (.world _ false _ (.subscribe _ rfl))
  have r₂ := r₁.step (.world _ false _ (.register _ .actuator powerSwitch ()))
  have r₃ := r₂.lag (.drop _ _ (.drop _ ⟨⟨0, false⟩, ⟨0, false⟩, ⟨0, false⟩⟩ .actuator 1 rfl (by decide)))
  have r₄ := r₃.step (.setModeCleared _ "reset" [powerStep] rfl)
  have r₅ := r₄.step (.call _ 0 (.running "reset" [powerStep]) true (.running "reset" [])
    (.invoked () "on") rfl rfl)
  have r₆ := r₅.step (.call _ 0 (.running "reset" []) true (.committed "reset")
    (.setCurrent "reset") rfl rfl)
  have hr : resetRun.LossyReachable labBoard :=
    r₆.step (.call _ 0 (.committed "reset") true (.returned (.ok ())) .notify rfl rfl)
  exact ⟨hr, rfl, current_mode_sequence_invoked hr rfl⟩

end DeviceRun

end CurrentMode

end Boardswarm
