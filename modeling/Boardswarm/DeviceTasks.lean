import Boardswarm.SetMode
import Boardswarm.Bindings

/-! # The tasks working on one device

Besides the binding engine, two kinds of task touch a device. A `set_mode` call
checks its prerequisite and clears the current mode in one critical section,
runs its steps with an `await` at each actuator and each stabilisation sleep,
writes the new mode and notifies the device's watchers. A `device_info` stream
computes a view, subscribes to the device's notifier, and then emits a fresh
view each time `DeviceMonitor::wait` returns. Nothing orders these tasks, so a
`DeviceRun` steps any of them at any point. The notifier is a broadcast channel
of capacity one whose lag reports `wait` skips, so a monitor either has a
notification queued or not; a view is computed in one step.
-/

namespace Boardswarm

/-- Where a `Device::set_mode` call is once it is past `find` and the check:
looking up the next step's actuator, in a stabilisation sleep, about to
notify after writing `current_mode`, or returned. -/
inductive ModeCall where
  | running (mode : String) (steps : List Config.ModeStep)
  | sleeping (mode : String) (steps : List Config.ModeStep)
  | committed (mode : String)
  | returned (result : Except DeviceSetModeError Unit)

/-- Between the critical section and the final write of `current_mode`. -/
def ModeCall.InTransition : ModeCall → Prop
  | .running .. | .sleeping .. => True
  | _ => False

/-- The call `set_mode` becomes after `find` and the check of its critical
section; a call that goes on to run its steps also clears the current mode. -/
def Device.checkSetMode (d : Device) (mode : String) : ModeCall :=
  match d.findMode mode with
  | none => .returned (.error .modeNotFound)
  | some target =>
    if target.dependsMet d.currentMode then .running mode (target.sequence.map (·.config))
    else .returned (.error .wrongCurrentMode)

variable {A C U : Type}

/-- What one step of a call does besides moving the call on: nothing, write
`current_mode`, invoke an actuator's `set_mode` with a step's parameters, or
`notifier.notify()`. -/
inductive CallEffect (A : Type) where
  | silent
  | setCurrent (mode : String)
  | invoked (actuator : A) (parameters : Parameters)
  | notify

/-- One step of a call past its check, from one `await` of `set_mode` to the
next: the call afterwards and what the step did. A step of the loop looks the
actuator up with `find_actuator` and invokes it, and the actuator answers `ok`;
a missing or failing actuator ends the call, a stabilisation delay puts it to
sleep. A returned call takes no step. -/
def ModeCall.step (actuators : Registry A) (ok : Bool) : ModeCall → Option (ModeCall × CallEffect A)
  | .running mode (step :: rest) =>
    match findActuator actuators step.match_ with
    | none => some (.returned (.error .actuatorFailed), .silent)
    | some a =>
      some (if ok then
          match step.stabilisation with
          | some _ => .sleeping mode rest
          | none => .running mode rest
        else .returned (.error .actuatorFailed), .invoked a step.parameters)
  | .running mode [] => some (.committed mode, .setCurrent mode)
  | .sleeping mode rest => some (.running mode rest, .silent)
  | .committed _ => some (.returned (.ok ()), .notify)
  | .returned _ => none

/-- Where a `device_info` stream's task is: its first view computed and
`device.updates()` next, in `monitor.wait()`, or woken with the next view to emit. -/
inductive InfoPc where
  | opened
  | waiting
  | woken
deriving DecidableEq, Repr

/-- A `device_info` stream: the view it emitted last, where its task is, and
whether a notification is queued on its monitor. -/
structure InfoStream where
  last : Protocol.Device
  pc : InfoPc
  pending : Bool
deriving DecidableEq, Repr

/-- `DeviceNotifier::notify` queues a notification on every monitor. -/
def InfoStream.notified (st : InfoStream) : InfoStream :=
  match st.pc with
  | .opened => st
  | _ => { st with pending := true }

/-- `wait()` would block: the stream waits and nothing is queued. -/
def InfoStream.Blocked (st : InfoStream) : Prop := st.pc = .waiting ∧ st.pending = false

def World.setCurrentMode (w : World A C U) (mode : Option String) : World A C U :=
  { w with device := { w.device with currentMode := mode } }

/-- Ghost: an actuator invocation, with the call that made it and the actuator
registry `find_actuator` looked it up in. -/
structure Invocation (A : Type) where
  call : Nat
  actuator : A
  parameters : Parameters
  registry : Registry A

/-- A device with its binding engine, its `set_mode` calls and its
`device_info` streams. `modeLog` and `invocations` are ghost: every value
written to `current_mode`, and every actuator invocation. -/
structure DeviceRun (A C U : Type) where
  world : World A C U
  calls : List ModeCall
  streams : List InfoStream
  modeLog : List (Option String)
  invocations : List (Invocation A)

def DeviceRun.init (config : Config.Device) : DeviceRun A C U := ⟨World.init config, [], [], [], []⟩

/-- What call `i`'s step did, to the device, the streams and the ghost logs. -/
def DeviceRun.perform (s : DeviceRun A C U) (i : Nat) : CallEffect A → DeviceRun A C U
  | .silent => s
  | .setCurrent mode =>
    { s with world := s.world.setCurrentMode (some mode), modeLog := s.modeLog ++ [some mode] }
  | .invoked a parameters =>
    { s with invocations := s.invocations ++ [⟨i, a, parameters, s.world.actuators⟩] }
  | .notify => { s with streams := s.streams.map InfoStream.notified }

/-- One atomic action: a provider or the engine acting, its notification
reaching every subscribed stream; a `set_mode` call failing its lookup or its
check at once, or passing it and clearing the current mode; call `i` taking its
next step; a `device_info` call computing its first view; or a stream
subscribing, waking, or emitting. -/
inductive DeviceRun.Step : DeviceRun A C U → DeviceRun A C U → Prop
  | world (s : DeviceRun A C U) (b : Bool) (w : World A C U) (h : s.world.Step b w) :
      Step s { s with
        world := w
        streams := if b then s.streams.map InfoStream.notified else s.streams }
  | setModeRejected (s : DeviceRun A C U) (mode : String) (e : DeviceSetModeError)
      (h : s.world.device.checkSetMode mode = .returned (.error e)) :
      Step s { s with calls := s.calls ++ [.returned (.error e)] }
  | setModeCleared (s : DeviceRun A C U) (mode : String) (steps : List Config.ModeStep)
      (h : s.world.device.checkSetMode mode = .running mode steps) :
      Step s { s with
        world := s.world.setCurrentMode none
        calls := s.calls ++ [.running mode steps]
        modeLog := s.modeLog ++ [none] }
  | call (s : DeviceRun A C U) (i : Nat) (c : ModeCall) (ok : Bool) (c' : ModeCall) (e : CallEffect A)
      (h : s.calls[i]? = some c) (hs : c.step s.world.actuators ok = some (c', e)) :
      Step s ({ s with calls := s.calls.set i c' }.perform i e)
  | deviceInfo (s : DeviceRun A C U) :
      Step s { s with streams := s.streams ++ [⟨s.world.device.view, .opened, false⟩] }
  | updates (s : DeviceRun A C U) (i : Nat) (st : InfoStream) (h : s.streams[i]? = some st)
      (hpc : st.pc = .opened) :
      Step s { s with streams := s.streams.set i { st with pc := .waiting } }
  | wait (s : DeviceRun A C U) (i : Nat) (st : InfoStream) (h : s.streams[i]? = some st)
      (hpc : st.pc = .waiting) (hp : st.pending = true) :
      Step s { s with streams := s.streams.set i { st with pc := .woken, pending := false } }
  | emit (s : DeviceRun A C U) (i : Nat) (st : InfoStream) (h : s.streams[i]? = some st)
      (hpc : st.pc = .woken) :
      Step s { s with streams := s.streams.set i { st with pc := .waiting, last := s.world.device.view } }

inductive DeviceRun.Lag : DeviceRun A C U → DeviceRun A C U → Prop
  | drop (s : DeviceRun A C U) (w : World A C U) (h : s.world.Lag w) : Lag s { s with world := w }

/-- The runs of a device in which the engine's channels drop no change. -/
inductive DeviceRun.Reachable (config : Config.Device) : DeviceRun A C U → Prop
  | init : Reachable config (DeviceRun.init config)
  | step {s s' : DeviceRun A C U} : Reachable config s → s.Step s' → Reachable config s'

/-- The runs of a device when the channels may also drop changes. -/
inductive DeviceRun.LossyReachable (config : Config.Device) : DeviceRun A C U → Prop
  | init : LossyReachable config (DeviceRun.init config)
  | step {s s' : DeviceRun A C U} : LossyReachable config s → s.Step s' → LossyReachable config s'
  | lag {s s' : DeviceRun A C U} : LossyReachable config s → s.Lag s' → LossyReachable config s'

/-- No `set_mode` call is in progress, and the binding engine waits in
`select!` having read every change queued for it. -/
def DeviceRun.Settled (s : DeviceRun A C U) : Prop :=
  (∀ c ∈ s.calls, ∃ r, c = .returned r) ∧ (∃ m, s.world.engine = .select m) ∧ s.world.Drained

section Alone

variable (actuators : Registry A) (ok : A → Parameters → Bool)

def ModeCall.answer : ModeCall → Bool
  | .running _ (step :: _) => ((findActuator actuators step.match_).map (ok · step.parameters)).getD false
  | _ => false

def CallEffect.apply : CallEffect A → Option String × List (A × Parameters) →
    Option String × List (A × Parameters)
  | .setCurrent mode, (_, made) => (some mode, made)
  | .invoked a parameters, (current, made) => (current, made ++ [(a, parameters)])
  | _, st => st

/-- A call stepped `fuel` times with no other task in between, each actuator
answering by `ok`: the call, the current mode and the invocations made. -/
def ModeCall.runAlone : Nat → ModeCall → Option String × List (A × Parameters) →
    ModeCall × Option String × List (A × Parameters)
  | 0, c, st => (c, st)
  | n + 1, c, st =>
    match c.step actuators (c.answer actuators ok) with
    | none => (c, st)
    | some (c', e) => ModeCall.runAlone n c' (e.apply st)

/-- `set_mode` with no other task in between: its check, then `fuel` steps. -/
def Device.setModeAlone (d : Device) (mode : String) (fuel : Nat) :
    ModeCall × Option String × List (A × Parameters) :=
  match d.checkSetMode mode with
  | .running m steps => ModeCall.runAlone actuators ok fuel (.running m steps) (none, [])
  | c => (c, d.currentMode, [])

theorem runAlone_returned (n : Nat) (r : Except DeviceSetModeError Unit)
    (st : Option String × List (A × Parameters)) :
    ModeCall.runAlone actuators ok n (.returned r) st = (.returned r, st) := by
  cases n <;> rfl

/-- A call past its check, run alone, ends as the `for` loop of the sequential
`set_mode` does, two steps per loop pass being enough. -/
theorem runAlone_running (mode : String) (steps : List Config.ModeStep) (n : Nat)
    (hn : 2 * steps.length + 2 ≤ n) (current : Option String) (invoked : List (A × Parameters)) :
    ModeCall.runAlone actuators ok n (.running mode steps) (current, invoked) =
      (.returned (runSequence actuators ok steps).1,
        if (runSequence actuators ok steps).1.toBool then some mode else current,
        invoked ++ (runSequence actuators ok steps).2) := by
  induction steps generalizing n current invoked with
  | nil =>
    obtain ⟨k, rfl⟩ : ∃ k, n = k + 2 := ⟨n - 2, by simp at hn; omega⟩
    simp [ModeCall.runAlone, ModeCall.step, CallEffect.apply, runAlone_returned, runSequence,
      Except.toBool]
  | cons step rest ih =>
    simp only [List.length_cons] at hn
    obtain ⟨k, rfl⟩ : ∃ k, n = k + 1 := ⟨n - 1, by omega⟩
    have hk : 2 * rest.length + 2 ≤ k := by omega
    cases hf : findActuator actuators step.match_ with
    | none =>
      simp [ModeCall.runAlone, ModeCall.step, ModeCall.answer, hf, CallEffect.apply,
        runAlone_returned, runSequence, Except.toBool]
    | some a =>
      cases hok : ok a step.parameters
      case false =>
        simp [ModeCall.runAlone, ModeCall.step, ModeCall.answer, hf, hok, CallEffect.apply,
          runAlone_returned, runSequence, Except.toBool]
      case true =>
        cases hst : step.stabilisation
        case none =>
          simp [ModeCall.runAlone, ModeCall.step, ModeCall.answer, hf, hok, hst, CallEffect.apply,
            runSequence, ih k hk]
        case some =>
          obtain ⟨k, rfl⟩ : ∃ j, k = j + 1 := ⟨k - 1, by omega⟩
          simp [ModeCall.runAlone, ModeCall.step, ModeCall.answer, hf, hok, hst, CallEffect.apply,
            runSequence, ih k (by omega)]

theorem Device.length_le_steps {d : Device} {m : DeviceMode} (hm : m ∈ d.modes) :
    m.sequence.length ≤ d.steps.length :=
  (List.sublist_flatten_of_mem (List.mem_map_of_mem (·.sequence) hm)).length_le

/-- Run alone, with the registry fixed and each actuator answering by `ok`, a
call of the task model ends with the result, the current mode and the actuator
invocations of the sequential `Device.setMode`. -/
theorem setModeAlone_refines (d : Device) (mode : String) (fuel : Nat)
    (h : 2 * d.steps.length + 2 ≤ fuel) :
    (d.setModeAlone actuators ok mode fuel).1 = .returned (d.setMode actuators ok mode).1 ∧
      { d with currentMode := (d.setModeAlone actuators ok mode fuel).2.1 } =
        (d.setMode actuators ok mode).2.1 ∧
      (d.setModeAlone actuators ok mode fuel).2.2 = (d.setMode actuators ok mode).2.2 := by
  unfold Device.setModeAlone Device.checkSetMode Device.setMode
  cases hm : d.findMode mode with
  | none => simp
  | some target =>
    cases ht : target.dependsMet d.currentMode
    case false => simp [ht]
    case true =>
      have hlen : 2 * (target.sequence.map (·.config)).length + 2 ≤ fuel := by
        have := Device.length_le_steps (List.mem_of_find?_eq_some hm)
        simp only [List.length_map]
        omega
      simp only [ht, if_true, runAlone_running actuators ok _ _ _ hlen]
      cases (runSequence actuators ok (target.sequence.map (·.config))).1 <;> simp [Except.toBool]

def powerStep : Config.ModeStep := ⟨[("power", "1")], "on", none⟩

def powerSwitch : Properties := ⟨[("name", "pdu"), ("power", "1")], rfl⟩

def pduActuators : Registry Unit := ((Registry.new : Registry Unit).add powerSwitch ()).2

/-- A board whose `on` mode needs `off` first, with `recovery` and `reset`
reachable from anywhere; only `reset` has a step. -/
def labBoard : Config.Device :=
  ⟨"lab", [], [], [⟨"off", none, []⟩, ⟨"on", some "off", []⟩, ⟨"recovery", none, []⟩,
    ⟨"reset", none, [powerStep]⟩]⟩

theorem labBoard_reset_alone :
    2 * (Device.fromConfig labBoard).steps.length + 2 ≤ 4 ∧
      ((Device.fromConfig labBoard).setModeAlone pduActuators (fun _ _ => true)
          "reset" 4).1 =
        .returned ((Device.fromConfig labBoard).setMode pduActuators
          (fun _ _ => true) "reset").1 ∧
      { Device.fromConfig labBoard with
          currentMode := ((Device.fromConfig labBoard).setModeAlone pduActuators
            (fun _ _ => true) "reset" 4).2.1 } =
        ((Device.fromConfig labBoard).setMode pduActuators (fun _ _ => true)
          "reset").2.1 ∧
      ((Device.fromConfig labBoard).setModeAlone pduActuators (fun _ _ => true)
          "reset" 4).2.2 =
        ((Device.fromConfig labBoard).setMode pduActuators (fun _ _ => true)
          "reset").2.2 :=
  ⟨by decide, setModeAlone_refines _ _ _ _ _ (by decide)⟩

end Alone

namespace DeviceRun

def bothRunning : DeviceRun Unit Unit Unit :=
  { world := (World.init labBoard).setCurrentMode none
    calls := [.returned (.ok ()), .running "on" [], .running "recovery" []]
    streams := []
    modeLog := [none, some "off", none, none]
    invocations := [] }

def recoveryFirst : DeviceRun Unit Unit Unit :=
  { bothRunning with
    world := (World.init labBoard).setCurrentMode (some "recovery")
    calls := [.returned (.ok ()), .running "on" [], .committed "recovery"]
    modeLog := [none, some "off", none, none, some "recovery"] }

def racedRun : DeviceRun Unit Unit Unit :=
  { bothRunning with
    world := (World.init labBoard).setCurrentMode (some "on")
    calls := [.returned (.ok ()), .committed "on", .committed "recovery"]
    modeLog := [none, some "off", none, none, some "recovery", some "on"] }

/-- Two `set_mode` calls in flight at once: `recovery`, which has no
prerequisite, passes its check while `on` is between its check and its write;
`recovery` writes first, so the current mode is set while `on` is still in
transition, and `on` then writes although the mode before it was `recovery`, not
its prerequisite `off`. -/
theorem concurrent_set_mode_race :
    bothRunning.Reachable labBoard ∧
      bothRunning.calls = [.returned (.ok ()), .running "on" [], .running "recovery" []] ∧
    bothRunning.Step recoveryFirst ∧
      recoveryFirst.world.device.currentMode = some "recovery" ∧
      recoveryFirst.calls[1]? = some (.running "on" []) ∧
    recoveryFirst.Step racedRun ∧
      racedRun.modeLog = [none, some "off", none, none, some "recovery", some "on"] ∧
      (racedRun.world.device.findMode "on").map (·.depends) = some (some "off") := by
  refine ⟨?_, rfl, .call _ 2 (.running "recovery" []) false (.committed "recovery")
    (.setCurrent "recovery") rfl rfl, rfl, rfl,
    .call _ 1 (.running "on" []) false (.committed "on") (.setCurrent "on") rfl rfl, rfl, rfl⟩
  have r₀ : (DeviceRun.init labBoard : DeviceRun Unit Unit Unit).Reachable labBoard := .init
  have r₁ := r₀.step (.setModeCleared _ "off" [] rfl)
  have r₂ := r₁.step (.call _ 0 (.running "off" []) false (.committed "off") (.setCurrent "off") rfl rfl)
  have r₃ := r₂.step (.call _ 0 (.committed "off") false (.returned (.ok ())) .notify rfl rfl)
  have r₄ := r₃.step (.setModeCleared _ "on" [] rfl)
  exact r₄.step (.setModeCleared _ "recovery" [] rfl)

def staleInfoRun : DeviceRun Unit Unit Unit :=
  { world := World.boundWorld
    calls := []
    streams := [⟨(World.init World.serialBoard : World Unit Unit Unit).device.view, .waiting, false⟩]
    modeLog := []
    invocations := [] }

def labWorld : World Unit Unit Unit :=
  { World.init labBoard with engine := .select ⟨⟨0, false⟩, ⟨0, false⟩, ⟨0, false⟩⟩ }

def failedModeRun : DeviceRun Unit Unit Unit :=
  { world := labWorld
    calls := [.returned (.ok ()), .returned (.error .actuatorFailed)]
    streams := [⟨(labWorld.setCurrentMode (some "off")).device.view, .waiting, false⟩]
    modeLog := [none, some "off", none]
    invocations := [] }

/-- Two settled states in which a `device_info` stream would block in `wait`
while the last view it emitted is not the device's: a slot bound between the
stream's first view and its subscription, and a mode cleared by a `set_mode`
call that then failed, neither of which any later notification reports. -/
theorem info_stream_misses_change :
    staleInfoRun.Reachable World.serialBoard ∧ staleInfoRun.Settled ∧
      (∃ st ∈ staleInfoRun.streams, st.Blocked ∧ st.last ≠ staleInfoRun.world.device.view) ∧
    failedModeRun.Reachable labBoard ∧ failedModeRun.Settled ∧
      (∃ st ∈ failedModeRun.streams, st.Blocked ∧ st.last ≠ failedModeRun.world.device.view) := by
  refine ⟨?_, ⟨by simp [staleInfoRun], ⟨_, rfl⟩, fun m hm => by cases hm; exact ⟨rfl, rfl, rfl⟩⟩,
    ⟨_, List.mem_singleton_self _, ⟨rfl, rfl⟩, by decide⟩, ?_,
    ⟨by simp [failedModeRun], ⟨_, rfl⟩, fun m hm => by cases hm; exact ⟨rfl, rfl, rfl⟩⟩,
    ⟨_, List.mem_singleton_self _, ⟨rfl, rfl⟩, by decide⟩⟩
  · have r₀ : (DeviceRun.init World.serialBoard : DeviceRun Unit Unit Unit).Reachable
        World.serialBoard := .init
    have r₁ := r₀.step (.world _ false _ (.subscribe _ rfl))
    have r₂ := r₁.step (.world _ false _ (.walk _ _ rfl))
    have r₃ := r₂.step (.world _ false _ (.register _ .console World.firstConsole ()))
    have r₄ := r₃.step (.deviceInfo _)
    have r₅ := r₄.step (.world _ false _ (.recv _ ⟨⟨0, false⟩, ⟨0, false⟩, ⟨0, false⟩⟩ .console
      (.added 1 World.firstConsole ()) ⟨1, false⟩ rfl rfl))
    have r₆ := r₅.step (.world _ true _ (.notify _ _ rfl))
    exact r₆.step (.updates _ 0 ⟨(World.init World.serialBoard).device.view, .opened, false⟩ rfl rfl)
  · have r₀ : (DeviceRun.init labBoard : DeviceRun Unit Unit Unit).Reachable labBoard := .init
    have r₁ := r₀.step (.world _ false _ (.subscribe _ rfl))
    have r₂ := r₁.step (.world _ false _ (.walk _ _ rfl))
    have r₃ := r₂.step (.deviceInfo _)
    have r₄ := r₃.step (.updates _ 0 ⟨labWorld.device.view, .opened, false⟩ rfl rfl)
    have r₅ := r₄.step (.setModeCleared _ "off" [] rfl)
    have r₆ := r₅.step (.call _ 0 (.running "off" []) false (.committed "off") (.setCurrent "off")
      rfl rfl)
    have r₇ := r₆.step (.call _ 0 (.committed "off") false (.returned (.ok ())) .notify rfl rfl)
    have r₈ := r₇.step (.wait _ 0 ⟨labWorld.device.view, .waiting, true⟩ rfl rfl rfl)
    have r₉ := r₈.step (.emit _ 0 ⟨labWorld.device.view, .woken, false⟩ rfl rfl)
    have r₁₀ := r₉.step (.setModeCleared _ "reset" [powerStep] rfl)
    exact r₁₀.step (.call _ 1 (.running "reset" [powerStep]) true
      (.returned (.error .actuatorFailed)) .silent rfl rfl)

end DeviceRun

end Boardswarm
