import Boardswarm.Device

/-! # The binding engine of a device

`Device::monitor_items` opens a receiver on each resource registry, walks the
registries' `contents()` binding slots, then loops on `select!`, running one
pass per received change and notifying the device's watchers when a pass changed
a slot; a receive error, only ever a lag report, makes it return and `main` calls
it again. Providers add and remove entries at any point in between, and the
channels may drop changes queued for a slow receiver. The three registries and
their slots are one family indexed by `Kind`, so what holds of a side is proved once.
-/

namespace Boardswarm

/-- The kinds of resource a device binds: actuators to its mode steps, consoles
and uploaders to their slots. -/
inductive Kind where
  | actuator
  | console
  | uploader
deriving DecidableEq, Repr

/-- The resources a kind's registry holds. -/
def Kind.Res (A C U : Type) : Kind → Type
  | .actuator => A
  | .console => C
  | .uploader => U

def Kind.Cfg : Kind → Type
  | .actuator => Config.ModeStep
  | .console => Config.Console
  | .uploader => Config.Uploader

instance Kind.instDeviceConfigItem : (k : Kind) → DeviceConfigItem k.Cfg
  | .actuator => inferInstanceAs (DeviceConfigItem Config.ModeStep)
  | .console => inferInstanceAs (DeviceConfigItem Config.Console)
  | .uploader => inferInstanceAs (DeviceConfigItem Config.Uploader)

/-- A kind's slots: the steps of all modes, in `flat_map` order, the consoles, the uploaders. -/
def Device.slots (d : Device) : (k : Kind) → List (DeviceItem k.Cfg)
  | .actuator => d.steps
  | .console => d.consoles
  | .uploader => d.uploaders

/-- The receivers `monitor_items` opened, one per registry. -/
structure Monitors where
  actuator : Receiver
  console : Receiver
  uploader : Receiver
deriving DecidableEq, Repr

namespace Monitors

def get (m : Monitors) : Kind → Receiver
  | .actuator => m.actuator
  | .console => m.console
  | .uploader => m.uploader

def set (m : Monitors) : Kind → Receiver → Monitors
  | .actuator, rx => { m with actuator := rx }
  | .console, rx => { m with console := rx }
  | .uploader, rx => { m with uploader := rx }

@[simp] theorem get_set_self (m : Monitors) (k : Kind) (rx : Receiver) : (m.set k rx).get k = rx := by
  cases k <;> rfl

@[simp] theorem get_set_of_ne (m : Monitors) {k k' : Kind} (rx : Receiver) (h : k' ≠ k) :
    (m.set k rx).get k' = m.get k' := by
  cases k <;> cases k' <;> first | rfl | exact absurd rfl h

@[simp] theorem set_get (m : Monitors) (k : Kind) : m.set k (m.get k) = m := by
  cases k <;> rfl

end Monitors

/-- Where the task running `monitor_items` is: about to call it, with the
receivers open and the walks next, with `notifier.notify()` next, or in `select!`. -/
inductive Engine where
  | start
  | walk (m : Monitors)
  | notify (m : Monitors)
  | select (m : Monitors)
deriving DecidableEq, Repr

def Engine.monitors : Engine → Option Monitors
  | .start => none
  | .walk m | .notify m | .select m => some m

def Engine.withMonitors : Engine → Monitors → Engine
  | .start, _ => .start
  | .walk _, m => .walk m
  | .notify _, m => .notify m
  | .select _, m => .select m

/-- Ghost: for each registry, the history's length when the engine last called
`monitor()` and when it last read `contents()`. -/
structure Windows where
  actuator : Window
  console : Window
  uploader : Window
deriving DecidableEq, Repr

def Windows.get (ws : Windows) : Kind → Window
  | .actuator => ws.actuator
  | .console => ws.console
  | .uploader => ws.uploader

structure ConsoleCall (C : Type) where
  console : C
  parameters : Parameters
deriving DecidableEq, Repr

/-- `setup_console`. `ConsoleError` has no values, so `configure` never fails
and the warning is never logged. -/
def setupConsole {C : Type} (dev : DeviceItem Config.Console) (console : C) : ConsoleCall C :=
  ⟨console, dev.config.parameters⟩

/-- One device's binding engine and what it works on: the three resource
registries, the device, the engine task, every `configure` call so far, and the
ghost windows. -/
structure World (A C U : Type) where
  actuators : Registry A
  consoles : Registry C
  uploaders : Registry U
  device : Device
  engine : Engine
  configured : List (ConsoleCall C)
  windows : Windows := ⟨⟨0, 0⟩, ⟨0, 0⟩, ⟨0, 0⟩⟩

variable {A C U : Type}

namespace World

/-- The state `main` starts from: empty registries, no slot bound. -/
def init (config : Config.Device) : World A C U :=
  { actuators := .new, consoles := .new, uploaders := .new, device := Device.fromConfig config,
    engine := .start, configured := [] }

def registry (w : World A C U) : (k : Kind) → Registry (k.Res A C U)
  | .actuator => w.actuators
  | .console => w.consoles
  | .uploader => w.uploaders

def setRegistry (w : World A C U) : (k : Kind) → Registry (k.Res A C U) → World A C U
  | .actuator, r => { w with actuators := r }
  | .console, r => { w with consoles := r }
  | .uploader, r => { w with uploaders := r }

section SetRegistry

variable (w : World A C U) (k : Kind) (r : Registry (k.Res A C U))

@[simp] theorem registry_setRegistry_self : (w.setRegistry k r).registry k = r := by cases k <;> rfl

@[simp] theorem registry_setRegistry_of_ne {k' : Kind} (h : k' ≠ k) :
    (w.setRegistry k r).registry k' = w.registry k' := by
  cases k <;> cases k' <;> first | rfl | exact absurd rfl h

@[simp] theorem setRegistry_device : (w.setRegistry k r).device = w.device := by cases k <;> rfl

@[simp] theorem setRegistry_engine : (w.setRegistry k r).engine = w.engine := by cases k <;> rfl

@[simp] theorem setRegistry_configured : (w.setRegistry k r).configured = w.configured := by
  cases k <;> rfl

@[simp] theorem setRegistry_windows : (w.setRegistry k r).windows = w.windows := by cases k <;> rfl

theorem setRegistry_forall {P : (k : Kind) → Registry (k.Res A C U) → Prop} (hk : P k r)
    (ho : ∀ k', P k' (w.registry k')) (k' : Kind) : P k' ((w.setRegistry k r).registry k') := by
  by_cases h : k' = k
  · subst h
    simpa using hk
  · simpa [h] using ho k'

end SetRegistry

@[simp] theorem registry_update_engine (w : World A C U) (e : Engine) (ws : Windows) (k : Kind) :
    ({ w with engine := e, windows := ws } : World A C U).registry k = w.registry k := by
  cases k <;> rfl

/-- A pass of the mode steps over an actuator change (`change`). -/
def actuatorPass (w : World A C U) (c : RegistryChange A) : World A C U × Bool :=
  ({ w with device := (w.device.changeSteps c).1 }, (w.device.changeSteps c).2)

/-- A pass of the console slots over a console change (`change_with` with
`setup_console`). -/
def consolePass (w : World A C U) (c : RegistryChange C) : World A C U × Bool :=
  let p := changeWith w.device.consoles c setupConsole
  ({ w with device := { w.device with consoles := p.items }, configured := w.configured ++ p.calls },
    p.changed)

/-- A pass of the uploader slots over an uploader change (`change`). -/
def uploaderPass (w : World A C U) (c : RegistryChange U) : World A C U × Bool :=
  let p := change w.device.uploaders c
  ({ w with device := { w.device with uploaders := p.items } }, p.changed)

/-- The pass each `select!` arm runs. -/
def pass : (k : Kind) → World A C U → RegistryChange (k.Res A C U) → World A C U × Bool
  | .actuator => actuatorPass
  | .console => consolePass
  | .uploader => uploaderPass

section Pass

variable (w : World A C U) (k : Kind) (c : RegistryChange (k.Res A C U))

@[simp] theorem pass_registry (k' : Kind) : (w.pass k c).1.registry k' = w.registry k' := by
  cases k <;> cases k' <;> rfl

@[simp] theorem pass_engine : (w.pass k c).1.engine = w.engine := by cases k <;> rfl

@[simp] theorem pass_windows : (w.pass k c).1.windows = w.windows := by cases k <;> rfl

@[simp] theorem pass_currentMode : (w.pass k c).1.device.currentMode = w.device.currentMode := by
  cases k <;> rfl

theorem pass_slots : (w.pass k c).1.device.slots k = (w.device.slots k).map (·.afterChange c) := by
  cases k with
  | actuator =>
    show (w.device.changeSteps c).1.steps = _
    rw [(w.device.changeSteps_eq c).1, change, changeWith_items]
    rfl
  | console => exact changeWith_items _ _ _
  | uploader => exact changeWith_items _ _ _

theorem pass_slots_of_ne {k' : Kind} (h : k' ≠ k) : (w.pass k c).1.device.slots k' = w.device.slots k' := by
  cases k <;> cases k' <;> first | rfl | exact absurd rfl h

theorem pass_device_of_not_changed (h : (w.pass k c).2 = false) : (w.pass k c).1.device = w.device := by
  cases k with
  | actuator => exact Device.changeSteps_of_not_changed h
  | console => simp only [pass, consolePass, changeWith_items_of_not_changed h]
  | uploader => simp only [pass, uploaderPass, change, changeWith_items_of_not_changed h]

end Pass

/-- One `for` loop of the initial walk: a pass per entry of a `contents()`
snapshot, `changed |= ...` after each. An entry goes through `add_item_with`,
which is the pass `change_with` makes over its `Added` change. -/
def walkEntries (k : Kind) (entries : List (Nat × Properties × k.Res A C U)) (w : World A C U)
    (changed : Bool) : World A C U × Bool :=
  entries.foldl (fun acc e => let r := acc.1.pass k (.added e.1 e.2.1 e.2.2); (r.1, acc.2 || r.2))
    (w, changed)

theorem walkEntries_cons (k : Kind) (e : Nat × Properties × k.Res A C U) (es : List (Nat × Properties × k.Res A C U))
    (w : World A C U) (changed : Bool) :
    walkEntries k (e :: es) w changed =
      walkEntries k es (w.pass k (.added e.1 e.2.1 e.2.2)).1 (changed || (w.pass k (.added e.1 e.2.1 e.2.2)).2) :=
  rfl

/-- The three `contents()` walks, actuators, consoles, uploaders. -/
def walk (w : World A C U) : World A C U × Bool :=
  let r₁ := walkEntries .actuator w.actuators.contents w false
  let r₂ := walkEntries .console r₁.1.consoles.contents r₁.1 r₁.2
  walkEntries .uploader r₂.1.uploaders.contents r₂.1 r₂.2

theorem walk_induct (P : World A C U → Prop)
    (hs : ∀ k w ch, P w → P (walkEntries k (w.registry k).contents w ch).1) {w : World A C U} (h : P w) :
    P w.walk.1 :=
  hs .uploader _ _ (hs .console _ _ (hs .actuator _ _ h))

def afterPass (changed : Bool) (m : Monitors) : Engine := if changed then .notify m else .select m

@[simp] theorem afterPass_monitors (b : Bool) (m : Monitors) : (afterPass b m).monitors = some m := by
  cases b <;> rfl

/-- Ghost: each window opened where its registry's history ends. -/
def subscribedWindows (w : World A C U) : Windows :=
  ⟨⟨w.actuators.sent.length, w.actuators.sent.length⟩, ⟨w.consoles.sent.length, w.consoles.sent.length⟩,
    ⟨w.uploaders.sent.length, w.uploaders.sent.length⟩⟩

def walkedWindows (w : World A C U) : Windows :=
  ⟨{ w.windows.actuator with snapshot := w.actuators.sent.length },
    { w.windows.console with snapshot := w.consoles.sent.length },
    { w.windows.uploader with snapshot := w.uploaders.sent.length }⟩

@[simp] theorem subscribedWindows_get (w : World A C U) (k : Kind) :
    w.subscribedWindows.get k = ⟨(w.registry k).sent.length, (w.registry k).sent.length⟩ := by
  cases k <;> rfl

@[simp] theorem walkedWindows_get (w : World A C U) (k : Kind) :
    w.walkedWindows.get k = ⟨(w.windows.get k).subscribed, (w.registry k).sent.length⟩ := by
  cases k <;> rfl

end World

/-- One atomic action: a provider registering or removing an entry, or the
engine task taking its next step; a receive error ends `monitor_items`, its
receivers are dropped and `main`'s loop starts it again. The flag says whether
the device's watchers were notified. -/
inductive World.Step : World A C U → Bool → World A C U → Prop
  | register (w : World A C U) (k : Kind) (p : Properties) (x : k.Res A C U) :
      Step w false (w.setRegistry k ((w.registry k).add p x).2)
  | unregister (w : World A C U) (k : Kind) (id : Nat) :
      Step w false (w.setRegistry k ((w.registry k).remove id))
  | subscribe (w : World A C U) (h : w.engine = .start) :
      Step w false { w with engine := .walk ⟨w.actuators.monitor, w.consoles.monitor,
        w.uploaders.monitor⟩, windows := w.subscribedWindows }
  | walk (w : World A C U) (m : Monitors) (h : w.engine = .walk m) :
      Step w false { w.walk.1 with engine := World.afterPass w.walk.2 m, windows := w.walkedWindows }
  | notify (w : World A C U) (m : Monitors) (h : w.engine = .notify m) :
      Step w true { w with engine := .select m }
  | recv (w : World A C U) (m : Monitors) (k : Kind) (c : RegistryChange (k.Res A C U))
      (rx : Receiver) (h : w.engine = .select m)
      (hr : (m.get k).recv (w.registry k) = some (.change c, rx)) :
      Step w false { (w.pass k c).1 with engine := World.afterPass (w.pass k c).2 (m.set k rx) }
  | restart (w : World A C U) (m : Monitors) (k : Kind) (h : w.engine = .select m)
      (hl : (m.get k).lagged = true) :
      Step w false { w with engine := .start }

/-- A broadcast channel drops the `n` oldest changes queued for one of the
engine's receivers. -/
inductive World.Lag : World A C U → World A C U → Prop
  | drop (w : World A C U) (m : Monitors) (k : Kind) (n : Nat) (hm : w.engine.monitors = some m)
      (hn : 0 < n ∧ (m.get k).pos + n ≤ (w.registry k).sent.length) :
      Lag w { w with engine := w.engine.withMonitors (m.set k ((m.get k).lag n)) }

end Boardswarm
