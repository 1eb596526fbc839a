import Boardswarm.DeviceItem

/-! # Devices and the view `device_info` reports

A device holds its console and uploader slots, its modes (each a list of mode
step slots) and its current mode. The binding engine runs one pass over the mode
steps of all modes at once, through `flat_map`; here each mode keeps its own
steps and the pass is proved to be the one over the flattened list. The view is
what `device_info` derives from the state each time it emits.
-/

namespace Boardswarm

/-- `DeviceMode`. -/
structure DeviceMode where
  name : String
  depends : Option String
  sequence : List (DeviceItem Config.ModeStep)
deriving DecidableEq, Repr

def DeviceMode.fromConfig (config : Config.Mode) : DeviceMode :=
  ⟨config.name, config.depends, config.sequence.map DeviceItem.new⟩

/-- The state `DeviceInner` holds behind its locks. The notifier and the
back-reference to the server live with the rest of the server state. -/
structure Device where
  name : String
  currentMode : Option String
  consoles : List (DeviceItem Config.Console)
  uploaders : List (DeviceItem Config.Uploader)
  modes : List DeviceMode
deriving DecidableEq, Repr

namespace Device

/-- `Device::from_config`: no slot bound and no current mode. -/
def fromConfig (config : Config.Device) : Device :=
  ⟨config.name, none, config.consoles.map DeviceItem.new, config.uploaders.map DeviceItem.new,
    config.modes.map DeviceMode.fromConfig⟩

/-- The mode steps in the order `modes.iter().flat_map(|m| m.sequence.iter())` visits them. -/
def steps (d : Device) : List (DeviceItem Config.ModeStep) := d.modes.flatMap (·.sequence)

variable {T E : Type}

/-- A pass over the mode steps: every mode's steps rewritten by the same pass,
`changed` if any mode's were. -/
def changeSteps (d : Device) (c : RegistryChange T) : Device × Bool :=
  ({ d with modes := d.modes.map fun m => { m with sequence := (change m.sequence c).items } },
    d.modes.any fun m => (change m.sequence c).changed)

theorem changeWith_append (xs ys : List (DeviceItem Config.ModeStep)) (c : RegistryChange T)
    (f : DeviceItem Config.ModeStep → T → E) :
    (changeWith (xs ++ ys) c f).items = (changeWith xs c f).items ++ (changeWith ys c f).items ∧
      (changeWith (xs ++ ys) c f).changed =
        ((changeWith xs c f).changed || (changeWith ys c f).changed) := by
  cases c <;> simp

/-- The per-mode pass is the source's pass over the flattened steps. -/
theorem changeSteps_eq (d : Device) (c : RegistryChange T) :
    (d.changeSteps c).1.steps = (change d.steps c).items ∧
      (d.changeSteps c).2 = (change d.steps c).changed := by
  obtain ⟨name, currentMode, consoles, uploaders, modes⟩ := d
  simp only [changeSteps, steps]
  induction modes with
  | nil => cases c <;> simp [change]
  | cons m ms ih =>
    simp only [List.map_cons, List.flatMap_cons, List.any_cons]
    rw [change, change, (changeWith_append _ _ c _).1, (changeWith_append _ _ c _).2]
    exact ⟨congrArg _ ih.1, congrArg _ ih.2⟩

theorem changeSteps_of_not_changed {d : Device} {c : RegistryChange T} (h : (d.changeSteps c).2 = false) :
    (d.changeSteps c).1 = d := by
  simp only [changeSteps, change, List.any_eq_false, Bool.not_eq_true] at h ⊢
  have hm : (d.modes.map fun m => { m with sequence := (changeWith m.sequence c fun _ _ => ()).items }) =
      d.modes :=
    (List.map_congr_left fun m hm => by rw [changeWith_items_of_not_changed (h m hm)]).trans
      (List.map_id' _)
  rw [hm]

@[simp] theorem changeSteps_consoles (d : Device) (c : RegistryChange T) :
    (d.changeSteps c).1.consoles = d.consoles := rfl

@[simp] theorem changeSteps_uploaders (d : Device) (c : RegistryChange T) :
    (d.changeSteps c).1.uploaders = d.uploaders := rfl

@[simp] theorem changeSteps_currentMode (d : Device) (c : RegistryChange T) :
    (d.changeSteps c).1.currentMode = d.currentMode := rfl

end Device

namespace Protocol

/-- `boardswarm_protocol::Console` as the view reports it. -/
structure Console where
  name : String
  id : Option Nat
deriving DecidableEq, Repr

/-- `boardswarm_protocol::Uploader` as the view reports it. -/
structure Uploader where
  name : String
  id : Option Nat
deriving DecidableEq, Repr

/-- `boardswarm_protocol::Mode`. -/
structure Mode where
  name : String
  depends : Option String
  available : Bool
deriving DecidableEq, Repr

/-- `boardswarm_protocol::Device`, one message of a `device_info` stream. -/
structure Device where
  consoles : List Console
  uploaders : List Uploader
  currentMode : Option String
  modes : List Mode
deriving DecidableEq, Repr

end Protocol

/-- `From<&Device> for boardswarm_protocol::Device`: names and bound ids of the
slots, each mode available when all its steps are bound, and the current mode. -/
def Device.view (d : Device) : Protocol.Device :=
  ⟨d.consoles.map fun c => ⟨c.config.name, c.get⟩,
    d.uploaders.map fun u => ⟨u.config.name, u.get⟩,
    d.currentMode,
    d.modes.map fun m => ⟨m.name, m.depends, m.sequence.all fun s => s.get.isSome⟩⟩

end Boardswarm
