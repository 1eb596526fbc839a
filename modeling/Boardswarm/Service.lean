import Boardswarm.ClientStreams
import Boardswarm.ItemMonitor
import Boardswarm.SetMode
import Boardswarm.Engine

/-! # The unary calls of the service

Each unary handler looks its item up in one of the server's registries, answers
with a status when the lookup fails, and otherwise calls into the item. A few
`unwrap` an optional request field or a provider's result; those panic instead
of answering. `device_change_mode` is given here as the call run with no other
task in between; how it interleaves with other calls is in `DeviceTasks`.
-/

namespace Boardswarm

/-- What a handler does: it answers, fails with a status, or panics. -/
inductive Reply (α : Type) where
  | ok (response : α)
  | error (status : Status)
  | panic
deriving DecidableEq, Repr

inductive ItemType where
  | actuator
  | device
  | console
  | uploader
deriving DecidableEq, Repr

/-- `ServerInner`: the four registries. -/
structure Server (A C U : Type) where
  devices : Registry Device
  consoles : Registry C
  actuators : Registry A
  uploaders : Registry U

variable {A C U : Type}

namespace Server

def getItem {T : Type} (r : Registry T) (id : Nat) : Option T := (r.lookup id).map (·.2)

def getDevice (s : Server A C U) (id : Nat) : Option Device := getItem s.devices id

def getUploader (s : Server A C U) (id : Nat) : Option U := getItem s.uploaders id

/-- `Server::get_actuator`: by name, not by id. -/
def getActuator (s : Server A C U) (name : String) : Option A :=
  (s.actuators.findByName name).map (·.2.2)

def itemListFor (s : Server A C U) : ItemType → List Item
  | .actuator => toItemList s.actuators
  | .device => toItemList s.devices
  | .console => toItemList s.consoles
  | .uploader => toItemList s.uploaders

/-- `list`: `type_` is what `ItemType::from_i32` makes of the request's number. -/
def list (s : Server A C U) (type_ : Option ItemType) : Reply (List Item) :=
  match type_ with
  | none => .error (.invalidArgument "Unknown item type ")
  | some t => .ok (s.itemListFor t)

/-- `console_configure`: the reply and the `configure` call it makes.
`ConsoleError` has no values, so only a missing `parameters` panics. -/
def consoleConfigure (s : Server A C U) (console : Nat) (parameters : Option Parameters) :
    Reply Unit × List (ConsoleCall C) :=
  match getConsole s.consoles console, parameters with
  | none, _ => (.error (.invalidArgument "Can't find console"), [])
  | some _, none => (.panic, [])
  | some c, some p => (.ok (), [⟨c, p⟩])

def consoleStreamOutput (s : Server A C U) (console : Nat) : Reply C :=
  match getConsole s.consoles console with
  | none => .error (.invalidArgument "Can't find output console")
  | some c => .ok c

/-- The lookup of `device_info`; the stream it returns is in `DeviceTasks`. -/
def deviceInfo (s : Server A C U) (device : Nat) : Reply Device :=
  match s.devices.lookup device with
  | none => .error (.notFound "No such device")
  | some (_, d) => .ok d

end Server

/-- The status `device_change_mode` answers each `set_mode` error with. -/
def DeviceSetModeError.status : DeviceSetModeError → Status
  | .modeNotFound => ⟨.notFound, "No mode by that name"⟩
  | .wrongCurrentMode => ⟨.failedPrecondition, "Not in the right mode to switch"⟩
  | .actuatorFailed => ⟨.aborted, "Actuator failed"⟩

namespace Server

/-- `device_change_mode`, run with no other task in between and each actuator
answering by `ok`: the reply, and the device afterwards if there is one. -/
def deviceChangeMode (s : Server A C U) (ok : A → Parameters → Bool) (device : Nat) (mode : String) :
    Reply Unit × Option Device :=
  match s.getDevice device with
  | none => (.error (.notFound "No device by that id"), none)
  | some d =>
    let r := d.setMode s.actuators ok mode
    (match r.1 with
      | .ok () => .ok ()
      | .error e => .error e.status, some r.2.1)

/-- `actuator_change_mode`, the actuator answering by `ok`: both a missing
`parameters` and a failing actuator are unwrapped, and panic. -/
def actuatorChangeMode (s : Server A C U) (ok : A → Parameters → Bool) (actuator : String)
    (parameters : Option Parameters) : Reply Unit :=
  match s.getActuator actuator, parameters with
  | none, _ => .error (.invalidArgument "Can't find actuator")
  | some _, none => .panic
  | some a, some p => if ok a p then .ok () else .panic

/-- `uploader_commit`. `UploaderError` has no values, so `commit` never fails
and the `unknown("Commit failed")` status is never sent. -/
def uploaderCommit (s : Server A C U) (uploader : Nat) : Reply Unit :=
  match s.getUploader uploader with
  | none => .error (.notFound "Uploader not found")
  | some _ => .ok ()

def uploaderInfo (s : Server A C U) (targets : U → List String) (uploader : Nat) :
    Reply (List String) :=
  match s.getUploader uploader with
  | none => .error (.notFound "Uploader not found")
  | some u => .ok (targets u)

end Server

end Boardswarm
