import Boardswarm.Registry

/-! # Client-streaming calls

`console_stream_input` and `uploader_upload` read the client's frames with
`Streaming::message`: the first frame selects the target and the later ones
carry data. `console_stream_input` forwards each payload to the console's input
sink and fails on a second selector or a transport error. `uploader_upload`
answers as soon as the target is known and hands the uploader a data stream that
simply ends at the first frame that is not data, or at a transport error: such
an upload completes on the truncated data and the client is never told.
-/

namespace Boardswarm

inductive Code where
  | ok | cancelled | unknown | invalidArgument | deadlineExceeded | notFound | alreadyExists
  | permissionDenied | resourceExhausted | failedPrecondition | aborted | outOfRange
  | unimplemented | internal | unavailable | dataLoss | unauthenticated
deriving DecidableEq, Repr

structure Status where
  code : Code
  message : String
deriving DecidableEq, Repr

def Status.invalidArgument (message : String) : Status := ⟨.invalidArgument, message⟩

def Status.notFound (message : String) : Status := ⟨.notFound, message⟩

abbrev Bytes := List UInt8

/-- A `tonic::Streaming` of client frames: `message()` returns the frames in
order, then `Ok(None)` if the client closed the stream cleanly, or else the
transport error. -/
structure Streaming (M : Type) where
  frames : List M
  error : Option Status

def endOfStream : Option Status → Except Status Unit
  | none => .ok ()
  | some e => .error e

/-- The payloads of the `Data` frames at the head of `frames`, up to the first
frame that carries none. -/
def dataRun {M : Type} (payload : M → Option Bytes) : List M → List Bytes
  | [] => []
  | m :: rest =>
    match payload m with
    | some data => data :: dataRun payload rest
    | none => []

variable {C U : Type}

section ConsoleInput

/-- `console_input_request::TargetOrData`; a frame without one is `none`. -/
inductive ConsoleInput where
  | console (id : Nat)
  | data (data : Bytes)
deriving DecidableEq, Repr

def ConsoleInput.payload : Option ConsoleInput → Option Bytes
  | some (.data bytes) => some bytes
  | _ => none

def getConsole (consoles : Registry C) (id : Nat) : Option C := (consoles.lookup id).map (·.2)

/-- The `while let Some(request) = rx.message().await?` loop: each `Data`
payload is sent to the input sink of `console`; any other frame ends the call.
`ConsoleError` has no values, so neither `input()` nor `send` fails. -/
def forwardInput (console : C) (error : Option Status) :
    List (Option ConsoleInput) → Except Status Unit × List (C × Bytes)
  | [] => (endOfStream error, [])
  | some (.data data) :: rest =>
    let r := forwardInput console error rest
    (r.1, (console, data) :: r.2)
  | _ :: _ => (.error (.invalidArgument "Target cannot be changed"), [])

/-- `Server::console_stream_input`: the call's result and the chunks sent to
console input sinks, in order. -/
def consoleStreamInput (consoles : Registry C) (rx : Streaming (Option ConsoleInput)) :
    Except Status Unit × List (C × Bytes) :=
  match rx.frames with
  | [] => (endOfStream rx.error, [])
  | some (.console id) :: rest =>
    match getConsole consoles id with
    | some console => forwardInput console rx.error rest
    | none => (.error (.notFound "No serial console by that name"), [])
  | _ :: _ => (.error (.invalidArgument "Target should be set first"), [])

theorem endOfStream_eq_ok {error : Option Status} : endOfStream error = .ok () ↔ error = none := by
  cases error <;> simp [endOfStream]

/-- The loop sends every payload of the leading `Data` frames, and succeeds
exactly when all frames are `Data` and the stream ends cleanly. -/
theorem forwardInput_spec (console : C) (error : Option Status) (frames : List (Option ConsoleInput)) :
    ((forwardInput console error frames).1 = .ok () ↔
      error = none ∧ ∀ f ∈ frames, ∃ data, f = some (.data data)) ∧
    (forwardInput console error frames).2 =
      (dataRun ConsoleInput.payload frames).map (console, ·) := by
  induction frames with
  | nil => simp [forwardInput, dataRun, endOfStream_eq_ok]
  | cons f frames ih =>
    rcases f with _ | _ | data
    · simp [forwardInput, dataRun, ConsoleInput.payload]
    · simp [forwardInput, dataRun, ConsoleInput.payload]
    · simpa [forwardInput, dataRun, ConsoleInput.payload] using ih

/-- `console_stream_input` succeeds exactly when the stream ends cleanly and
either has no frame or selects a registered console first and carries only data
after it. The chunks sent are the payloads of the leading run of `Data` frames
after a valid selector, one chunk per frame, to the selected console, whatever
comes after them; without a valid selector nothing is sent. -/
theorem consoleStreamInput_spec (consoles : Registry C) (rx : Streaming (Option ConsoleInput)) :
    ((consoleStreamInput consoles rx).1 = .ok () ↔ rx.error = none ∧
      (rx.frames = [] ∨ ∃ id rest console, rx.frames = some (.console id) :: rest ∧
        getConsole consoles id = some console ∧ ∀ f ∈ rest, ∃ data, f = some (.data data))) ∧
    (∀ id rest console, rx.frames = some (.console id) :: rest →
      getConsole consoles id = some console →
      (consoleStreamInput consoles rx).2 = (dataRun ConsoleInput.payload rest).map (console, ·)) ∧
    ((¬ ∃ id rest console, rx.frames = some (.console id) :: rest ∧
        getConsole consoles id = some console) →
      (consoleStreamInput consoles rx).2 = []) := by
  obtain ⟨frames, error⟩ := rx
  rcases frames with _ | ⟨_ | ⟨id⟩ | data, rest⟩
  · simp [consoleStreamInput, endOfStream_eq_ok]
  · simp [consoleStreamInput]
  · cases hc : getConsole consoles id with
    | none =>
      simp [consoleStreamInput, hc]
      rintro _ _ _ rfl rfl h
      simp [hc] at h
    | some console =>
      have h := forwardInput_spec console error rest
      simp only [consoleStreamInput, hc]
      refine ⟨?_, fun _ _ _ he hc' => ?_, fun hn => absurd ⟨id, rest, console, rfl, hc⟩ hn⟩
      · rw [h.1]
        constructor
        · rintro ⟨he, hall⟩
          exact ⟨he, .inr ⟨id, rest, console, rfl, hc, hall⟩⟩
        · rintro ⟨he, hor⟩
          obtain ⟨_, _, _, heq, -, hall⟩ := hor.resolve_left (List.cons_ne_nil _ _)
          cases heq
          exact ⟨he, hall⟩
      · cases he
        cases hc.symm.trans hc'
        exact h.2
  · simp [consoleStreamInput]

/-- A transport error before the first frame fails the call: a stream with no
frame succeeds only if it ends cleanly. -/
theorem transport_error_before_first_frame :
    consoleStreamInput (Registry.new : Registry Unit) ⟨[], some ⟨.unavailable, "transport error"⟩⟩ =
      (.error ⟨.unavailable, "transport error"⟩, []) := rfl

end ConsoleInput

section Upload

structure UploadTarget where
  uploader : Nat
  target : String
  length : Nat
deriving DecidableEq, Repr

/-- `upload_request::TargetOrData`; a frame without one is `none`. -/
inductive UploadInput where
  | target (target : UploadTarget)
  | data (data : Bytes)
deriving DecidableEq, Repr

def UploadInput.payload : Option UploadInput → Option Bytes
  | some (.data bytes) => some bytes
  | _ => none

/-- The data stream `uploader_upload` builds with `stream::unfold` over the
client stream: the next `Data` payload, and the end of the stream at the end of
the client stream, at a transport error (`.ok()?`) and at any other frame. -/
def uploadData : List (Option UploadInput) → List Bytes
  | some (.data data) :: rest => data :: uploadData rest
  | _ => []

/-- What the spawned task runs: `uploader.upload(&target.target, data,
target.length, progress)`. `UploaderError` has no values, so it never fails. -/
structure UploadCall (U : Type) where
  uploader : U
  target : String
  length : Nat
  data : List Bytes
deriving DecidableEq, Repr

/-- `Server::uploader_upload`: the response, and on success the upload it
spawned, whose progress stream is the response. -/
def uploaderUpload (uploaders : Registry U) (rx : Streaming (Option UploadInput)) :
    Except Status (UploadCall U) :=
  match rx.frames with
  | [] =>
    match rx.error with
    | none => .error (.invalidArgument "No uploader/target selection")
    | some e => .error e
  | some (.target target) :: rest =>
    match (uploaders.lookup target.uploader).map (·.2) with
    | some uploader => .ok ⟨uploader, target.target, target.length, uploadData rest⟩
    | none => .error (.notFound "No uploader console by that name")
  | _ :: _ => .error (.invalidArgument "Target should be set first")

/-- The values an `UploadProgress` puts on its `watch` channel, which the client
reads as the response stream: `Ok(written: 0)` when it is made, then
`Ok(written)` at each `update`. -/
def UploadProgress.values (updates : List Nat) : List (Except Status Nat) :=
  .ok 0 :: updates.map .ok

def flashUploaders : Registry Unit := (Registry.new.add (.new "flash") ()).2

def flashTarget : UploadTarget := ⟨1, "flash", 2⟩

theorem uploadProgress_ok (updates : List Nat) :
    ∀ v ∈ UploadProgress.values updates, ∃ written, v = .ok written := by
  simp [UploadProgress.values]

/-- A second selector after the first `Data` frame, or a transport error after
it: the call succeeds and the upload is handed the first payload alone, while
the progress stream the client reads carries no error. -/
theorem upload_truncated_without_error (e : Status) :
    uploaderUpload flashUploaders ⟨[some (.target flashTarget), some (.data [1]),
        some (.target flashTarget), some (.data [2])], none⟩ = .ok ⟨(), "flash", 2, [[1]]⟩ ∧
      uploaderUpload flashUploaders ⟨[some (.target flashTarget), some (.data [1])], some e⟩ =
        .ok ⟨(), "flash", 2, [[1]]⟩ ∧
      ∀ updates, ∀ v ∈ UploadProgress.values updates, ∃ written, v = .ok written :=
  ⟨rfl, rfl, uploadProgress_ok⟩

end Upload

end Boardswarm
