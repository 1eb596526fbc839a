import Boardswarm.Announce
import Boardswarm.Modes

/-! # What the device's notifier is told

Two tasks call `notify()` on a device's notifier: the binding engine after a
pass that changed a slot, and a `set_mode` call after writing its mode. Every
other change to the device is followed by one of these, except one: a
`set_mode` call clears the current mode before its loop and returns without
notifying when an actuator is missing or fails. A lag only moves the engine's
receivers. So once no notification is due and no `set_mode` call is in
progress, the device is as it was at the last `notify()`, unless a call failed
with `ActuatorFailed`; the device as of that notification is ghost state.
-/

namespace Boardswarm

variable {A C U : Type}

namespace DeviceRun

variable {config : Config.Device} {s s' : DeviceRun A C U} {d : Device}

/-- The step from `s` to `s'` calls `notify()`: the engine does after a pass
that changed a slot, a `set_mode` call after writing its mode. -/
def Notifying (s s' : DeviceRun A C U) : Prop :=
  (∃ w, s.world.Step true w ∧ s' = { s with world := w, streams := s.streams.map InfoStream.notified }) ∨
  (∃ i c c' ok, s.calls[i]? = some c ∧ c.step s.world.actuators ok = some (c', .notify) ∧
    s' = { s with calls := s.calls.set i c' }.perform i .notify)

theorem Notifying.cases (h : s.Notifying s') :
    (∃ m, s.world.engine = .notify m) ∨
      ∃ (i : Nat) (mode : String), s.calls[i]? = some (ModeCall.committed mode) := by
  rcases h with ⟨w, hw, -⟩ | ⟨i, c, c', ok, hc, hs, -⟩
  · cases hw with
    | notify m h => exact .inl ⟨m, h⟩
  · rcases ModeCall.step_eq_some hs with ⟨_, _, _, _, ⟨-, h⟩ | ⟨_, -, h, -⟩⟩ | ⟨_, -, -, h⟩ |
      ⟨_, _, -, -, h⟩ | ⟨mode, rfl, -, -⟩ <;> first | cases h | exact .inr ⟨i, mode, hc⟩

/-- The runs of a device, lags included, each with the device as of its last
`notify()` (as `main` built it, before the first). -/
inductive Announced (config : Config.Device) : DeviceRun A C U → Device → Prop
  | init : Announced config (DeviceRun.init config) (Device.fromConfig config)
  | quiet {s s' : DeviceRun A C U} {d : Device} : Announced config s d → s.Step s' →
      ¬ s.Notifying s' → Announced config s' d
  | notify {s s' : DeviceRun A C U} {d : Device} : Announced config s d → s.Step s' →
      s.Notifying s' → Announced config s' s'.world.device
  | lag {s s' : DeviceRun A C U} {d : Device} : Announced config s d → s.Lag s' → Announced config s' d

theorem announced_iff_lossyReachable : (∃ d, s.Announced config d) ↔ s.LossyReachable config := by
  constructor
  · rintro ⟨d, h⟩
    induction h with
    | init => exact .init
    | quiet _ hs _ ih => exact ih.step hs
    | notify _ hs _ ih => exact ih.step hs
    | lag _ hl ih => exact ih.lag hl
  · intro h
    induction h with
    | init => exact ⟨_, .init⟩
    | @step s₁ s₂ _ hs ih =>
      obtain ⟨d, hd⟩ := ih
      by_cases hn : s₁.Notifying s₂
      · exact ⟨_, hd.notify hs hn⟩
      · exact ⟨_, hd.quiet hs hn⟩
    | lag _ hl ih =>
      obtain ⟨d, hd⟩ := ih
      exact ⟨_, hd.lag hl⟩

/-- The device is as last announced, or a notification is due, or a `set_mode`
call is in progress, or one returned `ActuatorFailed`. -/
def AnnounceInv (s : DeviceRun A C U) (d : Device) : Prop :=
  s.world.Quiet d ∨ (∃ c ∈ s.calls, ∀ r, c ≠ .returned r) ∨
    .returned (.error .actuatorFailed) ∈ s.calls

theorem AnnounceInv.of_same (hj : s.AnnounceInv d) (hw : s'.world = s.world)
    (hc : ∀ x ∈ s.calls, x ∈ s'.calls) : s'.AnnounceInv d := by
  rcases hj with hq | ⟨c, hc', ha⟩ | hf
  · exact .inl (hw ▸ hq)
  · exact .inr (.inl ⟨c, hc c hc', ha⟩)
  · exact .inr (.inr (hc _ hf))

/-- A call's step that does not notify leaves that call in progress, or failed. -/
theorem call_unfinished {i : Nat} {c c' : ModeCall} {ok : Bool} {e : CallEffect A}
    (h : s.calls[i]? = some c) (hs : c.step s.world.actuators ok = some (c', e)) (he : e ≠ .notify) :
    (∃ c ∈ ({ s with calls := s.calls.set i c' }.perform i e).calls, ∀ r, c ≠ .returned r) ∨
      .returned (.error .actuatorFailed) ∈ ({ s with calls := s.calls.set i c' }.perform i e).calls := by
  have hmem : c' ∈ (s.calls.set i c') :=
    List.mem_iff_getElem?.2 ⟨i, List.getElem?_set_self (List.getElem?_eq_some_iff.1 h).1⟩
  rw [perform_calls]
  rcases ModeCall.step_eq_some hs with ⟨_, _, _, rfl, ⟨rfl, -⟩ | ⟨_, -, -, rfl | rfl | rfl⟩⟩ |
    ⟨_, rfl, rfl, -⟩ | ⟨_, _, rfl, rfl, -⟩ | ⟨_, rfl, -, rfl⟩
  · exact .inr hmem
  · exact .inl ⟨_, hmem, fun r h => nomatch h⟩
  · exact .inl ⟨_, hmem, fun r h => nomatch h⟩
  · exact .inr hmem
  · exact .inl ⟨_, hmem, fun r h => nomatch h⟩
  · exact .inl ⟨_, hmem, fun r h => nomatch h⟩
  · exact absurd rfl he

theorem AnnounceInv.quiet (hj : s.AnnounceInv d) (hs : s.Step s') (hn : ¬ s.Notifying s') :
    s'.AnnounceInv d := by
  cases hs with
  | world b w h =>
    cases b with
    | true => exact absurd (.inl ⟨w, h, rfl⟩) hn
    | false =>
      rcases hj with hq | ha | hf
      · exact .inl (hq.step h)
      · exact .inr (.inl ha)
      · exact .inr (.inr hf)
  | setModeRejected mode e h => exact hj.of_same rfl fun x hx => List.mem_append_left _ hx
  | setModeCleared mode steps h =>
    exact .inr (.inl ⟨_, List.mem_append_right _ (List.mem_singleton_self _), fun r h => nomatch h⟩)
  | call i c ok c' e h hs =>
    refine .inr (call_unfinished h hs fun he => hn (.inr ⟨i, c, c', ok, h, he ▸ hs, ?_⟩))
    rw [he]
  | deviceInfo => exact hj.of_same rfl fun x hx => hx
  | updates i st h hpc => exact hj.of_same rfl fun x hx => hx
  | wait i st h hpc hp => exact hj.of_same rfl fun x hx => hx
  | emit i st h hpc => exact hj.of_same rfl fun x hx => hx

theorem AnnounceInv.lag (hj : s.AnnounceInv d) (hl : s.Lag s') : s'.AnnounceInv d := by
  cases hl with
  | drop w h => exact hj.imp (·.lag h) id

end DeviceRun

end Boardswarm
