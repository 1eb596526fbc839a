import Boardswarm.Bindings

/-! # Every slot change the engine makes is announced

`monitor_items` accumulates `changed` over a pass and calls `notify()` when it
is set. A pass that reports nothing changed left every slot as it was, so the
engine is never back in `select!` (or starting again) with a slot changed since
its last notification. This holds along every run, lags included: a lag only
moves the engine's receivers. The device as of the last notification is kept
beside the world as ghost state.
-/

namespace Boardswarm

variable {A C U : Type}

namespace World

/-- The worlds of the runs from `init config`, lags included, each with the
device as the watchers were last told of it: as `main` built it until the
first `notify()`, and as it was at the latest one afterwards. -/
inductive Announced (config : Config.Device) : World A C U → Device → Prop
  | init : Announced config (World.init config) (Device.fromConfig config)
  | step {w w' : World A C U} {b : Bool} {d : Device} : Announced config w d → Step w b w' →
      Announced config w' (if b then w'.device else d)
  | lag {w w' : World A C U} {d : Device} : Announced config w d → Lag w w' →
      Announced config w' d

variable {w w' : World A C U} {config : Config.Device} {d : Device}

theorem announced_iff_lossyReachable : (∃ d, w.Announced config d) ↔ w.LossyReachable config := by
  constructor
  · rintro ⟨d, h⟩
    induction h with
    | init => exact .init
    | step _ hs ih => exact ih.step hs
    | lag _ hl ih => exact ih.lag hl
  · intro h
    induction h with
    | init => exact ⟨_, .init⟩
    | step _ hs ih => obtain ⟨d, hd⟩ := ih; exact ⟨_, hd.step hs⟩
    | lag _ hl ih => obtain ⟨d, hd⟩ := ih; exact ⟨_, hd.lag hl⟩

/-- A walk that ends with `changed` unset started with it unset and changed no slot. -/
theorem walkEntries_device (k : Kind) (es : List (Nat × Properties × k.Res A C U)) (w : World A C U) (b : Bool)
    (h : (walkEntries k es w b).2 = false) : b = false ∧ (walkEntries k es w b).1.device = w.device := by
  induction es generalizing w b with
  | nil => exact ⟨h, rfl⟩
  | cons e es ih =>
    obtain ⟨hb, hd⟩ := ih _ _ h
    simp only [Bool.or_eq_false_iff] at hb
    exact ⟨hb.1, hd.trans (pass_device_of_not_changed _ _ _ hb.2)⟩

theorem walk_device (h : w.walk.2 = false) : w.walk.1.device = w.device := by
  obtain ⟨h₂, h₃⟩ := walkEntries_device _ _ _ _ h
  obtain ⟨h₁, h₂⟩ := walkEntries_device _ _ _ _ h₂
  obtain ⟨-, h₁⟩ := walkEntries_device _ _ _ _ h₁
  exact h₃.trans (h₂.trans h₁)

/-- After a pass the engine is about to notify exactly when the pass changed something. -/
theorem afterPass_quiet {b : Bool} {m : Monitors} (h : ∀ m', afterPass b m ≠ .notify m') : b = false := by
  cases b
  · rfl
  · exact absurd rfl (h m)

/-- The device is as last announced whenever no `notify()` is due. -/
def Quiet (w : World A C U) (d : Device) : Prop := (∀ m, w.engine ≠ .notify m) → w.device = d

theorem Quiet.step (hq : w.Quiet d) {b : Bool} (hs : w.Step b w') : w'.Quiet (if b then w'.device else d) := by
  have hsel : ∀ {m}, w.engine = .select m → w.device = d := fun h => hq (by simp [h])
  intro hn
  cases hs with
  | subscribe h => exact hq (by simp [h])
  | walk m h => exact (walk_device (afterPass_quiet hn)).trans (hq (by simp [h]))
  | notify m h => rfl
  | recv m k c rx h hr => exact (pass_device_of_not_changed _ _ _ (afterPass_quiet hn)).trans (hsel h)
  | restart m k h hl => exact hsel h
  | register | unregister => simpa using hq (by simpa using hn)

theorem Quiet.lag (hq : w.Quiet d) (hl : w.Lag w') : w'.Quiet d := by
  intro hn
  cases hl
  exact hq fun m he => hn _ (by simp only [he]; rfl)

theorem Announced.quiet (h : w.Announced config d) : w.Quiet d := by
  induction h with
  | init => intro _; rfl
  | step _ hs ih => exact ih.step hs
  | lag _ hl ih => exact ih.lag hl

/-- In every run, lags included, the engine never leaves a slot change
unannounced: whenever it is not about to call `notify()`, the device is exactly
as it was at the last notification, or as `main` built it before the first. -/
theorem device_as_announced (h : w.Announced config d) (hq : ∀ m, w.engine ≠ .notify m) :
    w.device = d :=
  h.quiet hq

/-- The run of `boundWorld`: console `1` was bound by a pass, which announced it. -/
theorem boundWorld_as_announced : boundWorld.Announced serialBoard boundWorld.device ∧
    (∀ m, boundWorld.engine ≠ .notify m) ∧ boundWorld.device = boundWorld.device := by
  have r₀ : (World.init serialBoard : World Unit Unit Unit).Announced serialBoard
    (Device.fromConfig serialBoard) := .init
  have r₁ := r₀.step (Step.subscribe _ rfl)
  have r₂ := r₁.step (Step.walk _ _ rfl)
  have r₃ := r₂.step (Step.register _ .console firstConsole ())
  have r₄ := r₃.step (Step.recv _ _ .console (.added 1 firstConsole ()) ⟨1, false⟩ rfl rfl)
  have hr : boundWorld.Announced serialBoard boundWorld.device := r₄.step (Step.notify _ _ rfl)
  have hq : ∀ m, boundWorld.engine ≠ .notify m := fun m h => by cases h
  exact ⟨hr, hq, device_as_announced hr hq⟩

end World

end Boardswarm
