import Boardswarm.Notifier

/-! # A `device_info` stream that subscribed up to date keeps up

`device_info` emits the device's view, subscribes with `device.updates()`, and
emits the view again each time `wait()` returns. A stream can be left behind by
a change announced between its first view and its subscription, or by a
`set_mode` call that cleared the mode and then failed without notifying. Nothing
else leaves one behind, lags included: a notification reaches every subscribed
stream, which then emits again, and a view emitted while a change is still
unannounced is followed by its notification unless a `set_mode` call fails
first. The streams that subscribed up to date are ghost indices.
-/

namespace Boardswarm

variable {A C U : Type}

theorem InfoStream.notified_of_subscribed {st : InfoStream} (h : st.pc ≠ .opened) :
    st.notified = { st with pending := true } := by
  rcases st with ⟨last, _ | _ | _, pending⟩ <;> simp_all [InfoStream.notified]

theorem World.Step.engine_of_notify {w w' : World A C U} {m : Monitors} (h : w.Step false w')
    (he : w.engine = .notify m) : w'.engine = .notify m := by
  cases h <;> simp_all

theorem World.Lag.engine_of_notify {w w' : World A C U} {m : Monitors} (h : w.Lag w')
    (he : w.engine = .notify m) : ∃ m', w'.engine = .notify m' := by
  cases h
  exact ⟨_, by simp only [he]; rfl⟩

namespace DeviceRun

variable {config : Config.Device} {s s' : DeviceRun A C U} {d : Device} {ks : List Nat}

/-- A notification is still to come, or a `set_mode` call failed: the engine is
about to notify, a call is in progress, or one returned `ActuatorFailed`. -/
def Unsettled (s : DeviceRun A C U) : Prop :=
  (∃ m, s.world.engine = .notify m) ∨ (∃ c ∈ s.calls, ∀ r, c ≠ .returned r) ∨
    .returned (.error .actuatorFailed) ∈ s.calls

theorem AnnounceInv.device_or_unsettled (h : s.AnnounceInv d) :
    s.world.device = d ∨ s.Unsettled := by
  rcases h with hq | ha | hf
  · by_cases he : ∃ m, s.world.engine = .notify m
    · exact .inr (.inl he)
    · exact .inl (hq fun m hm => he ⟨m, hm⟩)
  · exact .inr (.inr (.inl ha))
  · exact .inr (.inr (.inr hf))

/-- Only a notification settles what is unsettled. -/
theorem Unsettled.quiet (hu : s.Unsettled) (hs : s.Step s') (hn : ¬ s.Notifying s') :
    s'.Unsettled := by
  cases hs with
  | world b w h =>
    cases b with
    | true => exact absurd (.inl ⟨w, h, rfl⟩) hn
    | false => exact hu.imp (fun ⟨m, he⟩ => ⟨m, h.engine_of_notify he⟩) id
  | setModeRejected mode e h =>
    exact hu.imp_right (Or.imp (fun ⟨c, hc, ha⟩ => ⟨c, List.mem_append_left _ hc, ha⟩)
      (List.mem_append_left _))
  | setModeCleared mode steps h =>
    exact .inr (.inl ⟨_, List.mem_append_right _ (List.mem_singleton_self _), fun r h => nomatch h⟩)
  | call i c ok c' e h hs =>
    refine .inr (call_unfinished h hs fun he => hn (.inr ⟨i, c, c', ok, h, he ▸ hs, ?_⟩))
    rw [he]
  | deviceInfo => exact hu
  | updates i st h hpc => exact hu
  | wait i st h hpc hp => exact hu
  | emit i st h hpc => exact hu

theorem Unsettled.lag (hu : s.Unsettled) (hl : s.Lag s') : s'.Unsettled := by
  cases hl with
  | drop w h => exact hu.imp (fun ⟨m, he⟩ => h.engine_of_notify he) id

theorem Notifying.streams (hn : s.Notifying s') : s'.streams = s.streams.map InfoStream.notified := by
  rcases hn with ⟨w, -, rfl⟩ | ⟨i, c, c', ok, -, -, rfl⟩ <;> rfl

/-- With no call and no notification due, no step notifies. -/
theorem not_notifying_of_idle (he : ∀ m, s.world.engine ≠ .notify m) (hc : s.calls = []) :
    ¬ s.Notifying s' := fun hn => by
  rcases hn.cases with ⟨m, hm⟩ | ⟨i, mode, hi⟩
  · exact he m hm
  · simp [hc] at hi

/-- The runs of a device, lags included, each with the device as of its last
`notify()` and the streams that subscribed up to date: those whose first view
was the view last announced when `updates()` subscribed them. -/
inductive Watched (config : Config.Device) : DeviceRun A C U → Device → List Nat → Prop
  | init : Watched config (DeviceRun.init config) (Device.fromConfig config) []
  | quiet {s s' : DeviceRun A C U} {d : Device} {ks : List Nat} : Watched config s d ks →
      s.Step s' → ¬ s.Notifying s' → Watched config s' d ks
  | notify {s s' : DeviceRun A C U} {d : Device} {ks : List Nat} : Watched config s d ks →
      s.Step s' → s.Notifying s' → Watched config s' s'.world.device ks
  | upToDate {s : DeviceRun A C U} {d : Device} {ks : List Nat} (i : Nat) (st : InfoStream) :
      Watched config s d ks → s.streams[i]? = some st → st.pc = .opened → st.last = d.view →
      Watched config { s with streams := s.streams.set i { st with pc := .waiting } } d (i :: ks)
  | lag {s s' : DeviceRun A C U} {d : Device} {ks : List Nat} : Watched config s d ks → s.Lag s' →
      Watched config s' d ks

theorem watched_iff_lossyReachable : (∃ d ks, s.Watched config d ks) ↔ s.LossyReachable config := by
  constructor
  · rintro ⟨d, ks, h⟩
    induction h with
    | init => exact .init
    | quiet _ hs _ ih => exact ih.step hs
    | notify _ hs _ ih => exact ih.step hs
    | upToDate i st _ hst hpc _ ih => exact ih.step (.updates _ i st hst hpc)
    | lag _ hl ih => exact ih.lag hl
  · intro h
    induction h with
    | init => exact ⟨_, _, .init⟩
    | @step s₁ s₂ _ hs ih =>
      obtain ⟨d, ks, hd⟩ := ih
      by_cases hn : s₁.Notifying s₂
      · exact ⟨_, _, hd.notify hs hn⟩
      · exact ⟨_, _, hd.quiet hs hn⟩
    | lag _ hl ih =>
      obtain ⟨d, ks, hd⟩ := ih
      exact ⟨_, _, hd.lag hl⟩

/-- The device is as last announced unless something is unsettled, and every
stream subscribed up to date is past `updates()` and, when it would block in
`wait()`, has emitted the view last announced, unless something is unsettled. -/
structure WatchInv (s : DeviceRun A C U) (d : Device) (ks : List Nat) : Prop where
  announce : s.AnnounceInv d
  caught : ∀ i ∈ ks, ∃ st, s.streams[i]? = some st ∧ st.pc ≠ .opened ∧
    (st.Blocked → st.last = d.view ∨ s.Unsettled)

theorem WatchInv.quiet (hj : s.WatchInv d ks) (hs : s.Step s') (hn : ¬ s.Notifying s') :
    s'.WatchInv d ks := by
  refine ⟨hj.announce.quiet hs hn, fun i hi => ?_⟩
  obtain ⟨st, hst, hpc, hb⟩ := hj.caught i hi
  have hus : s.Unsettled → s'.Unsettled := (·.quiet hs hn)
  have hdev := hj.announce.device_or_unsettled
  -- A stream the step leaves alone keeps its guarantee.
  have keep : s'.streams[i]? = some st → ∃ st, s'.streams[i]? = some st ∧ st.pc ≠ .opened ∧
      (st.Blocked → st.last = d.view ∨ s'.Unsettled) :=
    fun h => ⟨st, h, hpc, fun hbl => (hb hbl).imp_right hus⟩
  have hlt := (List.getElem?_eq_some_iff.1 hst).1
  cases hs with
  | world b w h =>
    cases b with
    | true => exact absurd (.inl ⟨w, h, rfl⟩) hn
    | false => exact keep hst
  | setModeRejected => exact keep hst
  | setModeCleared => exact keep hst
  | call j c ok c' e h hc =>
    cases e with
    | notify => exact absurd (.inr ⟨j, c, c', ok, h, hc, rfl⟩) hn
    | _ => exact keep hst
  | deviceInfo => exact keep (by rw [List.getElem?_append_left hlt, hst])
  | updates j st' h hpc' =>
    have hji : j ≠ i := by
      rintro rfl
      rw [hst, Option.some.injEq] at h
      exact hpc (h ▸ hpc')
    exact keep (by rw [List.getElem?_set_ne hji, hst])
  | wait j st' h hpc' hp =>
    by_cases hji : j = i
    · subst hji
      exact ⟨_, List.getElem?_set_self hlt, by simp, fun hbl => absurd hbl.1 (by simp)⟩
    · exact keep (by rw [List.getElem?_set_ne hji, hst])
  | emit j st' h hpc' =>
    by_cases hji : j = i
    · subst hji
      exact ⟨_, List.getElem?_set_self hlt, by simp, fun _ => hdev.imp (congrArg Device.view) hus⟩
    · exact keep (by rw [List.getElem?_set_ne hji, hst])

theorem WatchInv.notify (hj : s.WatchInv d ks) (hn : s.Notifying s') :
    s'.WatchInv s'.world.device ks := by
  refine ⟨.inl fun _ => rfl, fun i hi => ?_⟩
  obtain ⟨st, hst, hpc, -⟩ := hj.caught i hi
  rw [hn.streams, List.getElem?_map, hst, Option.map_some', InfoStream.notified_of_subscribed hpc]
  exact ⟨_, rfl, hpc, fun hb => absurd hb.2 (by simp)⟩

theorem WatchInv.upToDate (hj : s.WatchInv d ks) {i : Nat} {st : InfoStream}
    (hst : s.streams[i]? = some st) (hpc : st.pc = .opened) (hl : st.last = d.view) :
    ({ s with streams := s.streams.set i { st with pc := .waiting } } : DeviceRun A C U).WatchInv
      d (i :: ks) := by
  refine ⟨hj.announce.of_same rfl fun x hx => hx, fun k hk => ?_⟩
  rcases List.mem_cons.1 hk with rfl | hk
  · exact ⟨_, List.getElem?_set_self (List.getElem?_eq_some_iff.1 hst).1, by simp, fun _ => .inl hl⟩
  · obtain ⟨st', hst', hpc', hb⟩ := hj.caught k hk
    have hik : i ≠ k := by
      rintro rfl
      rw [hst, Option.some.injEq] at hst'
      exact hpc' (hst' ▸ hpc)
    exact ⟨st', by rw [List.getElem?_set_ne hik]; exact hst', hpc', hb⟩

theorem WatchInv.lag (hj : s.WatchInv d ks) (hl : s.Lag s') : s'.WatchInv d ks := by
  refine ⟨hj.announce.lag hl, fun i hi => ?_⟩
  obtain ⟨st, hst, hpc, hb⟩ := hj.caught i hi
  cases hl with
  | drop w h => exact ⟨st, hst, hpc, fun hbl => (hb hbl).imp_right (·.lag (.drop _ _ h))⟩

theorem Watched.watchInv (h : s.Watched config d ks) : s.WatchInv d ks := by
  induction h with
  | init => exact ⟨.inl fun _ => rfl, fun i hi => nomatch hi⟩
  | quiet _ hs hn ih => exact ih.quiet hs hn
  | notify _ _ hn ih => exact ih.notify hn
  | upToDate i st _ hst hpc hl ih => exact ih.upToDate hst hpc hl
  | lag _ hl ih => exact ih.lag hl

/-- In every run, lags included, a `device_info` stream that subscribed up to
date is never left behind: once no notification is due, every `set_mode` call has returned and
none failed with `ActuatorFailed`, such a stream blocked in `wait()` has emitted
the device's current view. -/
theorem upToDate_stream_current {i : Nat} {st : InfoStream} (h : s.Watched config d ks)
    (hi : i ∈ ks) (hst : s.streams[i]? = some st) (hb : st.Blocked)
    (he : ∀ m, s.world.engine ≠ .notify m) (hc : ∀ c ∈ s.calls, ∃ r, c = .returned r)
    (hf : .returned (.error .actuatorFailed) ∉ s.calls) : st.last = s.world.device.view := by
  have hs : ¬ s.Unsettled := by
    rintro (⟨m, hm⟩ | ⟨c, hc', ha⟩ | hf')
    · exact he m hm
    · obtain ⟨r, rfl⟩ := hc c hc'
      exact ha r rfl
    · exact hf hf'
  have hj := h.watchInv
  obtain ⟨st', hst', -, hl⟩ := hj.caught i hi
  rw [hst, Option.some.injEq] at hst'
  subst hst'
  rw [hj.announce.device_or_unsettled.resolve_right hs]
  exact (hl hb).resolve_right hs

/-- `serialBoard` with a stream that subscribed before console `1` was bound,
then woke on the engine's notification and emitted the bound view. -/
def caughtRun : DeviceRun Unit Unit Unit :=
  { world := World.boundWorld
    calls := []
    streams := [⟨World.boundWorld.device.view, .waiting, false⟩]
    modeLog := []
    invocations := [] }

theorem caughtRun_current :
    caughtRun.Watched World.serialBoard World.boundWorld.device [0] ∧ 0 ∈ [0] ∧
      caughtRun.streams[0]? = some ⟨World.boundWorld.device.view, .waiting, false⟩ ∧
      InfoStream.Blocked ⟨World.boundWorld.device.view, .waiting, false⟩ ∧
      (∀ m, caughtRun.world.engine ≠ .notify m) ∧ (∀ c ∈ caughtRun.calls, ∃ r, c = .returned r) ∧
      .returned (.error .actuatorFailed) ∉ caughtRun.calls ∧
      (⟨World.boundWorld.device.view, .waiting, false⟩ : InfoStream).last =
        caughtRun.world.device.view := by
  have r₀ : (DeviceRun.init World.serialBoard : DeviceRun Unit Unit Unit).Watched World.serialBoard
    (Device.fromConfig World.serialBoard) [] := .init
  have r₁ := r₀.quiet (.deviceInfo _) (not_notifying_of_idle (fun m h => by cases h) rfl)
  have r₂ := r₁.upToDate 0 ⟨(World.init World.serialBoard).device.view, .opened, false⟩ rfl rfl rfl
  have r₃ := r₂.quiet (.world _ false _ (.subscribe _ rfl))
    (not_notifying_of_idle (fun m h => by cases h) rfl)
  have r₄ := r₃.quiet (.world _ false _ (.walk _ _ rfl))
    (not_notifying_of_idle (fun m h => by cases h) rfl)
  have r₅ := r₄.quiet (.world _ false _ (.register _ .console World.firstConsole ()))
    (not_notifying_of_idle (fun m h => by cases h) rfl)
  have r₆ := r₅.quiet (.world _ false _ (.recv _ ⟨⟨0, false⟩, ⟨0, false⟩, ⟨0, false⟩⟩ .console
      (.added 1 World.firstConsole ()) ⟨1, false⟩ rfl rfl))
    (not_notifying_of_idle (fun m h => by cases h) rfl)
  have r₇ := r₆.notify (.world _ true _ (.notify _ _ rfl)) (.inl ⟨_, .notify _ _ rfl, rfl⟩)
  have r₈ := r₇.quiet (.wait _ 0 ⟨(World.init World.serialBoard).device.view, .waiting, true⟩
    rfl rfl rfl) (not_notifying_of_idle (fun m h => by cases h) rfl)
  have hr : caughtRun.Watched World.serialBoard World.boundWorld.device [0] :=
    r₈.quiet (.emit _ 0 ⟨(World.init World.serialBoard).device.view, .woken, false⟩ rfl rfl)
      (not_notifying_of_idle (fun m h => by cases h) rfl)
  have hi : 0 ∈ [0] := List.mem_singleton_self 0
  have he : ∀ m, caughtRun.world.engine ≠ .notify m := fun m h => by cases h
  have hc : ∀ c ∈ caughtRun.calls, ∃ r, c = .returned r := by simp [caughtRun]
  have hf : .returned (.error .actuatorFailed) ∉ caughtRun.calls := by simp [caughtRun]
  exact ⟨hr, hi, rfl, ⟨rfl, rfl⟩, he, hc, hf, upToDate_stream_current hr hi rfl ⟨rfl, rfl⟩ he hc hf⟩

end DeviceRun

end Boardswarm
