import Boardswarm.Bindings

/-! # The engine replays what it read

In a run without lag the engine processes the entries of its `contents()`
snapshots and then every change its receivers deliver, each once and in the
order of the registry's history. A device's slots are therefore those of a
sequential replay of that sequence over the unbound slots `main` built, however
the providers' steps interleave with the engine's. `replaySlots` is that
sequential description of `monitor_items`; the concurrent engine refines it.
-/

namespace Boardswarm

variable {T K : Type} [DeviceConfigItem K]

/-- The changes a `contents()` snapshot stands for: one `Added` per entry. -/
def snapshotChanges (es : List (Nat × Properties × T)) : List (RegistryChange T) :=
  es.map fun e => .added e.1 e.2.1 e.2.2

/-- Each slot of `init` after the changes `cs`, processed one after another. -/
def replaySlots (init : List (DeviceItem K)) (cs : List (RegistryChange T)) : List (DeviceItem K) :=
  init.map fun i => cs.foldl DeviceItem.afterChange i

@[simp] theorem replaySlots_nil (init : List (DeviceItem K)) :
    replaySlots init ([] : List (RegistryChange T)) = init := by
  simp [replaySlots]

theorem replaySlots_concat (init : List (DeviceItem K)) (cs : List (RegistryChange T))
    (c : RegistryChange T) : replaySlots init (cs ++ [c]) = (replaySlots init cs).map (·.afterChange c) := by
  simp [replaySlots, List.foldl_append]

theorem replaySlots_snapshot_cons (init : List (DeviceItem K)) (e : Nat × Properties × T)
    (es : List (Nat × Properties × T)) :
    replaySlots (init.map (·.afterChange (.added e.1 e.2.1 e.2.2))) (snapshotChanges es) =
      replaySlots init (snapshotChanges (e :: es)) := by
  simp [replaySlots, snapshotChanges]

/-- The slots after the snapshot of `r` taken at `win.snapshot`, then the
changes from `win.subscribed`, where the receiver was opened, up to its position. -/
def Replayed (r : Registry T) (rx : Receiver) (win : Window) (init items : List (DeviceItem K)) : Prop :=
  win.subscribed ≤ win.snapshot ∧ win.snapshot ≤ r.sent.length ∧ win.subscribed ≤ rx.pos ∧
    items = replaySlots init (snapshotChanges (replay (r.sent.take win.snapshot)) ++
      (r.sent.take rx.pos).drop win.subscribed)

namespace Replayed

variable {r r' : Registry T} {rx : Receiver} {win : Window} {init items : List (DeviceItem K)}

/-- The walk over the snapshot taken once the receiver was open. -/
theorem walked (hv : r.Valid) (hpos : rx.pos ≤ r.sent.length) (init : List (DeviceItem K)) :
    Replayed r rx ⟨rx.pos, r.sent.length⟩ init (replaySlots init (snapshotChanges r.contents)) := by
  refine ⟨hpos, le_rfl, le_rfl, ?_⟩
  rw [List.take_length, ← hv.contents_eq, List.drop_eq_nil_of_le (List.length_take_le _ _),
    List.append_nil]

theorem sent_append (h : Replayed r rx win init items) (hpos : rx.pos ≤ r.sent.length)
    (hs : ∃ cs, r'.sent = r.sent ++ cs) : Replayed r' rx win init items := by
  obtain ⟨cs, hcs⟩ := hs
  obtain ⟨hab, hb, ha, rfl⟩ := h
  refine ⟨hab, by rw [hcs, List.length_append]; omega, ha, ?_⟩
  rw [hcs, List.take_append_of_le_length hb, List.take_append_of_le_length hpos]

/-- Reading the next change and passing over it extends the replay by that change. -/
theorem recv (h : Replayed r rx win init items) (hl : rx.lagged = false) {c : RegistryChange T}
    {rx' : Receiver} (hr : rx.recv r = some (.change c, rx')) :
    Replayed r rx' win init (items.map (·.afterChange c)) := by
  obtain ⟨hc, rfl⟩ := (Receiver.recv_eq_change hl).1 hr
  obtain ⟨hab, hb, ha, rfl⟩ := h
  refine ⟨hab, hb, Nat.le_succ_of_le ha, ?_⟩
  rw [take_succ_of_getElem? hc, List.drop_append_of_le_length (by rw [List.length_take]; omega),
    ← List.append_assoc, replaySlots_concat]

end Replayed

variable {A C U : Type}

namespace World

variable {w : World A C U} {config : Config.Device}

/-- A walk over a kind's entries replays them over that kind's slots and leaves
the other slots, the registries and the engine alone. -/
theorem walkEntries_slots (k : Kind) (es : List (Nat × Properties × k.Res A C U)) (w : World A C U)
    (ch : Bool) :
    SameOutside w (walkEntries k es w ch).1 ∧
      (walkEntries k es w ch).1.device.slots k = replaySlots (w.device.slots k) (snapshotChanges es) ∧
      ∀ k', k' ≠ k → (walkEntries k es w ch).1.device.slots k' = w.device.slots k' := by
  induction es generalizing w ch with
  | nil => exact ⟨⟨fun _ => rfl, rfl⟩, by simp [walkEntries, snapshotChanges], fun _ _ => rfl⟩
  | cons e es ih =>
    obtain ⟨o, s, n⟩ := ih (w.pass k (.added e.1 e.2.1 e.2.2)).1 (ch || (w.pass k (.added e.1 e.2.1 e.2.2)).2)
    refine ⟨(sameOutside_pass _ _ _).trans o, ?_, fun k' hk => ?_⟩
    · rw [walkEntries_cons, s, pass_slots, replaySlots_snapshot_cons]
    · rw [walkEntries_cons, n k' hk, pass_slots_of_ne _ _ _ hk]

theorem walk_slots (w : World A C U) :
    SameOutside w w.walk.1 ∧
      ∀ k, w.walk.1.device.slots k = replaySlots (w.device.slots k) (snapshotChanges (w.registry k).contents) := by
  obtain ⟨o₁, s₁, n₁⟩ := walkEntries_slots .actuator w.actuators.contents w false
  obtain ⟨o₂, s₂, n₂⟩ := walkEntries_slots .console
    (walkEntries .actuator w.actuators.contents w false).1.consoles.contents _
    (walkEntries .actuator w.actuators.contents w false).2
  obtain ⟨o₃, s₃, n₃⟩ := walkEntries_slots .uploader _ _ _
  refine ⟨o₁.trans (o₂.trans o₃), fun k => ?_⟩
  cases k with
  | actuator => exact (n₃ .actuator (by decide)).trans ((n₂ .actuator (by decide)).trans s₁)
  | console =>
    refine (n₃ .console (by decide)).trans (s₂.trans ?_)
    rw [n₁ .console (by decide)]
    exact congrArg (fun r : Registry C => replaySlots _ (snapshotChanges r.contents)) (o₁.1 .console)
  | uploader =>
    refine s₃.trans ?_
    rw [n₂ .uploader (by decide), n₁ .uploader (by decide)]
    exact congrArg (fun r : Registry U => replaySlots _ (snapshotChanges r.contents))
      ((o₂.1 .uploader).trans (o₁.1 .uploader))

/-- The slots of a world whose engine holds the receivers `m`, against the
sequential replay over the slots `main` built, through the ghost windows. -/
def SlotsReplayed (config : Config.Device) (w : World A C U) (m : Monitors) : Prop :=
  ∀ k, Replayed (w.registry k) (m.get k) (w.windows.get k) ((Device.fromConfig config).slots k)
    (w.device.slots k)

/-- The slots along a run without lag: as `main` built them until the walks,
with each window opened where its receiver was, and the replay of what the
engine processed afterwards. -/
def SlotsLog (config : Config.Device) (w : World A C U) : Prop :=
  match w.engine with
  | .start => w.device = Device.fromConfig config
  | .walk m => w.device = Device.fromConfig config ∧ ∀ k, (w.windows.get k).subscribed = (m.get k).pos
  | .notify m | .select m => w.SlotsReplayed config m

theorem slotsLog_afterPass {w' : World A C U} {b : Bool} {m : Monitors} {ws : Windows} :
    SlotsLog config { w' with engine := afterPass b m, windows := ws } ↔
      SlotsReplayed config { w' with windows := ws } m := by
  cases b <;> exact Iff.rfl

theorem SlotsLog.replayed (hl : w.SlotsLog config) {m : Monitors}
    (h : w.engine = .notify m ∨ w.engine = .select m) : w.SlotsReplayed config m := by
  rcases h with h | h <;> simpa only [SlotsLog, h] using hl

/-- A pass keeps the other kinds' replays, and its own if the new slots replay
what the receiver has read. -/
theorem SlotsReplayed.pass {m : Monitors} (h : w.SlotsReplayed config m) {k : Kind}
    {c : RegistryChange (k.Res A C U)} {rx : Receiver}
    (hk : Replayed (w.registry k) rx (w.windows.get k) ((Device.fromConfig config).slots k)
      ((w.device.slots k).map (·.afterChange c))) :
    (w.pass k c).1.SlotsReplayed config (m.set k rx) := by
  intro k'
  by_cases hk' : k' = k
  · subst hk'
    simpa [pass_slots] using hk
  · simpa [hk', pass_slots_of_ne _ _ _ hk'] using h k'

theorem SlotsLog.setRegistry (hi : w.Inv) (hl : w.SlotsLog config) {k : Kind} {r : Registry (k.Res A C U)}
    (hs : ∃ cs, r.sent = (w.registry k).sent ++ cs) : (w.setRegistry k r).SlotsLog config := by
  unfold SlotsLog at hl ⊢
  simp only [setRegistry_engine, setRegistry_device, setRegistry_windows]
  split at hl
  · exact hl
  · exact hl
  all_goals
    intro k'
    by_cases hk : k' = k
    · subst hk
      simpa using (hl k').sent_append ((hi.sides _ (by simp [Engine.monitors, *]) k').pos_le) hs
    · simpa [hk] using hl k'

theorem SlotsLog.step {w' : World A C U} {b : Bool} (hi : w.Inv) (hl : w.SlotsLog config)
    (hs : w.Step b w') : w'.SlotsLog config := by
  have hside : ∀ {m}, w.engine = .select m → w.Sides m := fun h => hi.sides _ (by rw [h]; rfl)
  cases hs with
  | register k p x => exact hl.setRegistry hi (Registry.add_sent ..)
  | unregister k id => exact hl.setRegistry hi (Registry.remove_sent ..)
  | subscribe h =>
    refine ⟨by simpa only [SlotsLog, h] using hl, fun k => ?_⟩
    cases k <;> rfl
  | walk m h =>
    obtain ⟨hd, hsub⟩ : w.device = Device.fromConfig config ∧
        ∀ k, (w.windows.get k).subscribed = (m.get k).pos := by
      simpa only [SlotsLog, h] using hl
    obtain ⟨⟨o, -⟩, s⟩ := walk_slots w
    refine slotsLog_afterPass.2 fun k => ?_
    show Replayed (w.walk.1.registry k) _ (w.walkedWindows.get k) _ (w.walk.1.device.slots k)
    rw [o k, s k, hd, walkedWindows_get, hsub k]
    exact Replayed.walked (hi.valid k) ((hi.sides m (by rw [h]; rfl)) k).pos_le _
  | notify m h => exact hl.replayed (.inl h)
  | recv m k c rx h hr =>
    have hr' := hl.replayed (.inr h)
    exact slotsLog_afterPass.2 (hr'.pass ((hr' k).recv ((hside h) k).lossless hr))
  | restart m k h hl' => simp [((hside h) k).lossless] at hl'

theorem Reachable.slotsLog (h : w.Reachable config) : w.SlotsLog config := by
  induction h with
  | init => rfl
  | step hr hs ih => exact ih.step hr.inv hs

/-- In every run without lag, once the engine has walked the registries, every
slot of each kind is bound exactly as a sequential replay binds it: start from
the unbound slots `main` built, process the kind's `contents()` snapshot, taken
when the history was `(w.windows.get k).snapshot` long, then each change read
since the receiver was opened, when it was `(w.windows.get k).subscribed` long,
in the order of the registry's history. No change read is lost, and none is
applied out of order, however the providers' steps interleave with the engine's. -/
theorem slots_replayed (h : w.Reachable config) {m : Monitors}
    (hm : w.engine = .notify m ∨ w.engine = .select m) (k : Kind) :
    Replayed (w.registry k) (m.get k) (w.windows.get k) ((Device.fromConfig config).slots k)
      (w.device.slots k) :=
  h.slotsLog.replayed hm k

theorem boundWorld_slots_replayed : boundWorld.Reachable serialBoard ∧
    (boundWorld.engine = .notify ⟨⟨0, false⟩, ⟨1, false⟩, ⟨0, false⟩⟩ ∨
      boundWorld.engine = .select ⟨⟨0, false⟩, ⟨1, false⟩, ⟨0, false⟩⟩) ∧
    ∀ k, Replayed (boundWorld.registry k) (Monitors.get ⟨⟨0, false⟩, ⟨1, false⟩, ⟨0, false⟩⟩ k)
      (boundWorld.windows.get k) ((Device.fromConfig serialBoard).slots k) (boundWorld.device.slots k) := by
  have r₀ : (World.init serialBoard : World Unit Unit Unit).Reachable serialBoard := .init
  have r₁ := r₀.step (Step.subscribe _ rfl)
  have r₂ := r₁.step (Step.walk _ _ rfl)
  have r₃ := r₂.step (Step.register _ .console firstConsole ())
  have r₄ := r₃.step (Step.recv _ _ .console (.added 1 firstConsole ()) ⟨1, false⟩ rfl rfl)
  have hr : boundWorld.Reachable serialBoard := r₄.step (Step.notify _ _ rfl)
  exact ⟨hr, .inr rfl, slots_replayed hr (.inr rfl)⟩

end World

end Boardswarm
