import Boardswarm.Replay

/-! # Which consoles get configured

The engine configures a console each time it processes a console entry that a
console slot accepts, whether or not the slot was already bound to that entry.
It processes the entries of its `contents()` snapshot and then every `Added`
change read from its receiver, which it opened before taking the snapshot. A
console registered in between is in the snapshot and also arrives as an `Added`
change, so it is configured twice while its slot stays bound to it.
-/

namespace Boardswarm

variable {A C U : Type}

/-- The `configure` calls that processing one console entry makes: one for each
console slot whose criteria its properties satisfy, with that slot's parameters. -/
def configureCalls (slots : List Config.Console) (e : Nat × Properties × C) : List (ConsoleCall C) :=
  (slots.filter fun s => DeviceConfigItem.matches_ s e.2.1).map fun s => ⟨e.2.2, s.parameters⟩

namespace World

/-- The configuration of each console slot, which no pass changes. -/
def consoleConfigs (w : World A C U) : List Config.Console := w.device.consoles.map (·.config)

theorem consolePass_configs (w : World A C U) (c : RegistryChange C) :
    (w.pass .console c).1.consoleConfigs = w.consoleConfigs := by
  simp [pass, consolePass, consoleConfigs, changeWith_items, Function.comp_def]

theorem consolePass_configured (w : World A C U) (c : RegistryChange C) :
    (w.pass .console c).1.configured = w.configured ++ (addedEntries [c]).flatMap
      (configureCalls w.consoleConfigs) := by
  cases c with
  | added j p x =>
    simp [pass, consolePass, addedEntries, configureCalls, consoleConfigs, setupConsole,
      List.filter_map, Function.comp_def, DeviceItem.Accepts]
  | removed k => simp [pass, consolePass, addedEntries]

theorem pass_console_of_ne (w : World A C U) {k : Kind} (c : RegistryChange (k.Res A C U))
    (hk : k ≠ .console) : (w.pass k c).1.configured = w.configured ∧
      (w.pass k c).1.consoleConfigs = w.consoleConfigs := by
  cases k
  · exact ⟨rfl, rfl⟩
  · exact absurd rfl hk
  · exact ⟨rfl, rfl⟩

theorem walkEntries_console (es : List (Nat × Properties × C)) (w : World A C U) (ch : Bool) :
    (walkEntries .console es w ch).1.configured =
        w.configured ++ es.flatMap (configureCalls w.consoleConfigs) ∧
      (walkEntries .console es w ch).1.consoleConfigs = w.consoleConfigs := by
  induction es generalizing w ch with
  | nil => simp [walkEntries]
  | cons e es ih =>
    obtain ⟨h₁, h₂⟩ := ih (w.pass .console (.added e.1 e.2.1 e.2.2)).1
      (ch || (w.pass .console (.added e.1 e.2.1 e.2.2)).2)
    rw [consolePass_configs] at h₁ h₂
    refine ⟨?_, h₂⟩
    rw [walkEntries_cons, h₁, consolePass_configured]
    simp [addedEntries]

theorem walkEntries_console_of_ne {k : Kind} (hk : k ≠ .console) (es : List (Nat × Properties × k.Res A C U))
    (w : World A C U) (ch : Bool) :
    (walkEntries k es w ch).1.configured = w.configured ∧
      (walkEntries k es w ch).1.consoleConfigs = w.consoleConfigs :=
  walkEntries_induct (fun w' => w'.configured = w.configured ∧ w'.consoleConfigs = w.consoleConfigs) _ _ _
    ⟨rfl, rfl⟩ fun w' _ _ hw => (pass_console_of_ne w' _ hk).imp (·.trans hw.1) (·.trans hw.2)

/-- The walks configure the consoles of the console snapshot and nothing else. -/
theorem walk_configured (w : World A C U) :
    w.walk.1.configured = w.configured ++ w.consoles.contents.flatMap
      (configureCalls w.consoleConfigs) ∧ w.walk.1.consoleConfigs = w.consoleConfigs := by
  let r₁ := walkEntries .actuator w.actuators.contents w false
  let r₂ := walkEntries .console r₁.1.consoles.contents r₁.1 r₁.2
  have h₁ := walkEntries_console_of_ne (k := .actuator) (by decide) w.actuators.contents w false
  have h₂ := walkEntries_console r₁.1.consoles.contents r₁.1 r₁.2
  have h₃ := walkEntries_console_of_ne (k := .uploader) (by decide) r₂.1.uploaders.contents r₂.1 r₂.2
  have hc : r₁.1.consoles = w.consoles := (walkEntries_slots .actuator w.actuators.contents w false).1.1 .console
  refine ⟨h₃.1.trans ?_, h₃.2.trans (h₂.2.trans h₁.2)⟩
  rw [h₂.1, h₁.1, h₁.2, hc]

/-- The `configure` calls after the walks, through the console window: for every
entry of the console registry's `contents()` snapshot, its history up to
`w.windows.console.snapshot`, then for every `Added` change the receiver has
read since it was opened, when the history was `w.windows.console.subscribed` long. -/
def LogAfterWalk (w : World A C U) (m : Monitors) : Prop :=
  w.windows.console.subscribed ≤ w.windows.console.snapshot ∧
    w.windows.console.snapshot ≤ w.consoles.sent.length ∧ w.windows.console.subscribed ≤ m.console.pos ∧
    w.configured = (replay (w.consoles.sent.take w.windows.console.snapshot) ++
      addedEntries ((w.consoles.sent.take m.console.pos).drop w.windows.console.subscribed)).flatMap
        (configureCalls w.consoleConfigs)

/-- The `configure` log of a run without lag: empty until the walks have run,
with the console window opened where the receiver was, and as `LogAfterWalk`
says afterwards. -/
def ConfigureLog (w : World A C U) : Prop :=
  match w.engine with
  | .start => w.configured = []
  | .walk m => w.configured = [] ∧ w.windows.console.subscribed = m.console.pos
  | .notify m | .select m => w.LogAfterWalk m

variable {w : World A C U} {m : Monitors}

theorem configureLog_afterPass {w : World A C U} {b : Bool} {ws : Windows} :
    ConfigureLog { w with engine := afterPass b m, windows := ws } ↔
      LogAfterWalk { w with windows := ws } m := by
  cases b <;> rfl

theorem ConfigureLog.logAfterWalk (hl : w.ConfigureLog) (h : w.engine = .notify m ∨ w.engine = .select m) :
    w.LogAfterWalk m := by
  rcases h with h | h <;> simpa only [ConfigureLog, h] using hl

theorem LogAfterWalk.sent_append {w' : World A C U} (h : w.LogAfterWalk m)
    (hpos : m.console.pos ≤ w.consoles.sent.length) (hc : w'.configured = w.configured)
    (hd : w'.consoleConfigs = w.consoleConfigs) (hw : w'.windows = w.windows)
    (hs : ∃ cs, w'.consoles.sent = w.consoles.sent ++ cs) : w'.LogAfterWalk m := by
  obtain ⟨cs, hs⟩ := hs
  obtain ⟨hab, hb, ha, hl⟩ := h
  rw [LogAfterWalk, hc, hd, hw, hs, List.take_append_of_le_length hb, List.take_append_of_le_length hpos]
  exact ⟨hab, by simp; omega, ha, hl⟩

/-- A pass over a change read from the console receiver logs the calls it made. -/
theorem LogAfterWalk.recv (h : w.LogAfterWalk m) (hs : Subscribed w.consoles m.console w.device.consoles)
    {c : RegistryChange C} {rx : Receiver} (hr : m.console.recv w.consoles = some (.change c, rx)) :
    LogAfterWalk (w.pass .console c).1 (m.set .console rx) := by
  obtain ⟨hc, rfl⟩ := (Receiver.recv_eq_change hs.lossless).1 hr
  obtain ⟨hab, hb, ha, hl⟩ := h
  refine ⟨hab, hb, Nat.le_succ_of_le ha, ?_⟩
  have hlen : w.windows.console.subscribed ≤ (w.consoles.sent.take m.console.pos).length := by
    simp only [List.length_take]; have := hs.pos_le; omega
  show (w.pass .console c).1.configured = (replay (w.consoles.sent.take w.windows.console.snapshot) ++
    addedEntries ((w.consoles.sent.take (m.console.pos + 1)).drop w.windows.console.subscribed)).flatMap
      (configureCalls (w.pass .console c).1.consoleConfigs)
  rw [consolePass_configured, consolePass_configs, take_succ_of_getElem? hc,
    List.drop_append_of_le_length hlen, hl]
  simp

@[simp] theorem pass_consoles (w : World A C U) (k : Kind) (c : RegistryChange (k.Res A C U)) :
    (w.pass k c).1.consoles = w.consoles :=
  pass_registry w k c .console

theorem setRegistry_consoles_sent {k : Kind} {r : Registry (k.Res A C U)}
    (hs : ∃ cs, r.sent = (w.registry k).sent ++ cs) :
    ∃ cs, (w.setRegistry k r).consoles.sent = w.consoles.sent ++ cs := by
  cases k
  · exact ⟨[], (List.append_nil _).symm⟩
  · exact hs
  · exact ⟨[], (List.append_nil _).symm⟩

theorem ConfigureLog.setRegistry (hi : w.Inv) (hl : w.ConfigureLog) {k : Kind} {r : Registry (k.Res A C U)}
    (hs : ∃ cs, r.sent = (w.registry k).sent ++ cs) : (w.setRegistry k r).ConfigureLog := by
  unfold ConfigureLog at hl ⊢
  simp only [setRegistry_engine, setRegistry_configured, setRegistry_windows]
  split at hl
  · exact hl
  · exact hl
  all_goals
    exact hl.sent_append ((hi.sides _ (by simp [Engine.monitors, *]) .console).pos_le)
      (setRegistry_configured ..) (by simp [consoleConfigs]) (setRegistry_windows ..)
      (setRegistry_consoles_sent hs)

theorem ConfigureLog.step {w w' : World A C U} {b : Bool} (hi : w.Inv) (hl : w.ConfigureLog)
    (hs : w.Step b w') : w'.ConfigureLog := by
  cases hs with
  | register k p x => exact hl.setRegistry hi (Registry.add_sent ..)
  | unregister k id => exact hl.setRegistry hi (Registry.remove_sent ..)
  | subscribe h => exact ⟨by simpa only [ConfigureLog, h] using hl, rfl⟩
  | walk m h =>
    obtain ⟨hl, hsub⟩ : w.configured = [] ∧ w.windows.console.subscribed = m.console.pos := by
      simpa only [ConfigureLog, h] using hl
    have hsd := hi.sides m (by rw [h]; rfl)
    have hc : w.walk.1.consoles = w.consoles := (walk_sides hsd).1.1 .console
    have hpos : m.console.pos ≤ w.consoles.sent.length := (hsd .console).pos_le
    obtain ⟨hw, hcfg⟩ := walk_configured w
    refine configureLog_afterPass.2 ⟨show w.windows.console.subscribed ≤ w.consoles.sent.length by omega,
      show w.consoles.sent.length ≤ w.walk.1.consoles.sent.length by rw [hc],
      show w.windows.console.subscribed ≤ m.console.pos by omega, ?_⟩
    show w.walk.1.configured = (replay (w.walk.1.consoles.sent.take w.consoles.sent.length) ++
      addedEntries ((w.walk.1.consoles.sent.take m.console.pos).drop w.windows.console.subscribed)).flatMap
        (configureCalls w.walk.1.consoleConfigs)
    have hv : w.consoles.Valid := hi.valid .console
    simp [hw, hl, hc, hcfg, hsub, addedEntries, List.drop_take, ← hv.contents_eq]
  | notify m h => exact hl.logAfterWalk (.inl h)
  | recv m k c rx h hr =>
    have hl' := hl.logAfterWalk (.inr h)
    have hsd := hi.sides m (by rw [h]; rfl)
    refine configureLog_afterPass.2 ?_
    cases k with
    | console => exact hl'.recv (hsd .console) hr
    | actuator | uploader =>
      exact hl'.sent_append (hsd .console).pos_le
        (pass_console_of_ne w c (by decide)).1 (pass_console_of_ne w c (by decide)).2 rfl
        ⟨[], (List.append_nil _).symm⟩
  | restart m k h hl' => simp [((hi.sides m (by rw [h]; rfl)) k).lossless] at hl'

/-- In every run without lag, `configure` has been called once for each console
slot and each console entry the engine processed that the slot accepts, with
the slot's parameters: the entries of its `contents()` snapshot, then the
consoles of the `Added` changes it has read since it subscribed, each cut where
the ghost console window records it. -/
theorem configure_per_processed_entry {config : Config.Device} (h : w.Reachable config) :
    w.ConfigureLog := by
  induction h with
  | init => rfl
  | step hr hs ih => exact ih.step hr.inv hs

/-- Console `1` was registered after the engine subscribed and before its walk:
the walk bound the slot to it and configured it, and its `Added` change is still
queued. -/
def windowBefore : World Unit Unit Unit :=
  { actuators := .new
    consoles := ⟨2, [(1, firstConsole, ())], [.added 1 firstConsole ()]⟩
    uploaders := .new
    device := { Device.fromConfig serialBoard with consoles := [⟨usbConsole, some 1⟩] }
    engine := .select ⟨⟨0, false⟩, ⟨0, false⟩, ⟨0, false⟩⟩
    configured := [⟨(), "115200"⟩]
    windows := ⟨⟨0, 0⟩, ⟨0, 1⟩, ⟨0, 0⟩⟩ }

/-- After the engine read that `Added` change. -/
def windowAfter : World Unit Unit Unit :=
  { windowBefore with
    engine := .notify ⟨⟨0, false⟩, ⟨1, false⟩, ⟨0, false⟩⟩
    configured := [⟨(), "115200"⟩, ⟨(), "115200"⟩] }

theorem windowAfter_configureLog :
    windowAfter.Reachable serialBoard ∧ windowAfter.ConfigureLog := by
  have r₀ : (World.init serialBoard : World Unit Unit Unit).Reachable serialBoard := .init
  have r₁ := r₀.step (Step.subscribe _ rfl)
  have r₂ := r₁.step (Step.register _ .console firstConsole ())
  have r₃ := r₂.step (Step.walk _ _ rfl)
  have r₄ := r₃.step (Step.notify _ _ rfl)
  have hr : windowAfter.Reachable serialBoard :=
    r₄.step (Step.recv windowBefore _ .console (.added 1 firstConsole ()) ⟨1, false⟩ rfl rfl)
  exact ⟨hr, configure_per_processed_entry hr⟩

/-- A run without lag in which `configure` is called a second time on the
console the slot is bound to, while the slot stays bound to it. -/
theorem window_console_configured_twice :
    windowBefore.Reachable serialBoard ∧ windowBefore.Step false windowAfter ∧
      windowBefore.device.consoles = [⟨usbConsole, some 1⟩] ∧
      windowAfter.device.consoles = [⟨usbConsole, some 1⟩] ∧
      windowAfter.configured = windowBefore.configured ++ [⟨(), usbConsole.parameters⟩] := by
  refine ⟨?_, Step.recv windowBefore _ .console (.added 1 firstConsole ()) ⟨1, false⟩ rfl rfl, rfl, rfl,
    rfl⟩
  have r₀ : (World.init serialBoard : World Unit Unit Unit).Reachable serialBoard := .init
  have r₁ := r₀.step (Step.subscribe _ rfl)
  have r₂ := r₁.step (Step.register _ .console firstConsole ())
  have r₃ := r₂.step (Step.walk _ _ rfl)
  exact r₃.step (Step.notify _ _ rfl)

end World

end Boardswarm
