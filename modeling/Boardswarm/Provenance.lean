import Boardswarm.Configure

/-! # What the engine binds and configures, lags included

A lag can leave a slot bound to an entry that is gone, but the engine never
makes a binding up: it only ever binds a slot to an entry of a `contents()`
snapshot or of an `Added` change it read, and only when the slot accepts the
entry's properties. So along every run, whatever the channels drop, every bound
id was broadcast as `Added` with properties its slot accepts, and every
`configure` call is on a console broadcast as `Added` that a console slot of the
device accepts, with that slot's parameters.
-/

namespace Boardswarm

variable {T K : Type} [DeviceConfigItem K]

/-- Every bound slot names an id broadcast as `Added` with properties the slot accepts. -/
def FromHistory (r : Registry T) (items : List (DeviceItem K)) : Prop :=
  ∀ i ∈ items, ∀ j, i.id = some j → ∃ p x, .added j p x ∈ r.sent ∧ i.Accepts p

namespace FromHistory

variable {r r' : Registry T} {items : List (DeviceItem K)}

theorem of_unbound (h : ∀ i ∈ items, i.id = none) : FromHistory r items :=
  fun i hi j hj => by simp [h i hi] at hj

theorem append (h : FromHistory r items) (hs : ∃ cs, r'.sent = r.sent ++ cs) :
    FromHistory r' items := by
  obtain ⟨cs, hcs⟩ := hs
  intro i hi j hj
  obtain ⟨p, x, hm, ha⟩ := h i hi j hj
  exact ⟨p, x, hcs ▸ List.mem_append_left cs hm, ha⟩

/-- A pass over a change of the history binds only what the change names. -/
theorem afterChange (h : FromHistory r items) {c : RegistryChange T} (hc : c ∈ r.sent) :
    FromHistory r (items.map (·.afterChange c)) := by
  simp only [FromHistory, List.mem_map]
  rintro _ ⟨i, hi, rfl⟩ j hj
  cases c with
  | added k p x =>
    by_cases ha : i.Accepts p
    · simp only [DeviceItem.afterChange, DeviceItem.setIfMatches_fst, if_pos ha,
        DeviceItem.set_id, Option.some.injEq] at hj
      subst hj
      exact ⟨p, x, hc, by simpa [DeviceItem.Accepts] using ha⟩
    · simp only [DeviceItem.afterChange, DeviceItem.setIfMatches_fst, if_neg ha] at hj ⊢
      exact h i hi j hj
  | removed k =>
    simp only [DeviceItem.afterChange, DeviceItem.unsetIfMatches_eq] at hj ⊢
    split at hj
    · simp at hj
    · simpa [*] using h i hi j hj

end FromHistory

theorem Receiver.mem_sent_of_recv {rx rx' : Receiver} {r : Registry T} {c : RegistryChange T}
    (h : rx.recv r = some (.change c, rx')) : c ∈ r.sent := by
  unfold Receiver.recv at h
  split at h
  · cases h
  · obtain ⟨c', hc', hcc⟩ := Option.map_eq_some'.1 h
    cases hcc
    exact List.mem_iff_getElem?.2 ⟨_, hc'⟩

theorem Registry.Valid.added_mem {r : Registry T} (hv : r.Valid) {e : Nat × Properties × T}
    (he : e ∈ r.contents) : .added e.1 e.2.1 e.2.2 ∈ r.sent :=
  added_mem_of_mem_replay (hv.contents_eq ▸ he)

variable {A C U : Type}

namespace World

/-- What every run keeps, lags included: the registries stay valid, bindings
come from the histories, the console slots keep their configuration, and every
`configure` call is on a console of the history that a console slot accepts,
with that slot's parameters. -/
structure Provenance (config : Config.Device) (w : World A C U) : Prop where
  valid : ∀ k, (w.registry k).Valid
  bound : ∀ k, FromHistory (w.registry k) (w.device.slots k)
  configs : w.consoleConfigs = config.consoles
  configured : ∀ call ∈ w.configured, ∃ slot ∈ config.consoles, ∃ j p,
    .added j p call.console ∈ w.consoles.sent ∧ p.matches_ slot.match_ = true ∧
      call.parameters = slot.parameters

variable {w w' : World A C U} {config : Config.Device}

theorem Provenance.init (config : Config.Device) : (World.init config : World A C U).Provenance config := by
  refine ⟨fun k => by cases k <;> exact Registry.new_valid, fun k => .of_unbound (init_unbound config k),
    ?_, fun _ h => by simp [World.init] at h⟩
  simp [World.init, consoleConfigs, Device.fromConfig, DeviceItem.new, Function.comp_def]

theorem Provenance.of_same (hp : w.Provenance config) (hr : ∀ k, w'.registry k = w.registry k)
    (hd : w'.device = w.device) (hc : w'.configured = w.configured) : w'.Provenance config := by
  have hcon : w'.consoles = w.consoles := hr .console
  refine ⟨fun k => by rw [hr k]; exact hp.valid k, fun k => by rw [hr k, hd]; exact hp.bound k, ?_, ?_⟩
  · simpa [consoleConfigs, hd] using hp.configs
  · simpa [hcon, hc] using hp.configured

/-- The `configure` calls a console pass adds are on the console of the change. -/
theorem Provenance.consolePass_configured (hp : w.Provenance config) {c : RegistryChange C}
    (hc : c ∈ w.consoles.sent) : ∀ call ∈ (w.pass .console c).1.configured, ∃ slot ∈ config.consoles,
      ∃ j p, .added j p call.console ∈ w.consoles.sent ∧ p.matches_ slot.match_ = true ∧
        call.parameters = slot.parameters := by
  rw [World.consolePass_configured]
  intro call hcall
  rcases List.mem_append.1 hcall with hcall | hcall
  · exact hp.configured call hcall
  · cases c with
    | added j p x =>
      simp only [addedEntries, List.flatMap_cons, List.flatMap_nil, List.append_nil, configureCalls,
        List.mem_map, List.mem_filter, hp.configs] at hcall
      obtain ⟨slot, ⟨hs, hm⟩, rfl⟩ := hcall
      exact ⟨slot, hs, j, p, hc, hm, rfl⟩
    | removed k => simp [addedEntries] at hcall

theorem Provenance.pass (hp : w.Provenance config) {k : Kind} {c : RegistryChange (k.Res A C U)}
    (hc : c ∈ (w.registry k).sent) : (w.pass k c).1.Provenance config := by
  refine ⟨fun k' => by simpa using hp.valid k', fun k' => ?_, ?_, ?_⟩
  · by_cases hk : k' = k
    · subst hk
      simpa [pass_slots] using (hp.bound k').afterChange hc
    · simpa [hk, pass_slots_of_ne _ _ _ hk] using hp.bound k'
  all_goals by_cases hk : k = .console
  · subst hk
    exact (consolePass_configs w c).trans hp.configs
  · exact (pass_console_of_ne w c hk).2.trans hp.configs
  · subst hk
    simpa using hp.consolePass_configured hc
  · simpa [(pass_console_of_ne w c hk).1] using hp.configured

theorem Provenance.setRegistry (hp : w.Provenance config) {k : Kind} {r : Registry (k.Res A C U)}
    (hv : r.Valid) (hs : ∃ cs, r.sent = (w.registry k).sent ++ cs) : (w.setRegistry k r).Provenance config := by
  refine ⟨w.setRegistry_forall k r hv hp.valid, fun k' => ?_, by simpa [consoleConfigs] using hp.configs,
    fun call hc => ?_⟩
  · simpa only [setRegistry_device] using
      w.setRegistry_forall k r (P := fun k r => FromHistory r (w.device.slots k)) ((hp.bound k).append hs)
        hp.bound k'
  · obtain ⟨slot, hs', j, p', hm, hrest⟩ := hp.configured call (by simpa using hc)
    obtain ⟨cs, hcs⟩ := setRegistry_consoles_sent hs
    exact ⟨slot, hs', j, p', hcs ▸ List.mem_append_left cs hm, hrest⟩

/-- A walk over a kind's snapshot binds only entries of it, which are in the history. -/
theorem Provenance.walkEntries (hp : w.Provenance config) (k : Kind) (ch : Bool) :
    (World.walkEntries k (w.registry k).contents w ch).1.Provenance config ∧
      SameOutside w (World.walkEntries k (w.registry k).contents w ch).1 :=
  walkEntries_induct (fun w' => w'.Provenance config ∧ SameOutside w w') _ w ch ⟨hp, fun _ => rfl, rfl⟩
    fun w' e he hw => ⟨hw.1.pass (by rw [hw.2.1 k]; exact (hp.valid k).added_mem he),
      hw.2.trans (sameOutside_pass _ _ _)⟩

theorem Provenance.walk (hp : w.Provenance config) : w.walk.1.Provenance config :=
  walk_induct _ (fun k _ ch hp => (hp.walkEntries k ch).1) hp

theorem Provenance.step (hp : w.Provenance config) {b : Bool} (hs : w.Step b w') :
    w'.Provenance config := by
  cases hs with
  | register k p x => exact hp.setRegistry (Registry.add_valid (hp.valid k) p x) (Registry.add_sent ..)
  | unregister k id => exact hp.setRegistry (Registry.remove_valid (hp.valid k) id) (Registry.remove_sent ..)
  | subscribe h => exact hp.of_same (registry_update_engine _ _ _) rfl rfl
  | walk m h => exact hp.walk.of_same (registry_update_engine _ _ _) rfl rfl
  | notify m h => exact hp.of_same (registry_update_engine _ _ _) rfl rfl
  | recv m k c rx h hr =>
    exact (hp.pass (Receiver.mem_sent_of_recv hr)).of_same (registry_update_engine _ _ _) rfl rfl
  | restart m k h hl => exact hp.of_same (registry_update_engine _ _ _) rfl rfl

theorem Provenance.lag (hp : w.Provenance config) (hl : w.Lag w') : w'.Provenance config := by
  cases hl
  exact hp.of_same (registry_update_engine _ _ _) rfl rfl

theorem LossyReachable.provenance (h : w.LossyReachable config) : w.Provenance config := by
  induction h with
  | init => exact Provenance.init config
  | step _ hs ih => exact ih.step hs
  | lag _ hl ih => exact ih.lag hl

/-- In every run, whatever the channels drop, each bound slot names an id that
was broadcast as `Added` with properties the slot accepts, and each `configure`
call is on a console broadcast as `Added` whose properties satisfy the criteria
of one of the device's console slots, with that slot's parameters. -/
theorem bound_and_configured_from_history (h : w.LossyReachable config) :
    FromHistory w.actuators w.device.steps ∧ FromHistory w.consoles w.device.consoles ∧
      FromHistory w.uploaders w.device.uploaders ∧
      ∀ call ∈ w.configured, ∃ slot ∈ config.consoles, ∃ j p,
        .added j p call.console ∈ w.consoles.sent ∧ p.matches_ slot.match_ = true ∧
          call.parameters = slot.parameters :=
  have hp := h.provenance
  ⟨hp.bound .actuator, hp.bound .console, hp.bound .uploader, hp.configured⟩

/-- The stale binding of the lossy run: console `1` is gone, but it was
registered, and the slot accepts it. -/
theorem staleWorld_from_history : staleWorld.LossyReachable serialBoard ∧
    FromHistory staleWorld.actuators staleWorld.device.steps ∧
    FromHistory staleWorld.consoles staleWorld.device.consoles ∧
    FromHistory staleWorld.uploaders staleWorld.device.uploaders ∧
    ∀ call ∈ staleWorld.configured, ∃ slot ∈ serialBoard.consoles, ∃ j p,
      .added j p call.console ∈ staleWorld.consoles.sent ∧ p.matches_ slot.match_ = true ∧
        call.parameters = slot.parameters := by
  have r₀ : (World.init serialBoard : World Unit Unit Unit).LossyReachable serialBoard := .init
  have r₁ := r₀.step (Step.subscribe _ rfl)
  have r₂ := r₁.step (Step.walk _ _ rfl)
  have r₃ := r₂.step (Step.register _ .console firstConsole ())
  have r₄ := r₃.step (Step.recv _ _ .console (.added 1 firstConsole ()) ⟨1, false⟩ rfl rfl)
  have r₅ := r₄.step (Step.notify _ _ rfl)
  have r₆ := r₅.step (Step.unregister _ .console 1)
  have r₇ := r₆.lag (Lag.drop _ _ .console 1 rfl (by decide))
  have r₈ := r₇.step (Step.restart _ _ .console rfl rfl)
  have r₉ := r₈.step (Step.subscribe _ rfl)
  have hr : staleWorld.LossyReachable serialBoard := r₉.step (Step.walk _ _ rfl)
  exact ⟨hr, bound_and_configured_from_history hr⟩

end World

end Boardswarm
