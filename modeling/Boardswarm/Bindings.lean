import Boardswarm.Engine

/-! # What the bindings refer to

In a run whose broadcast channels drop nothing, a bound slot always names an
entry of its registry that it accepts, or else the `Removed` change of that
entry is still queued on the engine's receiver. Once the engine has read
everything queued, every binding is therefore valid. A dropped `Removed` change
is never made up for: the engine starts again and walks `contents()`, but clears
no slot, so the slot stays bound to an entry that is gone.
-/

namespace Boardswarm

variable {T K : Type} [DeviceConfigItem K]

/-- Every bound slot names an entry of the registry that it accepts, unless the
`Removed` change of that entry is among `pending`. -/
def Bound (r : Registry T) (pending : List (RegistryChange T)) (items : List (DeviceItem K)) :
    Prop :=
  ∀ i ∈ items, ∀ j, i.id = some j →
    (∃ p x, (j, p, x) ∈ r.contents ∧ i.Accepts p) ∨ .removed j ∈ pending

namespace Bound

variable {r r' : Registry T} {P P' : List (RegistryChange T)} {items : List (DeviceItem K)}

theorem weaken (h : Bound r P items)
    (hc : ∀ j p x, (j, p, x) ∈ r.contents → (j, p, x) ∈ r'.contents ∨ .removed j ∈ P')
    (hP : ∀ c ∈ P, c ∈ P') : Bound r' P' items := by
  intro i hi j hj
  rcases h i hi j hj with ⟨p, x, he, ha⟩ | hr
  · exact (hc j p x he).imp (fun he' => ⟨p, x, he', ha⟩) id
  · exact .inr (hP _ hr)

theorem tail {j : Nat} {p : Properties} {x : T} (h : Bound r (.added j p x :: P) items) :
    Bound r P items :=
  fun i hi j' hj => (h i hi j' hj).imp id fun hr => by simpa using hr

/-- A pass over an `Added` change keeps the bindings valid if its entry is
present, or removed later. -/
theorem added {j : Nat} {p : Properties} {x : T} (h : Bound r P items)
    (hj : (j, p, x) ∈ r.contents ∨ .removed j ∈ P) :
    Bound r P (items.map (·.afterChange (.added j p x))) := by
  simp only [Bound, List.mem_map]
  rintro _ ⟨i, hi, rfl⟩ j' hj'
  by_cases ha : i.Accepts p
  · simp only [DeviceItem.afterChange, DeviceItem.setIfMatches_fst, if_pos ha,
      DeviceItem.set_id, Option.some.injEq] at hj'
    subst hj'
    exact hj.imp (fun he => ⟨p, x, he, by simpa [DeviceItem.Accepts] using ha⟩) id
  · simp only [DeviceItem.afterChange, DeviceItem.setIfMatches_fst, if_neg ha] at hj' ⊢
    exact h i hi j' hj'

theorem removed {k : Nat} (h : Bound r (.removed k :: P) items) :
    Bound r P (items.map (·.afterChange (.removed k : RegistryChange T))) := by
  simp only [Bound, List.mem_map]
  rintro _ ⟨i, hi, rfl⟩ j hj
  simp only [DeviceItem.afterChange, DeviceItem.unsetIfMatches_eq] at hj ⊢
  by_cases hk : i.id = some k
  · simp [hk] at hj
  · simp only [hk, if_false] at hj ⊢
    rcases h i hi j hj with he | hr
    · exact .inl he
    · refine .inr ((List.mem_cons.1 hr).resolve_left fun he => hk ?_)
      cases he
      exact hj

end Bound

/-- One of the engine's receivers in a run without lag, and the slots the
changes it delivers are applied to. -/
structure Subscribed (r : Registry T) (m : Receiver) (items : List (DeviceItem K)) : Prop where
  lossless : m.lagged = false
  pos_le : m.pos ≤ r.sent.length
  bound : Bound r (m.pending r) items

namespace Subscribed

variable {r : Registry T} {m : Receiver} {items : List (DeviceItem K)}

theorem monitor (h : ∀ i ∈ items, i.id = none) : Subscribed r r.monitor items :=
  ⟨rfl, le_rfl, fun i hi j hj => by simp [h i hi] at hj⟩

theorem add (h : Subscribed r m items) (p : Properties) (x : T) :
    Subscribed (r.add p x).2 m items := by
  refine ⟨h.lossless, by have := h.pos_le; simp [Registry.add]; omega, h.bound.weaken ?_ ?_⟩
  · exact fun j p' x' he => .inl (by simp [Registry.add, he])
  · intro c hc
    simp [Receiver.pending, Registry.add, List.drop_append_of_le_length h.pos_le] at hc ⊢
    exact .inl hc

theorem remove (h : Subscribed r m items) (k : Nat) : Subscribed (r.remove k) m items := by
  unfold Registry.remove
  split
  case isFalse => exact h
  case isTrue =>
    refine ⟨h.lossless, by have := h.pos_le; simp; omega, h.bound.weaken ?_ ?_⟩
    · intro j p x he
      by_cases hj : j = k
      · exact .inr (by simp [Receiver.pending, List.drop_append_of_le_length h.pos_le, hj])
      · exact .inl (by simp [he, hj])
    · intro c hc
      simp only [Receiver.pending, List.drop_append_of_le_length h.pos_le] at hc ⊢
      exact List.mem_append_left _ hc

theorem added {j : Nat} {p : Properties} {x : T} (h : Subscribed r m items)
    (he : (j, p, x) ∈ r.contents) : Subscribed r m (items.map (·.afterChange (.added j p x))) :=
  ⟨h.lossless, h.pos_le, h.bound.added (.inl he)⟩

/-- Reading the next change moves the receiver past it, and the pass over it
keeps the bindings valid. -/
theorem recv (hv : r.Valid) (h : Subscribed r m items) {c : RegistryChange T} {rx : Receiver}
    (hr : m.recv r = some (.change c, rx)) :
    Subscribed r rx (items.map (·.afterChange c)) := by
  obtain ⟨hc, rfl⟩ := (Receiver.recv_eq_change h.lossless).1 hr
  obtain ⟨hlt, hget⟩ := List.getElem?_eq_some_iff.1 hc
  refine ⟨rfl, hlt, ?_⟩
  have hb : Bound r (c :: r.sent.drop (m.pos + 1)) items := by
    have hb := h.bound
    rwa [Receiver.pending, List.drop_eq_getElem_cons hlt, hget] at hb
  show Bound r (r.sent.drop (m.pos + 1)) _
  cases c with
  | added j p x => exact hb.tail.added (hv.added_present m.pos j p x hc)
  | removed k => exact hb.removed

/-- With nothing left to read, every binding is valid. -/
theorem present (h : Subscribed r m items) (hd : m.pos = r.sent.length) :
    ∀ i ∈ items, ∀ j, i.id = some j → ∃ p x, (j, p, x) ∈ r.contents ∧ i.Accepts p := by
  intro i hi j hj
  have hb := h.bound i hi j hj
  simpa [Receiver.pending, hd] using hb

end Subscribed

/-- Every bound slot names an entry of the registry that it accepts. -/
def BoundPresent (r : Registry T) (items : List (DeviceItem K)) : Prop :=
  ∀ i ∈ items, ∀ j, i.id = some j → ∃ p x, (j, p, x) ∈ r.contents ∧ i.Accepts p

variable {A C U : Type}

namespace World

/-- Every bound mode step, console and uploader slot names an entry present in
its registry whose properties satisfy the slot's criteria. -/
def BindingsValid (w : World A C U) : Prop :=
  BoundPresent w.actuators w.device.steps ∧ BoundPresent w.consoles w.device.consoles ∧
    BoundPresent w.uploaders w.device.uploaders

/-- The engine has read every change its receivers still hold. -/
def Drained (w : World A C U) : Prop :=
  ∀ m ∈ w.engine.monitors, m.actuator.pos = w.actuators.sent.length ∧
    m.console.pos = w.consoles.sent.length ∧ m.uploader.pos = w.uploaders.sent.length

/-- The engine's receivers, each with the slots it feeds. -/
def Sides (w : World A C U) (m : Monitors) : Prop :=
  ∀ k, Subscribed (w.registry k) (m.get k) (w.device.slots k)

def Unbound (d : Device) : Prop := ∀ k, ∀ i ∈ d.slots k, i.id = none

/-- What holds along every run in which no change is dropped. -/
structure Inv (w : World A C U) : Prop where
  valid : ∀ k, (w.registry k).Valid
  unbound : w.engine.monitors = none → Unbound w.device
  sides : ∀ m ∈ w.engine.monitors, w.Sides m

/-- The worlds reached from `init config` by runs in which no change is dropped. -/
inductive Reachable (config : Config.Device) : World A C U → Prop
  | init : Reachable config (World.init config)
  | step {w w' : World A C U} {b : Bool} : Reachable config w → Step w b w' → Reachable config w'

/-- The worlds reached when the channels may also drop changes. -/
inductive LossyReachable (config : Config.Device) : World A C U → Prop
  | init : LossyReachable config (World.init config)
  | step {w w' : World A C U} {b : Bool} : LossyReachable config w → Step w b w' →
      LossyReachable config w'
  | lag {w w' : World A C U} : LossyReachable config w → Lag w w' → LossyReachable config w'

variable {w : World A C U} {m : Monitors}

theorem Drained.get (hd : w.Drained) (hm : m ∈ w.engine.monitors) (k : Kind) :
    (m.get k).pos = (w.registry k).sent.length := by
  obtain ⟨h₁, h₂, h₃⟩ := hd m hm
  cases k <;> assumption

theorem init_unbound (config : Config.Device) : Unbound (World.init config : World A C U).device := by
  intro k
  cases k <;> simp [World.init, Device.slots, Device.fromConfig, Device.steps, DeviceMode.fromConfig,
    DeviceItem.new]
  rintro _ _ _ _ _ rfl
  rfl

def SameOutside (w w' : World A C U) : Prop := (∀ k, w'.registry k = w.registry k) ∧ w'.engine = w.engine

theorem SameOutside.trans {w₁ w₂ w₃ : World A C U} (h₁ : SameOutside w₁ w₂)
    (h₂ : SameOutside w₂ w₃) : SameOutside w₁ w₃ :=
  ⟨fun k => (h₂.1 k).trans (h₁.1 k), h₂.2.trans h₁.2⟩

theorem sameOutside_pass (w : World A C U) (k : Kind) (c : RegistryChange (k.Res A C U)) :
    SameOutside w (w.pass k c).1 :=
  ⟨pass_registry w k c, pass_engine w k c⟩

theorem Sides.pass (h : w.Sides m) {k : Kind} {c : RegistryChange (k.Res A C U)} {rx : Receiver}
    (hk : Subscribed (w.registry k) rx ((w.device.slots k).map (·.afterChange c))) :
    (w.pass k c).1.Sides (m.set k rx) := by
  intro k'
  by_cases hk' : k' = k
  · subst hk'
    simpa [pass_slots] using hk
  · simpa [hk', pass_slots_of_ne _ _ _ hk'] using h k'

theorem walkEntries_induct {k : Kind} (P : World A C U → Prop) (entries : List (Nat × Properties × k.Res A C U))
    (w : World A C U) (changed : Bool) (h0 : P w)
    (hs : ∀ w' e, e ∈ entries → P w' → P (w'.pass k (.added e.1 e.2.1 e.2.2)).1) :
    P (walkEntries k entries w changed).1 := by
  induction entries generalizing w changed with
  | nil => exact h0
  | cons e es ih =>
    exact ih _ _ (hs w e (List.mem_cons_self e es) h0) fun w' e' he =>
      hs w' e' (List.mem_cons_of_mem e he)

theorem Sides.walkEntries (h : w.Sides m) (k : Kind) (ch : Bool) :
    SameOutside w (World.walkEntries k (w.registry k).contents w ch).1 ∧
      (World.walkEntries k (w.registry k).contents w ch).1.Sides m :=
  walkEntries_induct (fun w' => SameOutside w w' ∧ w'.Sides m) _ w ch ⟨⟨fun _ => rfl, rfl⟩, h⟩
    fun w' e he hw => by
      have hk := (hw.2 k).added (show _ ∈ (w'.registry k).contents by rw [hw.1.1 k]; exact he)
      exact ⟨hw.1.trans (sameOutside_pass _ _ _), by simpa using hw.2.pass hk⟩

/-- The walks leave the registries and the engine alone and keep the bindings valid. -/
theorem walk_sides (h : w.Sides m) : SameOutside w w.walk.1 ∧ w.walk.1.Sides m :=
  walk_induct (fun w' => SameOutside w w' ∧ w'.Sides m)
    (fun k _ ch hw => (hw.2.walkEntries k ch).imp hw.1.trans id) ⟨⟨fun _ => rfl, rfl⟩, h⟩

theorem Sides.recv (hv : (w.registry k).Valid) (h : w.Sides m) {c : RegistryChange (k.Res A C U)}
    {rx : Receiver} (hr : (m.get k).recv (w.registry k) = some (.change c, rx)) :
    (w.pass k c).1.Sides (m.set k rx) :=
  h.pass ((h k).recv hv hr)

theorem Inv.init (config : Config.Device) : (World.init config : World A C U).Inv :=
  ⟨fun k => by cases k <;> exact Registry.new_valid, fun _ => init_unbound config,
    fun m hm => by simp [World.init, Engine.monitors] at hm⟩

theorem Inv.afterPass (hi : w.Inv) {w' : World A C U} (hs : w'.Sides m) (hw : ∀ k, w'.registry k = w.registry k)
    (b : Bool) (ws : Windows) :
    Inv { w' with engine := afterPass b m, windows := ws } := by
  refine ⟨fun k => by simpa [hw k] using hi.valid k, fun h' => by simp at h', fun m' hm => ?_⟩
  cases (afterPass_monitors _ m).symm.trans hm
  exact fun k => by simpa using hs k

theorem Inv.setRegistry (hi : w.Inv) {k : Kind} {r : Registry (k.Res A C U)} (hv : r.Valid)
    (hs : ∀ m ∈ w.engine.monitors, Subscribed r (m.get k) (w.device.slots k)) :
    (w.setRegistry k r).Inv := by
  refine ⟨w.setRegistry_forall k r hv hi.valid, by simpa using hi.unbound, fun m hm => ?_⟩
  rw [setRegistry_engine] at hm
  simpa only [Sides, setRegistry_device] using
    w.setRegistry_forall k r (P := fun k r => Subscribed r (m.get k) (w.device.slots k)) (hs m hm) (hi.sides m hm)

theorem Inv.step {w w' : World A C U} {b : Bool} (hi : w.Inv) (hs : w.Step b w') : w'.Inv := by
  have hside : ∀ {m}, w.engine = .select m → w.Sides m := fun h => hi.sides _ (by rw [h]; rfl)
  cases hs with
  | register k p x =>
    exact hi.setRegistry (Registry.add_valid (hi.valid k) p x) fun m hm => (hi.sides m hm k).add p x
  | unregister k id =>
    exact hi.setRegistry (Registry.remove_valid (hi.valid k) id) fun m hm => (hi.sides m hm k).remove id
  | subscribe h =>
    have hu := hi.unbound (by rw [h]; rfl)
    refine ⟨fun k => by simpa using hi.valid k, fun h' => by simp [Engine.monitors] at h', fun m hm k => ?_⟩
    cases hm
    cases k <;> exact Subscribed.monitor (hu _)
  | walk m h =>
    obtain ⟨⟨h₁, -⟩, hs⟩ := walk_sides (hi.sides m (by rw [h]; rfl))
    exact hi.afterPass hs h₁ _ _
  | notify m h => exact hi.afterPass (hi.sides m (by rw [h]; rfl)) (fun _ => rfl) false _
  | recv m k c rx h hr =>
    exact hi.afterPass ((hside h).recv (hi.valid k) hr) (pass_registry w k c) _ _
  | restart m k h hl => simp [((hside h) k).lossless] at hl

theorem Reachable.inv {config : Config.Device} (h : w.Reachable config) : w.Inv := by
  induction h with
  | init => exact Inv.init config
  | step _ hs ih => exact ih.step hs

/-- In every run in which the channels drop no change, once the engine has
read every change still queued for it, each bound slot names an entry present
in its registry whose properties satisfy the slot's criteria. -/
theorem bindings_valid_of_drained {config : Config.Device} (h : w.Reachable config)
    (hd : w.Drained) : w.BindingsValid := by
  have hi := h.inv
  suffices hk : ∀ k, BoundPresent (w.registry k) (w.device.slots k) from
    ⟨hk .actuator, hk .console, hk .uploader⟩
  intro k
  cases hm : w.engine.monitors with
  | none => exact fun i hi' j hj => by simp [hi.unbound hm k i hi'] at hj
  | some m => exact (hi.sides m hm k).present (hd.get hm k)

/-- A device with one console slot, for the console on USB port `1234`. -/
def serialBoard : Config.Device := ⟨"board", [usbConsole], [], []⟩

def firstConsole : Properties := ⟨[("name", "c1"), ("usb", "1234")], rfl⟩

/-- Console `1` registered after the walks, read, and bound. -/
def boundWorld : World Unit Unit Unit :=
  { actuators := .new
    consoles := ⟨2, [(1, firstConsole, ())], [.added 1 firstConsole ()]⟩
    uploaders := .new
    device := { Device.fromConfig serialBoard with consoles := [⟨usbConsole, some 1⟩] }
    engine := .select ⟨⟨0, false⟩, ⟨1, false⟩, ⟨0, false⟩⟩
    configured := [⟨(), "115200"⟩] }

theorem boundWorld_bindings_valid :
    boundWorld.Reachable serialBoard ∧ boundWorld.Drained ∧ boundWorld.BindingsValid := by
  have r₀ : (World.init serialBoard : World Unit Unit Unit).Reachable serialBoard := .init
  have r₁ := r₀.step (Step.subscribe _ rfl)
  have r₂ := r₁.step (Step.walk _ _ rfl)
  have r₃ := r₂.step (Step.register _ .console firstConsole ())
  have r₄ := r₃.step (Step.recv _ _ .console (.added 1 firstConsole ()) ⟨1, false⟩ rfl rfl)
  have hr : boundWorld.Reachable serialBoard := r₄.step (Step.notify _ _ rfl)
  have hd : boundWorld.Drained := fun m hm => by cases hm; exact ⟨rfl, rfl, rfl⟩
  exact ⟨hr, hd, bindings_valid_of_drained hr hd⟩

/-- Where the run below ends: console `1` came and went, the engine lost the
`Removed` change to a lag, started again and walked the (empty) registries. -/
def staleWorld : World Unit Unit Unit :=
  { actuators := .new
    consoles := ⟨2, [], [.added 1 firstConsole (), .removed 1]⟩
    uploaders := .new
    device := { Device.fromConfig serialBoard with consoles := [⟨usbConsole, some 1⟩] }
    engine := .select ⟨⟨0, false⟩, ⟨2, false⟩, ⟨0, false⟩⟩
    configured := [⟨(), "115200"⟩]
    windows := ⟨⟨0, 0⟩, ⟨2, 2⟩, ⟨0, 0⟩⟩ }

/-- With a lag, the engine can have read everything queued for it while the
console slot is still bound to a console that is gone. -/
theorem stale_binding_after_lag :
    staleWorld.LossyReachable serialBoard ∧ staleWorld.Drained ∧ ¬ staleWorld.BindingsValid := by
  refine ⟨?_, fun m hm => ?_, fun h => ?_⟩
  · have r₀ : (World.init serialBoard : World Unit Unit Unit).LossyReachable serialBoard := .init
    have r₁ := r₀.step (Step.subscribe _ rfl)
    have r₂ := r₁.step (Step.walk _ _ rfl)
    have r₃ := r₂.step (Step.register _ .console firstConsole ())
    have r₄ := r₃.step (Step.recv _ _ .console (.added 1 firstConsole ()) ⟨1, false⟩ rfl rfl)
    have r₅ := r₄.step (Step.notify _ _ rfl)
    have r₆ := r₅.step (Step.unregister _ .console 1)
    have r₇ := r₆.lag (Lag.drop _ _ .console 1 rfl (by decide))
    have r₈ := r₇.step (Step.restart _ _ .console rfl rfl)
    have r₉ := r₈.step (Step.subscribe _ rfl)
    exact r₉.step (Step.walk _ _ rfl)
  · cases hm
    exact ⟨rfl, rfl, rfl⟩
  · have := h.2.1 ⟨usbConsole, some 1⟩ (by simp [staleWorld]) 1 rfl
    simp [staleWorld] at this

end World

end Boardswarm
