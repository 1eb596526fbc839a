import Boardswarm.Registry

/-! # Declared slots and the binding passes over them

A device declares consoles, uploaders and mode steps; each is a `DeviceItem`, a
configuration plus the id of the registry entry currently bound to it. The
binding engine reacts to one registry change with one pass over the slots of
that kind: `add_item_with` binds every slot the new entry matches and runs a
callback on it, and the `Removed` arm of `change_with` clears every slot bound
to the removed id. `set_if_matches` binds whatever the slot held before, so the
last matching entry processed wins.
-/

namespace Boardswarm

/-- Modelled from the spec: the opaque parameter payload handed to a provider. -/
abbrev Parameters := String

namespace Config

/-- Modelled from the spec: `config::Console`, a declared console slot. -/
structure Console where
  name : String
  match_ : List (String × String)
  parameters : Parameters
deriving DecidableEq, Repr

/-- Modelled from the spec: `config::Uploader`, a declared uploader slot. -/
structure Uploader where
  name : String
  match_ : List (String × String)
deriving DecidableEq, Repr

/-- Modelled from the spec: `config::ModeStep`, one actuator operation of a mode,
with its stabilisation delay in milliseconds. -/
structure ModeStep where
  match_ : List (String × String)
  parameters : Parameters
  stabilisation : Option Nat
deriving DecidableEq, Repr

/-- Modelled from the spec: `config::Mode`. -/
structure Mode where
  name : String
  depends : Option String
  sequence : List ModeStep
deriving DecidableEq, Repr

/-- Modelled from the spec: `config::Device`. -/
structure Device where
  name : String
  consoles : List Console
  uploaders : List Uploader
  modes : List Mode
deriving DecidableEq, Repr

end Config

/-- `DeviceConfigItem`: which registry entries a declared slot accepts. -/
class DeviceConfigItem (C : Type) where
  matches_ : C → Properties → Bool

instance : DeviceConfigItem Config.Console := ⟨fun c properties => properties.matches_ c.match_⟩

instance : DeviceConfigItem Config.Uploader := ⟨fun c properties => properties.matches_ c.match_⟩

instance : DeviceConfigItem Config.ModeStep := ⟨fun c properties => properties.matches_ c.match_⟩

/-- `DeviceItem<C>`: a declared slot and the id it is bound to. -/
structure DeviceItem (C : Type) where
  config : C
  id : Option Nat
deriving DecidableEq, Repr

variable {C T E : Type}

namespace DeviceItem

def new (config : C) : DeviceItem C := ⟨config, none⟩

def set (i : DeviceItem C) (id : Option Nat) : DeviceItem C := { i with id := id }

def get (i : DeviceItem C) : Option Nat := i.id

@[simp] theorem set_config (i : DeviceItem C) (id : Option Nat) : (i.set id).config = i.config := rfl

@[simp] theorem set_id (i : DeviceItem C) (id : Option Nat) : (i.set id).id = id := rfl

/-- `unset_if_matches`: clears the slot if it is bound to `id`, and says so. -/
def unsetIfMatches (i : DeviceItem C) (id : Nat) : DeviceItem C × Bool :=
  match i.id with
  | some itemId => if itemId = id then (i.set none, true) else (i, false)
  | none => (i, false)

theorem unsetIfMatches_eq (i : DeviceItem C) (id : Nat) :
    i.unsetIfMatches id = if i.id = some id then (i.set none, true) else (i, false) := by
  unfold unsetIfMatches
  split <;> simp_all

variable [DeviceConfigItem C]

/-- The slot accepts entries with these properties. -/
def Accepts (i : DeviceItem C) (properties : Properties) : Prop :=
  DeviceConfigItem.matches_ i.config properties = true

instance (i : DeviceItem C) (properties : Properties) : Decidable (i.Accepts properties) :=
  inferInstanceAs (Decidable (_ = true))

/-- `set_if_matches`: binds the slot to `id` when `properties` satisfy its
criteria, whatever it was bound to before, and says whether it did. -/
def setIfMatches (i : DeviceItem C) (id : Nat) (properties : Properties) : DeviceItem C × Bool :=
  if DeviceConfigItem.matches_ i.config properties then (i.set (some id), true) else (i, false)

theorem setIfMatches_eq (i : DeviceItem C) (id : Nat) (properties : Properties) :
    i.setIfMatches id properties =
      if i.Accepts properties then (i.set (some id), true) else (i, false) := rfl

@[simp] theorem setIfMatches_snd (i : DeviceItem C) (id : Nat) (properties : Properties) :
    (i.setIfMatches id properties).2 = decide (i.Accepts properties) := by
  rw [setIfMatches_eq]; split <;> simp_all

@[simp] theorem setIfMatches_fst (i : DeviceItem C) (id : Nat) (properties : Properties) :
    (i.setIfMatches id properties).1 = if i.Accepts properties then i.set (some id) else i := by
  rw [setIfMatches_eq]; split <;> rfl

/-- The slot after the engine processed one registry change. -/
def afterChange (i : DeviceItem C) : RegistryChange T → DeviceItem C
  | .added k properties _ => (i.setIfMatches k properties).1
  | .removed k => (i.unsetIfMatches k).1

end DeviceItem

variable [DeviceConfigItem C]

/-- What one pass of `add_item_with` or `change_with` leaves: the slots (which
the source mutates in place), the callback's calls in order, and `changed`. -/
structure Pass (C E : Type) where
  items : List (DeviceItem C)
  calls : List E
  changed : Bool

def addStep (id : Nat) (properties : Properties) (item : T) (f : DeviceItem C → T → E)
    (acc : Pass C E) (i : DeviceItem C) : Pass C E :=
  match i.setIfMatches id properties with
  | (i', true) => ⟨acc.items ++ [i'], acc.calls ++ [f i' item], true⟩
  | (i', false) => ⟨acc.items ++ [i'], acc.calls, acc.changed⟩

/-- `add_item_with`. -/
def addItemWith (items : List (DeviceItem C)) (id : Nat) (properties : Properties) (item : T)
    (f : DeviceItem C → T → E) : Pass C E :=
  items.foldl (addStep id properties item f) ⟨[], [], false⟩

/-- `add_item`: `add_item_with` with no item and a callback that does nothing. -/
def addItem (items : List (DeviceItem C)) (id : Nat) (properties : Properties) : Pass C Unit :=
  addItemWith items id properties () fun _ _ => ()

/-- The body of the fold in the `Removed` arm of `change_with`; the slot is
updated before `||` looks at `changed`. -/
def unsetStep (id : Nat) (acc : Pass C E) (c : DeviceItem C) : Pass C E :=
  let r := c.unsetIfMatches id
  ⟨acc.items ++ [r.1], acc.calls, r.2 || acc.changed⟩

/-- `change_with`. -/
def changeWith (items : List (DeviceItem C)) (change : RegistryChange T)
    (f : DeviceItem C → T → E) : Pass C E :=
  match change with
  | .added id properties item => addItemWith items id properties item f
  | .removed id => items.foldl (unsetStep id) ⟨[], [], false⟩

/-- `change`: `change_with` with a callback that does nothing. -/
def change (items : List (DeviceItem C)) (c : RegistryChange T) : Pass C Unit :=
  changeWith items c fun _ _ => ()

theorem foldl_addStep (id : Nat) (properties : Properties) (item : T) (f : DeviceItem C → T → E)
    (items : List (DeviceItem C)) (acc : Pass C E) :
    items.foldl (addStep id properties item f) acc =
      ⟨acc.items ++ items.map fun i => if i.Accepts properties then i.set (some id) else i,
        acc.calls ++ (items.filter (·.Accepts properties)).map fun i => f (i.set (some id)) item,
        acc.changed || items.any (·.Accepts properties)⟩ := by
  induction items generalizing acc with
  | nil => simp
  | cons i items ih =>
    by_cases h : i.Accepts properties
    · simp [addStep, DeviceItem.setIfMatches_eq, h, ih]
    · simp [addStep, DeviceItem.setIfMatches_eq, h, ih]

omit [DeviceConfigItem C] in
theorem foldl_unsetStep (id : Nat) (items : List (DeviceItem C)) (acc : Pass C E) :
    items.foldl (unsetStep id) acc =
      ⟨acc.items ++ items.map fun i => if i.id = some id then i.set none else i, acc.calls,
        items.any (·.id = some id) || acc.changed⟩ := by
  induction items generalizing acc with
  | nil => simp
  | cons i items ih =>
    by_cases h : i.id = some id
    · simp [unsetStep, DeviceItem.unsetIfMatches_eq, h, ih]
    · simp [unsetStep, DeviceItem.unsetIfMatches_eq, h, ih]

@[simp] theorem changeWith_added (items : List (DeviceItem C)) (id : Nat) (properties : Properties)
    (item : T) (f : DeviceItem C → T → E) :
    changeWith items (.added id properties item) f =
      ⟨items.map (fun i => if i.Accepts properties then i.set (some id) else i),
        (items.filter (·.Accepts properties)).map (fun i => f (i.set (some id)) item),
        items.any (·.Accepts properties)⟩ := by
  simp [changeWith, addItemWith, foldl_addStep]

@[simp] theorem changeWith_removed (items : List (DeviceItem C)) (id : Nat)
    (f : DeviceItem C → T → E) :
    changeWith items (.removed id) f =
      ⟨items.map (fun i => if i.id = some id then i.set none else i), [],
        items.any (·.id = some id)⟩ := by
  simp [changeWith, foldl_unsetStep]

theorem changeWith_items (items : List (DeviceItem C)) (c : RegistryChange T)
    (f : DeviceItem C → T → E) : (changeWith items c f).items = items.map (·.afterChange c) := by
  cases c with
  | added k properties item => simp [DeviceItem.afterChange]
  | removed k =>
    simp only [changeWith_removed, DeviceItem.afterChange, DeviceItem.unsetIfMatches_eq]
    exact List.map_congr_left fun i _ => by split <;> rfl

theorem changeWith_items_of_not_changed {items : List (DeviceItem C)} {c : RegistryChange T}
    {f : DeviceItem C → T → E} (h : (changeWith items c f).changed = false) :
    (changeWith items c f).items = items := by
  cases c with
  | added k properties item =>
    simp only [changeWith_added, List.any_eq_false, decide_eq_true_eq] at h
    rw [changeWith_added]
    exact (List.map_congr_left fun i hi => if_neg (h i hi)).trans (List.map_id' items)
  | removed k =>
    simp only [changeWith_removed, List.any_eq_false, decide_eq_true_eq] at h
    rw [changeWith_removed]
    exact (List.map_congr_left fun i hi => if_neg (h i hi)).trans (List.map_id' items)

/-- On `Added`, every slot keeps its configuration, the slots the entry's
properties satisfy are bound to its id and the others keep their binding, and
the callback runs, in order, on exactly the slots `set_if_matches` bound, as
bound; on `Removed`, every slot keeps its configuration, every slot bound to the
id is cleared and every other keeps its binding, and no callback runs. Either
way the pass reports a change whenever some slot's binding moved. -/
theorem changeWith_spec (items : List (DeviceItem C)) (f : DeviceItem C → T → E) :
    (∀ id properties item,
      (changeWith items (.added id properties item) f).items.map (·.config) = items.map (·.config) ∧
        (changeWith items (.added id properties item) f).items.map (·.id) =
          items.map (fun i => if i.Accepts properties then some id else i.id) ∧
        (changeWith items (.added id properties item) f).calls =
          (items.filter fun i => (i.setIfMatches id properties).2).map
            (fun i => f ⟨i.config, some id⟩ item)) ∧
    (∀ id,
      (changeWith items (.removed id) f).items.map (·.config) = items.map (·.config) ∧
        (changeWith items (.removed id) f).items.map (·.id) =
          items.map (fun i => if i.id = some id then none else i.id) ∧
        (changeWith items (.removed id) f).calls = []) ∧
    (∀ c : RegistryChange T, (changeWith items c f).items.map (·.id) ≠ items.map (·.id) →
      (changeWith items c f).changed = true) := by
  refine ⟨fun id properties item => ⟨?_, ?_, ?_⟩, fun id => ⟨?_, ?_, by simp⟩, ?_⟩
  · simp [Function.comp_def, apply_ite]
  · simp [Function.comp_def, apply_ite]
  · simp only [changeWith_added, DeviceItem.setIfMatches_snd]
    rfl
  · simp [Function.comp_def, apply_ite]
  · simp [Function.comp_def, apply_ite]
  · intro c hne
    by_contra hc
    exact hne (by rw [changeWith_items_of_not_changed (by simpa using hc)])

/-- No change of `cs` touches a binding to `j`: none is `Removed j`, and none
adds an entry the slot accepts. -/
def Untouched (i : DeviceItem C) (j : Nat) (cs : List (RegistryChange T)) : Prop :=
  ∀ c ∈ cs, c ≠ .removed j ∧ ∀ k p x, c = .added k p x → ¬ i.Accepts p

@[simp] theorem afterChange_config (i : DeviceItem C) (c : RegistryChange T) :
    (i.afterChange c).config = i.config := by
  cases c with
  | added k p x => simp [DeviceItem.afterChange]; split <;> rfl
  | removed k => simp [DeviceItem.afterChange, DeviceItem.unsetIfMatches_eq]; split <;> rfl

theorem afterChange_untouched {i : DeviceItem C} {j : Nat} {c : RegistryChange T}
    (hi : i.id = some j) (hc : c ≠ .removed j ∧ ∀ k p x, c = .added k p x → ¬ i.Accepts p) :
    (i.afterChange c).id = some j := by
  cases c with
  | added k p x => simp [DeviceItem.afterChange, hc.2 k p x rfl, hi]
  | removed k =>
    have hk : k ≠ j := fun h => hc.1 (h ▸ rfl)
    simp [DeviceItem.afterChange, DeviceItem.unsetIfMatches_eq, hi, Ne.symm hk]

theorem foldl_afterChange_untouched {i : DeviceItem C} {j : Nat} {cs : List (RegistryChange T)}
    (hi : i.id = some j) (hcs : Untouched i j cs) : (cs.foldl DeviceItem.afterChange i).id = some j := by
  induction cs generalizing i with
  | nil => exact hi
  | cons c cs ih =>
    refine ih (afterChange_untouched hi (hcs c (List.mem_cons_self c cs))) fun c' hc' => ?_
    simpa [DeviceItem.Accepts] using hcs c' (List.mem_cons_of_mem c hc')

theorem foldl_changeWith_items (items : List (DeviceItem C)) (cs : List (RegistryChange T))
    (f : DeviceItem C → T → E) :
    cs.foldl (fun is c => (changeWith is c f).items) items =
      items.map (fun i => cs.foldl DeviceItem.afterChange i) := by
  induction cs generalizing items with
  | nil => simp
  | cons c cs ih =>
    rw [List.foldl_cons, ih, changeWith_items, List.map_map]
    rfl

/-- Over any sequence of changes (the entries of the initial `contents()` walks
are processed as `Added`), a slot bound to `j` stays bound to `j` while no change
is `Removed j` or an entry it accepts; `Removed j` clears it, and an entry it
accepts rebinds it to that entry's id whatever it was bound to. -/
theorem binding_kept_until_removed_or_rebound (items : List (DeviceItem C))
    (cs : List (RegistryChange T)) (f : DeviceItem C → T → E) :
    cs.foldl (fun is c => (changeWith is c f).items) items =
        items.map (fun i => cs.foldl DeviceItem.afterChange i) ∧
      ∀ i ∈ items, ∀ j, i.id = some j →
        (Untouched i j cs → (cs.foldl DeviceItem.afterChange i).id = some j) ∧
        (i.afterChange (.removed j : RegistryChange T)).id = none ∧
        ∀ k p (x : T), i.Accepts p → (i.afterChange (.added k p x)).id = some k := by
  refine ⟨foldl_changeWith_items items cs f, fun i _ j hi => ⟨foldl_afterChange_untouched hi, ?_, ?_⟩⟩
  · simp [DeviceItem.afterChange, DeviceItem.unsetIfMatches_eq, hi]
  · intro k p x hp
    simp [DeviceItem.afterChange, hp]

/-- A console slot, bound to entry `1`, and a second entry it also accepts. -/
def usbConsole : Config.Console := ⟨"serial", [("usb", "1234")], "115200"⟩

def secondConsole : Properties := ⟨[("name", "c2"), ("usb", "1234")], rfl⟩

/-- An `Added` event for a second matching console replaces the binding. -/
theorem later_match_replaces_binding :
    (changeWith [⟨usbConsole, some 1⟩] (.added 2 secondConsole ()) fun _ _ => ()).items =
      [⟨usbConsole, some 2⟩] := by
  decide

end Boardswarm
