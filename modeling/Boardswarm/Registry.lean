import Mathlib.Data.List.Basic

/-! # Properties, registries and their change broadcast

The server keeps one registry per resource kind. The `registry` module itself is
not among the sources, so what follows is modelled from the specification: a
registry hands out increasing ids, stores `(id, properties, item)` triples and
broadcasts each change to the receivers subscribed at that moment. The channel
is kept as the history of everything it broadcast, and a receiver as a position
in that history, so a lagging receiver is one whose pending changes were cut.
-/

namespace Boardswarm

/-- Modelled from the spec: `registry::Properties`, a string map that always
holds the reserved key `"name"`. -/
structure Properties where
  properties : List (String × String)
  has_name : (properties.lookup "name").isSome
deriving DecidableEq, Repr

namespace Properties

def get (p : Properties) (key : String) : Option String := p.properties.lookup key

def name (p : Properties) : String := (p.get "name").get p.has_name

def new (name : String) : Properties := ⟨[("name", name)], rfl⟩

/-- Every required pair is present with exactly the required value (`matches`
is a keyword here, as `match` is in Rust, hence the trailing underscore). -/
def matches_ (p : Properties) (criteria : List (String × String)) : Bool :=
  criteria.all fun kv => p.get kv.1 == some kv.2

theorem matches_iff (p : Properties) (criteria : List (String × String)) :
    p.matches_ criteria = true ↔ ∀ kv ∈ criteria, p.get kv.1 = some kv.2 := by
  simp [matches_]

end Properties

/-- Modelled from the spec: `registry::RegistryChange`, what a registry broadcasts. -/
inductive RegistryChange (T : Type) where
  | added (id : Nat) (properties : Properties) (item : T)
  | removed (id : Nat)
deriving DecidableEq, Repr

variable {T : Type}

namespace RegistryChange

def id : RegistryChange T → Nat
  | .added id .. => id
  | .removed id => id

/-- The effect of one broadcast change on a list of registry entries. -/
def apply (es : List (Nat × Properties × T)) : RegistryChange T → List (Nat × Properties × T)
  | .added id properties item => es ++ [(id, properties, item)]
  | .removed id => es.filter (·.1 != id)

end RegistryChange

/-- The entries of a registry that started empty and broadcast `cs`. -/
def replay (cs : List (RegistryChange T)) : List (Nat × Properties × T) :=
  cs.foldl RegistryChange.apply []

theorem mem_foldl_apply {cs : List (RegistryChange T)} {es : List (Nat × Properties × T)}
    {e : Nat × Properties × T} (h : e ∈ cs.foldl RegistryChange.apply es) :
    e ∈ es ∨ RegistryChange.added e.1 e.2.1 e.2.2 ∈ cs := by
  induction cs generalizing es with
  | nil => exact .inl h
  | cons c cs ih =>
    rcases ih h with h | h
    · cases c with
      | added id p x =>
        simp only [RegistryChange.apply, List.mem_append, List.mem_singleton] at h
        rcases h with h | rfl
        · exact .inl h
        · simp
      | removed id => exact .inl (List.mem_of_mem_filter h)
    · exact .inr (List.mem_cons_of_mem c h)

theorem added_mem_of_mem_replay {cs : List (RegistryChange T)} {e : Nat × Properties × T}
    (h : e ∈ replay cs) : RegistryChange.added e.1 e.2.1 e.2.2 ∈ cs :=
  (mem_foldl_apply h).resolve_left (List.not_mem_nil e)

@[simp] theorem replay_nil : replay ([] : List (RegistryChange T)) = [] := rfl

@[simp] theorem replay_append_single (cs : List (RegistryChange T)) (c : RegistryChange T) :
    replay (cs ++ [c]) = RegistryChange.apply (replay cs) c := by
  simp [replay, List.foldl_append]

/-- The entries of the `Added` changes among `cs`, in order. -/
def addedEntries : List (RegistryChange T) → List (Nat × Properties × T)
  | [] => []
  | .added j p x :: cs => (j, p, x) :: addedEntries cs
  | .removed _ :: cs => addedEntries cs

/-- The ids of the `Removed` changes among `cs`. -/
def removedIds : List (RegistryChange T) → List Nat
  | [] => []
  | .added .. :: cs => removedIds cs
  | .removed j :: cs => j :: removedIds cs

@[simp] theorem addedEntries_append (cs cs' : List (RegistryChange T)) :
    addedEntries (cs ++ cs') = addedEntries cs ++ addedEntries cs' := by
  induction cs with
  | nil => rfl
  | cons c cs ih => cases c <;> simp [addedEntries, ih]

@[simp] theorem removedIds_append (cs cs' : List (RegistryChange T)) :
    removedIds (cs ++ cs') = removedIds cs ++ removedIds cs' := by
  induction cs with
  | nil => rfl
  | cons c cs ih => cases c <;> simp [removedIds, ih]

theorem mem_removedIds {cs : List (RegistryChange T)} {j : Nat} :
    j ∈ removedIds cs ↔ .removed j ∈ cs := by
  induction cs with
  | nil => simp [removedIds]
  | cons c cs ih => cases c <;> simp [removedIds, ih, eq_comm]

theorem mem_addedEntries {cs : List (RegistryChange T)} {e : Nat × Properties × T} :
    e ∈ addedEntries cs ↔ .added e.1 e.2.1 e.2.2 ∈ cs := by
  induction cs with
  | nil => simp [addedEntries]
  | cons c cs ih => cases c <;> simp [addedEntries, ih, Prod.ext_iff, eq_comm]

theorem exists_of_mem_addedEntries {cs : List (RegistryChange T)} {e : Nat × Properties × T}
    (he : e ∈ addedEntries cs) : ∃ c ∈ cs, c.id = e.1 := by
  induction cs with
  | nil => simp [addedEntries] at he
  | cons c cs ih =>
    cases c with
    | added j p x =>
      rcases List.mem_cons.1 he with rfl | he
      · exact ⟨_, List.mem_cons_self _ _, rfl⟩
      · obtain ⟨c, hc, h⟩ := ih he
        exact ⟨c, List.mem_cons_of_mem _ hc, h⟩
    | removed j =>
      obtain ⟨c, hc, h⟩ := ih he
      exact ⟨c, List.mem_cons_of_mem _ hc, h⟩

/-- Every id broadcast as `Added` is larger than every id broadcast before it. -/
def Fresh (cs : List (RegistryChange T)) : Prop :=
  ∀ xs ys, cs = xs ++ ys → ∀ c ∈ xs, ∀ e ∈ addedEntries ys, c.id < e.1

namespace Fresh

variable {xs ys zs cs : List (RegistryChange T)}

theorem middle (h : Fresh (xs ++ ys ++ zs)) : Fresh ys := by
  rintro as bs rfl c hc e he
  exact h (xs ++ as) (bs ++ zs) (by simp) c (List.mem_append_right _ hc) e (by simp [he])

theorem concat (h : Fresh cs) {c : RegistryChange T}
    (hc : ∀ e ∈ addedEntries [c], ∀ c' ∈ cs, c'.id < e.1) : Fresh (cs ++ [c]) := by
  intro as bs hs c' hc' e he
  rcases List.eq_nil_or_concat bs with rfl | ⟨bs, b, rfl⟩
  · simp [addedEntries] at he
  · rw [List.concat_eq_append, ← List.append_assoc] at hs
    obtain ⟨rfl, ⟨⟩⟩ := List.append_inj' hs rfl
    rw [List.concat_eq_append, addedEntries_append, List.mem_append] at he
    rcases he with he | he
    · exact h as bs rfl c' hc' e he
    · exact hc e he c' (List.mem_append_left _ hc')

theorem left (h : Fresh (xs ++ ys)) : Fresh xs := (show Fresh ([] ++ xs ++ ys) by simpa using h).middle

theorem right (h : Fresh (xs ++ ys)) : Fresh ys := (show Fresh (xs ++ ys ++ []) by simpa using h).middle

theorem take (h : Fresh cs) (n : Nat) : Fresh (cs.take n) :=
  (show Fresh (cs.take n ++ cs.drop n) by rwa [List.take_append_drop]).left

theorem not_mem_removedIds (h : Fresh (xs ++ ys)) {e : Nat × Properties × T}
    (he : e ∈ addedEntries ys) : e.1 ∉ removedIds xs := fun hr =>
  Nat.lt_irrefl _ (h xs ys rfl _ (mem_removedIds.1 hr) e he)

theorem not_mem_addedEntries (h : Fresh (xs ++ ys)) {e e' : Nat × Properties × T}
    (he : e ∈ addedEntries ys) (he' : e' ∈ addedEntries xs) : e'.1 ≠ e.1 := by
  obtain ⟨c, hc, hid⟩ := exists_of_mem_addedEntries he'
  exact hid ▸ Nat.ne_of_lt (h xs ys rfl c hc e he)

end Fresh

/-- Replaying changes that add no removed id again onto entries `es`: the
entries of `es` and of the `Added` changes, less every removed id. -/
theorem foldl_apply_eq_filter {cs : List (RegistryChange T)} (h : Fresh cs)
    (es : List (Nat × Properties × T)) :
    cs.foldl RegistryChange.apply es = (es ++ addedEntries cs).filter (·.1 ∉ removedIds cs) := by
  induction cs generalizing es with
  | nil => simp [addedEntries, removedIds]
  | cons c cs ih =>
    rw [List.foldl_cons, ih (Fresh.middle (show Fresh ([c] ++ cs ++ []) by simpa using h))]
    cases c with
    | added j p x => simp [RegistryChange.apply, addedEntries, removedIds]
    | removed j =>
      have hj : ∀ e ∈ addedEntries cs, e.1 ∉ removedIds [.removed j] := fun e he =>
        (show Fresh ([.removed j] ++ cs) from h).not_mem_removedIds he
      simp only [RegistryChange.apply, removedIds, List.filter_append, List.filter_filter]
      congr 1
      · exact List.filter_congr fun e _ => by simp [bne, Bool.and_comm, Bool.beq_eq_decide_eq]
      · exact List.filter_congr fun e he => by simpa [removedIds] using fun _ => hj e he

theorem replay_eq_filter {cs : List (RegistryChange T)} (h : Fresh cs) :
    replay cs = (addedEntries cs).filter (·.1 ∉ removedIds cs) :=
  foldl_apply_eq_filter h []

/-- Modelled from the spec: `registry::Registry<T>`. `current` is the next id to
hand out and `sent` the history of the registry's broadcast channel. -/
structure Registry (T : Type) where
  current : Nat
  contents : List (Nat × Properties × T)
  sent : List (RegistryChange T)

namespace Registry

def new : Registry T := ⟨1, [], []⟩

/-- `Registry::add`: the next id, stored with the entry and broadcast as `Added`. -/
def add (r : Registry T) (properties : Properties) (item : T) : Nat × Registry T :=
  (r.current, ⟨r.current + 1, r.contents ++ [(r.current, properties, item)],
    r.sent ++ [.added r.current properties item]⟩)

/-- `Registry::remove`: a present id is dropped and broadcast as `Removed`;
removing an absent id does nothing. -/
def remove (r : Registry T) (id : Nat) : Registry T :=
  if r.contents.any (·.1 == id) then
    ⟨r.current, r.contents.filter (·.1 != id), r.sent ++ [.removed id]⟩
  else r

theorem add_sent (r : Registry T) (p : Properties) (x : T) :
    ∃ cs, (r.add p x).2.sent = r.sent ++ cs := ⟨_, rfl⟩

theorem remove_sent (r : Registry T) (id : Nat) : ∃ cs, (r.remove id).sent = r.sent ++ cs := by
  unfold remove
  split
  · exact ⟨_, rfl⟩
  · exact ⟨[], (List.append_nil _).symm⟩

def lookup (r : Registry T) (id : Nat) : Option (Properties × T) :=
  (r.contents.find? (·.1 == id)).map (·.2)

/-- `Registry::find`: the first entry whose properties satisfy `criteria`. -/
def find (r : Registry T) (criteria : List (String × String)) : Option (Nat × Properties × T) :=
  r.contents.find? (·.2.1.matches_ criteria)

def findByName (r : Registry T) (name : String) : Option (Nat × Properties × T) :=
  r.contents.find? (·.2.1.name == name)

/-- What every registry built by `new`, `add` and `remove` satisfies: its
entries are the replay of its broadcast history, every id in that history is
below the next id to be handed out, each `Added` id is larger than every id
broadcast before it, and an entry broadcast as `Added` is still there unless its
`Removed` was broadcast after it. -/
structure Valid (r : Registry T) : Prop where
  contents_eq : r.contents = replay r.sent
  id_lt : ∀ c ∈ r.sent, c.id < r.current
  fresh : Fresh r.sent
  added_present : ∀ n j p x, r.sent[n]? = some (.added j p x) →
    (j, p, x) ∈ r.contents ∨ .removed j ∈ r.sent.drop (n + 1)

theorem getElem?_concat_eq_some {α : Type} {l : List α} {a b : α} {n : Nat}
    (h : (l ++ [a])[n]? = some b) : (n < l.length ∧ l[n]? = some b) ∨ (n = l.length ∧ a = b) := by
  rcases Nat.lt_or_ge n l.length with hlt | hge
  · exact .inl ⟨hlt, by rwa [List.getElem?_append_left hlt] at h⟩
  · rw [List.getElem?_append_right hge] at h
    cases hk : n - l.length with
    | zero => exact .inr ⟨by omega, by simpa [hk] using h⟩
    | succ k => simp [hk] at h

theorem new_valid : (new : Registry T).Valid :=
  ⟨rfl, by simp [new], fun xs ys hs c hc => by simp_all [new], by simp [new]⟩

theorem add_valid {r : Registry T} (h : r.Valid) (p : Properties) (x : T) :
    (r.add p x).2.Valid := by
  refine ⟨by simp [add, h.contents_eq, RegistryChange.apply], ?_, ?_, ?_⟩
  · intro c hc
    simp only [add, List.mem_append, List.mem_singleton] at hc
    rcases hc with hc | rfl
    · exact Nat.lt_succ_of_lt (h.id_lt c hc)
    · simp [add, RegistryChange.id]
  · refine h.fresh.concat fun e he c hc => ?_
    simp only [addedEntries, List.mem_singleton] at he
    exact he ▸ h.id_lt c hc
  · intro n j p' x' hn
    rcases getElem?_concat_eq_some hn with ⟨hlt, hn⟩ | ⟨-, he⟩
    · rcases h.added_present n j p' x' hn with hc | hc
      · exact .inl (List.mem_append_left _ hc)
      · exact .inr (by simp [add, List.drop_append_of_le_length hlt, hc])
    · cases he
      exact .inl (by simp [add])

theorem remove_valid {r : Registry T} (h : r.Valid) (id : Nat) : (r.remove id).Valid := by
  unfold remove
  split
  case isFalse => exact h
  case isTrue hin =>
    refine ⟨by simp [h.contents_eq, RegistryChange.apply], ?_,
      h.fresh.concat fun e he => by simp [addedEntries] at he, ?_⟩
    · intro c hc
      simp only [List.mem_append, List.mem_singleton] at hc
      rcases hc with hc | rfl
      · exact h.id_lt c hc
      · obtain ⟨e, he, rfl⟩ : ∃ e ∈ r.contents, e.1 = id := by simpa using hin
        rw [h.contents_eq] at he
        exact h.id_lt (.added e.1 e.2.1 e.2.2) (added_mem_of_mem_replay he)
    · intro n j p x hn
      rcases getElem?_concat_eq_some hn with ⟨hlt, hn⟩ | ⟨-, he⟩
      · rw [List.drop_append_of_le_length hlt]
        by_cases hj : j = id
        · exact .inr (by simp [hj])
        · rcases h.added_present n j p x hn with hc | hc
          · exact .inl (by simp [hc, hj])
          · exact .inr (List.mem_append_left _ hc)
      · cases he

end Registry

theorem take_eq_take_append_drop {α : Type} (l : List α) {m n : Nat} (h : m ≤ n) :
    l.take n = l.take m ++ (l.take n).drop m := by
  conv_lhs => rw [← List.take_append_drop m (l.take n)]
  rw [List.take_take, Nat.min_eq_left h]

theorem take_succ_of_getElem? {α : Type} {l : List α} {n : Nat} {a : α} (h : l[n]? = some a) :
    l.take (n + 1) = l.take n ++ [a] := by
  rw [List.take_succ, h]
  rfl

/-- Two ghost positions in a registry's broadcast history: where a receiver was
opened, and where `contents()` was read. -/
structure Window where
  subscribed : Nat
  snapshot : Nat
deriving DecidableEq, Repr

/-- A `broadcast::Receiver` on a registry's channel: the position in the
channel's history of the next change it reads, and whether changes were dropped
since it last read. -/
structure Receiver where
  pos : Nat
  lagged : Bool
deriving DecidableEq, Repr

/-- `Registry::monitor`: a receiver that sees only changes broadcast from now on. -/
def Registry.monitor (r : Registry T) : Receiver := ⟨r.sent.length, false⟩

namespace Receiver

def pending (rx : Receiver) (r : Registry T) : List (RegistryChange T) := r.sent.drop rx.pos

/-- What `recv` returns without blocking: the lag report, or the next change. -/
inductive Recv (T : Type) where
  | lagged
  | change (c : RegistryChange T)

/-- `broadcast::Receiver::recv`, `none` when it would block. After reporting a
lag the receiver reads on from the oldest change the channel kept. -/
def recv (rx : Receiver) (r : Registry T) : Option (Recv T × Receiver) :=
  if rx.lagged then some (.lagged, { rx with lagged := false })
  else (r.sent[rx.pos]?).map fun c => (.change c, { rx with pos := rx.pos + 1 })

/-- A receiver that lost nothing reads the change at its position and moves past it. -/
theorem recv_eq_change {rx rx' : Receiver} {r : Registry T} {c : RegistryChange T}
    (hl : rx.lagged = false) :
    rx.recv r = some (.change c, rx') ↔ r.sent[rx.pos]? = some c ∧ rx' = ⟨rx.pos + 1, false⟩ := by
  cases rx
  subst hl
  simp only [recv, Bool.false_eq_true, if_false, Option.map_eq_some', Prod.mk.injEq]
  constructor
  · rintro ⟨c', hc, ⟨⟩, rfl⟩
    exact ⟨hc, rfl⟩
  · rintro ⟨hc, rfl⟩
    exact ⟨c, hc, rfl, rfl⟩

theorem lagged_eq_false_of_recv {rx rx' : Receiver} {r : Registry T} {c : RegistryChange T}
    (h : rx.recv r = some (.change c, rx')) : rx.lagged = false := by
  cases hl : rx.lagged <;> simp_all [recv]

theorem recv_ne_lagged {rx rx' : Receiver} {r : Registry T} (hl : rx.lagged = false) :
    rx.recv r ≠ some (.lagged, rx') := by
  simp [recv, hl]

/-- The channel drops the `k` oldest changes pending for a slow receiver. -/
def lag (rx : Receiver) (k : Nat) : Receiver := ⟨rx.pos + k, true⟩

end Receiver

end Boardswarm
