import Boardswarm.Registry

/-! # The `monitor` item stream

`Server::monitor` answers with `to_item_stream`: it opens a receiver on the
registry, takes a `to_item_list` snapshot, and streams an `Add` event with the
snapshot followed by one event per change the receiver reads, ending at the
first receive error. Providers add and remove entries between any two of these
steps. The client keeps the list of ids the events describe, so an entry
registered between `monitor()` and `contents()` and still present is listed twice.
-/

namespace Boardswarm

structure Item where
  id : Nat
  name : String
deriving DecidableEq, Repr

/-- The `event` of a `boardswarm_protocol::ItemEvent`. -/
inductive ItemEvent where
  | add (items : List Item)
  | remove (id : Nat)
deriving DecidableEq, Repr

variable {T : Type}

def itemsOf (es : List (Nat × Properties × T)) : List Item := es.map fun c => ⟨c.1, c.2.1.name⟩

/-- `to_item_list`. -/
def toItemList (r : Registry T) : List Item := itemsOf r.contents

/-- The event `to_item_stream` sends for a change its receiver read. -/
def toItemEvent : RegistryChange T → ItemEvent
  | .added id properties _ => .add [⟨id, properties.name⟩]
  | .removed removed => .remove removed

/-- What the client does with an event: an `Add` appends its items' ids, a
`Remove` deletes the id. -/
def ItemEvent.applyTo : ItemEvent → List Nat → List Nat
  | .add items, ids => ids ++ items.map (·.id)
  | .remove id, ids => ids.filter (· != id)

theorem applyTo_toItemEvent (es : List (Nat × Properties × T)) (c : RegistryChange T) :
    (toItemEvent c).applyTo (es.map (·.1)) = (RegistryChange.apply es c).map (·.1) := by
  cases c <;> simp [toItemEvent, ItemEvent.applyTo, RegistryChange.apply, List.filter_map,
    Function.comp_def]

/-- Where a `monitor` call and its client are: before the call, after
`registry.monitor()`, with the stream built, with the client reading events (its
list of ids so far), and ended by a receive error. The `Window` is ghost. -/
inductive ItemStream where
  | idle
  | subscribed (rx : Receiver)
  | built (rx : Receiver) (w : Window) (initial : List Item)
  | streaming (rx : Receiver) (w : Window) (ids : List Nat)
  | ended (ids : List Nat)
deriving DecidableEq, Repr

structure ItemMonitor (T : Type) where
  registry : Registry T
  stream : ItemStream

/-- One atomic action: a provider adding or removing an entry, or the stream
or its client taking the next step. -/
inductive ItemMonitor.Step : ItemMonitor T → ItemMonitor T → Prop
  | register (s : ItemMonitor T) (p : Properties) (x : T) :
      Step s { s with registry := (s.registry.add p x).2 }
  | unregister (s : ItemMonitor T) (id : Nat) :
      Step s { s with registry := s.registry.remove id }
  | monitor (s : ItemMonitor T) (h : s.stream = .idle) :
      Step s { s with stream := .subscribed s.registry.monitor }
  | toItemList (s : ItemMonitor T) (rx : Receiver) (h : s.stream = .subscribed rx) :
      Step s { s with stream := .built rx ⟨rx.pos, s.registry.sent.length⟩ (toItemList s.registry) }
  | readInitial (s : ItemMonitor T) (rx : Receiver) (w : Window) (initial : List Item)
      (h : s.stream = .built rx w initial) :
      Step s { s with stream := .streaming rx w ((ItemEvent.add initial).applyTo []) }
  | recv (s : ItemMonitor T) (rx : Receiver) (w : Window) (ids : List Nat) (c : RegistryChange T)
      (rx' : Receiver) (h : s.stream = .streaming rx w ids)
      (hr : rx.recv s.registry = some (.change c, rx')) :
      Step s { s with stream := .streaming rx' w ((toItemEvent c).applyTo ids) }
  | recvError (s : ItemMonitor T) (rx : Receiver) (w : Window) (ids : List Nat) (rx' : Receiver)
      (h : s.stream = .streaming rx w ids) (hr : rx.recv s.registry = some (.lagged, rx')) :
      Step s { s with stream := .ended ids }

/-- The channel drops the `k` oldest changes queued for the stream's receiver.
A lag before the client's first event only shows at the first `recv`, so it is
taken while the client reads. -/
inductive ItemMonitor.Lag : ItemMonitor T → ItemMonitor T → Prop
  | streaming (s : ItemMonitor T) (rx : Receiver) (w : Window) (ids : List Nat) (k : Nat)
      (h : s.stream = .streaming rx w ids) (hk : 0 < k ∧ rx.pos + k ≤ s.registry.sent.length) :
      Lag s { s with stream := .streaming (rx.lag k) w ids }

/-- The states a registry with a `monitor` call reaches when its channel drops
no change. -/
inductive ItemMonitor.Reachable : ItemMonitor T → Prop
  | init : Reachable ⟨.new, .idle⟩
  | step {s s' : ItemMonitor T} : Reachable s → Step s s' → Reachable s'

/-- How far the stream has read its registry's history, given how far it had:
its receiver's position, unless a lag moved the receiver past changes it never
read. -/
def ItemStream.readPos (st : ItemStream) (n : Nat) : Nat :=
  match st with
  | .subscribed rx | .built rx .. | .streaming rx .. => if rx.lagged then n else rx.pos
  | _ => n

/-- The states reached when the channel may also drop changes, each with how
far the stream has read the history. -/
inductive ItemMonitor.LossyReachable : ItemMonitor T → Nat → Prop
  | init : LossyReachable ⟨.new, .idle⟩ 0
  | step {s s' : ItemMonitor T} {n : Nat} : LossyReachable s n → Step s s' →
      LossyReachable s' (s'.stream.readPos n)
  | lag {s s' : ItemMonitor T} {n : Nat} : LossyReachable s n → Lag s s' → LossyReachable s' n

namespace ItemStream

/-- What the stream and its client hold once the stream has read the history
up to `n`: the snapshot is the registry as of `w.snapshot`, and the client's list
is the snapshot with every change from `w.subscribed` to `n` replayed onto it.
The receiver is at `n` unless a lag moved it on. -/
def Consistent (r : Registry T) (n : Nat) : ItemStream → Prop
  | .idle | .ended _ => True
  | .subscribed rx => rx.lagged = false ∧ rx.pos = n ∧ n ≤ r.sent.length
  | .built rx w initial => rx.lagged = false ∧ rx.pos = n ∧ n = w.subscribed ∧
      w.subscribed ≤ w.snapshot ∧ w.snapshot ≤ r.sent.length ∧
      initial = itemsOf (replay (r.sent.take w.snapshot))
  | .streaming rx w ids => w.subscribed ≤ w.snapshot ∧ w.snapshot ≤ r.sent.length ∧
      w.subscribed ≤ n ∧ n ≤ rx.pos ∧ rx.pos ≤ r.sent.length ∧ (rx.lagged = false → rx.pos = n) ∧
      ids = (((r.sent.take n).drop w.subscribed).foldl RegistryChange.apply
        (replay (r.sent.take w.snapshot))).map (·.1)

theorem Consistent.extend {r r' : Registry T} {n : Nat} {st : ItemStream} (h : st.Consistent r n)
    (hs : ∃ cs, r'.sent = r.sent ++ cs) : st.Consistent r' n := by
  obtain ⟨cs, hs⟩ := hs
  have hle : r.sent.length ≤ r'.sent.length := by simp [hs]
  have htake : ∀ k ≤ r.sent.length, r'.sent.take k = r.sent.take k := fun k hk => by
    rw [hs, List.take_append_of_le_length hk]
  cases st with
  | idle | ended => trivial
  | subscribed rx => exact ⟨h.1, h.2.1, h.2.2.trans hle⟩
  | built rx w initial =>
    obtain ⟨h₁, h₂, h₃, h₄, h₅, h₆⟩ := h
    exact ⟨h₁, h₂, h₃, h₄, h₅.trans hle, by rw [htake _ h₅]; exact h₆⟩
  | streaming rx w ids =>
    obtain ⟨h₁, h₂, h₃, h₄, h₅, h₆, h₇⟩ := h
    exact ⟨h₁, h₂.trans hle, h₃, h₄, h₅.trans hle, h₆,
      by rw [htake _ h₂, htake _ (h₄.trans h₅)]; exact h₇⟩

theorem Consistent.readPos {r : Registry T} {n : Nat} {st : ItemStream} (h : st.Consistent r n) :
    st.readPos n = n := by
  cases st with
  | idle | ended => rfl
  | subscribed rx => simp [ItemStream.readPos, h.1, h.2.1]
  | built rx w initial => simp [ItemStream.readPos, h.1, h.2.1]
  | streaming rx w ids =>
    cases hl : rx.lagged
    · simp [ItemStream.readPos, hl, h.2.2.2.2.2.1 hl]
    · simp [ItemStream.readPos, hl]

end ItemStream

namespace ItemMonitor

/-- The invariant of every run, lags included, for a stream that has read up to `n`. -/
structure Inv (s : ItemMonitor T) (n : Nat) : Prop where
  valid : s.registry.Valid
  consistent : s.stream.Consistent s.registry n

theorem Inv.step {s s' : ItemMonitor T} {n : Nat} (hi : s.Inv n) (hs : s.Step s') :
    s'.Inv (s'.stream.readPos n) := by
  cases hs with
  | register p x =>
    rw [hi.consistent.readPos]
    exact ⟨Registry.add_valid hi.valid p x, hi.consistent.extend (Registry.add_sent ..)⟩
  | unregister id =>
    rw [hi.consistent.readPos]
    exact ⟨Registry.remove_valid hi.valid id, hi.consistent.extend (Registry.remove_sent ..)⟩
  | monitor h => exact ⟨hi.valid, rfl, rfl, le_rfl⟩
  | toItemList rx h =>
    obtain ⟨h₁, h₂, h₃⟩ := h ▸ hi.consistent
    refine ⟨hi.valid, h₁, by simp [ItemStream.readPos, h₁], by simp [ItemStream.readPos, h₁], h₂ ▸ h₃,
      le_rfl, ?_⟩
    rw [List.take_length, ← hi.valid.contents_eq]
    rfl
  | readInitial rx w initial h =>
    obtain ⟨h₁, h₂, h₃, h₄, h₅, h₆⟩ := h ▸ hi.consistent
    have hn : (ItemStream.streaming rx w ((ItemEvent.add initial).applyTo [])).readPos n = n := by
      simp [ItemStream.readPos, h₁, h₂]
    rw [hn]
    refine ⟨hi.valid, h₄, h₅, h₃.ge, h₂.ge, h₂ ▸ h₃ ▸ h₄.trans h₅, fun _ => h₂, ?_⟩
    rw [h₃, List.drop_eq_nil_of_le (List.length_take_le _ _), h₆]
    simp [ItemEvent.applyTo, itemsOf, Function.comp_def]
  | recv rx w ids c rx' h hr =>
    obtain ⟨h₁, h₂, h₃, -, -, h₆, h₇⟩ := h ▸ hi.consistent
    have hl := Receiver.lagged_eq_false_of_recv hr
    obtain ⟨hget, rfl⟩ := (Receiver.recv_eq_change hl).1 hr
    have hlt : rx.pos < s.registry.sent.length := (List.getElem?_eq_some_iff.1 hget).1
    change ItemMonitor.Inv _ (rx.pos + 1)
    rw [h₆ hl] at hget hlt ⊢
    refine ⟨hi.valid, h₁, h₂, Nat.le_succ_of_le h₃, le_rfl, hlt, fun _ => rfl, ?_⟩
    rw [take_succ_of_getElem? hget,
      List.drop_append_of_le_length (by simp only [List.length_take]; omega), List.foldl_append, h₇,
      applyTo_toItemEvent]
    rfl
  | recvError rx w ids rx' h hr => exact ⟨hi.valid, trivial⟩

theorem Inv.lag {s s' : ItemMonitor T} {n : Nat} (hi : s.Inv n) (hl : s.Lag s') : s'.Inv n := by
  cases hl with
  | streaming rx w ids k h hk =>
    obtain ⟨h₁, h₂, h₃, h₄, -, -, h₇⟩ := h ▸ hi.consistent
    exact ⟨hi.valid, h₁, h₂, h₃, Nat.le_add_right_of_le h₄, hk.2, (nomatch ·), h₇⟩

theorem LossyReachable.inv {s : ItemMonitor T} {n : Nat} (h : s.LossyReachable n) : s.Inv n := by
  induction h with
  | init => exact ⟨Registry.new_valid, trivial⟩
  | step _ hs ih => exact ih.step hs
  | lag _ hl ih => exact ih.lag hl

theorem Reachable.lossy {s : ItemMonitor T} (h : s.Reachable) :
    ∃ n, s.LossyReachable n ∧ ∀ rx w ids, s.stream = .streaming rx w ids → rx.lagged = false := by
  induction h with
  | init => exact ⟨0, .init, fun _ _ _ h => nomatch h⟩
  | step _ hs ih =>
    obtain ⟨n, hn, hu⟩ := ih
    refine ⟨_, hn.step hs, ?_⟩
    cases hs with
    | readInitial rx w initial h =>
      rintro _ _ _ ⟨⟩
      exact (h ▸ hn.inv.consistent).1
    | recv rx w ids c rx' h hr =>
      rintro _ _ _ ⟨⟩
      rw [((Receiver.recv_eq_change (hu rx w ids h)).1 hr).2]
    | register | unregister => exact hu
    | monitor | toItemList | recvError => intro _ _ _ h; cases h

end ItemMonitor

/-- Replaying the changes from the subscription onto the snapshot, on a history
`xs ++ ws ++ es` cut where the stream subscribed, took its snapshot and last
read: the entries live at the end, those already in the snapshot first, with the
live ids added in `ws` repeated between the two parts. -/
theorem reapply_window {xs ws es : List (RegistryChange T)} (h : Fresh (xs ++ ws ++ es)) :
    ∃ pre post, (replay (xs ++ ws ++ es)).map (·.1) = pre ++ post ∧
      (∀ j ∈ pre, j ∈ (replay (xs ++ ws)).map (·.1)) ∧
      (∀ j ∈ post, j ∉ (replay (xs ++ ws)).map (·.1)) ∧
      ((ws ++ es).foldl RegistryChange.apply (replay (xs ++ ws))).map (·.1) =
        pre ++ ((addedEntries ws).map (·.1)).filter (· ∈ pre ++ post) ++ post := by
  have hx : Fresh (xs ++ (ws ++ es)) := by simpa using h
  have hxw : Fresh (xs ++ ws) := h.left
  have hwe : Fresh (ws ++ es) := hx.right
  have hnow : (replay (xs ++ ws ++ es)).map (·.1) =
      ((addedEntries xs ++ addedEntries ws).filter (·.1 ∉ removedIds (xs ++ ws ++ es))).map (·.1) ++
      ((addedEntries es).filter (·.1 ∉ removedIds (xs ++ ws ++ es))).map (·.1) := by
    rw [replay_eq_filter h, addedEntries_append, addedEntries_append, List.filter_append,
      List.map_append]
  refine ⟨_, _, hnow, ?_, ?_, ?_⟩
  · intro j hj
    simp only [List.mem_map, List.mem_filter, replay_eq_filter hxw] at hj ⊢
    obtain ⟨e, ⟨he, hl⟩, rfl⟩ := hj
    exact ⟨e, ⟨by simpa using he, by simp_all⟩, rfl⟩
  · rintro j hj hj'
    obtain ⟨e, he, rfl⟩ := List.mem_map.1 hj
    obtain ⟨e', he', hid⟩ := List.mem_map.1 hj'
    rw [replay_eq_filter hxw] at he'
    exact h.not_mem_addedEntries (List.mem_filter.1 he).1 (List.mem_filter.1 he').1 hid
  · have hlive : ∀ e ∈ addedEntries ws, e.1 ∈ (replay (xs ++ ws ++ es)).map (·.1) ↔
        e.1 ∉ removedIds (ws ++ es) := fun e he => by
      have hxr := hx.not_mem_removedIds (by simp [he] : e ∈ addedEntries (ws ++ es))
      rw [replay_eq_filter h]
      constructor
      · intro hm
        obtain ⟨e', he', hid⟩ := List.mem_map.1 hm
        have := (List.mem_filter.1 he').2
        simp_all
      · intro hr
        exact List.mem_map.2 ⟨e, List.mem_filter.2 ⟨by simp [he], by simp_all⟩, rfl⟩
    have hclient : ((ws ++ es).foldl RegistryChange.apply (replay (xs ++ ws))).map (·.1) =
        ((((addedEntries (xs ++ ws)).filter (·.1 ∉ removedIds (xs ++ ws))).filter
          (·.1 ∉ removedIds (ws ++ es))).map (·.1) ++
        ((addedEntries ws).filter (·.1 ∉ removedIds (ws ++ es))).map (·.1)) ++
        ((addedEntries es).filter (·.1 ∉ removedIds (ws ++ es))).map (·.1) := by
      rw [foldl_apply_eq_filter hwe, replay_eq_filter hxw, addedEntries_append ws es]
      simp only [List.filter_append, List.map_append, List.append_assoc]
    have h₁ : ((addedEntries (xs ++ ws)).filter (·.1 ∉ removedIds (xs ++ ws))).filter
        (·.1 ∉ removedIds (ws ++ es)) =
        (addedEntries xs ++ addedEntries ws).filter (·.1 ∉ removedIds (xs ++ ws ++ es)) := by
      rw [List.filter_filter, addedEntries_append]
      refine List.filter_congr fun e _ => ?_
      rw [← Bool.decide_and, decide_eq_decide]
      simp only [removedIds_append, List.mem_append]
      tauto
    have h₂ : ((addedEntries ws).filter (·.1 ∉ removedIds (ws ++ es))).map (·.1) =
        ((addedEntries ws).map (·.1)).filter (· ∈ (replay (xs ++ ws ++ es)).map (·.1)) := by
      rw [List.filter_map]
      exact congrArg _ (List.filter_congr fun e he => decide_eq_decide.2 (hlive e he).symm)
    have h₃ : (addedEntries es).filter (·.1 ∉ removedIds (ws ++ es)) =
        (addedEntries es).filter (·.1 ∉ removedIds (xs ++ ws ++ es)) :=
      List.filter_congr fun e he => by
        simp [hx.not_mem_removedIds (by simp [he] : e ∈ addedEntries (ws ++ es))]
    rw [← hnow, hclient, h₁, h₂, h₃]

/-- Once the client has read every change broadcast before the snapshot, its
list holds the ids of the registry's entries as of the last change it read, those
of the snapshot first; the ids registered between `monitor()` and `contents()`
that are still present are listed a second time, between the two parts. -/
theorem client_ids_after_snapshot {s : ItemMonitor T} {rx : Receiver} {w : Window}
    {ids : List Nat} (h : s.Reachable) (hs : s.stream = .streaming rx w ids)
    (hb : w.snapshot ≤ rx.pos) :
    ∃ pre post, (replay (s.registry.sent.take rx.pos)).map (·.1) = pre ++ post ∧
      (∀ j ∈ pre, j ∈ (replay (s.registry.sent.take w.snapshot)).map (·.1)) ∧
      (∀ j ∈ post, j ∉ (replay (s.registry.sent.take w.snapshot)).map (·.1)) ∧
      ids = pre ++ ((addedEntries ((s.registry.sent.take w.snapshot).drop w.subscribed)).map
        (·.1)).filter (· ∈ pre ++ post) ++ post := by
  obtain ⟨n, hn, hu⟩ := h.lossy
  have hi := hn.inv
  obtain ⟨hab, hbl, -, -, -, hpos, hids⟩ := hs ▸ hi.consistent
  rw [← hpos (hu rx w ids hs)] at hids
  have htb := take_eq_take_append_drop s.registry.sent hab
  have htpos : s.registry.sent.take rx.pos = s.registry.sent.take w.subscribed ++
      (s.registry.sent.take w.snapshot).drop w.subscribed ++
      (s.registry.sent.take rx.pos).drop w.snapshot := by
    rw [← htb, ← take_eq_take_append_drop _ hb]
  have hdrop : (s.registry.sent.take rx.pos).drop w.subscribed =
      (s.registry.sent.take w.snapshot).drop w.subscribed ++
      (s.registry.sent.take rx.pos).drop w.snapshot := by
    conv_lhs => rw [htpos, List.append_assoc]
    exact List.drop_left' (by simp; omega)
  have hfresh := hi.valid.fresh.take rx.pos
  rw [htpos] at hfresh
  have hw := reapply_window hfresh
  rwa [← htpos, ← htb, ← hdrop, ← hids] at hw

/-- Console `1` was registered between the stream's `monitor()` and `contents()`
calls, and the client has read the snapshot and the `Add` event for it. -/
def windowStream : ItemMonitor Unit :=
  ⟨⟨2, [(1, .new "c1", ())], [.added 1 (.new "c1") ()]⟩, .streaming ⟨1, false⟩ ⟨0, 1⟩ [1, 1]⟩

theorem windowStream_reachable : windowStream.Reachable := by
  have r₀ : (⟨.new, .idle⟩ : ItemMonitor Unit).Reachable := .init
  have r₁ := r₀.step (.monitor _ rfl)
  have r₂ := r₁.step (.register _ (.new "c1") ())
  have r₃ := r₂.step (.toItemList _ _ rfl)
  have r₄ := r₃.step (.readInitial _ _ _ _ rfl)
  exact r₄.step (.recv _ ⟨0, false⟩ ⟨0, 1⟩ [1] (.added 1 (.new "c1") ()) ⟨1, false⟩ rfl rfl)

theorem windowStream_client_ids :
    windowStream.Reachable ∧ ∃ pre post, (replay (windowStream.registry.sent.take 1)).map (·.1) =
      pre ++ post ∧
      (∀ j ∈ pre, j ∈ (replay (windowStream.registry.sent.take 1)).map (·.1)) ∧
      (∀ j ∈ post, j ∉ (replay (windowStream.registry.sent.take 1)).map (·.1)) ∧
      [1, 1] = pre ++ ((addedEntries ((windowStream.registry.sent.take 1).drop 0)).map
        (·.1)).filter (· ∈ pre ++ post) ++ post :=
  ⟨windowStream_reachable, client_ids_after_snapshot windowStream_reachable rfl le_rfl⟩

/-- The client's list names console `1` twice while the registry holds it once. -/
theorem window_entry_listed_twice :
    windowStream.Reachable ∧ windowStream.stream = .streaming ⟨1, false⟩ ⟨0, 1⟩ [1, 1] ∧
      windowStream.registry.contents.map (·.1) = [1] :=
  ⟨windowStream_reachable, rfl, rfl⟩

/-- No entry comes back, lags included: every id on the client's list was
registered, and no `Removed` change among those the stream has read names it,
whether the removal fell before the snapshot or in the window between
`monitor()` and `contents()`. How far the stream has read is its receiver's
position, unless a lag moved the receiver on past changes the stream never read. -/
theorem listed_ids_registered {s : ItemMonitor T} {rx : Receiver} {w : Window}
    {ids : List Nat} {n : Nat} (h : s.LossyReachable n) (hs : s.stream = .streaming rx w ids) :
    n ≤ rx.pos ∧ (rx.lagged = false → rx.pos = n) ∧
      ∀ j ∈ ids, (∃ p x, .added j p x ∈ s.registry.sent) ∧
        .removed j ∉ s.registry.sent.take n := by
  have hi := h.inv
  obtain ⟨hab, -, han, hnp, -, hpos, rfl⟩ := hs ▸ hi.consistent
  refine ⟨hnp, hpos, fun j hj => ?_⟩
  have hcut := take_eq_take_append_drop s.registry.sent han
  have hfresh := hi.valid.fresh.take n
  rw [hcut] at hfresh
  obtain ⟨e, he, rfl⟩ := List.mem_map.1 hj
  rw [foldl_apply_eq_filter hfresh.right, replay_eq_filter (hi.valid.fresh.take _),
    List.mem_filter] at he
  obtain ⟨he, hw⟩ := he
  -- Where the entry came from decides why no removal before the window names it.
  obtain ⟨hadd, hsub⟩ : .added e.1 e.2.1 e.2.2 ∈ s.registry.sent ∧
      .removed e.1 ∉ s.registry.sent.take w.subscribed := by
    rcases List.mem_append.1 he with he | he
    · obtain ⟨ha, hr⟩ := List.mem_filter.1 he
      refine ⟨List.mem_of_mem_take (mem_addedEntries.1 ha), fun hm => ?_⟩
      have hm' := take_eq_take_append_drop s.registry.sent hab ▸ List.mem_append_left _ hm
      simp [mem_removedIds.2 hm'] at hr
    · exact ⟨List.mem_of_mem_take (List.mem_of_mem_drop (mem_addedEntries.1 he)),
        fun hm => hfresh.not_mem_removedIds he (mem_removedIds.2 hm)⟩
  refine ⟨⟨_, _, hadd⟩, ?_⟩
  rw [hcut, List.mem_append]
  rintro (hm | hm)
  · exact hsub hm
  · simp [mem_removedIds.2 hm] at hw

/-- `windowStream` after console `2` was registered and the channel dropped its
`Add` from the stream's queue. -/
def laggedStream : ItemMonitor Unit :=
  ⟨⟨3, [(1, .new "c1", ()), (2, .new "c2", ())], [.added 1 (.new "c1") (), .added 2 (.new "c2") ()]⟩,
    .streaming ⟨2, true⟩ ⟨0, 1⟩ [1, 1]⟩

theorem laggedStream_listed_ids_registered :
    laggedStream.LossyReachable 1 ∧ laggedStream.stream = .streaming ⟨2, true⟩ ⟨0, 1⟩ [1, 1] ∧
      1 ≤ 2 ∧ ((⟨2, true⟩ : Receiver).lagged = false → 2 = 1) ∧
      ∀ j ∈ [1, 1], (∃ p x, .added j p x ∈ laggedStream.registry.sent) ∧
        .removed j ∉ laggedStream.registry.sent.take 1 := by
  have r₀ : (⟨.new, .idle⟩ : ItemMonitor Unit).LossyReachable 0 := .init
  have r₁ := r₀.step (.monitor _ rfl)
  have r₂ := r₁.step (.register _ (.new "c1") ())
  have r₃ := r₂.step (.toItemList _ _ rfl)
  have r₄ := r₃.step (.readInitial _ _ _ _ rfl)
  have r₅ := r₄.step (.recv _ ⟨0, false⟩ ⟨0, 1⟩ [1] (.added 1 (.new "c1") ()) ⟨1, false⟩ rfl rfl)
  have r₆ := r₅.step (.register _ (.new "c2") ())
  have hr : laggedStream.LossyReachable 1 :=
    r₆.lag (.streaming _ ⟨1, false⟩ ⟨0, 1⟩ [1, 1] 1 rfl ⟨by decide, by decide⟩)
  exact ⟨hr, rfl, listed_ids_registered hr rfl⟩

end Boardswarm
