import GraphStore.Proofs.Worker.Settling
import GraphStore.Worker.Switchboard
import Mathlib.Data.List.Induction

/-!
# What is said in a run

`Switchboard.chronicle` lists everything that is sent in a run, in order, and with each signal the
switch that sends it and the workspace that is on display at that moment.  Its beginnings are the
chronicles of the beginnings of the run (`Switchboard.chronicle_append`), so a property of
everything said so far is shown by induction on the events, the last one first.

* `Switchboard.targets` : the workspaces asked for; the switch with number `i` is for the `i`-th.
* `Switchboard.Turn` : the ways in which an event can go: it changes no switch, a new switch is
  called for, or a response to a switch settles.
-/

namespace GraphStore

/-- The workspace that an event asks a new switch for. -/
def Event.target? : Event → Option String
  | .call target => some target
  | _ => none

/-- A signal as it goes out. -/
structure Utterance where
  /-- The switch that sends it, if one does. -/
  speaker : Option Nat
  /-- The workspace on display at that moment, if there is one. -/
  display : Option String
  /-- What is sent. -/
  signal : Signal
  deriving DecidableEq

/-- The workspace that is announced to the user interface. -/
def Signal.loaded? : Signal → Option String
  | .ui (.workspaceLoaded workspace _) => some workspace.workspaceId
  | _ => none

/-- The workspace that a signal names. -/
def Signal.named? : Signal → Option String
  | .server (.setActiveWorkspace workspaceId _) => some workspaceId
  | .ui (.workspaceLoaded workspace _) => some workspace.workspaceId
  | _ => none

theorem Signal.named?_of_loaded {s : Signal} {r : String} (h : s.loaded? = some r) :
    s.named? = some r := by
  unfold loaded? at h
  split at h
  · exact h
  · cases h

theorem Signal.isAnnouncement_of_named {s : Signal} {r : String} (h : s.named? = some r) :
    s.isAnnouncement = true := by
  unfold named? at h
  split at h
  · rfl
  · rfl
  · cases h

/-- The announcement that the switch with a number makes by the utterance. -/
def Utterance.by? (number : Nat) (u : Utterance) : Option Signal :=
  if u.speaker = some number ∧ u.signal.isAnnouncement then some u.signal else none

/-- The announcements that the switch with a number makes, in order. -/
def saidBy (number : Nat) (us : List Utterance) : List Signal := us.filterMap (Utterance.by? number)

@[simp] theorem saidBy_nil (number : Nat) : saidBy number [] = [] := rfl

@[simp] theorem saidBy_append (number : Nat) (us vs : List Utterance) :
    saidBy number (us ++ vs) = saidBy number us ++ saidBy number vs :=
  List.filterMap_append

theorem mem_saidBy {number : Nat} {us : List Utterance} {s : Signal} :
    s ∈ saidBy number us ↔
      ∃ u ∈ us, u.speaker = some number ∧ s.isAnnouncement = true ∧ u.signal = s := by
  simp only [saidBy, List.mem_filterMap, Utterance.by?, Option.ite_none_right_eq_some,
    Option.some.injEq]
  constructor
  · rintro ⟨u, hu, ⟨hs, ha⟩, rfl⟩
    exact ⟨u, hu, hs, ha, rfl⟩
  · rintro ⟨u, hu, hs, ha, rfl⟩
    exact ⟨u, hu, ⟨hs, ha⟩, rfl⟩

namespace Switchboard

/-- The switchboard after events. -/
def after (b : Switchboard) (es : List Event) : Switchboard := (b.run es).1

/-- What an event makes the worker send. -/
def utterances (b : Switchboard) (e : Event) : List Utterance :=
  (b.perform e).2.sent.map fun s => ⟨e.number?, b.worker.focus.current, s⟩

/-- Everything sent while events happen. -/
def chronicle (b : Switchboard) : List Event → List Utterance
  | [] => []
  | e :: es => b.utterances e ++ chronicle (b.perform e).1 es

/-- The workspaces that switches are called for, in the order of the calls. -/
def targets (es : List Event) : List String := es.filterMap Event.target?

section

variable (b : Switchboard) (e : Event) (es fs : List Event)

@[simp] theorem after_nil : b.after [] = b := rfl

theorem after_append : b.after (es ++ fs) = (b.after es).after fs := by
  induction es generalizing b with
  | nil => rfl
  | cons e es ih => exact ih (b.perform e).1

theorem after_snoc : b.after (es ++ [e]) = ((b.after es).perform e).1 := after_append b es [e]

theorem chronicle_append :
    b.chronicle (es ++ fs) = b.chronicle es ++ (b.after es).chronicle fs := by
  induction es generalizing b with
  | nil => rfl
  | cons e es ih =>
    simp only [List.cons_append, chronicle, ih, List.append_assoc]
    rfl

theorem chronicle_snoc :
    b.chronicle (es ++ [e]) = b.chronicle es ++ (b.after es).utterances e := by
  rw [chronicle_append]
  simp [chronicle]

theorem mem_chronicle {u : Utterance} :
    u ∈ b.chronicle es ↔ ∃ p e q, es = p ++ e :: q ∧ u ∈ (b.after p).utterances e := by
  constructor
  · intro hu
    induction es generalizing b with
    | nil => cases hu
    | cons e es ih =>
      rcases List.mem_append.1 hu with hu | hu
      · exact ⟨[], e, es, rfl, hu⟩
      · obtain ⟨p, e', q, hes, hu⟩ := ih _ hu
        exact ⟨e :: p, e', q, by rw [hes]; rfl, hu⟩
  · rintro ⟨p, e, q, rfl, hu⟩
    rw [chronicle_append, List.mem_append]
    exact .inr (List.mem_append_left _ hu)

@[simp] theorem targets_append : targets (es ++ fs) = targets es ++ targets fs :=
  List.filterMap_append

theorem targets_snoc {es : List Event} {i : Nat} {r : String} (h : (targets es)[i]? = some r)
    (e : Event) : (targets (es ++ [e]))[i]? = some r := by
  obtain ⟨hlt, -⟩ := List.getElem?_eq_some_iff.1 h
  rw [targets_append, List.getElem?_append_left hlt, h]

end

/-! ### One event -/

/-- The ways in which an event can go: the switchboard after it, and what is sent. -/
inductive Turn (b : Switchboard) : Event → Switchboard × Emission → Prop
  /-- A switch is called for and is under way. -/
  | called {r user} (hu : b.worker.user = some user) :
    Turn b (.call r)
      (⟨b.worker.activate r, b.calls ++ [.pending ⟨r, user, none, none, none, none⟩]⟩, .none)
  /-- A switch is called for, but nobody is signed in. -/
  | refused {r} (hu : b.worker.user = none) :
    Turn b (.call r) (⟨b.worker, b.calls ++ [.ended (.error .notAuthenticated)]⟩, .none)
  /-- A response settles that its switch waits for. -/
  | settled {i endpoint response c} (hc : b.calls[i]? = some (.pending c))
    (ha : c.awaits endpoint = true) :
    Turn b (.settle i endpoint response)
      (⟨(c.settle b.worker endpoint response).1,
          b.calls.set i (c.settle b.worker endpoint response).2.1⟩,
        (c.settle b.worker endpoint response).2.2)
  /-- No switch changes, and nothing is announced. -/
  | other {e b' emission} (ht : e.target? = none) (hb : b'.calls = b.calls)
    (he : emission.announcements = []) (hi : e.number? ≠ none → b' = b) :
    Turn b e (b', emission)

theorem perform_cases (b : Switchboard) (e : Event) : Turn b e (b.perform e) := by
  cases e with
  | call r =>
    simp only [perform, call, Switch.start, Worker.requireUser]
    cases hu : b.worker.user with
    | none => exact .refused hu
    | some user => exact .called hu
  | settle i endpoint response =>
    simp only [perform, settle]
    split
    next c hc =>
      split
      next ha => exact .settled hc ha
      next ha => exact .other rfl rfl rfl fun _ => rfl
    next => exact .other rfl rfl rfl fun _ => rfl
  | intercept w response =>
    exact .other rfl rfl (b.worker.announcements_intake w (.ok response)) fun h => absurd rfl h
  | activate w => exact .other rfl rfl rfl fun h => absurd rfl h
  | deactivate => exact .other rfl rfl rfl fun h => absurd rfl h
  | signIn user => exact .other rfl rfl rfl fun h => absurd rfl h
  | signOut => exact .other rfl rfl rfl fun h => absurd rfl h
  | closeUi => exact .other rfl rfl rfl fun h => absurd rfl h
  | closeSocket => exact .other rfl rfl rfl fun h => absurd rfl h

/-- A call puts its workspace on display if somebody is signed in, and else does nothing to the
worker. -/
theorem worker_call (b : Switchboard) (r : String) :
    (b.perform (.call r)).1.worker =
      if b.worker.user.isSome then b.worker.activate r else b.worker := by
  have h := perform_cases b (.call r)
  generalize b.perform (.call r) = after at h
  cases h with
  | called hu => simp [hu]
  | refused hu => simp [hu]
  | other ht => cases ht

/-- A response that settles changes the store at most. -/
theorem sameLines_settle (b : Switchboard) (i : Nat) (endpoint : Endpoint)
    (response : Except WorkerError Json) :
    (b.perform (.settle i endpoint response)).1.worker.SameLines b.worker := by
  have h := perform_cases b (.settle i endpoint response)
  generalize b.perform (.settle i endpoint response) = after at h
  cases h with
  | @settled _ _ _ c => exact c.sameLines_settle b.worker endpoint response
  | other _ _ _ hi => rw [hi (by simp [Event.number?])]

/-- A switch announces what its own steps announce. -/
theorem saidBy_utterances (b : Switchboard) (e : Event) (i : Nat) :
    saidBy i (b.utterances e) =
      if e.number? = some i then (b.perform e).2.announcements else [] := by
  simp only [saidBy, utterances, List.filterMap_map, Emission.announcements]
  split
  next h =>
    rw [← List.filterMap_eq_filter]
    congr 1
    funext s
    simp [Utterance.by?, h, Option.guard]
  next h =>
    rw [List.filterMap_eq_nil_iff]
    intro s _
    simp [Utterance.by?, h]

/-! ### One switch -/

/-- What an event can make of the switch with a number, and what the switch announces then. -/
inductive Fate (b : Switchboard) (e : Event) (i : Nat) : Option Progress → List Signal → Prop
  /-- The event is not about it. -/
  | same : Fate b e i b.calls[i]? []
  /-- It is called for and under way. -/
  | called {r user} (he : e = .call r) (hi : i = b.calls.length)
    (hu : b.worker.user = some user) :
    Fate b e i (some (.pending ⟨r, user, none, none, none, none⟩)) []
  /-- It is called for, but nobody is signed in. -/
  | refused {r} (he : e = .call r) (hi : i = b.calls.length) (hu : b.worker.user = none) :
    Fate b e i (some (.ended (.error .notAuthenticated))) []
  /-- A response settles that it waits for. -/
  | settled {endpoint response c} (he : e = .settle i endpoint response)
    (hc : b.calls[i]? = some (.pending c)) (ha : c.awaits endpoint = true) :
    Fate b e i (some (c.settle b.worker endpoint response).2.1)
      (c.settle b.worker endpoint response).2.2.announcements

theorem fate (b : Switchboard) (e : Event) (i : Nat) :
    Fate b e i (b.perform e).1.calls[i]? (saidBy i (b.utterances e)) := by
  rw [saidBy_utterances]
  have h := perform_cases b e
  generalize b.perform e = r at h
  have hsame (hi : i ≠ b.calls.length) (p : Progress) :
      (b.calls ++ [p])[i]? = b.calls[i]? := by
    rcases Nat.lt_or_gt_of_ne hi with h | h
    · rw [List.getElem?_append_left h]
    · rw [List.getElem?_eq_none (by simp; omega), List.getElem?_eq_none (by omega)]
  cases h with
  | called hu =>
    by_cases hi : i = b.calls.length
    · simpa [Event.number?, hi] using Fate.called rfl hi hu
    · simpa [Event.number?, hsame hi] using Fate.same
  | refused hu =>
    by_cases hi : i = b.calls.length
    · simpa [Event.number?, hi] using Fate.refused rfl hi hu
    · simpa [Event.number?, hsame hi] using Fate.same
  | @settled j endpoint response c hc ha =>
    by_cases hj : j = i
    · subst hj
      obtain ⟨hlt, -⟩ := List.getElem?_eq_some_iff.1 hc
      simpa [Event.number?, hlt] using Fate.settled rfl hc ha
    · simpa [Event.number?, hj] using Fate.same
  | other ht hb he hi => simpa [hb, he] using Fate.same

theorem length_calls (w : Worker) (es : List Event) :
    (after ⟨w, []⟩ es).calls.length = (targets es).length := by
  induction es using List.reverseRecOn with
  | nil => rfl
  | append_singleton es e ih =>
    rw [after_snoc, targets_append, List.length_append, ← ih]
    have h := perform_cases (after ⟨w, []⟩ es) e
    generalize (after ⟨w, []⟩ es).perform e = r at h
    cases h with
    | called | refused => simp [targets, Event.target?]
    | settled => simp [targets, Event.target?]
    | other ht hb => simp [targets, ht, hb]

/-- A switch under way is for the workspace that it was called for. -/
theorem target_of_pending {w : Worker} {es : List Event} {i : Nat} {c : Switch}
    (h : (after ⟨w, []⟩ es).calls[i]? = some (.pending c)) : (targets es)[i]? = some c.target := by
  induction es using List.reverseRecOn generalizing c with
  | nil => simp at h
  | append_singleton es e ih =>
    have hf := fate (after ⟨w, []⟩ es) e i
    rw [← after_snoc, h] at hf
    generalize hp : some (Progress.pending c) = p at hf
    generalize saidBy i _ = said at hf
    cases hf with
    | same => exact targets_snoc (ih hp.symm) e
    | called he hi =>
      cases hp
      rw [length_calls] at hi
      simp [he, hi, targets, Event.target?]
    | refused => cases hp
    | settled he hc =>
      rw [targets_snoc (ih hc) e, Switch.target_settle (Option.some.inj hp).symm]

end Switchboard

end GraphStore
