import GraphStore.Proofs.Worker.Announcement

/-!
# Undisturbed runs

In an `Undisturbed` run nothing but switches changes what is on display, whoever is signed in
stays signed in, and the server answers with the metadata of the workspace that was asked for.
Then the newest switch has its workspace on display (`Switchboard.Undisturbed.focus`), and a
switch announces no workspace but its own (`Switchboard.Undisturbed.loaded_eq`).

`Switchboard.Undisturbed.split` puts both together: what is said falls into a part in which the
newest switch has not announced its workspace and a part in which this workspace is on display.
-/

namespace GraphStore

/-- The event leaves the workspace on display and the user to the switches, and metadata that
come are those of the workspace asked for. -/
def Event.undisturbed (asked : List String) : Event → Bool
  | .activate _ | .deactivate | .signOut => false
  | .settle i .metadata (.ok a) =>
    match readMetadata a, asked[i]? with
    | .ok m, some r => m.workspaceId == r
    | _, _ => true
  | _ => true

theorem Event.undisturbed_metadata {asked : List String} {i : Nat} {a : Json} {m : Workspace}
    {r : String} (hm : readMetadata a = .ok m) (hi : asked[i]? = some r) :
    (Event.settle i .metadata (.ok a)).undisturbed asked = (m.workspaceId == r) := by
  simp only [Event.undisturbed]
  rw [hm, hi]

/-! ### Metadata of the workspace asked for -/

namespace Switch

variable {w : Worker} {c : Switch} {endpoint : Endpoint} {response : Except WorkerError Json}

theorem metadata_arrive {m : Workspace}
    (h : (arrive w c endpoint response).2.1.metadata = some (.ok m)) :
    c.metadata = some (.ok m) ∨
      ∃ a, endpoint = .metadata ∧ response = .ok a ∧ readMetadata a = .ok m := by
  cases endpoint with
  | vertices | edges => exact .inl h
  | metadata =>
    refine .inr ?_
    cases response with
    | error e => simp [arrive, Worker.receive, Except.bind] at h
    | ok a =>
      refine ⟨a, rfl, rfl, ?_⟩
      cases hm : readMetadata a <;>
        simp_all [arrive, Worker.receive, Except.bind, ofDecoded]

theorem named_settle {s : Signal} {r : String}
    (hs : s ∈ (c.settle w endpoint response).2.2.announcements) (hr : s.named? = some r) :
    ∃ m, (arrive w c endpoint response).2.1.metadata = some (.ok m) ∧ m.workspaceId = r := by
  obtain ⟨w', c', said, p, last, ha, he, heq⟩ := settle_parts w c endpoint response
  simp only [heq, Emission.announcements_append, announcements_arrive, List.nil_append,
    List.mem_append] at hs
  rcases hs with hs | hs
  · cases ha with
    | idle | noMetadata | noVertices | withheld | closed => cases hs
    | spoken _ hm =>
      refine ⟨_, hm, ?_⟩
      simp only [Emission.announcements, opening, List.mem_filter, List.mem_cons,
        List.not_mem_nil, or_false] at hs
      obtain ⟨rfl | rfl, -⟩ := hs <;> exact Option.some.inj hr
  · cases he with
    | waiting | failed | noEdges | withheld | overtaken => cases hs
    | loaded =>
      simp only [Emission.announcements, Emission.sent_ofMessages, List.mem_filter,
        List.map_cons, List.map_nil, List.mem_singleton] at hs
      obtain ⟨rfl, -⟩ := hs
      cases hr

/-- The metadata that have come are those of the workspace asked for. -/
def Faithful (c : Switch) : Prop :=
  ∀ m, c.metadata = some (.ok m) → m.workspaceId = c.target

theorem Faithful.arrive (h : c.Faithful) {i : Nat} {asked : List String}
    (he : (Event.settle i endpoint response).undisturbed asked = true)
    (hi : asked[i]? = some c.target) : (arrive w c endpoint response).2.1.Faithful := by
  intro m hm
  rw [target_arrive]
  rcases metadata_arrive hm with hm | ⟨a, rfl, rfl, hread⟩
  · exact h m hm
  · rw [Event.undisturbed_metadata hread hi] at he
    exact beq_iff_eq.1 he

theorem Faithful.settle (h : c.Faithful) {i : Nat} {asked : List String}
    (he : (Event.settle i endpoint response).undisturbed asked = true)
    (hi : asked[i]? = some c.target) {c' : Switch}
    (hc : (c.settle w endpoint response).2.1 = .pending c') : c'.Faithful := by
  obtain ⟨w₂, c₂, said, p, last, hs, hend, heq⟩ := settle_parts w c endpoint response
  rw [heq] at hc
  subst hc
  cases hend
  intro m hm
  rw [hs.target]
  exact h.arrive he hi m (hs.metadata ▸ hm)

end Switch

namespace Switchboard

/-- Nothing but switches writes to the display, the user stays signed in, and the server answers
with the metadata of the workspace asked for. -/
def Undisturbed (es : List Event) : Prop := ∀ e ∈ es, e.undisturbed (targets es) = true

instance (es : List Event) : Decidable (Undisturbed es) :=
  inferInstanceAs (Decidable (∀ e ∈ es, e.undisturbed (targets es) = true))

theorem Undisturbed.of_snoc {es : List Event} {e : Event} (h : Undisturbed (es ++ [e])) :
    Undisturbed es := by
  intro e' he'
  have := h e' (List.mem_append_left _ he')
  cases e' with
  | activate | deactivate | signOut => exact this
  | call | intercept | signIn | closeUi | closeSocket => rfl
  | settle i endpoint response =>
    match endpoint, response with
    | .vertices, _ | .edges, _ | .metadata, .error _ => rfl
    | .metadata, .ok a =>
      simp only [Event.undisturbed]
      split
      next m r hm hr => rwa [Event.undisturbed_metadata hm (targets_snoc hr e)] at this
      next => rfl

theorem Undisturbed.of_append {es fs : List Event} (h : Undisturbed (es ++ fs)) :
    Undisturbed es := by
  induction fs using List.reverseRecOn with
  | nil => rwa [List.append_nil] at h
  | append_singleton fs e ih =>
    rw [← List.append_assoc] at h
    exact ih h.of_snoc

theorem Undisturbed.last {es : List Event} {e : Event} (h : Undisturbed (es ++ [e])) :
    e.undisturbed (targets (es ++ [e])) = true := h e (by simp)

/-- A switch under way has the metadata of its workspace, if any. -/
theorem Undisturbed.faithful {w : Worker} {es : List Event} (h : Undisturbed es) {i : Nat}
    {c : Switch} (hc : (after ⟨w, []⟩ es).calls[i]? = some (.pending c)) : c.Faithful := by
  induction es using List.reverseRecOn generalizing c with
  | nil => simp at hc
  | append_singleton es e ih =>
    have hf := fate (after ⟨w, []⟩ es) e i
    rw [← after_snoc, hc] at hf
    generalize hp : some (Progress.pending c) = p at hf
    generalize saidBy i _ = said at hf
    cases hf with
    | same => exact ih h.of_snoc hp.symm
    | called =>
      cases hp
      intro m hm
      cases hm
    | refused => cases hp
    | settled he hc' =>
      subst he
      exact (ih h.of_snoc hc').settle h.last (targets_snoc (target_of_pending hc') _)
        (Option.some.inj hp).symm

/-- A switch announces no workspace but the one that it is for. -/
theorem Undisturbed.named_eq {w : Worker} {es : List Event} (h : Undisturbed es)
    {u : Utterance} (hu : u ∈ chronicle ⟨w, []⟩ es) {i : Nat} {r : String}
    (hi : u.speaker = some i) (hr : u.signal.named? = some r) : (targets es)[i]? = some r := by
  induction es using List.reverseRecOn with
  | nil => cases hu
  | append_singleton es e ih =>
    rw [chronicle_snoc, List.mem_append] at hu
    rcases hu with hu | hu
    · exact targets_snoc (ih h.of_snoc hu) e
    · have hmem : u.signal ∈ saidBy i ((after ⟨w, []⟩ es).utterances e) :=
        mem_saidBy.2 ⟨u, hu, hi, Signal.isAnnouncement_of_named hr, rfl⟩
      have hf := fate (after ⟨w, []⟩ es) e i
      generalize ((after ⟨w, []⟩ es).perform e).1.calls[i]? = p at hf
      generalize saidBy i _ = said at hf hmem
      cases hf with
      | same | called | refused => cases hmem
      | @settled endpoint response c he hc ha =>
        subst he
        have htarget := targets_snoc (target_of_pending hc) (.settle i endpoint response)
        obtain ⟨m, hm, rfl⟩ := Switch.named_settle hmem hr
        rw [(h.of_snoc.faithful hc).arrive h.last htarget m hm, Switch.target_arrive]
        exact htarget

theorem Undisturbed.loaded_eq {w : Worker} {es : List Event} (h : Undisturbed es)
    {u : Utterance} (hu : u ∈ chronicle ⟨w, []⟩ es) {i : Nat} {r : String}
    (hi : u.speaker = some i) (hr : u.signal.loaded? = some r) : (targets es)[i]? = some r :=
  h.named_eq hu hi (Signal.named?_of_loaded hr)

/-! ### The newest switch -/

/-- A step by which a signed-in user stays signed in, and what is on display after it. -/
theorem perform_undisturbed {b : Switchboard} {e : Event} {asked : List String}
    (hu : b.worker.user.isSome) (he : e.undisturbed asked = true) :
    (b.perform e).1.worker.user.isSome ∧
      (b.perform e).1.worker.focus.current = e.target?.or b.worker.focus.current := by
  cases e with
  | call r =>
    rw [worker_call, if_pos hu]
    exact ⟨hu, rfl⟩
  | settle i endpoint response =>
    have hlines := b.sameLines_settle i endpoint response
    exact ⟨hlines.user ▸ hu, hlines.focus ▸ rfl⟩
  | activate | deactivate | signOut => cases he
  | intercept w response => exact ⟨hu, rfl⟩
  | signIn user => exact ⟨rfl, rfl⟩
  | closeUi | closeSocket => exact ⟨hu, rfl⟩

/-- The newest switch has its workspace on display. -/
theorem Undisturbed.focus {w : Worker} (hw : w.user.isSome) {es : List Event}
    (h : Undisturbed es) :
    (after ⟨w, []⟩ es).worker.user.isSome ∧
      (after ⟨w, []⟩ es).worker.focus.current = (targets es).getLast?.or w.focus.current := by
  induction es using List.reverseRecOn with
  | nil => exact ⟨hw, rfl⟩
  | append_singleton es e ih =>
    obtain ⟨huser, hfocus⟩ := ih h.of_snoc
    obtain ⟨huser', hfocus'⟩ := perform_undisturbed huser h.last
    rw [after_snoc]
    refine ⟨huser', ?_⟩
    rw [hfocus', hfocus, targets_append, List.getLast?_append]
    cases he : e.target? <;> simp [targets, he]

theorem display_of_mem {b : Switchboard} {e : Event} {u : Utterance} (h : u ∈ b.utterances e) :
    u.display = b.worker.focus.current := by
  obtain ⟨s, -, rfl⟩ := List.mem_map.1 h
  rfl

theorem targets_of_utterances {b : Switchboard} {e : Event} (es : List Event)
    (h : b.utterances e ≠ []) : targets (es ++ [e]) = targets es := by
  cases e with
  | call r => exact absurd rfl h
  | _ => simp [targets, Event.target?]

/-- A workspace is named while it is on display. -/
theorem display_of_named {w : Worker} {es : List Event} {u : Utterance}
    (hu : u ∈ chronicle ⟨w, []⟩ es) {r : String} (hr : u.signal.named? = some r) :
    u.display = some r := by
  obtain ⟨i, target, -, -, hapt⟩ := apt_chronicle hu (Signal.isAnnouncement_of_named hr)
  unfold Signal.named? at hr
  split at hr
  next w user hs =>
    rw [hs] at hapt
    exact hapt.trans hr
  next m v hs =>
    rw [hs] at hapt
    exact hapt.trans hr
  next => cases hr

theorem display_of_loaded {w : Worker} {es : List Event} {u : Utterance}
    (hu : u ∈ chronicle ⟨w, []⟩ es) {r : String} (hr : u.signal.loaded? = some r) :
    u.display = some r :=
  display_of_named hu (Signal.named?_of_loaded hr)

/-- The chronicle falls into two parts: in the first the newest switch has not announced its
workspace yet, and in the second its workspace is on display. -/
theorem Undisturbed.split {w : Worker} (hw : w.user.isSome) {es : List Event}
    (h : Undisturbed es) {asked : List String} {r : String} (ht : targets es = asked ++ [r]) :
    ∃ p q, chronicle ⟨w, []⟩ es = p ++ q ∧
      (∀ u ∈ p, u.speaker = some asked.length → u.signal.loaded? = none) ∧
      ∀ u ∈ q, u.display = some r := by
  induction es using List.reverseRecOn with
  | nil => simp [targets] at ht
  | append_singleton es e ih =>
    rw [chronicle_snoc]
    cases he : e.target? with
    | some r' =>
      -- nobody has spoken by the number of the switch that is called for now
      have hes : targets es = asked := by
        rw [targets_append] at ht
        simp only [targets, List.filterMap_cons, he, List.filterMap_nil] at ht
        exact (List.append_inj' ht rfl).1
      cases e with
      | call target =>
        refine ⟨chronicle ⟨w, []⟩ es, [], rfl, fun u hu hi => ?_, by simp⟩
        cases hr : u.signal.loaded? with
        | none => rfl
        | some r'' =>
          have := h.of_snoc.loaded_eq hu hi hr
          simp [hes] at this
      | _ => cases he
    | none =>
      have hes : targets es = asked ++ [r] := by simpa [targets, he] using ht
      obtain ⟨p, q, hpq, hp, hq⟩ := ih h.of_snoc hes
      refine ⟨p, q ++ (after ⟨w, []⟩ es).utterances e, by rw [hpq, List.append_assoc], hp, ?_⟩
      intro u hu
      rcases List.mem_append.1 hu with hu | hu
      · exact hq u hu
      · rw [display_of_mem hu, (h.of_snoc.focus hw).2, hes]
        simp

/-- What a switch was called for and is on display now is what the newest switch is for. -/
theorem Undisturbed.newest {w : Worker} {es : List Event} (hw : w.user.isSome)
    (h : Undisturbed es) {i : Nat} {r : String} (hi : (targets es)[i]? = some r)
    (hr : (after ⟨w, []⟩ es).worker.focus.current = some r) :
    ∃ asked, targets es = asked ++ [r] := by
  rw [(h.focus hw).2] at hr
  cases hlast : (targets es).getLast? with
  | none =>
    rw [List.getLast?_eq_none_iff.1 hlast] at hi
    cases hi
  | some r' =>
    rw [hlast] at hr
    cases hr
    exact List.getLast?_eq_some_iff.1 hlast

end Switchboard

end GraphStore
