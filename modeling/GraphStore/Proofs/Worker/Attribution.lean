import GraphStore.Proofs.Worker.Undisturbed

/-!
# Whose edges are announced

The announcement of edges names no workspace, so the user interface takes them for edges of the
workspace announced to it last.  `Switchboard.lastLoaded_iff` says exactly when that is right: when
edges are announced for `r`, the workspace announced last is `r` unless the switch has been
`Overtaken`, that is, unless another workspace was announced after the switch announced `r`, and
none since then.  In that case `r` is on display only because of a newer switch to `r`, which has
not announced it yet.

That case does occur: `Switchboard.edges_after_other_workspace` leaves a workspace whose edges are
slow and comes back to it.  A switch asks whether its workspace is on display, not whether it has
been on display all the time.
-/

namespace GraphStore

/-- The workspace announced last to the user interface. -/
def lastLoaded (us : List Utterance) : Option String :=
  us.reverse.findSome? fun u => u.signal.loaded?

/-- After the switch with number `i` announced `r`, another workspace was announced, and none
since then. -/
def SpokenOver (us : List Utterance) (i : Nat) (r : String) : Prop :=
  ∃ before own between other after r',
    us = before ++ own :: between ++ other :: after ∧
      own.speaker = some i ∧ own.signal.loaded? = some r ∧
      other.signal.loaded? = some r' ∧ r' ≠ r ∧ ∀ u ∈ after, u.signal.loaded? = none

/-- The switch with number `i` has announced `r`, and then `r` was left and come back to. -/
structure Overtaken (asked : List String) (us : List Utterance) (i : Nat) (r : String) :
    Prop where
  /-- Another workspace was announced since, and after it none. -/
  left : SpokenOver us i r
  /-- The newest switch is another one for `r`, and has not announced it yet. -/
  rejoined : ∃ j, i < j ∧ j + 1 = asked.length ∧ asked[j]? = some r ∧
    ∀ u ∈ us, u.speaker = some j → u.signal.loaded? = none

/-- The response that settles, if one does, has what was asked for. -/
def Event.succeeds : Event → Bool
  | .settle _ .metadata response => (response.bind fun a => ofDecoded (readMetadata a)).isOk
  | .settle _ .vertices response => (response.bind fun a => ofDecoded (readVertices a)).isOk
  | .settle _ .edges response => (response.bind fun a => ofDecoded (readEdges a)).isOk
  | _ => true

/-! ### The workspace announced last -/

theorem lastLoaded_append_cons (us vs : List Utterance) {u : Utterance} {r : String}
    (hu : u.signal.loaded? = some r) (hvs : ∀ v ∈ vs, v.signal.loaded? = none) :
    lastLoaded (us ++ u :: vs) = some r := by
  have hnone : vs.reverse.findSome? (fun u => u.signal.loaded?) = none :=
    List.findSome?_eq_none_iff.2 fun v hv => hvs v (List.mem_reverse.1 hv)
  simp [lastLoaded, List.findSome?_append, hnone, hu]

theorem exists_of_lastLoaded {us : List Utterance} {r : String} (h : lastLoaded us = some r) :
    ∃ before u after, us = before ++ u :: after ∧ u.signal.loaded? = some r ∧
      ∀ v ∈ after, v.signal.loaded? = none := by
  obtain ⟨after, u, before, hus, hu, hafter⟩ := List.findSome?_eq_some_iff.1 h
  refine ⟨before.reverse, u, after.reverse, ?_, hu, fun v hv => hafter v (List.mem_reverse.1 hv)⟩
  rw [← List.reverse_reverse us, hus]
  simp

theorem lastLoaded_eq_none {us : List Utterance} (h : lastLoaded us = none) {u : Utterance}
    (hu : u ∈ us) : u.signal.loaded? = none :=
  List.findSome?_eq_none_iff.1 h u (List.mem_reverse.2 hu)

/-- A switch that has announced its workspace finds it announced last, unless it has been spoken
over. -/
theorem lastLoaded_eq_iff {us : List Utterance} {i : Nat} {r : String} {own : Utterance}
    (hown : own ∈ us) (hi : own.speaker = some i) (hr : own.signal.loaded? = some r) :
    lastLoaded us = some r ↔ ¬ SpokenOver us i r := by
  constructor
  · rintro h ⟨before, own, between, other, after, r', rfl, -, -, hother, hne, hafter⟩
    rw [lastLoaded_append_cons _ _ hother hafter] at h
    exact hne (Option.some.inj h)
  · intro hnot
    obtain ⟨before, rest, rfl⟩ := List.append_of_mem hown
    -- the last announcement stands in `rest`, or it is the switch's own
    cases hlast : lastLoaded rest with
    | none => exact lastLoaded_append_cons before rest hr fun v hv => lastLoaded_eq_none hlast hv
    | some r' =>
      obtain ⟨between, other, after, rfl, hother, hafter⟩ := exists_of_lastLoaded hlast
      have heq : before ++ own :: (between ++ other :: after) =
          before ++ own :: between ++ other :: after := by simp
      rw [heq] at hnot ⊢
      rw [lastLoaded_append_cons _ _ hother hafter]
      by_contra hne
      exact hnot ⟨before, own, between, other, after, r', rfl, hi, hr, hother,
        fun h => hne (h ▸ rfl), hafter⟩

/-- A switch that announces edges has announced a workspace before, and nothing else. -/
theorem Announces.opening_of_edges {said rest : List Signal} {x : List Edge}
    (h : Announces (said ++ .ui (.edgesLoaded x) :: rest)) :
    ∃ m user v, said = Switch.opening m user v := by
  generalize hl : said ++ _ :: rest = l at h
  cases h with
  | nothing => simp at hl
  | workspace m user v =>
    rcases said with _ | ⟨a, _ | ⟨b, said⟩⟩ <;> simp [Switch.opening] at hl
  | edges m user v y =>
    refine ⟨m, user, v, ?_⟩
    rcases said with _ | ⟨a, _ | ⟨b, _ | ⟨c, said⟩⟩⟩ <;> simp [Switch.opening] at hl ⊢
    exact ⟨hl.1, hl.2.1⟩

namespace Switchboard

/-! ### The newest switch -/

/-- A switch is spoken over while its workspace is on display only if a newer switch for the same
workspace keeps silent. -/
theorem rejoined_of_spokenOver {p q : List Utterance} {asked : List String} {i : Nat} {r : String}
    (h : SpokenOver (p ++ q) i r) (hi : i < (asked ++ [r]).length)
    (hp : ∀ u ∈ p, u.speaker = some asked.length → u.signal.loaded? = none)
    (hq : ∀ u ∈ q, ∀ r', u.signal.loaded? = some r' → r' = r) :
    ∃ j, i < j ∧ j + 1 = (asked ++ [r]).length ∧ (asked ++ [r])[j]? = some r ∧
      ∀ u ∈ p ++ q, u.speaker = some j → u.signal.loaded? = none := by
  obtain ⟨before, own, between, other, after, r', heq, hown, hr, hother, hne, hafter⟩ := h
  have hnotin : other ∉ q := fun h => hne (hq other h r' hother)
  -- so the other workspace is announced in `p`, and all of `q` comes after it
  obtain ⟨p', rfl, hqafter⟩ :
      ∃ p', p = before ++ own :: between ++ p' ∧ ∀ u ∈ q, u ∈ after := by
    rcases List.append_eq_append_iff.1 heq with ⟨q', -, rfl⟩ | ⟨p', rfl, hafter'⟩
    · exact absurd (by simp) hnotin
    · refine ⟨p', rfl, fun u hu => ?_⟩
      rcases List.cons_eq_append_iff.1 hafter' with ⟨rfl, rfl⟩ | ⟨p'', -, rfl⟩
      · exact absurd (by simp) hnotin
      · simp [hu]
  have hlt : i ≠ asked.length := by
    intro h
    rw [hp own (by simp) (h ▸ hown)] at hr
    cases hr
  refine ⟨asked.length, ?_, by simp, by simp, fun u hu hj => ?_⟩
  · rw [List.length_append, List.length_singleton] at hi
    omega
  · rcases List.mem_append.1 hu with hu | hu
    · exact hp u hu hj
    · exact hafter u (hqafter u hu)

/-- A switch to `w1` loads the workspace before a switch to `w2` loads another one; then a third
switch goes back to `w1`. -/
def awayAndBack : List Event :=
  [.call "w1", .settle 0 .metadata (.ok (metadataOf "w1")), .settle 0 .vertices (.ok (.obj [])),
    .call "w2", .settle 1 .metadata (.ok (metadataOf "w2")), .settle 1 .vertices (.ok (.obj [])),
    .settle 1 .edges (.ok (.obj [])), .call "w1"]

section

variable {w : Worker} {es : List Event} {e : Event} {before rest : List Utterance} {i : Nat}
  {display : Option String} {x : List Edge}

/-- A switch that announces edges has announced its workspace before, and has it on display. -/
theorem Undisturbed.own_of_edges (h : Undisturbed (es ++ [e]))
    (hu : (after ⟨w, []⟩ es).utterances e =
      before ++ ⟨some i, display, .ui (.edgesLoaded x)⟩ :: rest) :
    ∃ r, (targets es)[i]? = some r ∧ (after ⟨w, []⟩ es).worker.focus.current = some r ∧
      ∃ own ∈ chronicle ⟨w, []⟩ es ++ before,
        own.speaker = some i ∧ own.signal.loaded? = some r := by
  have hes := targets_of_utterances (b := after ⟨w, []⟩ es) (e := e) es (by simp [hu])
  have hchron : chronicle ⟨w, []⟩ (es ++ [e]) = chronicle ⟨w, []⟩ es ++ before ++
      ⟨some i, display, .ui (.edgesLoaded x)⟩ :: rest := by
    rw [chronicle_snoc, hu, List.append_assoc]
  obtain ⟨m, user, v, hopening⟩ : ∃ m user v,
      saidBy i (chronicle ⟨w, []⟩ es ++ before) = Switch.opening m user v := by
    have hself : saidBy i (⟨some i, display, .ui (.edgesLoaded x)⟩ :: rest) =
        .ui (.edgesLoaded x) :: saidBy i rest := by
      simp [saidBy, Utterance.by?, Signal.isAnnouncement]
    have := (told w (es ++ [e]) i).announces
    rw [hchron, saidBy_append, hself] at this
    exact this.opening_of_edges
  obtain ⟨own, hown, hspeaker, -, hsignal⟩ := mem_saidBy.1
    (show .ui (.workspaceLoaded m v) ∈ saidBy i (chronicle ⟨w, []⟩ es ++ before) by
      simp [hopening, Switch.opening])
  have hloaded : own.signal.loaded? = some m.workspaceId := by rw [hsignal]; rfl
  have htarget : (targets es)[i]? = some m.workspaceId := by
    rw [← hes]
    exact h.loaded_eq (by rw [hchron]; exact List.mem_append_left _ hown) hspeaker hloaded
  refine ⟨m.workspaceId, htarget, ?_, own, hown, hspeaker, hloaded⟩
  obtain ⟨j, r, hj, hr, hapt⟩ := apt_chronicle (u := ⟨some i, display, .ui (.edgesLoaded x)⟩)
    (by rw [hchron]; simp) rfl
  cases hj
  rw [hes, htarget] at hr
  rw [← display_of_mem (u := ⟨some i, display, .ui (.edgesLoaded x)⟩) (by rw [hu]; simp),
    Option.some.inj hr]
  exact hapt

/-- **Whose edges are announced.**  When nothing but switches changes what is on display and the
server answers for the workspaces asked for, a switch that announces edges finds its own workspace
announced last, unless it has been overtaken. -/
theorem lastLoaded_iff (hw : w.user.isSome) (h : Undisturbed (es ++ [e]))
    (hu : (after ⟨w, []⟩ es).utterances e =
      before ++ ⟨some i, display, .ui (.edgesLoaded x)⟩ :: rest) :
    ∃ r, (targets es)[i]? = some r ∧
      (lastLoaded (chronicle ⟨w, []⟩ es ++ before) = some r ↔
        ¬ Overtaken (targets es) (chronicle ⟨w, []⟩ es ++ before) i r) := by
  obtain ⟨r, htarget, hdisplay, own, hown, hspeaker, hloaded⟩ := h.own_of_edges hu
  refine ⟨r, htarget, ?_⟩
  rw [lastLoaded_eq_iff hown hspeaker hloaded, not_iff_not]
  refine ⟨fun hleft => ⟨hleft, ?_⟩, Overtaken.left⟩
  obtain ⟨asked, hasked⟩ := h.of_snoc.newest hw htarget hdisplay
  obtain ⟨p, q, hpq, hp, hq⟩ := h.of_snoc.split hw hasked
  have hi := (List.getElem?_eq_some_iff.1 htarget).1
  rw [hpq, List.append_assoc] at hleft
  rw [hasked] at hi
  rw [hasked, hpq, List.append_assoc]
  refine rejoined_of_spokenOver hleft hi hp fun u hu' r' hr' => ?_
  -- from the newest call on, `r` is on display, and no other workspace is announced
  have hmem : u ∈ chronicle ⟨w, []⟩ (es ++ [e]) := by
    rw [chronicle_snoc, hpq, hu]
    rcases List.mem_append.1 hu' with hu' | hu' <;> simp [hu']
  have hshown : u.display = some r := by
    rcases List.mem_append.1 hu' with hu' | hu'
    · exact hq u hu'
    · rw [← hdisplay]
      exact display_of_mem (by rw [hu]; exact List.mem_append_left _ hu')
  rw [display_of_loaded hmem hr'] at hshown
  exact Option.some.inj hshown

end

/-- The theorem applies to the edges of `w2`, which is announced last at that moment. -/
theorem lastLoaded_iff_of_away :
    signedIn.user.isSome ∧ Undisturbed (awayAndBack.take 6 ++ [.settle 1 .edges (.ok oneEdge)]) ∧
      ∃ r, (targets (awayAndBack.take 6))[1]? = some r ∧
        (lastLoaded (chronicle ⟨signedIn, []⟩ (awayAndBack.take 6) ++ []) = some r ↔
          ¬ Overtaken (targets (awayAndBack.take 6))
            (chronicle ⟨signedIn, []⟩ (awayAndBack.take 6) ++ []) 1 r) := by
  have hu : (after ⟨signedIn, []⟩ (awayAndBack.take 6)).utterances
      (.settle 1 .edges (.ok oneEdge)) =
      [] ++ ⟨some 1, some "w2", .ui (.edgesLoaded [.edge "e1" "knows" "v1" "v2"])⟩ :: [] := by
    decide +kernel
  exact ⟨by decide, by decide +kernel, lastLoaded_iff (by decide) (by decide +kernel) hu⟩

/-- The edges of `w1` are announced while `w2` is the workspace announced last. -/
theorem edges_after_other_workspace :
    signedIn.user.isSome ∧ signedIn.socketOpen = true ∧
      Undisturbed (awayAndBack ++ [.settle 0 .edges (.ok oneEdge)]) ∧
      (∀ e ∈ awayAndBack ++ [.settle 0 .edges (.ok oneEdge)], e.succeeds = true) ∧
      (targets awayAndBack)[0]? = some "w1" ∧
      (after ⟨signedIn, []⟩ awayAndBack).utterances (.settle 0 .edges (.ok oneEdge)) =
        [⟨some 0, some "w1", .ui (.edgesLoaded [.edge "e1" "knows" "v1" "v2"])⟩] ∧
      lastLoaded (chronicle ⟨signedIn, []⟩ awayAndBack) = some "w2" := by
  decide +kernel

end Switchboard

end GraphStore
