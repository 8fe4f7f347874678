import GraphStore.Proofs.Worker.Attribution

/-!
# The newest switch has the last word

In a run that is undisturbed and in which nothing fails, the switch called for last loads its
workspace, and nobody announces another one after it was called for (`Switchboard.last_word`).
It does not matter what other switches are under way at that moment and which of their responses
come later.

* `Progress.OnTrack` : the newest switch has received nothing but what it asked for, and has
  announced its workspace once it could.  Every event keeps it so, since the workspace stays on
  display (`Switch.OnTrack.settle`).
* `Utterance.SpeaksFor` : an announcement is made for a workspace.
-/

namespace GraphStore

open Switch (opening)

/-- The announcements of a switch. -/
inductive Subject where
  /-- The workspace is announced to the server. -/
  | active
  /-- The workspace is announced to the user interface. -/
  | workspace
  /-- The edges are announced. -/
  | edges
  deriving DecidableEq

/-- What a signal announces. -/
def Signal.subject? : Signal → Option Subject
  | .server (.setActiveWorkspace _ _) => some .active
  | .ui (.workspaceLoaded _ _) => some .workspace
  | .ui (.edgesLoaded _) => some .edges
  | .ui (.storeObjectsUpdated _) => none

theorem Signal.isAnnouncement_of_subject {s : Signal} {t : Subject} (h : s.subject? = some t) :
    s.isAnnouncement = true := by
  unfold subject? at h
  split at h
  · rfl
  · rfl
  · rfl
  · cases h

/-- A switch for the workspace speaks, and it names no other one. -/
structure Utterance.SpeaksFor (asked : List String) (u : Utterance) (r : String) : Prop where
  /-- The switch that speaks is for the workspace. -/
  speaker : ∃ i, u.speaker = some i ∧ asked[i]? = some r
  /-- If a workspace is named, it is this one. -/
  named : ∀ r', u.signal.named? = some r' → r' = r

/-- What was said last on a subject. -/
def lastOn (t : Subject) (us : List Utterance) : Option Utterance :=
  us.reverse.find? fun u => u.signal.subject? = some t

theorem exists_lastOn (us : List Utterance) {vs : List Utterance} {u : Utterance} {t : Subject}
    (hu : u ∈ vs) (ht : u.signal.subject? = some t) :
    ∃ v ∈ vs, v.signal.subject? = some t ∧ lastOn t (us ++ vs) = some v := by
  obtain ⟨v, hv⟩ : ∃ v, vs.reverse.find? (fun u => u.signal.subject? = some t) = some v := by
    rw [← Option.isSome_iff_exists, List.find?_isSome]
    exact ⟨u, List.mem_reverse.2 hu, by simpa using ht⟩
  refine ⟨v, List.mem_reverse.1 (List.mem_of_find?_eq_some hv), ?_, ?_⟩
  · simpa using List.find?_some hv
  · rw [lastOn, List.reverse_append, List.find?_append, hv]
    rfl

/-- No request fails by the event, and the socket stays open. -/
def Event.smooth : Event → Bool
  | .closeSocket => false
  | e => e.succeeds

/-! ### A switch on track -/

namespace Switch

variable {w : Worker} {c : Switch} {endpoint : Endpoint} {response : Except WorkerError Json}

/-- What has come is what was asked for, and the workspace was announced if it was time. -/
structure OnTrack (c : Switch) : Prop where
  /-- The metadata are those of the workspace. -/
  faithful : c.Faithful
  /-- The metadata have not failed. -/
  metadata : ∀ x, c.metadata = some x → ∃ m, x = .ok m
  /-- The vertices have not failed. -/
  vertices : ∀ x, c.vertices = some x → ∃ v, x = .ok v
  /-- The edges have not failed. -/
  edges : ∀ x, c.edges = some x → ∃ es, x = .ok es
  /-- The workspace was announced if it was time. -/
  announcement : ∀ a, c.announcement = some a →
    ∃ m n, a = .ok (.spoken m n) ∧ m.workspaceId = c.target

theorem OnTrack.fresh (target user : String) :
    OnTrack ⟨target, user, none, none, none, none⟩ := by
  constructor <;> intro x hx <;> cases hx

theorem exists_ok_of_isOk {α ε : Type} {x : Except ε α} (h : x.isOk = true) : ∃ a, x = .ok a := by
  cases x with
  | error e => cases h
  | ok a => exact ⟨a, rfl⟩

theorem OnTrack.arrive (h : c.OnTrack) {i : Nat} {asked : List String}
    (hok : (Event.settle i endpoint response).succeeds = true)
    (he : (Event.settle i endpoint response).undisturbed asked = true)
    (hi : asked[i]? = some c.target) : (arrive w c endpoint response).2.1.OnTrack := by
  refine ⟨h.faithful.arrive he hi, fun x hx => ?_, fun x hx => ?_, fun x hx => ?_, ?_⟩
  · cases endpoint with
    | metadata => exact exists_ok_of_isOk (Option.some.inj hx ▸ hok)
    | vertices | edges => exact h.metadata x hx
  · cases endpoint with
    | vertices => exact exists_ok_of_isOk (Option.some.inj hx ▸ hok)
    | metadata | edges => exact h.vertices x hx
  · cases endpoint with
    | edges => exact exists_ok_of_isOk (Option.some.inj hx ▸ hok)
    | metadata | vertices => exact h.edges x hx
  · rw [announcement_arrive, target_arrive]
    exact h.announcement

theorem Announced.onTrack {r : Worker × Switch × Emission} (h : Announced w c r) (hc : c.OnTrack)
    (hf : w.focus.isOn c.target = true) (hs : w.socketOpen = true) : r.2.1.OnTrack := by
  cases h with
  | idle => exact hc
  | noMetadata _ hm =>
    obtain ⟨m, hm'⟩ := hc.metadata _ hm
    cases hm'
  | noVertices _ _ hv =>
    obtain ⟨v, hv'⟩ := hc.vertices _ hv
    cases hv'
  | withheld _ hm _ hoff =>
    rw [hc.faithful _ hm, hf] at hoff
    cases hoff
  | closed _ _ _ _ hclosed =>
    rw [hs] at hclosed
    cases hclosed
  | spoken _ hm =>
    refine ⟨hc.faithful, hc.metadata, hc.vertices, hc.edges, fun a ha => ?_⟩
    cases ha
    exact ⟨_, _, rfl, hc.faithful _ hm⟩

end Switch

/-- The switch for the workspace is on track, or has loaded it. -/
def Progress.OnTrack (r : String) : Progress → Prop
  | .pending c => c.target = r ∧ c.OnTrack
  | .ended result => ∃ m v n, result = .ok (.loaded m v n) ∧ m.workspaceId = r

namespace Switch

variable {w : Worker} {c : Switch} {endpoint : Endpoint} {response : Except WorkerError Json}

theorem Ended.onTrack {r : Progress × Emission} (h : Ended w c r) (hc : c.OnTrack)
    (hf : w.focus.isOn c.target = true) : r.1.OnTrack c.target := by
  cases h with
  | waiting => exact ⟨rfl, hc⟩
  | failed ha | withheld ha =>
    obtain ⟨m, n, heq, -⟩ := hc.announcement _ ha
    cases heq
  | noEdges _ he =>
    obtain ⟨es, heq⟩ := hc.edges _ he
    cases heq
  | overtaken _ _ hoff =>
    rw [hf] at hoff
    cases hoff
  | loaded ha =>
    obtain ⟨m, n, heq, hm⟩ := hc.announcement _ ha
    cases heq
    exact ⟨_, _, _, rfl, hm⟩

/-- A step keeps a switch on track while its workspace is on display and the socket is open. -/
theorem OnTrack.settle (h : c.OnTrack) {i : Nat} {asked : List String}
    (hok : (Event.settle i endpoint response).succeeds = true)
    (he : (Event.settle i endpoint response).undisturbed asked = true)
    (hi : asked[i]? = some c.target) (hf : w.focus.isOn c.target = true)
    (hs : w.socketOpen = true) : (c.settle w endpoint response).2.1.OnTrack c.target := by
  obtain ⟨w', c', said, p, last, ha, hend, heq⟩ := settle_parts w c endpoint response
  have hlines := sameLines_arrive w c endpoint response
  have htarget : c'.target = c.target := ha.target.trans (target_arrive w c endpoint response)
  have htrack : c'.OnTrack := by
    refine ha.onTrack (h.arrive hok he hi) ?_ (hlines.socketOpen.trans hs)
    rw [hlines.focus, target_arrive]
    exact hf
  have hfocus : w'.focus.isOn c'.target = true := by
    rw [ha.sameLines.focus, hlines.focus, htarget]
    exact hf
  rw [heq, ← htarget]
  exact hend.onTrack htrack hfocus

end Switch

namespace Switchboard

/-! ### The run after the last call -/

variable {w : Worker} {es before rest : List Event} {r : String}

theorem socketOpen_after (hs : w.socketOpen = true) (hsmooth : ∀ e ∈ es, e.smooth = true) :
    (after ⟨w, []⟩ es).worker.socketOpen = true := by
  induction es using List.reverseRecOn with
  | nil => exact hs
  | append_singleton es e ih =>
    have hopen := ih fun e' he' => hsmooth e' (List.mem_append_left _ he')
    rw [after_snoc, ← hopen]
    have hsmooth := hsmooth e (by simp)
    cases e with
    | closeSocket => cases hsmooth
    | call target =>
      rw [worker_call]
      split <;> rfl
    | settle i endpoint response => exact (sameLines_settle _ i endpoint response).socketOpen
    | intercept | activate | deactivate | signIn | signOut | closeUi => rfl

theorem targets_of_last (hlast : targets rest = []) :
    targets (before ++ .call r :: rest) = targets before ++ [r] := by
  have hcons : targets (.call r :: rest) = r :: targets rest := rfl
  rw [targets_append, hcons, hlast]

/-- From the last call on its workspace is on display. -/
theorem Undisturbed.current_of_last (h : Undisturbed (before ++ .call r :: rest))
    (hu : w.user.isSome) (hlast : targets rest = []) :
    (after ⟨w, []⟩ (before ++ .call r :: rest)).worker.focus.current = some r := by
  rw [(h.focus hu).2, targets_of_last hlast]
  simp

/-- The newest switch stays on track. -/
theorem Undisturbed.onTrack (h : Undisturbed (before ++ .call r :: rest)) (hu : w.user.isSome)
    (hs : w.socketOpen = true) (hlast : targets rest = [])
    (hsmooth : ∀ e ∈ before ++ .call r :: rest, e.smooth = true) :
    ∃ p, (after ⟨w, []⟩ (before ++ .call r :: rest)).calls[(targets before).length]? = some p ∧
      p.OnTrack r := by
  induction rest using List.reverseRecOn with
  | nil =>
    -- somebody is signed in, so the call starts a switch that has received nothing
    have huser := (h.of_snoc.focus hu).1
    have hcases := perform_cases (after ⟨w, []⟩ before) (.call r)
    rw [after_snoc, ← length_calls w before]
    generalize (after ⟨w, []⟩ before).perform (.call r) = b at hcases
    cases hcases with
    | @called _ user =>
      have hfresh : (Progress.pending ⟨r, user, none, none, none, none⟩).OnTrack r :=
        ⟨rfl, .fresh r user⟩
      exact ⟨_, by simp, hfresh⟩
    | refused hnone =>
      rw [hnone] at huser
      cases huser
    | other ht => cases ht
  | append_singleton es e ih =>
    obtain ⟨hlast', he⟩ := List.append_eq_nil_iff.1 ((targets_append es [e]).symm.trans hlast)
    have hsplit : before ++ .call r :: (es ++ [e]) = before ++ .call r :: es ++ [e] := by simp
    rw [hsplit] at h hsmooth ⊢
    have hsmooth' : ∀ e ∈ before ++ .call r :: es, e.smooth = true :=
      fun e' he' => hsmooth e' (List.mem_append_left _ he')
    obtain ⟨p, hp, htrack⟩ := ih h.of_snoc hlast' hsmooth'
    have hf := fate (after ⟨w, []⟩ (before ++ .call r :: es)) e (targets before).length
    rw [← after_snoc] at hf
    generalize (after ⟨w, []⟩ (before ++ .call r :: es ++ [e])).calls[(targets before).length]? =
      p' at hf ⊢
    generalize saidBy _ _ = said at hf
    cases hf with
    | same => exact ⟨p, hp, htrack⟩
    | called he' | refused he' =>
      subst he'
      cases he
    | @settled endpoint response c he' hc =>
      subst he'
      -- its workspace is still on display, since no other switch was called for
      obtain rfl : p = .pending c := Option.some.inj (hp.symm.trans hc)
      obtain ⟨rfl, htrack⟩ := htrack
      have hok : (Event.settle (targets before).length endpoint response).succeeds = true :=
        hsmooth (.settle (targets before).length endpoint response) (by simp)
      have hfocus := h.of_snoc.current_of_last hu hlast'
      exact ⟨_, rfl, htrack.settle hok h.last (targets_snoc (target_of_pending hc) _)
        (beq_iff_eq.2 hfocus) (socketOpen_after hs hsmooth')⟩

/-- What is announced from the last call on is announced for its workspace. -/
theorem Undisturbed.speaksFor_of_last (h : Undisturbed (before ++ .call r :: rest))
    (hu : w.user.isSome) (hlast : targets rest = []) {u : Utterance}
    (hmem : u ∈ (after ⟨w, []⟩ (before ++ [.call r])).chronicle rest)
    (ha : u.signal.isAnnouncement = true) :
    u.SpeaksFor (targets (before ++ .call r :: rest)) r := by
  have hrun : u ∈ chronicle ⟨w, []⟩ (before ++ .call r :: rest) := by
    rw [List.append_cons, chronicle_append, List.mem_append]
    exact .inr hmem
  have hdisplay : u.display = some r := by
    obtain ⟨p, e, q, rfl, hu'⟩ := (mem_chronicle _ _).1 hmem
    have hsplit : before ++ .call r :: (p ++ e :: q) = before ++ .call r :: p ++ e :: q := by simp
    have hjoin : before ++ [.call r] ++ p = before ++ .call r :: p := by simp
    rw [hsplit] at h
    rw [targets_append] at hlast
    rw [← after_append, hjoin] at hu'
    rw [display_of_mem hu']
    exact h.of_append.current_of_last hu (List.append_eq_nil_iff.1 hlast).1
  have hnamed (r' : String) (hr' : u.signal.named? = some r') : r' = r :=
    Option.some.inj ((display_of_named hrun hr').symm.trans hdisplay)
  obtain ⟨i, t, hi, ht, hapt⟩ := apt_chronicle hrun ha
  refine ⟨⟨i, hi, ?_⟩, hnamed⟩
  match hs : u.signal with
  | .server (.setActiveWorkspace r' user) =>
    have hr' : u.signal.named? = some r' := by rw [hs]; rfl
    rw [h.named_eq hrun hi hr', hnamed r' hr']
  | .ui (.workspaceLoaded m v) =>
    have hr' : u.signal.named? = some m.workspaceId := by rw [hs]; rfl
    rw [h.named_eq hrun hi hr', hnamed _ hr']
  | .ui (.edgesLoaded x) =>
    -- edges are announced while the workspace asked for is on display
    rw [hs] at hapt
    rw [ht, ← hdisplay]
    exact hapt.symm
  | .ui (.storeObjectsUpdated x) =>
    rw [hs] at ha
    cases ha

/-- The newest switch says all that it can say after it was called for. -/
theorem exists_on_subject {i : Nat} {m : Workspace} {v n : Nat}
    (hi : (targets before).length = i)
    (hended : (after ⟨w, []⟩ (before ++ .call r :: rest)).calls[i]? =
      some (.ended (.ok (.loaded m v n)))) (t : Subject) :
    ∃ u ∈ (after ⟨w, []⟩ (before ++ [.call r])).chronicle rest, u.signal.subject? = some t := by
  have hsilent : saidBy i (chronicle ⟨w, []⟩ (before ++ [.call r])) = [] := by
    have htold := told w before i
    rw [List.getElem?_eq_none (by rw [length_calls]; omega)] at htold
    have hnothing : (after ⟨w, []⟩ before).utterances (.call r) = [] := rfl
    rw [chronicle_snoc, hnothing, List.append_nil]
    exact htold
  obtain ⟨user, vs, x, hsaid⟩ : ∃ user vs x,
      saidBy i ((after ⟨w, []⟩ (before ++ [.call r])).chronicle rest) =
        opening m user vs ++ [.ui (.edgesLoaded x)] := by
    have htold := told w (before ++ .call r :: rest) i
    rw [hended, List.append_cons, chronicle_append, saidBy_append, hsilent] at htold
    exact htold
  obtain ⟨s, hs, ht⟩ : ∃ s ∈ opening m user vs ++ [.ui (.edgesLoaded x)], s.subject? = some t := by
    cases t <;> simp [opening, Signal.subject?]
  rw [← hsaid] at hs
  obtain ⟨u, hu, -, -, rfl⟩ := mem_saidBy.1 hs
  exact ⟨u, hu, ht⟩

/-- **The newest switch has the last word.**  When nothing but switches writes to the display, no
request fails, the server answers for the workspaces asked for and every switch runs to its end,
the switch called for last loads its workspace, which is on display in the end; on every subject
this workspace is announced last, and from the last call on no other one is announced. -/
theorem last_word (hu : w.user.isSome) (hs : w.socketOpen = true) (hlast : targets rest = [])
    (h : Undisturbed (before ++ .call r :: rest))
    (hsmooth : ∀ e ∈ before ++ .call r :: rest, e.smooth = true)
    (hquiet : (after ⟨w, []⟩ (before ++ .call r :: rest)).quiet = true) :
    let es := before ++ .call r :: rest
    (∃ m v n, (after ⟨w, []⟩ es).result? (targets before).length = some (.ok (.loaded m v n)) ∧
        m.workspaceId = r) ∧
      (after ⟨w, []⟩ es).worker.focus.current = some r ∧
      (∀ t, ∃ u, lastOn t (chronicle ⟨w, []⟩ es) = some u ∧ u.SpeaksFor (targets es) r) ∧
      ∀ u ∈ (after ⟨w, []⟩ (before ++ [.call r])).chronicle rest,
        u.signal.isAnnouncement = true → u.SpeaksFor (targets es) r := by
  intro es
  have hspeaks : ∀ u ∈ (after ⟨w, []⟩ (before ++ [.call r])).chronicle rest,
      u.signal.isAnnouncement = true → u.SpeaksFor (targets es) r :=
    fun u hmem ha => h.speaksFor_of_last hu hlast hmem ha
  obtain ⟨p, hp, htrack⟩ := h.onTrack hu hs hlast hsmooth
  cases p with
  | pending c =>
    have hended := List.all_eq_true.1 hquiet (.pending c) (List.mem_of_getElem? hp)
    cases hended
  | ended result =>
    obtain ⟨m, v, n, rfl, hm⟩ := htrack
    refine ⟨⟨m, v, n, by rw [result?, hp], hm⟩, h.current_of_last hu hlast, fun t => ?_, hspeaks⟩
    -- the newest switch speaks on every subject after it was called for
    obtain ⟨u, hmem, ht⟩ := exists_on_subject rfl hp t
    obtain ⟨v, hv, htv, hlastOn⟩ := exists_lastOn (chronicle ⟨w, []⟩ (before ++ [.call r])) hmem ht
    rw [← chronicle_append, ← List.append_cons] at hlastOn
    exact ⟨v, hlastOn, hspeaks v hv (Signal.isAnnouncement_of_subject htv)⟩

/-- The theorem applies to a switch to `w2` that is called for while one to `w1` has announced its
workspace and waits for its edges, which come in between. -/
theorem last_word_leftBehind :
    let before : List Event := [.call "w1", .settle 0 .metadata (.ok (metadataOf "w1")),
      .settle 0 .vertices (.ok (.obj []))]
    let rest : List Event := [.settle 1 .edges (.ok oneEdge), .settle 1 .vertices (.ok (.obj [])),
      .settle 0 .edges (.ok (.obj [])), .settle 1 .metadata (.ok (metadataOf "w2"))]
    let es := before ++ .call "w2" :: rest
    signedIn.user.isSome ∧ signedIn.socketOpen = true ∧ targets rest = [] ∧ Undisturbed es ∧
      (∀ e ∈ es, e.smooth = true) ∧ (after ⟨signedIn, []⟩ es).quiet = true ∧
      (∃ m v n, (after ⟨signedIn, []⟩ es).result? 1 = some (.ok (.loaded m v n)) ∧
        m.workspaceId = "w2") ∧
      (after ⟨signedIn, []⟩ es).worker.focus.current = some "w2" ∧
      (∀ t, ∃ u, lastOn t (chronicle ⟨signedIn, []⟩ es) = some u ∧
        u.SpeaksFor (targets es) "w2") ∧
      ∀ u ∈ (after ⟨signedIn, []⟩ (before ++ [.call "w2"])).chronicle rest,
        u.signal.isAnnouncement = true → u.SpeaksFor (targets es) "w2" := by
  intro before rest es
  have hlast : targets rest = [] := by decide
  have h : Undisturbed es := by decide +kernel
  have hsmooth : ∀ e ∈ es, e.smooth = true := by decide +kernel
  have hquiet : (after ⟨signedIn, []⟩ es).quiet = true := by decide +kernel
  exact ⟨by decide, by decide, hlast, h, hsmooth, hquiet,
    last_word (by decide) (by decide) hlast h hsmooth hquiet⟩

end Switchboard

end GraphStore
