import GraphStore.Proofs.Worker.Announcement
import GraphStore.Proofs.Worker.Requests

/-!
# What a superseded switch has said

A switch looks at the display twice: when it has metadata and vertices, and when it has everything.
If another workspace is on display the first time, the switch keeps silent for good.  If that
happens only the second time, it has already announced its workspace, although it ends as
superseded too.  So what a superseded switch has said depends on the first moment alone
(`Switchboard.superseded_says`), and how a switch ends does not tell whether the user interface has
heard of its workspace (`Switchboard.superseded_after_opening`).
-/

namespace GraphStore

open Switch (opening)

/-- The switch has dealt with its announcement, which did not fail, and has not announced its
edges. -/
def Progress.Decided : Progress → Prop
  | .pending c => ∃ a, c.announcement = some (.ok a)
  | .ended (.ok (.superseded _)) => True
  | .ended _ => False

namespace Switch

variable {w : Worker} {c : Switch}

/-- An announcement that does not fail was decided before, or is decided now by what is on
display. -/
theorem Announced.decided {r : Worker × Switch × Emission} (h : Announced w c r)
    (hd : (Progress.pending r.2.1).Decided) :
    (Progress.pending c).Decided ∧ r.2.2 = .none ∨
      c.announcement = none ∧ ∃ m v, c.ready? = some (m, v) ∧
        r.2.2.announcements = if w.focus.isOn m.workspaceId then opening m c.user v else [] := by
  cases h with
  | idle => exact .inl ⟨hd, rfl⟩
  | noMetadata | noVertices | closed =>
    obtain ⟨a, ha⟩ := hd
    cases ha
  | withheld h hm hv hf =>
    refine .inr ⟨h, _, _, ready?_of_parts h hm hv, ?_⟩
    rw [hf]
    rfl
  | spoken h hm hv hf =>
    refine .inr ⟨h, _, _, ready?_of_parts h hm hv, ?_⟩
    rw [if_pos hf]
    rfl

theorem Ended.decided {r : Progress × Emission} (h : Ended w c r) (hd : r.1.Decided) :
    (Progress.pending c).Decided ∧ r.2 = .none := by
  cases h with
  | waiting => exact ⟨hd, rfl⟩
  | failed | noEdges | loaded => cases hd
  | withheld ha | overtaken ha => exact ⟨⟨_, ha⟩, rfl⟩

theorem decided_settle {endpoint : Endpoint} {response : Except WorkerError Json}
    (hd : (c.settle w endpoint response).2.1.Decided) :
    (Progress.pending c).Decided ∧ (c.settle w endpoint response).2.2.announcements = [] ∨
      c.announcement = none ∧ ∃ m v,
        (arrive w c endpoint response).2.1.ready? = some (m, v) ∧
        ∃ user, (c.settle w endpoint response).2.2.announcements =
          if w.focus.isOn m.workspaceId then opening m user v else [] := by
  obtain ⟨w', c', said, p, last, ha, he, heq⟩ := settle_parts w c endpoint response
  rw [heq] at hd ⊢
  obtain ⟨hc', rfl⟩ := he.decided hd
  simp only [Emission.announcements_append, announcements_arrive, List.nil_append,
    Emission.announcements_none, List.append_nil]
  rcases ha.decided hc' with ⟨⟨a, hann⟩, hsaid⟩ | ⟨hann, m, v, hready, hsaid⟩
  · rw [announcement_arrive] at hann
    exact .inl ⟨⟨a, hann⟩, congrArg Emission.announcements hsaid⟩
  · rw [announcement_arrive] at hann
    rw [(sameLines_arrive w c endpoint response).focus] at hsaid
    exact .inr ⟨hann, m, v, hready, _, hsaid⟩

/-- A superseded switch reports the workspace that it is for. -/
theorem target_of_superseded {endpoint : Endpoint} {response : Except WorkerError Json}
    {r : String} (h : (c.settle w endpoint response).2.1 = .ended (.ok (.superseded r))) :
    r = c.target := by
  obtain ⟨w', c', said, p, last, ha, he, heq⟩ := settle_parts w c endpoint response
  rw [heq] at h
  subst h
  have htarget : c'.target = c.target := ha.target.trans (target_arrive w c endpoint response)
  cases he with
  | withheld | overtaken => exact htarget

end Switch

namespace Switchboard

/-- In a run the switch with number `i` came to have metadata and vertices, and it has announced
that workspace if it was on display then, and nothing else. -/
def SaidWhenComplete (w : Worker) (es : List Event) (i : Nat) : Prop :=
  ∃ p e q m v user, es = p ++ e :: q ∧ e.number? = some i ∧
    ((Requests.start w).after p).completed? e = some (m, v) ∧
    saidBy i (chronicle ⟨w, []⟩ es) =
      if (after ⟨w, []⟩ p).worker.focus.isOn m.workspaceId then opening m user v else []

variable {w : Worker} {es : List Event} {i : Nat}

theorem SaidWhenComplete.snoc (h : SaidWhenComplete w es i) {e : Event}
    (he : saidBy i ((after ⟨w, []⟩ es).utterances e) = []) :
    SaidWhenComplete w (es ++ [e]) i := by
  obtain ⟨p, e', q, m, v, user, rfl, hi, hcompleted, hsaid⟩ := h
  refine ⟨p, e', q ++ [e], m, v, user, by simp, hi, hcompleted, ?_⟩
  rw [chronicle_snoc, saidBy_append, he, List.append_nil, hsaid]

theorem saidWhenComplete {p : Progress} (hp : (after ⟨w, []⟩ es).calls[i]? = some p)
    (hd : p.Decided) : SaidWhenComplete w es i := by
  induction es using List.reverseRecOn generalizing p with
  | nil => simp at hp
  | append_singleton es e ih =>
    have hf := fate (after ⟨w, []⟩ es) e i
    rw [← after_snoc, hp] at hf
    generalize hp' : some p = p' at hf
    generalize hsaid : saidBy i _ = said at hf
    cases hf with
    | same => exact (ih hp'.symm hd).snoc hsaid
    | called =>
      cases hp'
      obtain ⟨a, ha⟩ := hd
      cases ha
    | refused =>
      cases hp'
      cases hd
    | @settled endpoint response c he hc ha =>
      cases hp'
      rcases Switch.decided_settle hd with ⟨hd, hnone⟩ | ⟨hann, m, v, hready, user, hopening⟩
      · exact (ih hc hd).snoc (hsaid.trans hnone)
      · -- this is the moment, and the switch has been silent up to now
        have hserves := (Requests.tracks w es).follows i
        rw [hc] at hserves
        have hsilent : saidBy i (chronicle ⟨w, []⟩ es) = [] := by
          have htold := told w es i
          rw [hc] at htold
          simpa [Told, hann] using htold
        subst he
        refine ⟨es, _, [], m, v, user, rfl, rfl, ?_, ?_⟩
        · rw [hserves.completed? ha (after ⟨w, []⟩ es).worker response, hready]
        · rw [chronicle_snoc, saidBy_append, hsilent, hsaid, hopening, List.nil_append]

theorem target_of_superseded {r : String}
    (h : (after ⟨w, []⟩ es).calls[i]? = some (.ended (.ok (.superseded r)))) :
    (targets es)[i]? = some r := by
  induction es using List.reverseRecOn with
  | nil => simp at h
  | append_singleton es e ih =>
    have hf := fate (after ⟨w, []⟩ es) e i
    rw [← after_snoc, h] at hf
    generalize hp : some (Progress.ended _) = p at hf
    generalize saidBy i _ = said at hf
    cases hf with
    | same => exact targets_snoc (ih hp.symm) e
    | called | refused => cases hp
    | settled he hc =>
      rw [Switch.target_of_superseded (Option.some.inj hp).symm]
      exact targets_snoc (target_of_pending hc) e

/-- **What a superseded switch has said.**  When it came to have metadata and vertices, it has
announced the workspace that the metadata name, if that was on display at that moment, and
otherwise nothing.  It has never announced its edges. -/
theorem superseded_says {r : String}
    (h : (after ⟨w, []⟩ es).result? i = some (.ok (.superseded r))) :
    (targets es)[i]? = some r ∧ SaidWhenComplete w es i := by
  have hended : (after ⟨w, []⟩ es).calls[i]? = some (.ended (.ok (.superseded r))) := by
    unfold result? at h
    split at h
    next result hresult => rw [hresult, Option.some.inj h]
    next => cases h
  exact ⟨target_of_superseded hended, saidWhenComplete hended trivial⟩

/-- A switch to `w1` announces its workspace, and is superseded before its edges come. -/
def overtakenLate : List Event :=
  [.call "w1", .settle 0 .metadata (.ok (metadataOf "w1")), .settle 0 .vertices (.ok (.obj [])),
    .call "w2", .settle 0 .edges (.ok (.obj []))]

/-- The theorem applies to a switch that has announced its workspace. -/
theorem superseded_says_overtaken :
    (after ⟨signedIn, []⟩ overtakenLate).result? 0 = some (.ok (.superseded "w1")) ∧
      (targets overtakenLate)[0]? = some "w1" ∧ SaidWhenComplete signedIn overtakenLate 0 := by
  have h : (after ⟨signedIn, []⟩ overtakenLate).result? 0 = some (.ok (.superseded "w1")) := by
    decide +kernel
  exact ⟨h, superseded_says h⟩

/-- A switch that ends as superseded has announced its workspace to the server and to the user
interface. -/
theorem superseded_after_opening :
    (after ⟨signedIn, []⟩ overtakenLate).result? 0 = some (.ok (.superseded "w1")) ∧
      (Outcome.superseded "w1").isLoaded = false ∧
      saidBy 0 (chronicle ⟨signedIn, []⟩ overtakenLate) =
        opening ⟨"w1", "w1", none, none, false, [], [], .empty⟩ "u1" [] := by
  decide +kernel

end Switchboard

end GraphStore
