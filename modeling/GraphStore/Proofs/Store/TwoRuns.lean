import GraphStore.Proofs.Store.Replica
import Mathlib.Data.List.Forall2

/-!
# Two runs side by side

Two desks carry out commands, some of which are the same and are watched, while either desk may
carry out others in between.  If the other commands do not lead out of a relation between the
desks, and the watched ones keep the relation and show alike, then so do the runs
(`Desk.Unwinding.run`): for every watched command the two desks show alike, whatever happens in
between.
-/

namespace GraphStore

namespace Desk

section

variable (watched : Command → Bool) (d : Desk)

/-- What the watched commands among `cs` answer and show, in order. -/
def outcomes (cs : List Command) : List (Reply × Emission) :=
  ((cs.zip (d.run cs).2).filter fun step => watched step.1).map Prod.snd

theorem outcomes_cons (c : Command) (cs : List Command) :
    d.outcomes watched (c :: cs) =
      (if watched c then [(d.perform c).2] else []) ++ (d.perform c).1.outcomes watched cs := by
  have hrun : (d.run (c :: cs)).2 = (d.perform c).2 :: ((d.perform c).1.run cs).2 := rfl
  rw [outcomes, hrun, List.zip_cons_cons, List.filter_cons]
  by_cases hc : watched c = true
  · simp [hc, outcomes]
  · simp [hc, outcomes]

theorem outcomes_append (cs ds : List Command) :
    d.outcomes watched (cs ++ ds) =
      d.outcomes watched cs ++ (d.reached cs).outcomes watched ds := by
  induction cs generalizing d with
  | nil => rfl
  | cons c cs ih =>
    rw [List.cons_append, outcomes_cons, outcomes_cons, ih, List.append_assoc]
    rfl

theorem outcomes_eq_run {cs : List Command} (h : ∀ c ∈ cs, watched c = true) :
    d.outcomes watched cs = (d.run cs).2 := by
  induction cs generalizing d with
  | nil => rfl
  | cons c cs ih =>
    rw [outcomes_cons, if_pos (h c List.mem_cons_self),
      ih _ fun c' hc' => h c' (List.mem_cons_of_mem c hc')]
    rfl

end

/-- A relation between desks that commands which are not watched do not lead out of, and that
watched commands keep; a watched command shows alike at related desks. -/
structure Unwinding (watched : Command → Bool) (Related : Desk → Desk → Prop)
    (Alike : Reply × Emission → Reply × Emission → Prop) : Prop where
  /-- The first desk may carry out a command that is not watched. -/
  left : ∀ {d e c}, Related d e → watched c = false → Related (d.perform c).1 e
  /-- The second desk may carry out a command that is not watched. -/
  right : ∀ {d e c}, Related d e → watched c = false → Related d (e.perform c).1
  /-- Both desks may carry out the same watched command. -/
  both : ∀ {d e c}, Related d e → watched c = true →
    Related (d.perform c).1 (e.perform c).1 ∧ Alike (d.perform c).2 (e.perform c).2

namespace Unwinding

variable {watched : Command → Bool} {Related : Desk → Desk → Prop}
  {Alike : Reply × Emission → Reply × Emission → Prop} {d e : Desk} {cs ds : List Command}

/-- Commands that are not watched show nothing and do not lead out of the relation. -/
theorem skip (h : Unwinding watched Related Alike) (hde : Related d e)
    (hds : ∀ c ∈ ds, watched c = false) :
    Related d (e.reached ds) ∧ e.outcomes watched ds = [] := by
  induction ds generalizing e with
  | nil => exact ⟨hde, rfl⟩
  | cons c ds ih =>
    have hc : watched c = false := hds c List.mem_cons_self
    obtain ⟨hrelated, hnone⟩ :=
      ih (h.right hde hc) fun c' hc' => hds c' (List.mem_cons_of_mem c hc')
    refine ⟨hrelated, ?_⟩
    rw [outcomes_cons, hnone, hc]
    rfl

/-- Two runs with the same watched commands show alike. -/
theorem run (h : Unwinding watched Related Alike) (hde : Related d e)
    (hcs : cs.filter watched = ds.filter watched) :
    Related (d.reached cs) (e.reached ds) ∧
      List.Forall₂ Alike (d.outcomes watched cs) (e.outcomes watched ds) := by
  induction cs generalizing d e ds with
  | nil =>
    have hds : ∀ c ∈ ds, watched c = false := by
      intro c hc
      simpa using List.filter_eq_nil_iff.1 hcs.symm c hc
    obtain ⟨hrelated, hnone⟩ := h.skip hde hds
    rw [hnone]
    exact ⟨hrelated, .nil⟩
  | cons c cs ih =>
    rw [outcomes_cons]
    cases hc : watched c with
    | false =>
      rw [List.filter_cons_of_neg (by simp [hc])] at hcs
      exact ih (h.left hde hc) hcs
    | true =>
      -- the second run comes to the same command after commands that are not watched
      rw [List.filter_cons_of_pos hc] at hcs
      obtain ⟨before, after, rfl, hbefore, -, hafter⟩ := List.filter_eq_cons_iff.1 hcs.symm
      obtain ⟨hskip, hnone⟩ := h.skip hde fun c' hc' => by simpa using hbefore c' hc'
      obtain ⟨hboth, halike⟩ := h.both hskip hc
      obtain ⟨hrelated, hrest⟩ := ih hboth hafter.symm
      rw [outcomes_append, hnone, outcomes_cons, hc, reached_append]
      exact ⟨hrelated, .cons halike hrest⟩

end Unwinding

end Desk

end GraphStore
