import Mathlib.Data.List.TakeWhile
import GraphStore.Json.Writer
import GraphStore.Proofs.Json.Canonical
import GraphStore.Proofs.Store.Records

/-!
# Replays, line by line

A replay takes in the responses of a capture, and what it does can be told from the lines: they are
cut out of the bytes, read as texts up to the first one that is none, and the texts that are JSON
are taken in as responses.

* `Text.lines_append` : bytes that end with a line end are cut into lines apart from what follows.
* `Json.parse?_of_blank` : a blank line is not JSON, so that a line is blank, a response or
  unreadable, and never two of these.
* `Store.absorbAll` : take in responses one after another.
* `Store.replays_by_lines` : what a replay does, how it counts, and how it stops; and that two
  captures, one after the other, are replayed like one.
-/

namespace GraphStore

/-! ### Lines -/

namespace Text

/-- Nothing, or bytes that end with a line feed: a new line begins behind them. -/
def EndsLine (bytes : List UInt8) : Prop := bytes = [] ∨ ∃ before, bytes = before ++ [lineFeed]

theorem linesFrom_append_lineFeed (line before after : List UInt8) :
    linesFrom line (before ++ lineFeed :: after) =
      linesFrom line (before ++ [lineFeed]) ++ lines after := by
  induction before generalizing line with
  | nil => simp [linesFrom, lines]
  | cons b before ih =>
    by_cases hb : b = lineFeed
    · simp [linesFrom, hb, ih]
    · simp [linesFrom, hb, ih]

/-- Behind a line end the lines begin anew. -/
theorem lines_append {bytes : List UInt8} (h : EndsLine bytes) (after : List UInt8) :
    lines (bytes ++ after) = lines bytes ++ lines after := by
  obtain rfl | ⟨before, rfl⟩ := h
  · rfl
  · rw [List.append_assoc, List.singleton_append]
    exact linesFrom_append_lineFeed [] before after

/-- The texts of lines, up to the first line that is not text. -/
def textsOf (lines : List (List UInt8)) : List (List Char) :=
  (lines.takeWhile fun line => (Utf8.decode? line).isSome).filterMap Utf8.decode?

section

variable {line : List UInt8} {lines : List (List UInt8)}

theorem textsOf_of_none (h : Utf8.decode? line = none) : textsOf (line :: lines) = [] := by
  simp [textsOf, h]

theorem textsOf_of_some {text : List Char} (h : Utf8.decode? line = some text) :
    textsOf (line :: lines) = text :: textsOf lines := by
  simp [textsOf, h]

theorem textsOf_cases (lines : List (List UInt8)) :
    lines.map Utf8.decode? = (textsOf lines).map some ∨
      ∃ before line after, lines = before ++ line :: after ∧
        before.map Utf8.decode? = (textsOf lines).map some ∧ Utf8.decode? line = none := by
  induction lines with
  | nil => exact .inl rfl
  | cons line lines ih =>
    cases hline : Utf8.decode? line with
    | none =>
      rw [textsOf_of_none hline]
      exact .inr ⟨[], line, lines, rfl, rfl, hline⟩
    | some text =>
      rw [textsOf_of_some hline]
      obtain hall | ⟨before, bad, after, rfl, hbefore, hbad⟩ := ih
      · exact .inl (by rw [List.map_cons, List.map_cons, hline, hall])
      · refine .inr ⟨line :: before, bad, after, rfl, ?_, hbad⟩
        rw [List.map_cons, List.map_cons, hline, hbefore]

theorem map_decode?_eq (h : ∀ line ∈ lines, Utf8.decode? line ≠ none) :
    lines.map Utf8.decode? = (textsOf lines).map some := by
  obtain hall | ⟨before, line, after, rfl, -, hbad⟩ := textsOf_cases lines
  · exact hall
  · exact absurd hbad (h line (by simp))

theorem decode?_ne_none {texts : List (List Char)} (h : lines.map Utf8.decode? = texts.map some) :
    ∀ line ∈ lines, Utf8.decode? line ≠ none := by
  intro line hline hnone
  have hmem : Utf8.decode? line ∈ texts.map some := h ▸ List.mem_map_of_mem hline
  rw [hnone] at hmem
  simp at hmem

theorem textsOf_append_cons {before : List (List UInt8)}
    (h : ∀ line ∈ before, Utf8.decode? line ≠ none) (hline : Utf8.decode? line = none)
    (after : List (List UInt8)) : textsOf (before ++ line :: after) = textsOf before := by
  have hsome : ∀ l ∈ before, (Utf8.decode? l).isSome = true := fun l hl =>
    Option.isSome_iff_ne_none.2 (h l hl)
  rw [textsOf, List.takeWhile_append_of_pos hsome, List.takeWhile_cons_of_neg (by simp [hline]),
    List.append_nil, textsOf, List.takeWhile_eq_self_iff.2 hsome]

end

end Text

/-! ### Blank texts -/

namespace Json

theorem stepBetween_of_isBlank {c : Char} (h : Text.isBlank c = true) :
    stepBetween c = some (.between, none) ∨ stepBetween c = none := by
  have hfar : c.toNat ≤ 0x20 ∨ 0x85 ≤ c.toNat := by
    simp only [Text.isBlank, Bool.or_eq_true, Bool.and_eq_true, decide_eq_true_eq, beq_iff_eq] at h
    omega
  by_cases hs : isSpace c = true
  · exact .inl (by simp [stepBetween, hs])
  · right
    have hne (d : Char) (hd : 0x20 < d.toNat ∧ d.toNat < 0x85) : c ≠ d := by
      rintro rfl
      omega
    have halphanum : c.isAlphanum = false := by
      rw [Bool.eq_false_iff]
      intro hc
      delta Char.isAlphanum Char.isAlpha Char.isUpper Char.isLower Char.isDigit at hc
      simp only [Bool.or_eq_true, Bool.and_eq_true, decide_eq_true_eq, UInt32.le_iff_toNat_le,
        ge_iff_le, Char.reduceVal, UInt32.reduceToNat] at hc
      have hval : c.toNat = c.val.toNat := rfl
      omega
    have hword : isWordChar c = false := by simp [isWordChar, halphanum, hne]
    have hpunct : punctuation? c = none := by
      unfold punctuation?
      split
      all_goals first | rfl | (exfalso; revert hfar; decide)
    simp [stepBetween, hs, hword, hpunct, hne]

theorem tokensFrom_of_blank {cs : List Char} (h : cs.all Text.isBlank = true) :
    tokensFrom .between cs = some [] ∨ tokensFrom .between cs = none := by
  induction cs with
  | nil => exact .inl rfl
  | cons c cs ih =>
    rw [List.all_cons, Bool.and_eq_true] at h
    obtain hc | hc := stepBetween_of_isBlank h.1
    · obtain hcs | hcs := ih h.2
      · exact .inl (by simp [tokensFrom, step, hc, hcs])
      · exact .inr (by simp [tokensFrom, step, hc, hcs])
    · exact .inr (by simp [tokensFrom, step, hc])

theorem parse?_of_blank {cs : List Char} (h : cs.all Text.isBlank = true) : parse? cs = none := by
  unfold parse? parseWithin? tokens?
  obtain hts | hts := tokensFrom_of_blank h
  · rw [hts]
    rfl
  · rw [hts]
    rfl

end Json

/-! ### The lines of a capture -/

theorem CaptureLine.of_cases (text : List Char) :
    (text.all Text.isBlank = true ∧ Json.parse? text = none ∧ of text = .blank) ∨
      (text.all Text.isBlank = false ∧ ∃ a, Json.parse? text = some a ∧ of text = .response a) ∨
      (text.all Text.isBlank = false ∧ Json.parse? text = none ∧ of text = .unreadable) := by
  unfold of
  cases hblank : text.all Text.isBlank with
  | true => exact .inl ⟨rfl, Json.parse?_of_blank hblank, if_pos rfl⟩
  | false =>
    rw [if_neg Bool.false_ne_true]
    cases hparse : Json.parse? text with
    | some a => exact .inr (.inl ⟨rfl, a, rfl, rfl⟩)
    | none => exact .inr (.inr ⟨rfl, rfl, rfl⟩)

/-- The batches of a capture are those of the responses in it. -/
theorem Batch.ofLines_eq (lines : List (List UInt8)) :
    ofLines lines = ((Text.textsOf lines).filterMap Json.parse?).flatMap ofResponse := by
  induction lines with
  | nil => rfl
  | cons line lines ih =>
    unfold ofLines
    cases hline : Text.Utf8.decode? line with
    | none =>
      rw [Text.textsOf_of_none hline]
      rfl
    | some text =>
      rw [Text.textsOf_of_some hline]
      simp only [ih]
      obtain ⟨-, hparse, hof⟩ | ⟨-, a, hparse, hof⟩ | ⟨-, hparse, hof⟩ := CaptureLine.of_cases text
      · rw [hof, List.filterMap_cons_none hparse]
        rfl
      · rw [hof, List.filterMap_cons_some hparse, List.flatMap_cons]
        rfl
      · rw [hof, List.filterMap_cons_none hparse]
        rfl

namespace ReplayTotals

variable (tally : Tally)

/-- Lines that are texts are counted, each once. -/
theorem ofLines_of_texts {lines : List (List UInt8)} {texts : List (List Char)}
    (h : lines.map Text.Utf8.decode? = texts.map some) :
    ∃ skipped, ofLines tally lines =
        .ok ⟨(texts.filterMap Json.parse?).length, skipped, tally⟩ ∧
      (texts.filterMap Json.parse?).length + skipped +
        texts.countP (fun text => text.all Text.isBlank) = lines.length := by
  induction lines generalizing texts with
  | nil =>
    obtain rfl : texts = [] := List.map_eq_nil_iff.mp h.symm
    exact ⟨0, rfl, rfl⟩
  | cons line lines ih =>
    cases texts with
    | nil => cases h
    | cons text texts =>
      obtain ⟨hline, hlines⟩ := List.cons.inj h
      obtain ⟨skipped, hof, hcount⟩ := ih hlines
      have hadd (r : ReplayTotals) (hr : (ofLine (.of text)).merge
          ⟨(texts.filterMap Json.parse?).length, skipped, tally⟩ = r) :
          ofLines tally (line :: lines) = .ok r := by
        subst hr
        simp only [ofLines, hline, hof]
        rfl
      rw [List.countP_cons, List.length_cons]
      -- the line is blank, or it is JSON, or it is skipped
      obtain ⟨hblank, hparse, hof⟩ | ⟨hblank, a, hparse, hof⟩ | ⟨hblank, hparse, hof⟩ :=
        CaptureLine.of_cases text <;> rw [hof] at hadd
      · rw [List.filterMap_cons_none hparse, if_pos hblank]
        refine ⟨skipped, hadd _ ?_, by omega⟩
        simp [ofLine, merge, zero, Tally.zero_merge]
      · rw [List.filterMap_cons_some hparse, List.length_cons, if_neg (by simp [hblank])]
        refine ⟨skipped, hadd _ ?_, by omega⟩
        simp [ofLine, merge, Tally.zero_merge, Nat.add_comm 1]
      · rw [List.filterMap_cons_none hparse, if_neg (by simp [hblank])]
        refine ⟨skipped + 1, hadd _ ?_, by omega⟩
        simp [ofLine, merge, Tally.zero_merge, Nat.add_comm 1]

theorem map_zero_merge (result : Except ReplayError ReplayTotals) :
    result.map zero.merge = result := by
  cases result with
  | error e => rfl
  | ok totals => simp [Except.map, merge, zero, Tally.zero_merge]

theorem map_merge_merge (a b : ReplayTotals) (result : Except ReplayError ReplayTotals) :
    (result.map b.merge).map a.merge = result.map (a.merge b).merge := by
  cases result with
  | error e => rfl
  | ok totals => simp only [Except.map, merge_assoc]

/-- A line that is not text ends the replay. -/
theorem ofLines_of_none {before after : List (List UInt8)} {line : List UInt8}
    (h : Text.Utf8.decode? line = none) :
    ofLines tally (before ++ line :: after) = .error .notText := by
  induction before with
  | nil => simp only [List.nil_append, ofLines, h]
  | cons first before ih =>
    simp only [List.cons_append, ofLines, ih]
    cases Text.Utf8.decode? first <;> rfl

theorem ofLines_eq_error_iff {lines : List (List UInt8)} :
    ofLines tally lines = .error .notText ↔ ∃ line ∈ lines, Text.Utf8.decode? line = none := by
  obtain hall | ⟨before, line, after, hlines, -, hline⟩ := Text.textsOf_cases lines
  · obtain ⟨skipped, hof, -⟩ := ofLines_of_texts tally hall
    rw [hof]
    exact ⟨nofun, fun ⟨line, hline, hnone⟩ => absurd hnone (Text.decode?_ne_none hall line hline)⟩
  · rw [hlines, ofLines_of_none tally hline]
    exact ⟨fun _ => ⟨line, by simp, hline⟩, fun _ => rfl⟩

theorem map_decode?_of_ok {lines : List (List UInt8)} {totals : ReplayTotals}
    (h : ofLines tally lines = .ok totals) :
    lines.map Text.Utf8.decode? = (Text.textsOf lines).map some := by
  refine Text.map_decode?_eq fun line hline hnone => ?_
  have herror := (ofLines_eq_error_iff tally).2 ⟨line, hline, hnone⟩
  rw [h] at herror
  cases herror

end ReplayTotals

namespace Store

variable (s : Store) (focus : Focus) (w : String)

/-- Take in responses, one after another. -/
def absorbAll (s : Store) (focus : Focus) (w : String) : List Json → Store × Tally × Emission
  | [] => (s, .zero, .none)
  | response :: rest =>
    let (s, tally, emission) := s.absorb focus w response
    let (s, tally', emission') := absorbAll s focus w rest
    (s, tally.merge tally', emission ++ emission')

theorem absorbAll_eq (responses : List Json) :
    s.absorbAll focus w responses = s.takeIn focus w (responses.flatMap Batch.ofResponse) := by
  induction responses generalizing s with
  | nil => rfl
  | cons response responses ih =>
    rw [List.flatMap_cons, takeIn_append, ← ih, ← absorb_eq]
    rfl

/-- To replay more lines is to replay them after the others. -/
theorem replayLines_append {lines : List (List UInt8)} {totals : ReplayTotals}
    (h : (s.replayLines focus w lines).2.1 = .ok totals) (more : List (List UInt8)) :
    s.replayLines focus w (lines ++ more) =
      (((s.replayLines focus w lines).1.replayLines focus w more).1,
        ((s.replayLines focus w lines).1.replayLines focus w more).2.1.map totals.merge,
        (s.replayLines focus w lines).2.2 ++
          ((s.replayLines focus w lines).1.replayLines focus w more).2.2) := by
  induction lines generalizing s totals with
  | nil =>
    obtain rfl : ReplayTotals.zero = totals := Except.ok.inj h
    simp only [List.nil_append, replayLines, Emission.none_append, ReplayTotals.map_zero_merge]
  | cons line lines ih =>
    simp only [List.cons_append, replayLines] at h ⊢
    -- the first lines were replayed to the end, so each of them is a text
    cases hline : Text.Utf8.decode? line with
    | none => simp [hline] at h
    | some text =>
      simp only [hline] at h ⊢
      cases hrest : ((s.replayLine focus w text).1.replayLines focus w lines).2.1 with
      | error e => simp [hrest, Except.map] at h
      | ok later =>
        obtain rfl : (s.replayLine focus w text).2.1.merge later = totals := by
          simpa [hrest, Except.map] using h
        rw [ih _ hrest]
        refine Prod.ext rfl (Prod.ext ?_ (Emission.append_assoc ..).symm)
        exact ReplayTotals.map_merge_merge ..

/-- What a replay does, line by line: it takes in the JSON lines in order, up to the first line that
is not text.  Without such a line it ends well and counts each line once, and what follows a line
end is replayed like a capture of its own; with such a line it fails and has done what the lines
before it do. -/
theorem replays_by_lines (capture : List UInt8) :
    let lines := Text.lines capture
    let texts := Text.textsOf lines
    let responses := texts.filterMap Json.parse?
    let absorbed := s.absorbAll focus w responses
    let replayed := s.replay focus w capture
    replayed.1 = absorbed.1 ∧ replayed.2.2 = absorbed.2.2 ∧
      (replayed.2.1 = .error .notText ↔ ∃ line ∈ lines, Text.Utf8.decode? line = none) ∧
      (∀ totals, replayed.2.1 = .ok totals →
        lines.map Text.Utf8.decode? = texts.map some ∧
          totals.responses = responses.length ∧ totals.tally = absorbed.2.1 ∧
          totals.responses + totals.skipped + texts.countP (fun text => text.all Text.isBlank) =
            lines.length ∧
          (Text.EndsLine capture → ∀ more,
            let next := replayed.1.replay focus w more
            s.replay focus w (capture ++ more) =
              (next.1, next.2.1.map totals.merge, replayed.2.2 ++ next.2.2))) ∧
      ∀ before line after, lines = before ++ line :: after →
        (∀ l ∈ before, Text.Utf8.decode? l ≠ none) → Text.Utf8.decode? line = none →
        ∃ totals, s.replayLines focus w before = (replayed.1, .ok totals, replayed.2.2) := by
  intro lines texts responses absorbed replayed
  have htaken : s.takeIn focus w (Batch.ofLines lines) = absorbed := by
    rw [Batch.ofLines_eq, ← absorbAll_eq]
  have hreplayed : replayed = (absorbed.1, ReplayTotals.ofLines absorbed.2.1 lines, absorbed.2.2) :=
    (s.replayLines_eq focus w lines).trans (by rw [htaken])
  refine ⟨by rw [hreplayed], by rw [hreplayed], ?_, fun totals htotals => ?_,
    fun before line after hlines hbefore hline => ?_⟩
  · rw [hreplayed]
    exact ReplayTotals.ofLines_eq_error_iff absorbed.2.1
  · have hall : lines.map Text.Utf8.decode? = texts.map some :=
      ReplayTotals.map_decode?_of_ok absorbed.2.1 (by rw [← htotals, hreplayed])
    obtain ⟨skipped, hof, hcount⟩ := ReplayTotals.ofLines_of_texts absorbed.2.1 hall
    obtain rfl : ⟨responses.length, skipped, absorbed.2.1⟩ = totals := by
      rw [hreplayed, hof] at htotals
      exact Except.ok.inj htotals
    refine ⟨hall, rfl, rfl, hcount, fun hends more => ?_⟩
    rw [show s.replay focus w (capture ++ more) = s.replayLines focus w (lines ++ Text.lines more)
      from congrArg _ (Text.lines_append hends more)]
    exact s.replayLines_append focus w htotals (Text.lines more)
  · obtain ⟨skipped, hof, -⟩ := ReplayTotals.ofLines_of_texts
      (s.takeIn focus w (Batch.ofLines before)).2.1 (Text.map_decode?_eq hbefore)
    -- from the line that is not text on nothing is taken in
    have hbatches : Batch.ofLines before = Batch.ofLines lines := by
      rw [Batch.ofLines_eq, Batch.ofLines_eq, hlines, Text.textsOf_append_cons hbefore hline]
    rw [replayLines_eq, hof, hbatches, htaken, hreplayed]
    exact ⟨_, rfl⟩

/-- The text of a vertex. -/
def vertexText (status : SandboxStatus) : List Char := (Entity.vertex "v1" status).write.chars

/-- A response, a blank line and a line that is not JSON; the first one ends with a carriage return
and a line feed. -/
def captured : List UInt8 :=
  Text.Utf8.encode (vertexText .published ++ "\r\n \nnot JSON\n".toList)

/-- A response that changes the vertex of the other one, without a line end. -/
def revised : List UInt8 := Text.Utf8.encode (vertexText .unpublished)

/-- The theorem applies to two captures, one after the other, and to a line that is not text behind
them. -/
theorem replays_by_lines_captured :
    let s := Store.new ⟨2, []⟩ true
    let focus := Focus.none.set "w"
    let both := captured ++ revised
    let broken := both ++ [Text.lineFeed, 0xFF]
    (s.replay focus "w" captured).2.1 = .ok ⟨1, 1, ⟨1, 0, 0, false⟩⟩ ∧
      (Text.lines both).length = 4 ∧
      (s.replay focus "w" both).1 =
        ((s.replay focus "w" captured).1.replay focus "w" revised).1 ∧
      (s.replay focus "w" both).2.1 = .ok ⟨2, 1, ⟨1, 0, 1, true⟩⟩ ∧
      (s.replay focus "w" broken).1 = (s.replay focus "w" both).1 ∧
      (s.replay focus "w" broken).2.1 = .error .notText := by
  intro s focus both broken
  have hfirst : (s.replay focus "w" captured).2.1 = .ok ⟨1, 1, ⟨1, 0, 0, false⟩⟩ := by
    decide +kernel
  have hsecond : ((s.replay focus "w" captured).1.replay focus "w" revised).2.1 =
      .ok ⟨1, 0, ⟨0, 0, 1, true⟩⟩ := by decide +kernel
  have hends : Text.EndsLine captured := .inr ⟨captured.dropLast, by decide +kernel⟩
  have hlines : Text.lines broken = Text.lines both ++ [[0xFF]] := by decide +kernel
  obtain ⟨-, -, -, hok, -⟩ := replays_by_lines s focus "w" captured
  have hboth : s.replay focus "w" both = _ := (hok _ hfirst).2.2.2.2 hends revised
  obtain ⟨-, -, herror, -, hbefore⟩ := replays_by_lines s focus "w" broken
  obtain ⟨totals, hbefore⟩ := hbefore (Text.lines both) [0xFF] [] hlines (by decide +kernel)
    (by decide +kernel)
  have hsame : s.replay focus "w" both = _ := hbefore
  refine ⟨hfirst, by decide +kernel, ?_, ?_, ?_,
    herror.2 ⟨[0xFF], by simp [hlines], by decide +kernel⟩⟩
  · rw [hboth]
  · simp only [hboth, hsecond, Except.map]
    decide +kernel
  · rw [hsame]

end Store

end GraphStore
