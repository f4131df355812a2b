/-
What the program may rely on where it logs.

The libraries that write a log are parameters of the program (`Logging`).  Of them
it is enough to know that nothing is written without a filter, that a filter can be
put to use (`Logging.IsReliable`), and that the text of the filter is read
(`Logging.Reads`).  The libraries that the program has are such:

* `Logging.IsReliable.exists_text` — then a log is written, or nothing at all;
* `Logging.standard_isReliable` and `Logging.standard_reads` — texts whose pieces
  begin without blanks are read;
* `Logging.standard_text_of_isQuiet` — a filter for less than there is to log shows
  nothing.
-/
import SourceLexer.LogReport
import SourceLexer.Proofs.FilterReading

namespace SourceLexer

/-! ### What a filter shows -/

namespace LogLevel

/-- The most that is shown is nothing or what one of the levels shows. -/
theorem most_eq_off_or_mem (levels : List LogLevel) : most levels = off ∨ most levels ∈ levels := by
  rw [most]
  induction levels using List.reverseRecOn with
  | nil => exact Or.inl rfl
  | append_singleton levels level ih =>
    rw [List.foldl_append, List.foldl_cons, List.foldl_nil]
    split
    · exact Or.inr (List.mem_append_right _ (List.mem_singleton_self _))
    · exact ih.imp_right (List.mem_append_left _)

/-- Whether a level shows nothing of what there is to log of a run. -/
def IsQuiet (level : LogLevel) : Prop := level.shows debug = false

theorem isQuiet_most {levels : List LogLevel} (h : ∀ level ∈ levels, level.IsQuiet) :
    (most levels).IsQuiet := by
  rcases most_eq_off_or_mem levels with hoff | hmem
  · rw [hoff]
    rfl
  · exact h _ hmem

theorem IsQuiet.shows_eq_false {level : LogLevel} (h : level.IsQuiet) (e : Event) :
    level.shows e.level = false := by
  rw [IsQuiet, shows, decide_eq_false_iff_not] at h
  rw [shows, decide_eq_false_iff_not]
  cases e with
  | token t => exact fun hle => h (Nat.le_of_succ_le hle)
  | complete count => exact h
  | failed e => exact h

end LogLevel

namespace LogFilter

/-- Whether no rule of a filter is for anything that there is to log of a run.  A rule that looks at
a value counts, since it has the spans shown that it may have to look at. -/
def IsQuiet (f : LogFilter) : Prop :=
  ∀ r ∈ f.rules, r.level.IsQuiet ∧ r.selector.testsValue = false

/-- What is shown of a point is nothing or what one of the rules shows. -/
theorem levelAt_eq_off_or_mem (rules : List LogRule) :
    levelAt rules = .off ∨ ∃ r ∈ rules, levelAt rules = r.level := by
  rw [levelAt]
  induction rules using List.reverseRecOn with
  | nil => exact Or.inl rfl
  | append_singleton rules r ih =>
    rw [List.foldl_append, List.foldl_cons, List.foldl_nil]
    rw [better]
    split
    · exact ih.imp_right fun ⟨r', hr', heq⟩ => ⟨r', List.mem_append_left _ hr', heq⟩
    · exact Or.inr ⟨r, List.mem_append_right _ (List.mem_singleton_self _), rfl⟩

theorem mem_of_mem_lastOfEach {r : LogRule} {rules : List LogRule} (h : r ∈ lastOfEach rules) :
    r ∈ rules := by
  induction rules with
  | nil => exact h
  | cons r' rules ih =>
    rw [lastOfEach] at h
    split at h
    · exact List.mem_cons_of_mem _ (ih h)
    · exact (List.mem_cons.mp h).elim (fun h => h ▸ List.mem_cons_self)
        fun h => List.mem_cons_of_mem _ (ih h)

variable {f : LogFilter}

theorem IsQuiet.levelAt (h : f.IsQuiet) (p : LogRule → Bool) :
    (levelAt (f.rules.filter p)).IsQuiet := by
  rcases levelAt_eq_off_or_mem (f.rules.filter p) with hoff | ⟨r, hr, heq⟩
  · rw [hoff]
    rfl
  · rw [heq]
    exact (h r (List.mem_of_mem_filter hr)).1

theorem IsQuiet.levelIn (h : f.IsQuiet) (span : LogSpan) : (f.levelIn span).IsQuiet := by
  refine LogLevel.isQuiet_most fun level hlevel => ?_
  obtain ⟨r, hr, rfl⟩ := List.mem_map.mp hlevel
  exact (h r (mem_of_mem_lastOfEach (List.mem_of_mem_filter hr))).1

theorem IsQuiet.limit (h : f.IsQuiet) : f.limit.IsQuiet := by
  have hvalue : f.rules.any (·.selector.testsValue) = false := by
    rw [List.any_eq_false]
    intro r hr
    rw [(h r hr).2]
    exact Bool.false_ne_true
  rw [LogFilter.limit, hvalue]
  refine LogLevel.isQuiet_most fun level hlevel => ?_
  obtain ⟨r, hr, rfl⟩ := List.mem_map.mp hlevel
  exact (h r hr).1

theorem IsQuiet.showsSpan (h : f.IsQuiet) {around : LogLevel} (ha : around.IsQuiet)
    (span : LogSpan) : f.showsSpan around span = false := by
  have hlimit : f.limit.shows LogSpan.level = false := h.limit
  have hlevel : (LogFilter.levelAt (f.rules.filter (·.selector.selectsAlone span))).shows
      LogSpan.level = false := h.levelAt _
  have haround : around.shows LogSpan.level = false := ha
  rw [LogFilter.showsSpan, haround, hlimit, hlevel]
  rfl

theorem IsQuiet.showsPoint (h : f.IsQuiet) {around : LogLevel} (ha : around.IsQuiet) (e : Event) :
    f.showsPoint around (LogReport.point e) = false := by
  have haround : around.shows (LogReport.point e).level = false := ha.shows_eq_false e
  have hlevel : (LogFilter.levelAt (f.rules.filter (·.selector.selectsPoint (LogReport.point e)))).shows
      (LogReport.point e).level = false := (h.levelAt _).shows_eq_false e
  rw [LogFilter.showsPoint, haround, hlevel]
  rfl

end LogFilter

namespace LogReport

variable {f : LogFilter}

/-- Inside a span that is not shown there is what there would be without it. -/
theorem inSpan_eq_nil (h : f.IsQuiet) {around : LogLevel} (ha : around.IsQuiet) (span : LogSpan)
    {inside : LogLevel → Nat → List String} {depth : Nat}
    (hinside : ∀ level : LogLevel, level.IsQuiet → inside level depth = []) :
    inSpan f span inside around depth = [] := by
  have hlevel : (LogLevel.most [around, f.levelIn span]).IsQuiet := by
    refine LogLevel.isQuiet_most fun level hlevel => ?_
    rcases List.mem_pair.mp hlevel with rfl | rfl
    · exact ha
    · exact h.levelIn span
  rw [inSpan, h.showsSpan ha]
  exact hinside _ hlevel

/-- **A quiet filter shows nothing** of any run. -/
theorem lines_eq_nil (h : f.IsQuiet) (r : LogReport) : r.lines f = [] := by
  have hoff : LogLevel.off.IsQuiet := rfl
  refine inSpan_eq_nil h hoff _ fun level hlevel => ?_
  cases r.scanned with
  | none => rfl
  | some scanned =>
    refine inSpan_eq_nil h hlevel _ fun level hlevel => ?_
    rw [eventLines, List.map_eq_nil_iff, List.filter_eq_nil_iff]
    intro e _
    rw [h.showsPoint hlevel e]
    exact Bool.false_ne_true

end LogReport

/-! ### What a program may rely on -/

namespace Logging

variable {φ : Type}

/-- What is relied on, whatever the filter is. -/
structure IsReliable (L : Logging φ) : Prop where
  /-- As long as no filter has been put to use nothing is written. -/
  nobody : ∀ r, L.nobody r = .ok ""
  /-- A filter that has been read can be put to use, and then a log can be written of any run. -/
  subscribe : ∀ filter, ∃ refusal subscriber, L.subscribe filter = .ok (refusal, subscriber) ∧
    ∀ r, ∃ log, subscriber r = .ok log

/-- Whether the text of the filter to use, if there is one, is read to a filter or to an error. -/
def Reads (L : Logging φ) (settings : LogSettings) : Prop :=
  ∀ directive, settings.directive? = some directive →
    ∃ answer, L.readFilter directive = .ok answer

variable {L : Logging φ} {settings : LogSettings}

/-- Without a filter nothing is written. -/
theorem IsReliable.text_of_none (hL : L.IsReliable) (h : settings.directive? = none)
    (r : LogReport) : L.text settings r = .ok "" := by
  rw [text, install, h]
  simp only
  rw [hL.nobody]
  rfl

/-- A log is written whenever the text of the filter is read. -/
theorem IsReliable.exists_text (hL : L.IsReliable) (h : L.Reads settings) (r : LogReport) :
    ∃ log, L.text settings r = .ok log := by
  obtain ⟨warnings, subscriber, hinstall, log, hlog⟩ : ∃ warnings subscriber,
      L.install settings = .ok (warnings, subscriber) ∧ ∃ log, subscriber r = .ok log := by
    rw [install]
    cases hd : settings.directive? with
    | none => exact ⟨_, _, rfl, "", hL.nobody r⟩
    | some directive =>
      obtain ⟨answer, hanswer⟩ := h directive hd
      simp only
      rw [hanswer]
      cases answer with
      | error why => exact ⟨_, _, rfl, "", hL.nobody r⟩
      | ok filter =>
        obtain ⟨refusal, subscriber, hsubscribe, hlog⟩ := hL.subscribe filter
        simp only
        rw [hsubscribe]
        exact ⟨_, _, rfl, hlog r⟩
  rw [text, hinstall]
  simp only
  rw [hlog]
  exact ⟨_, rfl⟩

theorem standard_isReliable : standard.IsReliable where
  nobody _ := rfl
  subscribe _ := ⟨_, _, rfl, fun _ => ⟨_, rfl⟩⟩

/-- A filter whose pieces begin without blanks is read. -/
theorem standard_reads (h : ∀ directive, settings.directive? = some directive →
    LogFilter.IsFlush directive) : standard.Reads settings := by
  intro directive hd
  have hcut := LogFilter.parse_ne_cut (h directive hd)
  rw [standard]
  cases hread : LogFilter.parse directive with
  | ok filter => exact ⟨.ok filter, by simp only [hread]⟩
  | error stop =>
    cases stop with
    | invalid e => exact ⟨.error e.message, by simp only [hread]⟩
    | cut => exact absurd hread hcut

/-- **A quiet filter leaves the log empty**, whatever there is to log. -/
theorem standard_text_of_isQuiet {directive : String} {filter : LogFilter}
    (hd : settings.directive? = some directive) (hread : LogFilter.parse directive = .ok filter)
    (h : filter.IsQuiet) (r : LogReport) : standard.text settings r = .ok "" := by
  have hinstall : standard.install settings =
      .ok ("", fun r => .ok (String.join (r.lines filter))) := by
    rw [install, hd]
    simp only [standard, hread]
    rfl
  rw [text, hinstall]
  simp only
  rw [LogReport.lines_eq_nil h]
  rfl

end Logging

end SourceLexer
