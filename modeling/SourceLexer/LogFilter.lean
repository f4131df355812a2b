/-
Which parts of a log are shown.

A filter is a list of rules, written with commas between them.  Two kinds of rule
show a span or an event.  A rule for spans shows the spans of its kind, and what
is inside a span that it selects as far as its level goes; of several such rules
the one that shows most counts (`LogFilter.levelIn`).  A rule for points, which
names no span and asks for no value, is for spans and events wherever they are;
of several the most special one counts (`LogFilter.levelAt`), and without any
nothing is shown.  Of rules with the same selector the last one counts.
-/
import SourceLexer.LogRule
import SourceLexer.Pieces

namespace SourceLexer

/-- Rules for a log, in the order in which they are written. -/
structure LogFilter where
  rules : List LogRule

namespace LogFilter

/-- The filter that a text writes, or what its first piece that is no rule is stopped by. -/
def parse (text : String) : Except LogFilterStop LogFilter :=
  (((pieces ',' text.toList).filter (!·.isEmpty)).mapM LogRule.parse).map LogFilter.mk

/-- The rules without those behind which another one with the same selector comes. -/
def lastOfEach : List LogRule → List LogRule
  | [] => []
  | r :: rs =>
    if rs.any (·.selector = r.selector) then lastOfEach rs else r :: lastOfEach rs

/-- The level that no rule goes beyond; the value of a field can be looked at only if everything
may be shown. -/
def limit (f : LogFilter) : LogLevel :=
  if f.rules.any (·.selector.testsValue) then .trace else .most (f.rules.map (·.level))

/-- How much is shown of what is inside a span, as the rules for spans have it. -/
def levelIn (f : LogFilter) (span : LogSpan) : LogLevel :=
  .most (((lastOfEach f.rules).filter (·.selector.selects span)).map (·.level))

/-- The more special of two rules for one point, or else the later one. -/
def better (best r : LogRule) : LogRule :=
  if r.selector.isMoreGeneral best.selector then best else r

/-- How much is shown of a point that the given rules for points are for. -/
def levelAt (rules : List LogRule) : LogLevel := (rules.foldl better ⟨.ofTarget [], .off⟩).level

/-- Whether a span is shown, inside spans of which the rules for spans show as much as `around`. -/
def showsSpan (f : LogFilter) (around : LogLevel) (span : LogSpan) : Bool :=
  around.shows LogSpan.level ||
    (f.limit.shows LogSpan.level && f.rules.any (·.selector.concerns span)) ||
    (levelAt (f.rules.filter (·.selector.selectsAlone span))).shows LogSpan.level

/-- Whether an event is shown, inside spans of which the rules for spans show as much as
`around`. -/
def showsPoint (f : LogFilter) (around : LogLevel) (point : LogPoint) : Bool :=
  around.shows point.level ||
    (levelAt (f.rules.filter (·.selector.selectsPoint point))).shows point.level

end LogFilter

end SourceLexer
