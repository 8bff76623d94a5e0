import SpriteStage.Trial.Suite
/-!
The report on a suite: a line for each trial below its category, the failures with their reasons, and
a summary.
-/

namespace SpriteStage

structure Theme where
  colored : Bool

namespace Theme

def paint (p : Theme) (code word : String) : String :=
  if p.colored then "\x1b[" ++ code ++ "m" ++ word ++ "\x1b[0m" else word

def good (p : Theme) (word : String) : String := p.paint "32" word

def bad (p : Theme) (word : String) : String := p.paint "31" word

def bold (p : Theme) (word : String) : String := p.paint "1" word

end Theme

structure Judged where
  title : Option String
  verdicts : List Verdict

namespace Verdict

def passed (v : Verdict) : Bool := v.failure.isNone

def line (p : Theme) (v : Verdict) : String :=
  let outcome := if v.passed then p.good "PASS" else p.bad "FAIL"
  s!"  {outcome}  {v.label}"

def failureLines (v : Verdict) : List String :=
  match v.failure with
  | some f => ["", s!"  --- {v.path} ---"] ++ (Text.lines f.message).map ("  " ++ ·)
  | none => []

end Verdict

def Judged.lines (p : Theme) (j : Judged) : List String :=
  (match j.title with
    | some title => ["", p.bold title]
    | none => []) ++ j.verdicts.map (Verdict.line p)

def summaryLine (p : Theme) (passed failed : Nat) : String :=
  let outcome := if failed = 0 then p.good "ok" else p.bad "FAILED"
  let total := if failed = 0 then "" else s!" (of {passed + failed})"
  s!"test result: {outcome}. {passed} passed, {failed} failed{total}"

def reportLines (p : Theme) (judged : List Judged) : List String :=
  let (passed, failed) := (judged.flatMap Judged.verdicts).partition Verdict.passed
  judged.flatMap (Judged.lines p)
    ++ (if failed.isEmpty then []
        else ["", "failures:"] ++ failed.flatMap Verdict.failureLines)
    ++ ["", summaryLine p passed.length failed.length]

def allPassed (judged : List Judged) : Bool :=
  judged.all fun j => j.verdicts.all Verdict.passed

def Category.judge (c : Category) : Judged := ⟨some c.title, c.files.map TrialFile.verdict⟩

end SpriteStage
