/-
This file joins the stages: a source is cleaned, cut into tokens and checked. A check keeps
what each stage found, because the cleaned text and the token report are of use even if the
program is rejected.
-/

import HLang.Token.Report
import HLang.Token.Scan
import HLang.Validation

namespace HLang

/-- What checking a source found. -/
structure Check where
  clean : CleanSource
  tokens : List Token
  verdict : Verdict

namespace Check

/-- The check of a source that was cleaned and cut into tokens. -/
def ofTokens (clean : CleanSource) (tokens : List Token) (file : String) : Check :=
  ⟨clean, tokens, Verdict.ofOutcome (validate tokens file).outcome⟩

/-- Checks a source. Without a file, positions speak of the source as typed in. -/
def ofSource (source : String) (file : Option String) : Check :=
  let clean := CleanSource.ofSource source
  ofTokens clean (clean.tokens (sourceName file)) (sourceName file)

/-- The reserved words, operators and delimiters of the source. -/
def entries (check : Check) : List ReportEntry :=
  reportEntries check.tokens

end Check

end HLang
