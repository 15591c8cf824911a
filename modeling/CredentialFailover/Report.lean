/-
What the program says about a failure.

A failure is a headline for the stage that failed, and under it what caused it, cause under cause. A report is the headline
and, after an empty line, the causes: one alone is indented by four, several are numbered, and the further lines of a cause
keep its indentation. On one line, headline and causes stand one after the other. The words for a settings file that is no
configuration are those of a reader, and are given.
-/
import CredentialFailover.Fault
import CredentialFailover.Settings.Load
import CredentialFailover.Text.Pieces

namespace CredentialFailover

/-- the stage that failed, and what failed in it -/
inductive ProgramFault where
  | settings (path : String) (fault : SettingsFault)
  | client (fault : Fault)
  | acquisition (fault : Fault)
  deriving DecidableEq

namespace ProgramFault

/-- what failed, in the words of its stage -/
def headline : ProgramFault → String
  | settings path _ => "failed to load config from " ++ path
  | client _ => "failed to build HTTP transport"
  | acquisition _ => "failed to acquire anisette data"

/-- what caused a failure, the nearest cause first -/
def causes (diagnose : String → String) : ProgramFault → List String
  | settings _ fault => fault.message diagnose :: (fault.source? diagnose).toList
  | client fault => [fault.message]
  | acquisition fault => [fault.message]

/-- headline and causes -/
def chain (f : ProgramFault) (diagnose : String → String) : List String := f.headline :: f.causes diagnose

/-- the fault under a failure, unless it lies in the settings -/
def fault? : ProgramFault → Option Fault
  | settings .. => none
  | client fault => some fault
  | acquisition fault => some fault

/-- a failure on one line -/
def oneLine (f : ProgramFault) (diagnose : String → String) : String := ": ".intercalate (f.chain diagnose)

/-- the lines of a text, the first after one indentation and the others after another -/
def indented (first rest : String) (s : String) : String :=
  match (Text.pieces (· == '\n') s.toList).map String.ofList with
  | [] => first
  | l :: ls => first ++ l ++ String.join (ls.map fun l => "\n" ++ rest ++ l)

/-- a number at the end of five columns -/
def numbered (n : Nat) : String :=
  String.ofList (List.replicate (5 - (toString n).length) ' ') ++ toString n ++ ": "

/-- causes from a number on, each on lines of its own -/
def numberedCauses : Nat → List String → String
  | _, [] => ""
  | n, c :: cs => "\n" ++ indented (numbered n) "       " c ++ numberedCauses (n + 1) cs

/-- causes as a report shows them -/
def describeCauses : List String → String
  | [] => ""
  | [c] => "\n\nCaused by:\n" ++ indented "    " "    " c
  | cs => "\n\nCaused by:" ++ numberedCauses 0 cs

/-- a failure with all that caused it -/
def report (f : ProgramFault) (diagnose : String → String) : String := f.headline ++ describeCauses (f.causes diagnose)

end ProgramFault

end CredentialFailover
