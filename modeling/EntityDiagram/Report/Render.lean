import EntityDiagram.Report.Failure
import EntityDiagram.Report.Wrap

/-! # The report of a failure

A report shows the code, the message, the chain of causes and the help, each behind a mark of its
own, wrapped to the width of a page.
-/

namespace EntityDiagram

namespace Failure

open Report

def pageWidth : Nat := 198

def messageLines (f : Failure) : List (List Char) :=
  wrap pageWidth "  x ".toList "  | ".toList f.message.toList

def causeLines : List String → List (List Char)
  | [] => []
  | [cause] => wrap pageWidth "  `-> ".toList "      ".toList cause.toList
  | cause :: rest =>
    wrap pageWidth "  |-> ".toList "  |   ".toList cause.toList ++ causeLines rest

def helpLines (f : Failure) : List (List Char) :=
  match f.help? with
  | some help => wrap pageWidth "  help: ".toList "        ".toList help.toList
  | none => []

/-- Each line ends with a line feed. -/
def report (f : Failure) : String :=
  String.ofList <|
    (f.code.toList :: [] :: f.messageLines ++ causeLines f.causes ++ f.helpLines).flatMap
      (· ++ ['\n'])

end Failure

end EntityDiagram
