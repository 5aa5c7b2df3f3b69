import LastGood.CommandLine
import LastGood.Environment

/-!
# Hosts

What a run of the program needs beside a machine: a runtime that can be set up, and an output
that takes the lines that are printed. Where one of them fails the program crashes.
-/

namespace LastGood

/-- What surrounds a run of the program. -/
structure Host where
  /-- Why the runtime cannot be set up in an environment, if it cannot. -/
  unready : Environment → Option String
  /-- Why a line cannot be printed, if it cannot. -/
  blocked : (line : String) → Option String

namespace Host

/-- The variable that says how many threads the runtime has. -/
def threadsVariable : String := "TOKIO_WORKER_THREADS"

/-- Why a text is no number of threads. -/
def numeralFault (text : String) : String :=
  let digits :=
    match text.toList with
    | '+' :: rest => rest
    | cs => cs
  if text == "" then "cannot parse integer from empty string"
  else if !digits.isEmpty && digits.all Decimal.isDigit then
    "number too large to fit in target type"
  else "invalid digit found in string"

/-- Why a runtime cannot have the number of threads that a text asks for, if it cannot. -/
def threadsFault? (text : String) : Option String :=
  match CommandLine.natural? UInt64.size false text with
  | none =>
      some ("\"" ++ threadsVariable ++ "\" must be usize, error: " ++ numeralFault text ++
        ", value: " ++ text)
  | some 0 => some ("\"" ++ threadsVariable ++ "\" cannot be set to 0")
  | some _ => none

/-- A host whose runtime asks for nothing but a number of threads, if one is given, and whose
    output takes every line. -/
def ordinary : Host where
  unready environment := (environment.get? threadsVariable).bind threadsFault?
  blocked _ := none

/-- The message of the crash by a line that cannot be printed. -/
def printFault (reason : String) : String := "failed printing to stdout: " ++ reason

end Host

end LastGood
