import SpecPrompt.Run

/-!
# Summaries

The box that sums up a run for a reader.
-/

namespace SpecPrompt

/-- `s` with blanks after it up to a width. -/
def padRight (width : Nat) (s : String) : String :=
  s ++ String.ofList (List.replicate (width - s.length) ' ')

/-- `s` with blanks before it up to a width. -/
def padLeft (width : Nat) (s : String) : String :=
  String.ofList (List.replicate (width - s.length) ' ') ++ s

/-- When a run took place and how long it took. -/
structure Clock where
  timing : Timing
  /-- The time of day at its end. -/
  generatedAt : String

namespace RunReport

/-- A line of the box with a label and a count. -/
def countLine (label : String) (count : Nat) : String :=
  "║ " ++ padRight 22 label ++ padLeft 8 (toString count) ++ "                        ║"

/-- A line of the box with a label and a duration. -/
def timeLine (label : String) (hundredths : Nat) : String :=
  "║   - " ++ padRight 18 label ++ padLeft 8 (Timing.seconds hundredths) ++
    "s                     ║"

/-- A line of the box with nothing in it. -/
def blankLine : String :=
  "║                                                       ║"

/-- The summary of a run, an empty line before and after it. -/
def summary (report : RunReport) (clock : Clock) : String :=
  let lines :=
    ["", "╔═══════════════════════════════════════════════════════╗",
      "║               LNEGC Compile Summary                   ║",
      "╠═══════════════════════════════════════════════════════╣"] ++
    (report.counts.map fun (category, count) => countLine (category.key ++ ":") count) ++
    [countLine "Total Prompts:" report.total, blankLine,
      "║ Language:             " ++ padRight 32 report.language ++ "║",
      countLine "Files Written:" report.filesWritten,
      "║ Output:                                               ║",
      "║   " ++ padRight 52 report.output.text ++ "║", blankLine,
      "║ Timing Breakdown:                                     ║",
      timeLine "Compiling:" clock.timing.compiling, timeLine "Writing:" clock.timing.writing,
      timeLine "Total:" clock.timing.total,
      "║ Generated at: " ++ padRight 40 clock.generatedAt ++ "║",
      "╚═══════════════════════════════════════════════════════╝", ""]
  String.join (lines.map fun line => line ++ "\n")

end RunReport

end SpecPrompt
