import ReleasePackaging.CommandLine.Reader

/-!
# Usage and help

The usage lists the options in lines of limited width. The help puts it over a description and a
table of the options.
-/
namespace ReleasePackaging.CommandLine

def programName : String := "tonpack-build"

def description : String := "Build the ton_client library and package release archives"

def lineWidth : Nat := 78

def helpColumn : Nat := 24

def Intake.shown : Intake → Option String
  | .nothing => none
  | .text placeholder => some placeholder
  | .choice words => some ("\x7b" ++ ",".intercalate words ++ "\x7d")

def Switch.form (s : Switch) (spelling : String) : String :=
  match s.intake.shown with
  | none => spelling
  | some shown => s!"{spelling} {shown}"

/-- Breaks parts into lines: a part that would end beyond the width starts a new line, which is
indented. -/
def fillLines (indent : String) (line : String) : List String → List String
  | [] => [line]
  | part :: rest =>
    if line.length + 1 + part.length ≤ lineWidth then
      fillLines indent (line ++ " " ++ part) rest
    else line :: fillLines indent (indent ++ part) rest

def usage : String :=
  let start := s!"usage: {programName}"
  let indent := String.ofList (List.replicate (start.length + 1) ' ')
  let parts := Switch.all.map fun s => "[" ++ s.form (s.spellings.headD "") ++ "]"
  "\n".intercalate (fillLines indent start parts) ++ "\n"

def helpLines (s : Switch) : List String :=
  let forms := "  " ++ ", ".intercalate (s.spellings.map s.form)
  let pad (n : Nat) : String := String.ofList (List.replicate n ' ')
  if forms.length + 2 ≤ helpColumn then [forms ++ pad (helpColumn - forms.length) ++ s.helpLine]
  else [forms, pad helpColumn ++ s.helpLine]

def helpText : String :=
  let lines := ["", description, "", "options:"] ++ Switch.all.flatMap helpLines
  usage ++ "\n".intercalate lines ++ "\n"

def complaint (f : UsageFault) : String := usage ++ s!"{programName}: error: {f.message}\n"

end ReleasePackaging.CommandLine
