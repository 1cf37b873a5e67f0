import ReleasePackaging.Proofs.Text.Decode
import ReleasePackaging.Proofs.Toolchain.Outcome

/-!
# The output of a command

What a launched command writes is reported line by line and given as a whole. Whatever ends its lines,
only a final line end is missing from its output, and the events of the lines make up the output again.
-/
namespace ReleasePackaging.Toolchain

variable {launcher : Launcher} {target : EventTarget} {w : World} {word : String}
  {rest : List String} {directory : Option String} {ending : Ending} {tree : FileTree}
  {text : String}

/-- Text that a program wrote is read to its end. -/
theorem readOutput_toUTF8 (text : String) :
    readOutput text.toUTF8 = (Text.lines (Text.unifyLineEnds text.toList), none) := by
  simp only [readOutput, Text.decodeStream, Text.fromUTF8?_toUTF8]

/-- A command that has been launched and writes text gives its lines. -/
theorem run_runCommand_of_text (target : EventTarget)
    (hlaunch : (launcher (word :: rest) directory).run.run w.tree = (.ok ending, tree))
    (htext : ending.output = text.toUTF8) :
    ∃ w', (runCommand launcher target (word :: rest) directory).run.run w =
        (.ok ⟨word :: rest, some ending.status,
          "\n".intercalate (Text.lines (Text.unifyLineEnds text.toList))⟩, w') ∧
      Trail (fun _ _ => False) target { w with tree := tree }
        ((Text.lines (Text.unifyLineEnds text.toList)).map (lineEvent word)) w' := by
  have hread : readOutput ending.output =
      (Text.lines (Text.unifyLineEnds text.toList), none) := by
    rw [htext, readOutput_toUTF8]
  obtain ⟨w', hlines, htrail⟩ := reportLines_trail target word
    (Text.lines (Text.unifyLineEnds text.toList)) { w with tree := tree }
  refine ⟨w', ?_, htrail⟩
  unfold runCommand
  simp only [Action.run_bind, Action.run_outcome, Action.run_onTree, hlaunch, hread, hlines,
    Action.run_pure]

/-- The output of a launched command is the text that it writes, with each line end as one line feed and
without the final one. What happens after the launch is that as many lines as this text has are reported
one after another, and joined by line feeds they are the output. None of them holds a line feed, so
nothing but a line end ends a line. -/
theorem runCommand_output
    (hlaunch : (launcher (word :: rest) directory).run.run w.tree = (.ok ending, tree))
    (htext : ending.output = text.toUTF8) :
    ∃ (unified : List Char) (lines : List String) (w' : World),
      Text.IsUnified text.toList unified ∧
      (runCommand launcher target (word :: rest) directory).run.run w =
        (.ok ⟨word :: rest, some ending.status,
          String.ofList (Text.withoutFinalFeed unified)⟩, w') ∧
      Trail (fun _ _ => False) target { w with tree := tree } (lines.map (lineEvent word)) w' ∧
      (target = .recorder → w'.events = w.events ++ lines.map (lineEvent word)) ∧
      lines.length = Text.lineCount unified ∧
      "\n".intercalate lines = String.ofList (Text.withoutFinalFeed unified) ∧
      ∀ line ∈ lines, '\n' ∉ line.toList := by
  obtain ⟨hfeeds, hcount, hjoin⟩ := Text.lines_spec (Text.unifyLineEnds text.toList)
  obtain ⟨w', hrun, htrail⟩ := run_runCommand_of_text target hlaunch htext
  rw [hjoin] at hrun
  refine ⟨_, _, w', Text.isUnified_unifyLineEnds _, hrun, htrail, ?_, hcount, hjoin, hfeeds⟩
  rintro rfl
  exact htrail.events fun _ _ => False.elim

/-- What a program writes that ends its lines in every way and leaves some of them empty. -/
def raggedText : String := "one\r\n\r\u2028two\n\n"

/-- A launcher of programs that write this text and end well. -/
def raggedLauncher : Launcher := fun _ _ => pure ⟨0, raggedText.toUTF8⟩

theorem runCommand_output_ragged :
    (raggedLauncher ["sh"] none).run.run (.emptyAt []) =
        (.ok ⟨0, raggedText.toUTF8⟩, .emptyAt []) ∧
      ∃ (unified : List Char) (lines : List String) (w' : World),
        Text.IsUnified raggedText.toList unified ∧
        (runCommand raggedLauncher .recorder ["sh"] none).run.run
            ⟨.emptyAt [], .initial default, [], []⟩ =
          (.ok ⟨["sh"], some 0, String.ofList (Text.withoutFinalFeed unified)⟩, w') ∧
        Trail (fun _ _ => False) .recorder ⟨.emptyAt [], .initial default, [], []⟩
          (lines.map (lineEvent "sh")) w' ∧
        w'.events = lines.map (lineEvent "sh") ∧ lines.length = Text.lineCount unified ∧
        "\n".intercalate lines = String.ofList (Text.withoutFinalFeed unified) ∧
        ∀ line ∈ lines, '\n' ∉ line.toList := by
  have hlaunch : (raggedLauncher ["sh"] none).run.run (.emptyAt []) =
      (.ok ⟨0, raggedText.toUTF8⟩, .emptyAt []) := rfl
  obtain ⟨unified, lines, w', hunified, hrun, htrail, hevents, hrest⟩ :=
    runCommand_output (w := ⟨.emptyAt [], .initial default, [], []⟩) hlaunch rfl
  exact ⟨hlaunch, unified, lines, w', hunified, hrun, htrail, hevents rfl, hrest⟩

end ReleasePackaging.Toolchain
