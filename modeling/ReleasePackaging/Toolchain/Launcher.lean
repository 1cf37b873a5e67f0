import ReleasePackaging.FileTree.Access

/-!
# Launching programs

A program is launched with its words in a directory. If it can be launched it may change the file
tree, writes octets, and ends with a status; the status of a program that a signal has ended is the
negated number of the signal.
-/
namespace ReleasePackaging.Toolchain

/-- How a program ended: its status, and all that it wrote. -/
structure Ending where
  status : Int
  output : ByteArray

abbrev Launcher := List String → Option String → TreeAction AccessFault Ending

end ReleasePackaging.Toolchain
