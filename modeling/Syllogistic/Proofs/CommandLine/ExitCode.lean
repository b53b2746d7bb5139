import Syllogistic.CommandLine.Run
import Syllogistic.Proofs.Model.Recording
import Syllogistic.Proofs.Snapshot

/-!
# The exit code of a run

A run first prepares a model from the file and the premises that its options give.  Where
that is not possible its exit code is 1.  Otherwise the code tells whether every conclusion
follows, and it is the same however the answers are printed.  A snapshot holds the
evaluations in the order of the conclusions, without those that fail, and the failures are
reported in that order too.
-/

namespace Syllogistic

namespace Model

variable {config : Config} {block : String}

end Model

namespace CommandLine

open Text

variable {logging : Bool} {files : String → Except FileFault ByteArray} {options : Options}
  {path text premises : String} {content : ByteArray} {model : Model} {chart : Chart}

namespace Options

/-- What reading a text of premises comes to. -/
abbrev gathered (options : Options) (premises : String) : Outcome Nat :=
  (Model.empty options.config).read premises

end Options

end CommandLine
end Syllogistic
