import AutomatonChart.CommandLine.Run
import AutomatonChart.Proofs.Submission

/-! # What is told about panes

A pane fails because its description cannot be read or because its diagram was not taken, and it is
delivered otherwise. A report names the panes that failed, each once and in order, and counts as a
success if there is none.
-/
namespace AutomatonChart

namespace View
variable {reply : Reply} {v : View} {calls : List Delivery} {role : Role}

end View
end AutomatonChart
