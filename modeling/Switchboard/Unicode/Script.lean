import Switchboard.Unicode.Script.Table

/-!
# Scripts

Scripts are looked up by their long or short name, in lower case and without low lines.
-/

namespace Switchboard.Unicode.Script

/-- The code points of the script with the given name. -/
def find? (name : String) : Option Runs :=
  (Table.scripts.find? fun entry => entry.1.contains name).map Prod.snd

end Switchboard.Unicode.Script
