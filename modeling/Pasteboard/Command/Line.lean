import Pasteboard.Command.Grammar
import Pasteboard.Settings
/-!
The command line: overrides of settings, a look at the database, and tasks on keys and rules.
-/

namespace Pasteboard.Command

open Pasteboard.Text

/-- A task on keys or address rules. Roles, lists and rules are kept as they were written. -/
inductive Task
  | listKeys (json : Bool)
  | addKey (role : String) (label : Option String) (disabled json : Bool)
  | setRole (id : Int) (role : String)
  | setLabel (id : Int) (label : String)
  | switchKey (id : Int) (enabled : Bool)
  | removeKey (id : Int) (hard : Bool)
  | listRules (list : Option String)
  | addRule (cidr list : String)
  | removeRule (target : String)
  deriving DecidableEq, Repr

/-- A command line. -/
structure Line where
  overrides : Overrides
  checkDatabase : Bool
  task : Option Task
  deriving DecidableEq, Repr

/-! ### The grammar -/

/-- The id of a key. -/
def idRule : PositionRule := { name := "id", kind := .number Numeral.int64 }

/-- The commands on keys. -/
def keysGrammar : Grammar := .group
  [("list", .leaf [{ name := "json" }] []),
   ("add", .leaf [{ name := "role", value := some .text }, { name := "label", value := some .text },
      { name := "disabled" }, { name := "json" }] []),
   ("set-role", .leaf [] [idRule, { name := "role" }]),
   ("set-label", .leaf [] [idRule, { name := "label" }]),
   ("disable", .leaf [] [idRule]),
   ("enable", .leaf [] [idRule]),
   ("rm", .leaf [{ name := "hard" }] [idRule])]

/-- The commands on address rules. -/
def rulesGrammar : Grammar := .group
  [("list", .leaf [] [{ name := "list", required := false }]),
   ("add", .leaf [] [{ name := "cidr" }, { name := "list" }]),
   ("del", .leaf [] [{ name := "target" }])]

/-- The options in front of a command. -/
def settingRules : List OptionRule :=
  [{ name := "data", value := some .place },
   { name := "port", value := some (.number Numeral.nat16) },
   { name := "limit", value := some (.number Limit.slots.range) },
   { name := "max-file-bytes", value := some (.number Limit.fileBytes.range) },
   { name := "max-text-bytes", value := some (.number Limit.textBytes.range) },
   { name := "no-auth" }, { name := "trusted-proxy" }, { name := "allow-localhost" },
   { name := "base-path", value := some .text }, { name := "check-db" }]

/-- The whole grammar. -/
def grammar : Grammar :=
  .mk settingRules [] true [("keys", keysGrammar), ("ip", rulesGrammar)]

/-! ### From arguments to a command line -/

/-- The overrides that options give. -/
def overridesOf (m : Matched) : Overrides where
  dataPath := m.text? "data"
  port := (m.number? "port").map Int.toNat
  slots := (m.number? "limit").map Int.toNat
  fileBytes := (m.number? "max-file-bytes").map Int.toNat
  textBytes := (m.number? "max-text-bytes").map Int.toNat
  noAuth := m.flag "no-auth"
  trustProxy := m.flag "trusted-proxy"
  allowLocalhost := m.flag "allow-localhost"
  basePath := m.text? "base-path"

/-- The id among the arguments. -/
def idOf (m : Matched) : Int :=
  (m.number? "id").getD 0

/-- The text of a required argument. -/
def wordOf (m : Matched) (name : String) : String :=
  (m.text? name).getD ""

/-- The task on keys that a command names. -/
def keysTask? (name : String) (m : Matched) : Option Task :=
  match name with
  | "list" => some (.listKeys (m.flag "json"))
  | "add" =>
    some (.addKey ((m.text? "role").getD "write") (m.text? "label") (m.flag "disabled")
      (m.flag "json"))
  | "set-role" => some (.setRole (idOf m) (wordOf m "role"))
  | "set-label" => some (.setLabel (idOf m) (wordOf m "label"))
  | "disable" => some (.switchKey (idOf m) false)
  | "enable" => some (.switchKey (idOf m) true)
  | "rm" => some (.removeKey (idOf m) (m.flag "hard"))
  | _ => none

/-- The task on address rules that a command names. -/
def rulesTask? (name : String) (m : Matched) : Option Task :=
  match name with
  | "list" => some (.listRules (m.text? "list"))
  | "add" => some (.addRule (wordOf m "cidr") (wordOf m "list"))
  | "del" => some (.removeRule (wordOf m "target"))
  | _ => none

/-- The task that the commands below the top name. -/
def taskOf? (m : Matched) : Option Task := do
  let (group, m) ← m.command
  let (name, m) ← m.command
  if group == "keys" then keysTask? name m else rulesTask? name m

/-- Reads a command line from its arguments. -/
def Line.read (args : List String) : Except UsageFault Line := do
  let m ← grammar.read args
  return ⟨overridesOf m, m.flag "check-db", taskOf? m⟩

end Pasteboard.Command
