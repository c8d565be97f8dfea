import Pasteboard.Api.Admin
import Pasteboard.Command.Line
import Pasteboard.Json.Printer
import Pasteboard.Text.Timestamp
/-!
Running a command line on a board: what it prints, or why it fails.

A failure tells what was to be done and then its causes, from the nearest to the deepest.
-/

namespace Pasteboard.Command

open Pasteboard.Text

/-! ### Failures -/

/-- Why a command fails: an account of causes, the nearest first. -/
structure Failure where
  causes : List String
  deriving DecidableEq, Repr

/-- The words of a failure. -/
def Failure.message (f : Failure) : String :=
  String.intercalate ": " f.causes

/-- The causes of a failure of the store. A fault of the database has its own words and a number
below it. -/
def storeCauses (e : StoreError) : List String :=
  match e with
  | .database f => [e.message, f.message, "Error code 1: SQL error or missing database"]
  | .cannotOpen place =>
    [e.message, openFault place, "Error code 14: Unable to open the database file"]
  | _ => [e.message]

/-- What a command prints, or its failure, from a board on. -/
abbrev Run := ExceptT Failure (StateM Board)

/-- An operation on the board. -/
def act {α : Type} (a : Action α) : Run α :=
  ExceptT.adapt (fun e => ⟨storeCauses e⟩) a

/-- An operation on the board that is told about if it fails. -/
def acting {α : Type} (purpose : String) (a : Action α) : Run α :=
  ExceptT.adapt (fun e => ⟨purpose :: storeCauses e⟩) a

/-- A result that is already known. -/
def known {α : Type} (result : Except StoreError α) : Run α :=
  act (Action.of result)

/-! ### Lines -/

/-- Columns on one line. -/
def row (columns : List String) : String :=
  String.intercalate "\t" columns ++ "\n"

/-- The word for the state of a key or a rule. -/
def stateWord (enabled : Bool) : String :=
  if enabled then "enabled" else "disabled"

/-- The line of a key. -/
def keyRow (k : ApiKey) : String :=
  row [toString k.id, k.secret, k.role, stateWord k.enabled, k.label.getD "-",
    Timestamp.text k.createdAt, (k.lastUsedAt.map Timestamp.text).getD "-", k.lastIp.getD "-"]

/-- The line of a rule. -/
def ruleRow (list : RuleList) (r : IpRule) : String :=
  row [list.name, toString r.id, r.cidr, stateWord r.enabled, Timestamp.text r.createdAt]

/-- The line that says what was done to a key. -/
def keyNote (id : Int) (note : String) : String :=
  "key " ++ toString id ++ ": " ++ note ++ "\n"

/-- What was to be done to a key. -/
def keyPurpose (purpose : String) (id : Int) : String :=
  purpose ++ " key " ++ toString id

/-! ### Tasks -/

/-- Disables or enables a key. -/
def setState (id : Int) (enabled : Bool) : Run String := do
  acting (keyPurpose (if enabled then "enable" else "disable") id) (Board.setEnabled id enabled)
  return keyNote id (stateWord enabled)

/-- The lines of the rules of a list. -/
def rulesOf (list : RuleList) : Run String := do
  let rules ← acting ("list " ++ list.name ++ " rules") (Board.rules list)
  return String.join (rules.map (ruleRow list))

/-- The list and the id that a target names: a list, a colon and a number. -/
def targetOf (target : String) : Run (RuleList × Int) := do
  match splitOnce ':' target with
  | none => throw ⟨["expected allow:<id> or deny:<id>, got '" ++ target ++ "'"]⟩
  | some (list, id) =>
    let list ← known (RuleList.named list)
    match Numeral.read Numeral.int64 (trim id) with
    | .ok id => return (list, id)
    | .error fault => throw ⟨["invalid rule id in '" ++ target ++ "'", fault.message]⟩

/-- Runs a task. -/
def Task.run : Task → Run String
  | .listKeys json => do
    let keys ← acting "list api keys" Board.keys
    if json then return (Json.arr (keys.map Api.keyJson)).pretty ++ "\n"
    return String.join (keys.map keyRow)
  | .addKey role label disabled json => do
    let role ← known (Role.named role)
    let label := label.filter fun l => !allBlank l
    let key ← acting "issue api key" (Board.issueKey role label !disabled)
    return if json then (Api.keyJson key).pretty ++ "\n" else keyRow key
  | .setRole id role => do
    let role ← known (Role.named role)
    acting (keyPurpose "set role of" id) (Board.setRole id role)
    return keyNote id ("role " ++ role.name)
  | .setLabel id label => do
    let label := trimmed? label
    acting (keyPurpose "set label of" id) (Board.setLabel id label)
    return keyNote id ("label " ++ label.getD "-")
  | .switchKey id enabled => setState id enabled
  | .removeKey id false => setState id false
  | .removeKey id true => do
    acting (keyPurpose "delete" id) (Board.deleteKey id)
    return keyNote id "deleted"
  | .listRules none => do return (← rulesOf .allow) ++ (← rulesOf .deny)
  | .listRules (some list) => do rulesOf (← known (RuleList.named list))
  | .addRule cidr list => do
    let list ← known (RuleList.named list)
    return ruleRow list (← act (Board.addRule list cidr))
  | .removeRule target => do
    let (list, id) ← targetOf target
    acting ("remove " ++ target) (Board.removeRule list id)
    return "removed " ++ list.name ++ ":" ++ toString id ++ "\n"

/-! ### The database -/

/-- The line of a limit on sizes. -/
def sizeRow (s : Settings) (l : Limit) : String :=
  row [l.name, toString (s.limits.value l), "(hard " ++ toString l.ceiling ++ ")"]

/-- The tables of the database and the limits. -/
def databaseReport (s : Settings) : Run String := do
  let place := s.dataPath.getD Settings.defaultDataPath
  let tables ← acting ("read schema from " ++ place) Board.tables
  return String.join (tables.map fun t => row [t.name, t.definition]) ++
    row [Limit.slots.name, toString s.limits.slots] ++
    row ["build_limit", toString Limit.slots.ceiling] ++
    sizeRow s .fileBytes ++ sizeRow s .textBytes

/-- The place that a text names: the path of a `file:` address, or the text itself. -/
def placeOf (text : String) : List Char :=
  if startsWith text "file:" then
    let address := (text.toList.drop 5).takeWhile fun c => c != '?' && c != '#'
    match address with
    | '/' :: '/' :: path => path
    | path => path
  else text.toList

/-- The directories that are there wherever a command runs. -/
def knownDirectories : List String := ["", "/", "/tmp/", "./", "../"]

/-- Whether a place is a directory. -/
def isDirectory (place : List Char) : Bool :=
  place.getLast? == some '/' || knownDirectories.contains (String.ofList place ++ "/")

/-- A database elsewhere than that of the board. It has no tables, since no command creates any, and
it can be opened if it has no place at all, or is no directory but lies in one that is there. -/
def databaseAt (text : String) : Database :=
  let place := placeOf text
  let directory := String.ofList (place.reverse.dropWhile (· != '/')).reverse
  if place.isEmpty then .blank
  else if isDirectory place || !knownDirectories.contains directory then .unopenable text
  else .blank

/-- Runs on another database and leaves that of the board alone. -/
def onDatabase {α : Type} (d : Database) (r : Run α) : Run α :=
  ExceptT.mk fun b =>
    let (result, after) := r.run { b with database := d }
    (result, { after with database := b.database })

/-- Looks at the database or carries out the task of a command line. -/
def Line.act (line : Line) (s : Settings) : Run String :=
  if line.checkDatabase then databaseReport (s.override line.overrides)
  else
    match line.task with
    | some task => task.run
    | none => return ""

/-- Runs a command line with the settings that it overrides, on the database that it names. -/
def Line.run (line : Line) (s : Settings) : Run String :=
  match line.overrides.dataPath with
  | some place => onDatabase (databaseAt place) (line.act s)
  | none => line.act s

end Pasteboard.Command
