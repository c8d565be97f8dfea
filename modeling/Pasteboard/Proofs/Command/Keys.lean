import Pasteboard.Command.Run
import Pasteboard.Proofs.Access.Tended
/-!
What commands do to keys and to the log that names them.

A command line changes keys or rules at most once, and never replaces a slot. On a database of its own it leaves that of
the board alone. It enables no key but the one that its task is to enable, or one that it issues.
-/

namespace Pasteboard.Command
open Board Store

variable {P : Issuance → Prop} {R : Store → Store → Prop} {s : Settings} {id : Int} {list : RuleList} {purpose : String}

/-! ### Questions -/

theorem tables_readonly : Readonly Board.tables := by
  refine .look fun b => ?_
  cases b.database with
  | unopenable place => exact .throw _
  | blank => exact .pure _
  | ready s => exact .pure _

theorem rulesOf_readonly : Readonly (rulesOf list) := .bind (rules_readonly.adapt _) fun _ => .pure _

theorem targetOf_readonly (target : String) : Readonly (targetOf target) := by
  unfold targetOf
  cases Text.splitOnce ':' target with
  | none => exact .throw _
  | some parts =>
    refine .bind (.known _) fun list => ?_
    cases Text.Numeral.read Text.Numeral.int64 (Text.trim parts.2) with
    | ok id => exact .pure _
    | error fault => exact .throw _

theorem databaseReport_readonly : Readonly (databaseReport s) := .bind (tables_readonly.adapt _) fun _ => .pure _

/-- What runs on another database leaves that of the board alone. -/
theorem onDatabase_readonly {α : Type} (d : Database) (r : Run α) : Readonly (onDatabase d r) := fun _ => rfl

/-! ### Tasks -/

/-- The operation on keys or rules that a task asks for. -/
inductive Task.Asks : Task → AccessCall → Prop
  | addKey {word : String} {role : Role} {label label' : Option String} {disabled json : Bool} :
    Asks (.addKey word label disabled json) (.issueKey role label' (!disabled))
  | setRole {id : Int} {word : String} {role : Role} : Asks (.setRole id word) (.setRole id role)
  | setLabel {id : Int} {word : String} {label : Option String} : Asks (.setLabel id word) (.setLabel id label)
  | switchKey {id : Int} {enabled : Bool} : Asks (.switchKey id enabled) (.setEnabled id enabled)
  | disable {id : Int} : Asks (.removeKey id false) (.setEnabled id false)
  | deleteKey {id : Int} : Asks (.removeKey id true) (.deleteKey id)
  | addRule {cidr word : String} {list : RuleList} : Asks (.addRule cidr word) (.addRule list cidr)
  | removeRule {target : String} {list : RuleList} {id : Int} : Asks (.removeRule target) (.removeRule list id)

/-- An operation, and a line about it. -/
theorem acting_moves {α : Type} {a : Action α} (h : Moves R a) (line : α → String) :
    Moves R (acting purpose a >>= fun x => pure (line x)) :=
  .report (h.adapt _) _

/-- A task moves the data as the relation says if the operation that it asks for does. -/
theorem Task.run_moves {task : Task} (hrefl : ∀ s, R s s)
    (hall : ∀ call, task.Asks call → ∀ b : Board, R b.store (call.on b).store) : Moves R task.run := by
  cases task with
  | listKeys json =>
    refine .of_readonly hrefl (.bind (keys_readonly.adapt _) fun keys => ?_)
    cases json <;> exact .pure _
  | addKey word label disabled json =>
    refine .bind hrefl (.known _) fun role => ?_
    have hissue (label : Option String) : Moves R (Board.issueKey role label !disabled) := hall _ .addKey
    exact acting_moves (hissue _) _
  | setRole id word =>
    refine .bind hrefl (.known _) fun role => ?_
    have hset : Moves R (Board.setRole id role) := hall _ .setRole
    exact acting_moves hset _
  | setLabel id word =>
    have hset (label : Option String) : Moves R (Board.setLabel id label) := hall _ .setLabel
    exact acting_moves (hset _) _
  | switchKey id enabled =>
    have hswitch : Moves R (Board.setEnabled id enabled) := hall _ .switchKey
    exact acting_moves hswitch _
  | removeKey id hard =>
    cases hard with
    | false =>
      have hdisable : Moves R (Board.setEnabled id false) := hall _ .disable
      exact acting_moves hdisable _
    | true =>
      have hdelete : Moves R (Board.deleteKey id) := hall _ .deleteKey
      exact acting_moves hdelete _
  | listRules list =>
    cases list with
    | none => exact .of_readonly hrefl (.bind rulesOf_readonly fun _ => .bind rulesOf_readonly fun _ => .pure _)
    | some list => exact .of_readonly hrefl (.bind (.known _) fun _ => rulesOf_readonly)
  | addRule cidr word =>
    refine .bind hrefl (.known _) fun list => ?_
    have hadd : Moves R (Board.addRule list cidr) := fun b => by
      have hb := hall (.addRule list cidr) .addRule b
      rwa [AccessCall.on, ← run_eq_on] at hb
    exact .report (hadd.adapt _) _
  | removeRule target =>
    refine .bind hrefl (targetOf_readonly target) fun rule => ?_
    have hremove : Moves R (Board.removeRule rule.1 rule.2) := hall _ .removeRule
    exact acting_moves hremove _

/-! ### Command lines -/

/-- A command line carries out a task on the database of the board. -/
structure Line.Does (line : Line) (task : Task) : Prop where
  onBoard : line.overrides.dataPath = none
  unchecked : line.checkDatabase = false
  task : line.task = some task

theorem Line.Does.run {line : Line} {task : Task} (h : line.Does task) (s : Settings) : line.run s = task.run := by
  rw [Line.run, h.onBoard]
  dsimp only
  rw [Line.act, h.unchecked, h.task]
  rfl

theorem Line.readonly_or_does (line : Line) (s : Settings) : Readonly (line.run s) ∨ ∃ task, line.Does task := by
  unfold Line.run
  cases hplace : line.overrides.dataPath with
  | some place => exact Or.inl (onDatabase_readonly _ _)
  | none =>
    dsimp only
    unfold Line.act
    cases hcheck : line.checkDatabase with
    | true => exact Or.inl databaseReport_readonly
    | false => cases htask : line.task with
      | some task => exact Or.inr ⟨task, hplace, hcheck, htask⟩
      | none => exact Or.inl (.pure _)

theorem Line.run_moved (line : Line) (s : Settings) : Moves (Moved P) (line.run s) := by
  rcases line.readonly_or_does s with hread | ⟨task, hdoes⟩
  · exact .of_readonly .refl hread
  · rw [hdoes.run]
    exact Task.run_moves .refl fun call _ b => (call.accessed b).moved

/-! ### Keys that are enabled -/

/-- A command line enables no key but the one that its task is to enable, or one that it issues. -/
theorem Line.run_tended (line : Line) (s : Settings) (b : Board) :
    b.store.Tended (fun id => line.Does (.switchKey id true))
      (∃ role label disabled json, line.Does (.addKey role label disabled json)) (b.run (line.run s)).2.store := by
  rcases line.readonly_or_does s with hread | ⟨task, hdoes⟩
  · rw [store_congr (hread b)]
    exact .refl _
  rw [hdoes.run]
  refine Task.run_moves .refl (fun call hasks => call.tended ?_ ?_ ?_) b
  · rintro id rfl
    cases hasks
    exact hdoes
  · rintro role label enabled rfl
    cases hasks
    exact ⟨_, _, _, _, hdoes⟩
  · -- A line has one task, so one that deletes a key issues none.
    rintro id rfl ⟨role, label, disabled, json, hadds⟩
    cases hasks
    cases hdoes.task.symm.trans hadds.task

/-- A task disables or deletes the key with an id. -/
def Task.Revokes (task : Task) (id : Int) : Prop := task = .switchKey id false ∨ ∃ hard, task = .removeKey id hard

theorem acting_board {α : Type} (a : Action α) (line : α → String) (b : Board) :
    (b.run (acting purpose a >>= fun x => pure (line x))).2 = (a.on b).2 := by
  have hacting : b.run (acting purpose a) =
      ((a.on b).1.mapError fun e => ⟨purpose :: storeCauses e⟩, (a.on b).2) := rfl
  rw [run_bind, hacting]
  rcases a.on b with ⟨_ | _, _⟩ <;> rfl

theorem Task.Revokes.shuts {task : Task} (h : task.Revokes id) (b : Board) : (b.run task.run).2.store.Shut id := by
  have hstate : (b.run (setState id false)).2.store.Shut id := by
    rw [setState, acting_board]
    exact setEnabled_shuts b
  rcases h with rfl | ⟨_ | _, rfl⟩
  · exact hstate
  · exact hstate
  · rw [Task.run, acting_board]
    exact deleteKey_shuts b

end Pasteboard.Command
