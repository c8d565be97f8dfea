/-!
Named values: lists of pairs in which a name stands at most once.

Putting a value under a name that is there already keeps the place of the name.
-/

namespace Pasteboard.Named

/-- Puts a value under a name: the first place of the name is kept, the last value wins. -/
def put {α : Type} (entries : List (String × α)) (name : String) (value : α) :
    List (String × α) :=
  if entries.any (·.1 == name) then entries.map fun e => if e.1 == name then (name, value) else e
  else entries ++ [(name, value)]

/-- Puts pairs one after the other. -/
def putAll {α : Type} (entries more : List (String × α)) : List (String × α) :=
  more.foldl (fun entries e => put entries e.1 e.2) entries

theorem putAll_nil {α : Type} (entries : List (String × α)) : putAll entries [] = entries := rfl

end Pasteboard.Named
