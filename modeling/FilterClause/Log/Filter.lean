import FilterClause.Log.Rule

/-!
What a log takes in. A filter is a list of rules, and of those that speak of an event the most precise
decides: the one that names its part at most length, then the narrower one, then the later. Where no
rule speaks of an event, it is not taken in.
-/

namespace FilterClause

abbrev LogFilter := List LogRule

namespace LogFilter

def silent : LogFilter := []

def usual : LogFilter := [⟨none, .every, some .info⟩]

def full : LogFilter := [⟨none, .every, some .trace⟩]

def threshold (f : LogFilter) (target : String) (fields : List String) : Threshold :=
  ((f.filter fun r => r.governs target fields).foldl LogRule.preferred none).bind LogRule.threshold

/-- Rules with commas between them; without any rule only errors are taken in. -/
def ofText? (text : String) : Option LogFilter :=
  match (text.splitOn ",").filter (· ≠ "") with
  | [] => some [⟨none, .every, some .error⟩]
  | rules => rules.mapM LogRule.ofText?

end LogFilter

end FilterClause
