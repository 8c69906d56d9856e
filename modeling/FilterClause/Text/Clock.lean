/-!
A clock for loops over a text. Where every round of a loop takes at least one character, the text itself
has ticks enough, and nothing has to be counted in advance.
-/

namespace FilterClause.Text

/-- One tick more than the text has characters. -/
def clock (text : List Char) : List Char :=
  ' ' :: text

end FilterClause.Text
