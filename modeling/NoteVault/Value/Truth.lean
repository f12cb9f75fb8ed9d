import NoteVault.Value.Order

/-!
# Truth of values

A value counts as true if it is there and not empty: a number other than zero, a
text, array or object with something in it, a link with a path, a duration of any
length, a date other than the beginning of 1970 in UTC. Markup and functions
always count, values without a tag never.
-/

namespace NoteVault.Value

/-- Whether a value counts as true. A date that UTC puts outside the calendar has no
answer. -/
def truthy : Value → Except OrderError Bool
  | .null => .ok false
  | .bool b => .ok b
  | .number x => .ok !x.isZero
  | .string s => .ok !s.isEmpty
  | .date m => if Moment.isInCalendar m.instant then .ok (m.instant != Moment.epoch)
      else .error .outsideCalendar
  | .duration d => .ok (d.micros != 0)
  | .html _ => .ok true
  | .array _ items => .ok !items.isEmpty
  | .link l => .ok !l.path.isEmpty
  | .function | .callable _ => .ok true
  | .object entries => .ok !entries.isEmpty
  | .task _ | .flat _ | .grouped _ | .untagged => .ok false

end NoteVault.Value
