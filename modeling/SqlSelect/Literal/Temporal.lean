import SqlSelect.Calendar.Timestamp
import SqlSelect.Dialect

/-! # Literals of dates and timestamps

Dates and timestamps are written as quoted ISO text; Oracle wraps them in a keyword or a
conversion. A timestamp shows its local time, rounded to microseconds, and only
PostgreSQL and SQL Server show its offset. SQLite keeps no more than milliseconds. -/

namespace SqlSelect.Literal

open Calendar

/-- The literal of a date. -/
def ofDate (d : Dialect) (date : Date) : List Char :=
  (if d = .oracle then "DATE '" else "'").toList ++ date.iso ++ ['\'']

/-- The digits of a timestamp, with the offset where the dialect shows it. -/
def timestampText (d : Dialect) (t : Timestamp) : List Char :=
  match d with
  | .mysql | .oracle => t.rounded.iso 6
  | .sqlite => t.rounded.iso 3
  | .postgresql | .sqlserver => t.rounded.iso 6 ++ ' ' :: t.isoOffset

/-- What stands before and after the digits of a timestamp. -/
def timestampWrapper : Dialect → String × String
  | .oracle => ("to_timestamp('", "', 'YYYY-MM-DD HH24:MI:SS.FF')")
  | .mysql | .postgresql | .sqlite | .sqlserver => ("'", "'")

/-- The literal of a timestamp. -/
def ofTimestamp (d : Dialect) (t : Timestamp) : List Char :=
  (timestampWrapper d).1.toList ++ timestampText d t ++ (timestampWrapper d).2.toList

example : String.ofList (ofDate .mysql (Date.mk (-1) 12 31)) = "'-0001-12-31'" := by
  decide +kernel

end SqlSelect.Literal
