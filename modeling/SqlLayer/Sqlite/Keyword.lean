import SqlLayer.Text.Search

/-!
# Reserved words of the SQLite engine

Most keywords of the engine may also be names. The reserved ones may not, in letters of either
case, unless they stand in quotes.
-/

namespace SqlLayer.Sqlite

/-- The reserved words, in alphabetical order. -/
def reservedWords : List String :=
  ["ADD", "ALL", "ALTER", "AND", "AS", "AUTOINCREMENT", "BETWEEN", "CASE", "CHECK", "COLLATE",
   "COMMIT", "CONSTRAINT", "CREATE", "DEFAULT", "DEFERRABLE", "DELETE", "DISTINCT", "DROP", "ELSE",
   "ESCAPE", "EXCEPT", "EXISTS", "FOREIGN", "FROM", "GROUP", "HAVING", "IN", "INDEX", "INSERT",
   "INTERSECT", "INTO", "IS", "ISNULL", "JOIN", "LIMIT", "NOT", "NOTHING", "NOTNULL", "NULL", "ON",
   "OR", "ORDER", "PRIMARY", "REFERENCES", "RETURNING", "SELECT", "SET", "TABLE", "THEN", "TO",
   "TRANSACTION", "UNION", "UNIQUE", "UPDATE", "USING", "VALUES", "WHEN", "WHERE"]

/-- Whether a word is reserved. -/
def isReserved (word : List Char) : Bool :=
  reservedWords.any fun reserved => Text.sameLetters word reserved.toList

end SqlLayer.Sqlite
