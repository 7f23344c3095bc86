import FormCompiler.Text.Numeral

namespace FormCompiler.Store

inductive Rule where
  | check
  | foreignKey
  | notNull
  | primaryKey
  | trigger
  | unique
  | rowNumber
  | datatype
  | other
  deriving DecidableEq

def Rule.number : Rule → Nat
  | check => 275
  | foreignKey => 787
  | notNull => 1299
  | primaryKey => 1555
  | trigger => 1811
  | unique => 2067
  | rowNumber => 2579
  | datatype => 3091
  | other => 19

inductive Code where
  | error
  | permission
  | busy
  | locked
  | readOnly
  | readOnlyJournal
  | io
  | ioLock
  | corrupt
  | corruptIndex
  | corruptSequence
  | full
  | cannotOpen
  | tooBig
  | against (rule : Rule)
  | mismatch
  | notADatabase
  deriving DecidableEq

namespace Code

def number : Code → Nat
  | error => 1
  | permission => 3
  | busy => 5
  | locked => 6
  | readOnly => 8
  | readOnlyJournal => 776
  | io => 10
  | ioLock => 3850
  | corrupt => 11
  | corruptIndex => 779
  | corruptSequence => 523
  | full => 13
  | cannotOpen => 14
  | tooBig => 18
  | against rule => rule.number
  | mismatch => 20
  | notADatabase => 26

def text : Code → String
  | error => "SQL logic error"
  | permission => "access permission denied"
  | busy => "database is locked"
  | locked => "database table is locked"
  | readOnly | readOnlyJournal => "attempt to write a readonly database"
  | io | ioLock => "disk I/O error"
  | corrupt | corruptIndex | corruptSequence => "database disk image is malformed"
  | full => "database or disk is full"
  | cannotOpen => "unable to open database file"
  | tooBig => "string or blob too big"
  | against _ => "constraint failed"
  | mismatch => "datatype mismatch"
  | notADatabase => "file is not a database"

def label (c : Code) : String :=
  " (" ++ Text.Numeral.ofNat c.number ++ ")" ++ (if c = busy then " (SQLITE_BUSY)" else "")

end Code

/-- A result may come with more about it. Some requests fail before a database sees them. A trigger may ask
for a change to be left out, which nobody is told. -/
inductive Obstacle where
  | closed
  | result (code : Code)
  | detailed (code : Code) (detail : String)
  | other (text : String)
  | ignored
  deriving DecidableEq

namespace Obstacle

def text : Obstacle → String
  | closed => "sql: database is closed"
  | result code => code.text ++ code.label
  | detailed code detail => code.text ++ ": " ++ detail ++ code.label
  | other text => text
  | ignored => ""

def opening (code : Code) : Obstacle := detailed code "out of memory"

def statement (detail : String) : Obstacle := detailed .error detail

end Obstacle

end FormCompiler.Store
