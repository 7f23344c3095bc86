import FormCompiler.Database.Value.Basic

namespace FormCompiler.Database

structure Name where
  text : String
  written : String := text
  octets : Octets := Octets.ofString text
  deriving DecidableEq, Inhabited

namespace Name

def isDoubleQuoted (n : Name) : Bool := n.written.toList.head? == some '"'

def isQuoted (n : Name) : Bool := n.written.toList.head?.any fun c => c == '"' || c == '[' || c == '\x60' || c == '\''

def same (a b : String) : Bool := a.map Char.toLower == b.map Char.toLower

end Name

structure FullName where
  database : Option Name := none
  name : Name
  deriving DecidableEq, Inhabited

inductive Conflict where
  | rollback
  | abort
  | fail
  | ignore
  | replace
  deriving DecidableEq, Inhabited

inductive UnaryOp where
  | minus
  | plus
  | bitNot
  | not
  | isNull
  | notNull
  deriving DecidableEq

inductive BinaryOp where
  | or
  | and
  | eq
  | ne
  | lt
  | le
  | gt
  | ge
  | is
  | isNot
  | bitAnd
  | bitOr
  | shiftLeft
  | shiftRight
  | add
  | sub
  | mul
  | div
  | rem
  | concat
  | arrow
  | longArrow
  deriving DecidableEq

def BinaryOp.compares (op : BinaryOp) : Bool := [.eq, .ne, .lt, .le, .gt, .ge, .is, .isNot].contains op

inductive Compound where
  | union
  | unionAll
  | except
  | intersect
  deriving DecidableEq

structure Join where
  isNatural : Bool := false
  isLeft : Bool := false
  isRight : Bool := false
  isCross : Bool := false
  deriving DecidableEq, Inhabited

inductive FrameUnit where
  | rows
  | range
  | groups
  deriving DecidableEq, Inhabited

inductive FrameBound (ε : Type) where
  | first
  | before (e : ε)
  | current
  | after (e : ε)
  | last

inductive Exclusion where
  | nothing
  | current
  | group
  | ties
  deriving DecidableEq, Inhabited

structure WindowFrame (ε : Type) where
  unit : FrameUnit := .range
  start : FrameBound ε := .first
  stop : FrameBound ε := .current
  exclusion : Exclusion := .nothing

mutual

inductive Expr where
  | null
  | integer (text : String)
  | float (text : String)
  | string (s : ByteArray)
  | blob (b : ByteArray)
  | now (what : String)
  | parameter (number : Nat)
  | column (database table : Option Name) (name : Name)
  | unary (op : UnaryOp) (a : Expr)
  | binary (op : BinaryOp) (a b : Expr)
  | like (op : String) (negated : Bool) (a b : Expr) (escape : Option Expr)
  | between (negated : Bool) (a low high : Expr)
  | inList (negated : Bool) (a : Expr) (items : List Expr)
  | inQuery (negated : Bool) (a : Expr) (q : Query)
  | inTable (negated : Bool) (a : Expr) (table : FullName) (args : List Expr)
  | collate (a : Expr) (name : Name)
  | cast (a : Expr) (type : String)
  | call (name : Name) (isDistinct isStar : Bool) (args : List Expr) (order : List Sorting)
      (filter : Option Expr) (window : Option Window)
  | vector (items : List Expr)
  | query (q : Query)
  | exists (q : Query)
  | case (base : Option Expr) (branches : List (Expr × Expr)) (otherwise : Option Expr)
  | raise (action : Conflict) (message : String)

inductive Sorting where
  | mk (e : Expr) (isDescending : Bool) (nullsFirst : Option Bool)

inductive Window where
  | named (n : Name)
  | own (base : Option Name) (partition : List Expr) (order : List Sorting) (frame : Option (WindowFrame Expr))

inductive ResultColumn where
  | expr (e : Expr) (asName : Option Name) (text : String)
  | all
  | allOf (table : Name)

inductive Relation where
  | table (join : Join) (name : FullName) (asName : Option Name) (index : Option (Option Name)) (on_ : Option Expr)
      (using_ : List Name)
  | call (join : Join) (name : FullName) (args : List Expr) (asName : Option Name) (on_ : Option Expr)
      (using_ : List Name)
  | query (join : Join) (q : Query) (asName : Option Name) (on_ : Option Expr) (using_ : List Name)
  | group (join : Join) (sources : List Relation) (asName : Option Name) (on_ : Option Expr) (using_ : List Name)

inductive Core where
  | select (isDistinct : Bool) (columns : List ResultColumn) (sources : List Relation) (where_ : Option Expr)
      (group : List Expr) (having : Option Expr) (windows : List (Name × Window)) (order : List Sorting)
      (limit offset : Option Expr)
  | values (rows : List (List Expr))

inductive CommonTable where
  | mk (name : Name) (columns : List Name) (isKept : Option Bool) (q : Query)

inductive Query where
  | mk (common : List CommonTable) (first : Core) (rest : List (Compound × Core))

end

instance : Inhabited Expr := ⟨.null⟩
instance : Inhabited Query := ⟨.mk [] (.values []) []⟩

structure Reference where
  table : Name
  columns : List Name := []
  onDelete : String := ""
  onUpdate : String := ""
  isDeferred : Bool := false

inductive TablePart where
  | column (name : Name) (type : String)
  | named (name : Name)
  | default (e : Expr) (text : String)
  | null
  | notNull (conflict : Option Conflict)
  | primaryKey (isDescending : Bool) (conflict : Option Conflict) (isCounting : Bool)
  | unique (conflict : Option Conflict)
  | check (e : Expr) (text : String)
  | references (r : Reference)
  | deferred (isDeferred : Bool)
  | collate (name : Name)
  | generated (e : Expr) (kind : Option Name)
  | tablePrimaryKey (columns : List Sorting) (conflict : Option Conflict) (isCounting : Bool)
  | tableUnique (columns : List Sorting) (conflict : Option Conflict)
  | tableReferences (columns : List Name) (r : Reference)

structure TableStep where
  part : TablePart
  position : Nat

structure TableDefinition where
  isTemporary : Bool := false
  ifMissing : Bool := false
  name : FullName
  position : Nat := 0
  steps : List TableStep := []
  query : Option Query := none
  isKeyed : Bool := false
  isStrict : Bool := false
  text : Octets := []
  deriving Inhabited

structure IndexDefinition where
  isUnique : Bool := false
  ifMissing : Bool := false
  name : FullName
  table : Name
  columns : List Sorting
  where_ : Option Expr := none
  text : Octets := []

structure ViewDefinition where
  isTemporary : Bool := false
  ifMissing : Bool := false
  name : FullName
  columns : List Name := []
  query : Query
  text : Octets := []

inductive TriggerTime where
  | before
  | after
  | instead
  deriving DecidableEq

inductive TriggerEvent where
  | delete
  | insert
  | update (columns : List Name)
  deriving DecidableEq

structure Assignment where
  columns : List Name
  value : Expr

structure Upsert where
  target : List Sorting := []
  where_ : Option Expr := none
  changes : Option (List Assignment × Option Expr) := none

structure InsertStatement where
  common : List CommonTable := []
  conflict : Option Conflict := none
  table : FullName
  asName : Option Name := none
  columns : List Name := []
  source : Option Query := none
  upserts : List Upsert := []
  returning : List ResultColumn := []

structure UpdateStatement where
  common : List CommonTable := []
  conflict : Option Conflict := none
  table : FullName
  asName : Option Name := none
  index : Option (Option Name) := none
  changes : List Assignment
  sources : List Relation := []
  where_ : Option Expr := none
  returning : List ResultColumn := []

structure DeleteStatement where
  common : List CommonTable := []
  table : FullName
  asName : Option Name := none
  index : Option (Option Name) := none
  where_ : Option Expr := none
  returning : List ResultColumn := []

inductive TriggerAction where
  | insert (s : InsertStatement)
  | update (s : UpdateStatement)
  | delete (s : DeleteStatement)
  | select (q : Query)

structure TriggerDefinition where
  isTemporary : Bool := false
  ifMissing : Bool := false
  name : FullName
  time : TriggerTime
  event : TriggerEvent
  table : FullName
  when_ : Option Expr := none
  actions : List TriggerAction := []
  position : Nat := 0
  text : Octets := []

inductive ObjectKind where
  | table
  | index
  | view
  | trigger
  deriving DecidableEq

def ObjectKind.name : ObjectKind → String
  | table => "table"
  | index => "index"
  | view => "view"
  | trigger => "trigger"

inductive Alteration where
  | rename (name : Name)
  | renameColumn (from_ to_ : Name)
  | dropColumn (name : Name)
  | addColumn (steps : List TableStep) (text : String)

structure Pragma where
  database : Option Name := none
  name : Name
  value : Option String := none
  digits : Option String := none
  deriving DecidableEq

inductive Start where
  | deferred
  | immediate
  | exclusive
  deriving DecidableEq

inductive Statement where
  | begin (start : Start)
  | commit
  | rollback (to_ : Option Name)
  | savepoint (name : Name)
  | release (name : Name)
  | select (q : Query)
  | insert (s : InsertStatement)
  | update (s : UpdateStatement)
  | delete (s : DeleteStatement)
  | createTable (d : TableDefinition)
  | createIndex (d : IndexDefinition)
  | createView (d : ViewDefinition)
  | createTrigger (d : TriggerDefinition)
  | createVirtual (name : FullName) (ifMissing : Bool) (module : Name) (args : List Octets) (text : Octets)
  | drop (kind : ObjectKind) (ifThere : Bool) (name : FullName)
  | alter (table : FullName) (position : Nat) (change : Alteration)
  | pragma (p : Pragma)
  | attach (file name : Expr)
  | detach (name : Expr)
  | vacuum (database : Option Name) (target : Option Expr)
  | reindex (name : Option FullName)
  | analyze (name : Option FullName)
  | explain (s : Statement)

end FormCompiler.Database
