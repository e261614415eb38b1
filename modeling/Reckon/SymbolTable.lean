import Reckon.Cursor

/-!
# Symbols of several characters

A table of symbols branches on their characters. Reading a symbol follows the table as long as the
text does, and then goes back to the longest symbol it passed; any single character is a symbol.
-/

namespace Reckon

/-- `isSymbol` says whether the characters on the way here are a symbol. -/
inductive SymbolTable where
  | node (isSymbol : Bool) (branches : List (Char × SymbolTable))

namespace SymbolTable

def empty : SymbolTable := node false []

def isSymbol : SymbolTable → Bool
  | node isSymbol _ => isSymbol

def branches : SymbolTable → List (Char × SymbolTable)
  | node _ branches => branches

def branch? (t : SymbolTable) (c : Char) : Option SymbolTable :=
  t.branches.lookup c

def isEmpty (t : SymbolTable) : Bool :=
  t.branches.isEmpty

/-- The branches with the one at `c` replaced, or added last. -/
def setBranch (c : Char) (t : SymbolTable) : List (Char × SymbolTable) → List (Char × SymbolTable)
  | [] => [(c, t)]
  | (d, old) :: rest => if c = d then (c, t) :: rest else (d, old) :: setBranch c t rest

def insertPath : List Char → SymbolTable → SymbolTable
  | [], t => node true t.branches
  | c :: rest, t =>
    node t.isSymbol (setBranch c (insertPath rest ((t.branch? c).getD empty)) t.branches)

/-- No characters are no symbol. -/
def insert (t : SymbolTable) (symbol : List Char) : SymbolTable :=
  if symbol.isEmpty then t else insertPath symbol t

def ofList (symbols : List (List Char)) : SymbolTable :=
  symbols.foldl insert empty

def contains (t : SymbolTable) : (symbol : List Char) → Bool
  | [] => t.isSymbol
  | c :: rest =>
    match t.branch? c with
    | none => false
    | some t => contains t rest

/-- How many characters the table follows in a text, and how many of them the longest symbol has. -/
def walk (t : SymbolTable) (read best : Nat) : List Char → Nat × Nat
  | [] => (read, best)
  | c :: rest =>
    match t.branch? c with
    | none => (read, best)
    | some t => walk t (read + 1) (if t.isSymbol then read + 1 else best) rest

/-- Reads the rest of a symbol whose first character has been passed. -/
def read (t : SymbolTable) (first : Char) (c : Cursor) : List Char × Cursor :=
  match t.branch? first with
  | none => ([first], c)
  | some t =>
    let (read, best) := walk t 0 0 c.ahead
    (first :: c.ahead.take best, (c.steps read).unread (read - best))

end SymbolTable

end Reckon
