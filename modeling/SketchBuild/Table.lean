namespace SketchBuild

abbrev Table (κ ν : Type) := List (κ × ν)

namespace Table

variable {κ ν : Type} [DecidableEq κ]

def find? (k : κ) : Table κ ν → Option ν
  | [] => none
  | (k', v) :: t => if k' = k then some v else find? k t

/-- Changes the value at a key in place; a new key goes to the end. -/
def alter (k : κ) (f : Option ν → ν) : Table κ ν → Table κ ν
  | [] => [(k, f none)]
  | (k', v) :: t => if k' = k then (k', f (some v)) :: t else (k', v) :: alter k f t

def put (k : κ) (v : ν) (t : Table κ ν) : Table κ ν := alter k (fun _ => v) t

def putNew (k : κ) (v : ν) (t : Table κ ν) : Table κ ν := alter k (·.getD v) t

def erase (k : κ) (t : Table κ ν) : Table κ ν := t.filter (·.1 ≠ k)

/-- The table of some rows: a later row replaces the value of an earlier one, at its place. -/
def ofList (rows : List (κ × ν)) : Table κ ν := rows.foldl (fun t (k, v) => put k v t) []

def keys (t : Table κ ν) : List κ := t.map Prod.fst

end Table

end SketchBuild
