import QueryDesk.Arrangement
import QueryDesk.Error
import QueryDesk.Saved.Time
import QueryDesk.Saved.Uuid

/-!
# Saved queries

A saved query keeps its definition as the text it was sent as. `SavedRows` holds the saved queries of all
users; its five operations are the atomic steps from which everything else is made.
-/

namespace QueryDesk

structure SavedQuery where
  id : Uuid
  userId : String
  environmentId : String
  name : String
  description : Option String
  definition : String
  createdAt : Time
  updatedAt : Time
  deriving DecidableEq, Repr, Inhabited

/-- The saved queries, one for each id, in the order in which a walk of all of them comes to them. -/
structure SavedRows where
  rows : List SavedQuery
  deriving DecidableEq, Repr, Inhabited

namespace SavedRows

def empty : SavedRows := ⟨[]⟩

/-- The saved query of an id. -/
def find? (s : SavedRows) (id : Uuid) : Option SavedQuery := s.rows.find? (·.id == id)

/-- The rows when they are walked in an order of the ids. -/
def walked (s : SavedRows) (order : Arrangement Uuid) : SavedRows := ⟨order.arrange (·.id) s.rows⟩

/-- The saved queries of a user as they are walked. -/
def listOf (s : SavedRows) (userId : String) : List SavedQuery := s.rows.filter (·.userId == userId)

/-- Adds a saved query, in place of one with its id. -/
def insert (s : SavedRows) (q : SavedQuery) : SavedRows := ⟨q :: s.rows.filter (·.id != q.id)⟩

/-- Puts a saved query in place of the one with its id, if there is one. -/
def replace (s : SavedRows) (q : SavedQuery) : Bool × SavedRows :=
  (s.rows.any (·.id == q.id), ⟨s.rows.map fun r => if r.id = q.id then q else r⟩)

/-- Removes the saved query of an id, if there is one. -/
def remove (s : SavedRows) (id : Uuid) : Bool × SavedRows :=
  (s.rows.any (·.id == id), ⟨s.rows.filter (·.id != id)⟩)

end SavedRows

end QueryDesk
