import NotebookHost.Failure
import Std.Data.TreeMap

/-!
The durable store: texts under keys, in the order of the keys. A call fails as a whole or not at
all; which calls fail is said by an `Outage`.
-/

namespace NotebookHost

structure Outage where
  read : Bool := false
  write : Bool := false
  erase : Bool := false
  scan : Bool := false
  deriving DecidableEq, Repr

def Outage.complete : Outage := ⟨true, true, true, true⟩

structure Store where
  rows : Std.TreeMap String String := ∅

namespace Store

instance : EmptyCollection Store := ⟨{}⟩

def get? (s : Store) (key : String) : Option String := s.rows[key]?

def put (s : Store) (key value : String) : Store := ⟨s.rows.insert key value⟩

def drop (s : Store) (key : String) : Store := ⟨s.rows.erase key⟩

def contains (s : Store) (key : String) : Bool := s.rows.contains key

def measured (t : String) : List Char := t.toList.takeWhile (· != '\x00')

/-- Whether the first characters of the key, as many as the start measures, are the start. A start
that holds a NUL is the start of no key. -/
def startsWith (start key : String) : Bool :=
  (measured key).take (measured start).length == start.toList

def startingWith (s : Store) (start : String) : List (String × String) :=
  s.rows.toList.filter fun row => startsWith start row.1

def read (o : Outage) (s : Store) (key : String) : Except Failure (Option String) :=
  if o.read then .error (.storage ["Failed to read key " ++ key]) else .ok (s.get? key)

def write (o : Outage) (s : Store) (key value : String) : Except Failure Store :=
  if o.write then .error (.storage ["Failed to store key " ++ key]) else .ok (s.put key value)

def erase (o : Outage) (s : Store) (key : String) : Except Failure (Store × Bool) :=
  if o.erase then .error (.storage ["Failed to delete key " ++ key])
  else .ok (s.drop key, s.contains key)

def scan (o : Outage) (s : Store) (start : String) : Except Failure (List (String × String)) :=
  if o.scan then .error (.storage ["Failed to scan keys"]) else .ok (s.startingWith start)

@[simp] theorem get?_empty (key : String) : (∅ : Store).get? key = none := by
  show (∅ : Std.TreeMap String String)[key]? = none
  simp

theorem get?_put (s : Store) (k v key : String) :
    (s.put k v).get? key = if k = key then some v else s.get? key := by
  simp only [get?, put, Std.TreeMap.getElem?_insert, Std.LawfulEqCmp.compare_eq_iff_eq]

theorem get?_drop (s : Store) (k key : String) :
    (s.drop k).get? key = if k = key then none else s.get? key := by
  simp only [get?, drop, Std.TreeMap.getElem?_erase, Std.LawfulEqCmp.compare_eq_iff_eq]

theorem contains_eq (s : Store) (key : String) : s.contains key = (s.get? key).isSome := by
  simp [contains, get?]

theorem mem_startingWith {s : Store} {start : String} {row : String × String} :
    row ∈ s.startingWith start ↔ s.get? row.1 = some row.2 ∧ startsWith start row.1 = true := by
  obtain ⟨k, v⟩ := row
  simp [startingWith, get?, Std.TreeMap.mem_toList_iff_getElem?_eq_some]

theorem startingWith_ascending (s : Store) (start : String) :
    (s.startingWith start).Pairwise fun a b => a.1 < b.1 := by
  have h := (Std.TreeMap.ordered_keys_toList (t := s.rows)).filter (fun row => startsWith start row.1)
  exact h.imp fun hlt => compareOfLessAndEq_eq_lt.mp hlt

end Store

end NotebookHost
