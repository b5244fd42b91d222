import TangleGateway.Command.Basic

/-! # Lists shared with a command

A list of the caller can be appended to after a command was built from it, and so can the lists
of a payload that was handed out. Here a list is a reference into a store, every other object is
its value. A command that holds a list of the caller hands out that very list.
-/

namespace TangleGateway

/-- An object of a caller: a list by reference, or another value. -/
inductive SharedObject where
  | list (ref : Nat)
  | plain (v : Value)

structure ListStore where
  lists : List (List Value)

namespace ListStore

def empty : ListStore := ⟨[]⟩

/-- The value of an object at the moment. -/
def view (s : ListStore) : SharedObject → Value
  | .list ref => .list (s.lists[ref]?.getD [])
  | .plain v => v

def new (s : ListStore) (items : List Value) : SharedObject × ListStore :=
  (.list s.lists.length, ⟨s.lists ++ [items]⟩)

/-- An object for a value: a list gets a reference of its own. -/
def share (s : ListStore) : Value → SharedObject × ListStore
  | .list items => s.new items
  | v => (.plain v, s)

/-- Appends to the list an object refers to; any other object stays as it is. -/
def append (s : ListStore) (x : Value) : SharedObject → ListStore
  | .list ref => ⟨s.lists.modify ref (· ++ [x])⟩
  | .plain _ => s

def appendAll (s : ListStore) (x : Value) (objects : List SharedObject) : ListStore :=
  objects.foldl (fun s o => s.append x o) s

/-- The object that goes out for a field: the one held, or a list made for the payload. -/
def handOutField (s : ListStore) (f : Field SharedObject) : Option SharedObject × ListStore :=
  match f, f.value? s.view with
  | _, none => (none, s)
  | .held (.list ref), some _ => (some (.list ref), s)
  | _, some v =>
    let (o, s) := s.share v
    (some o, s)

def handOut (s : ListStore) : List (Text × Field SharedObject) →
    List (Text × SharedObject) × ListStore
  | [] => ([], s)
  | (name, f) :: fs =>
    match s.handOutField f with
    | (o, s) =>
      let (os, s) := handOut s fs
      (o.elim os fun o => (name, o) :: os, s)

end ListStore

end TangleGateway
