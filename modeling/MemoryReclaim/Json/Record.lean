import MemoryReclaim.Json.Tree

/-!
# Records and choices

A record is an object whose known fields occur at most once, in any order and among any
unknown ones, or an array of its fields in the declared order.  In the object form a
field may be absent where it is optional or has a default; in the array form only
trailing fields with a default may be left out.  A choice is one of a set of names,
alone or as the only key of an object over `null`.
-/

namespace MemoryReclaim.Json

structure Record where
  positional : Bool
  fields : List (String × Tree)

namespace Record

/-- The known fields of `tree`, each under its name. -/
def open? (names : List String) : Tree → Option Record
  | .array items =>
      if items.length ≤ names.length then some ⟨true, names.zip items⟩ else none
  | tree => do
      let members ← tree.members?
      let known := members.filter fun member => names.contains member.1
      if (known.map Prod.fst).Nodup then some ⟨false, known⟩ else none

def find? (record : Record) (name : String) : Option Tree := record.fields.lookup name

def required? {α : Type} (record : Record) (name : String) (read? : Tree → Option α) :
    Option α :=
  (record.find? name).bind read?

/-- An absent field is no value; in the array form it must be written as `null`. -/
def optional? {α : Type} (record : Record) (name : String) (read? : Tree → Option α) :
    Option (Option α) :=
  match record.find? name with
  | some tree => tree.optional? read?
  | none => if record.positional then none else some none

def withDefault? {α : Type} (record : Record) (name : String) (default : α)
    (read? : Tree → Option α) : Option α :=
  match record.find? name with
  | some tree => read? tree
  | none => some default

end Record

/-- The single member of an object. -/
def Tree.onlyMember? (tree : Tree) : Option (String × Tree) :=
  match tree.members? with
  | some [member] => some member
  | _ => none

def choiceName? : Tree → Option String
  | .text pieces => Tree.text? (.text pieces)
  | tree =>
      match tree.onlyMember? with
      | some (name, .null) => some name
      | _ => none

/-- The value listed under the name that `tree` gives. -/
def choice? {α : Type} (values : List (String × α)) (tree : Tree) : Option α :=
  (choiceName? tree).bind fun name => values.lookup name

end MemoryReclaim.Json
