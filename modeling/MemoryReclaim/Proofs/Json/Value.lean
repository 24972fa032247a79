import Mathlib.Data.List.Forall2
import MemoryReclaim.Json.Record
import MemoryReclaim.Proofs.Json.Nesting

/-!
# Values in documents

Which trees give a value of each kind, apart from the readers: a *form* is a set of trees,
and every reader finds a value in exactly the trees of its form.  The written form is one of
them, also where reading it back does not give the very tree that was written.
-/

namespace MemoryReclaim.Json

open MemoryReclaim.Text

variable {α : Type} {tree : Tree} {pieces : List Piece}

/-! ## Forms -/

/-- A numeral of the number, without point and exponent. -/
inductive IntegerForm (value : Int) : Tree → Prop
  | number {numeral : Numeral} (hvalue : numeral.IsInteger value) :
      IntegerForm value (.number numeral)

def Int32Form (value : Int) (tree : Tree) : Prop := IntegerForm value tree ∧ fitsInt32 value

def UInt32Form (value : Nat) (tree : Tree) : Prop := IntegerForm value tree ∧ fitsUInt32 value

def UInt64Form (value : Nat) (tree : Tree) : Prop := IntegerForm value tree ∧ fitsUInt64 value

inductive TextForm (value : String) : Tree → Prop
  | text {pieces : List Piece} (hdenotes : Denotes pieces value.toList) :
      TextForm value (.text pieces)

inductive BoolForm (value : Bool) : Tree → Prop
  | bool : BoolForm value (.bool value)

/-- Any numeral whose nearest floating-point number is the value. -/
inductive FloatForm (value : Float) : Tree → Prop
  | number {numeral : Numeral} (hvalue : numeral.float? = some value) :
      FloatForm value (.number numeral)

inductive ListForm (form : α → Tree → Prop) (values : List α) : Tree → Prop
  | items {items : List Tree}
      (hvalues : List.Forall₂ (fun item value => form value item) items values) :
      ListForm form values (.array items)

/-- No value is given by `null`. -/
inductive OptionForm (form : α → Tree → Prop) : Option α → Tree → Prop
  | none : OptionForm form none .null
  | some {value : α} {tree : Tree} (hvalue : form value tree) : OptionForm form (some value) tree

/-- An object with one member. -/
inductive MemberForm (name : String) (form : Tree → Prop) : Tree → Prop
  | member {key : List Piece} {value : Tree} (hkey : Denotes key name.toList)
      (hvalue : form value) : MemberForm name form (.object [(key, value)])

/-- The name of a choice, alone or as the one key of an object over `null`. -/
inductive NameForm (name : String) : Tree → Prop
  | alone {tree : Tree} (hname : TextForm name tree) : NameForm name tree
  | key {tree : Tree} (hname : MemberForm name (· = .null) tree) : NameForm name tree

/-! ## Reading -/

theorem int?_eq_some_iff {value : Int} : tree.int? = some value ↔ IntegerForm value tree := by
  constructor
  · intro hvalue
    cases tree with
    | number numeral => exact .number (Numeral.int?_eq_some_iff.1 hvalue)
    | null | bool _ | text _ | array _ | object _ => cases hvalue
  · rintro ⟨hvalue⟩
    exact Numeral.int?_eq_some_iff.2 hvalue

theorem int32?_eq_some_iff {value : Int} : tree.int32? = some value ↔ Int32Form value tree := by
  rw [Tree.int32?, Option.filter_eq_some_iff, int?_eq_some_iff, Int32Form]

theorem nat?_eq_some_iff {value : Nat} :
    tree.int?.bind Int.toNat? = some value ↔ IntegerForm value tree := by
  rw [Option.bind_eq_some_iff]
  constructor
  · rintro ⟨number, hnumber, hvalue⟩
    rw [← Int.mem_toNat?.1 hvalue]
    exact int?_eq_some_iff.1 hnumber
  · exact fun hvalue => ⟨value, int?_eq_some_iff.2 hvalue, Int.mem_toNat?.2 rfl⟩

theorem uint32?_eq_some_iff {value : Nat} :
    tree.uint32? = some value ↔ UInt32Form value tree := by
  rw [Tree.uint32?, Option.filter_eq_some_iff, nat?_eq_some_iff, UInt32Form]

theorem uint64?_eq_some_iff {value : Nat} :
    tree.uint64? = some value ↔ UInt64Form value tree := by
  rw [Tree.uint64?, Option.filter_eq_some_iff, nat?_eq_some_iff, UInt64Form]

theorem map_ofList_resolve {value : String} :
    (resolve pieces).map String.ofList = some value ↔ Denotes pieces value.toList := by
  rw [Option.map_eq_some_iff, ← resolve_eq_some_iff]
  constructor
  · rintro ⟨chars, hchars, rfl⟩
    rw [hchars, String.toList_ofList]
  · exact fun hchars => ⟨_, hchars, String.ofList_toList⟩

theorem text?_eq_some_iff {value : String} : tree.text? = some value ↔ TextForm value tree := by
  constructor
  · intro hvalue
    cases tree with
    | text pieces => exact .text (map_ofList_resolve.1 hvalue)
    | null | bool _ | number _ | array _ | object _ => cases hvalue
  · rintro ⟨hdenotes⟩
    exact map_ofList_resolve.2 hdenotes

theorem bool?_eq_some_iff {value : Bool} : tree.bool? = some value ↔ BoolForm value tree := by
  constructor
  · intro hvalue
    cases tree with
    | bool found => exact (Option.some.inj hvalue) ▸ .bool
    | null | number _ | text _ | array _ | object _ => cases hvalue
  · rintro ⟨⟩
    rfl

theorem float?_eq_some_iff {value : Float} : tree.float? = some value ↔ FloatForm value tree := by
  constructor
  · intro hvalue
    cases tree with
    | number numeral => exact .number hvalue
    | null | bool _ | text _ | array _ | object _ => cases hvalue
  · rintro ⟨hvalue⟩
    exact hvalue

theorem mapM_eq_some_iff {β : Type} {read? : α → Option β} {items : List α} {values : List β} :
    items.mapM read? = some values ↔
      List.Forall₂ (fun item value => read? item = some value) items values := by
  induction items generalizing values with
  | nil =>
      rw [List.mapM_nil, List.forall₂_nil_left_iff, Option.pure_def, Option.some.injEq, eq_comm]
  | cons item later ih =>
      rw [List.mapM_cons, List.forall₂_cons_left_iff]
      simp only [Option.bind_eq_bind, Option.bind_eq_some_iff, ih, Option.pure_def,
        Option.some.injEq]
      constructor
      · rintro ⟨value, hvalue, others, hothers, rfl⟩
        exact ⟨value, others, hvalue, hothers, rfl⟩
      · rintro ⟨value, others, hvalue, hothers, rfl⟩
        exact ⟨value, hvalue, others, hothers, rfl⟩

theorem list?_eq_some_iff {form : α → Tree → Prop} {read? : Tree → Option α}
    (hread : ∀ value tree, read? tree = some value ↔ form value tree) {values : List α} :
    tree.list? read? = some values ↔ ListForm form values tree := by
  have hitems : ∀ items : List Tree,
      items.mapM read? = some values ↔
        List.Forall₂ (fun item value => form value item) items values := by
    intro items
    simp only [mapM_eq_some_iff, hread]
  constructor
  · intro hvalues
    cases tree with
    | array items => exact .items ((hitems items).1 hvalues)
    | null | bool _ | number _ | text _ | object _ => cases hvalues
  · rintro ⟨hvalues⟩
    exact (hitems _).2 hvalues

theorem optional?_of_form {form : α → Tree → Prop} {read? : Tree → Option α}
    (hread : ∀ value tree, form value tree → read? tree = some value)
    (hnull : read? .null = none) {value : Option α} (hvalue : OptionForm form value tree) :
    tree.optional? read? = some value := by
  cases hvalue with
  | none => rfl
  | @some value _ hvalue =>
      cases tree with
      | null => exact absurd (hnull.symm.trans (hread _ _ hvalue)) (by simp)
      | bool _ | number _ | text _ | array _ | object _ =>
          change (read? _).map some = _
          rw [hread _ _ hvalue, Option.map_some]

theorem onlyMember?_of_form {name : String} {form : Tree → Prop}
    (hmember : MemberForm name form tree) :
    ∃ value, tree.onlyMember? = some (name, value) ∧ form value := by
  obtain @⟨key, value, hkey, hvalue⟩ := hmember
  have hresolve := resolve_eq_some_iff.2 hkey
  exact ⟨value, by simp [Tree.onlyMember?, Tree.members?, hresolve], hvalue⟩

theorem choiceName?_of_form {name : String} (hname : NameForm name tree) :
    choiceName? tree = some name := by
  cases hname with
  | alone htext =>
      obtain ⟨hdenotes⟩ := htext
      exact map_ofList_resolve.2 hdenotes
  | key hmember =>
      obtain ⟨value, honly, rfl⟩ := onlyMember?_of_form hmember
      obtain ⟨hkey, rfl⟩ := hmember
      rw [choiceName?, honly]
      exact fun _ hother => by cases hother

theorem choice?_of_form {values : List (String × α)} {name : String} {value : α}
    (hname : NameForm name tree) (hvalue : values.lookup name = some value) :
    choice? values tree = some value := by
  rw [choice?, choiceName?_of_form hname, Option.bind_some, hvalue]

/-! ## Writing -/

/-- What is written for the tree is a text of a tree of the form. -/
def Tree.Writes (form : Tree → Prop) (tree : Tree) : Prop :=
  ∃ found, form found ∧ found.Spells tree.write

theorem Tree.Writes.imp {form wider : Tree → Prop} (hwrites : tree.Writes form)
    (hform : ∀ {found}, form found → wider found) : tree.Writes wider := by
  obtain ⟨found, hfound, hspells⟩ := hwrites
  exact ⟨found, hform hfound, hspells⟩

/-- The reader finds a tree of the form in what was written. -/
theorem Tree.Writes.ofText?_render {form : Tree → Prop} (hwrites : tree.Writes form) :
    ∃ found, form found ∧ Tree.ofText? tree.render = some found := by
  obtain ⟨found, hfound, hspells⟩ := hwrites
  refine ⟨found, hfound, ofText?_of_spells ?_⟩
  rwa [Tree.render, String.toList_ofList]

theorem spelled_writeInteger (value : Int) :
    (Token.number (.ofInt value)).Spelled (writeNumeral (.ofInt value)) :=
  .number (spelled_writeNumeral (Numeral.ofInt_isWritable value))

theorem writes_integer (value : Int) : (Tree.ofInt value).Writes (IntegerForm value) := by
  refine ⟨.ofInt value, .number (Numeral.ofInt_isInteger value), ?_⟩
  rw [Tree.ofInt, Tree.Spells, Tree.tokens, Tree.write]
  exact .single (spelled_writeInteger value)

theorem writes_int32 {value : Int} (hfits : fitsInt32 value) :
    (Tree.ofInt value).Writes (Int32Form value) :=
  (writes_integer value).imp fun hvalue => ⟨hvalue, hfits⟩

theorem writes_uint32 {value : Nat} (hfits : fitsUInt32 value) :
    (Tree.ofNat value).Writes (UInt32Form value) :=
  (writes_integer value).imp fun hvalue => ⟨hvalue, hfits⟩

theorem writes_uint64 {value : Nat} (hfits : fitsUInt64 value) :
    (Tree.ofNat value).Writes (UInt64Form value) :=
  (writes_integer value).imp fun hvalue => ⟨hvalue, hfits⟩

theorem spelled_writeText (value : String) :
    (Token.text ((Tree.piecesOf value).map Piece.asWritten)).Spelled
      (writeText (Tree.piecesOf value)) := by
  refine .text (spelled_writePieces fun piece hpiece => ?_)
  obtain ⟨c, _, rfl⟩ := List.mem_map.1 hpiece
  trivial

theorem writes_text (value : String) : (Tree.ofString value).Writes (TextForm value) := by
  refine ⟨.text _, .text (denotes_asWritten value), ?_⟩
  rw [Tree.ofString, Tree.Spells, Tree.tokens, Tree.write]
  exact .single (spelled_writeText value)

theorem writes_name (name : String) : (Tree.ofString name).Writes (NameForm name) :=
  (writes_text name).imp .alone

theorem writes_bool (value : Bool) : (Tree.bool value).Writes (BoolForm value) := by
  refine ⟨.bool value, .bool, ?_⟩
  rw [Tree.Spells, Tree.tokens]
  cases value with
  | true => exact .single .isTrue
  | false => exact .single .isFalse

theorem writes_option {form : α → Tree → Prop} {write : α → Tree} {value : Option α}
    (hwrites : ∀ given ∈ value, (write given).Writes (form given)) :
    (Tree.ofOption write value).Writes (OptionForm form value) := by
  cases value with
  | none =>
      refine ⟨.null, .none, ?_⟩
      rw [Tree.Spells, Tree.tokens]
      exact .single .null
  | some given => exact (hwrites given rfl).imp .some

end MemoryReclaim.Json
