import Mathlib.Algebra.Group.Int.Defs
import Mathlib.Algebra.Group.Nat.Defs
import Mathlib.Data.List.Nodup
import BreadProvider.Schema.Yaml

/-!
# Schema — what a schema accepts

Schemas of closed objects, arrays and typed scalars, and the documents they
accept. How a scalar is read as a value is left to a resolver; a schema only
says which values it admits. Over a lawful resolver, what is read from an
accepted object is what its schema admits, or is absent where it may be.
-/

namespace ConfigSchema

open Yaml

/-! ## Reading scalars -/

/-- What a scalar is read as. -/
inductive Reading where
  | string
  | int64
  | bool
  | i2cAddress
  deriving DecidableEq

abbrev Reading.Value : Reading → Type
  | .string => String
  | .int64 => Int
  | .bool => Bool
  | .i2cAddress => Int

instance : (t : Reading) → DecidableEq t.Value
  | .string => inferInstanceAs (DecidableEq String)
  | .int64 | .i2cAddress => inferInstanceAs (DecidableEq Int)
  | .bool => inferInstanceAs (DecidableEq Bool)

/-- How nodes are read. An undefined node is `none`. -/
structure Resolver where
  read : (t : Reading) → Option Yaml → Option t.Value
  matchesPattern : (pattern text : String) → Bool
  /-- A key with no value counts as absent. -/
  nullAbsent : Bool

structure Resolver.Lawful (r : Resolver) : Prop where
  undefined : ∀ t, r.read t none = none
  null : r.nullAbsent = true → ∀ t, r.read t (some .null) = none
  /-- The 7-bit addresses that are not reserved. -/
  address : ∀ node address, r.read .i2cAddress node = some address →
    0x08 ≤ address ∧ address ≤ 0x77

namespace Resolver

/-- The node under a key, unless it counts as absent. -/
def present (r : Resolver) (entries : List (Yaml × Yaml)) (key : String) :
    Option Yaml :=
  match lookup entries key with
  | some .null => if r.nullAbsent then none else some .null
  | node => node

/-- Whether it counts as absent makes no difference to what is read. -/
theorem read_lookup {r : Resolver} (hr : r.Lawful) (t : Reading)
    (entries : List (Yaml × Yaml)) (key : String) :
    r.read t (lookup entries key) = r.read t (r.present entries key) := by
  unfold present
  split
  · rename_i hnull
    rw [hnull]
    by_cases habsent : r.nullAbsent = true
    · rw [if_pos habsent, hr.null habsent, hr.undefined]
    · rw [if_neg habsent]
  · rfl

theorem present_congr (r : Resolver) {entries entries' : List (Yaml × Yaml)}
    {key : String} (h : lookup entries' key = lookup entries key) :
    r.present entries' key = r.present entries key := by
  unfold present
  rw [h]

theorem present_of_lookup {r : Resolver} {entries : List (Yaml × Yaml)}
    {key : String} {node : Yaml} (h : lookup entries key = some node)
    (hnull : node ≠ .null) : r.present entries key = some node := by
  unfold present
  rw [h]
  cases node with
  | null => exact absurd rfl hnull
  | scalar text quoted | sequence items | map entries => rfl

theorem present_of_lookup_none {r : Resolver} {entries : List (Yaml × Yaml)}
    {key : String} (h : lookup entries key = none) :
    r.present entries key = none := by
  unfold present
  rw [h]

/-- What is present is what is under the key. -/
theorem lookup_of_present {r : Resolver} {entries : List (Yaml × Yaml)}
    {key : String} {node : Yaml} (h : r.present entries key = some node) :
    lookup entries key = some node := by
  unfold present at h
  split at h
  · rename_i hnull
    split_ifs at h
    rw [hnull, h]
  · exact h

end Resolver

/-! ## Schemas -/

inductive Kind where
  | string (pattern : Option String) (nonEmpty : Bool) (values : List String)
  | integer (min max : Option Int)
  | boolean
  | i2cAddress

abbrev Kind.reading : Kind → Reading
  | .string _ _ _ => .string
  | .integer _ _ => .int64
  | .boolean => .bool
  | .i2cAddress => .i2cAddress

/-- `enum_value`s are the only values where there are any. -/
def Kind.admits (r : Resolver) : (k : Kind) → k.reading.Value → Bool
  | .string pattern nonEmpty values, text =>
      pattern.all (r.matchesPattern · text) && (!nonEmpty || text != "")
        && (values.isEmpty || values.contains text)
  | .integer min max, n => min.all (· ≤ n) && max.all (n ≤ ·)
  | .boolean, _ => true
  | .i2cAddress, _ => true

/-- The default is what a client fills in; it need not be written. -/
structure Field where
  key : String
  kind : Kind
  required : Bool := false
  unique : Bool := false
  default : Option kind.reading.Value := none

/-- Where the field `key` reads `value`, the required keys are present and
the forbidden ones are not. -/
structure When where
  key : String
  value : String
  require : List String := []
  forbid : List String := []

mutual

inductive Object where
  | closed (members : List Member) (whens : List When)

inductive Member where
  | field (f : Field)
  | child (key : String) (required : Bool) (object : Object)
  | ofScalars (key : String) (required : Bool) (item : Field) (minItems : Nat)
      (unique : Bool)
  | ofObjects (key : String) (required : Bool) (item : Object)

end

def Member.key : Member → String
  | .field f => f.key
  | .child key _ _ | .ofScalars key _ _ _ _ | .ofObjects key _ _ => key

/-- The fields no two objects of an array may share a value of. -/
def Object.uniqueFields : Object → List Field
  | .closed members _ => members.filterMap fun
      | .field f => if f.unique then some f else none
      | _ => none

/-! ## Accepted documents -/

section Accepts

variable (r : Resolver)

def Kind.accepts (k : Kind) (node : Yaml) : Bool :=
  match r.read k.reading (some node) with
  | none => false
  | some value => k.admits r value

def When.holds (w : When) (entries : List (Yaml × Yaml)) : Bool :=
  if r.read .string (lookup entries w.key) = some w.value then
    (w.require.all fun key => (r.present entries key).isSome)
      && w.forbid.all fun key => (r.present entries key).isNone
  else true

/-- The values of a field over the rows of an array, where it has one. -/
def Field.column (f : Field) (rows : List Yaml) : List f.kind.reading.Value :=
  rows.filterMap fun
    | .map entries => r.read f.kind.reading (lookup entries f.key)
    | _ => none

mutual

def Object.accepts : Object → Yaml → Bool
  | .closed members whens, .map entries =>
      (entries.all fun e => members.any fun m => e.1.isKey m.key)
        && Member.acceptsAll members entries
        && whens.all fun w => w.holds r entries
  | .closed _ _, _ => false

def Member.acceptsAll : List Member → List (Yaml × Yaml) → Bool
  | [], _ => true
  | m :: rest, entries =>
      m.accepts entries && Member.acceptsAll rest entries

/-- The member is absent where it may be, or what is there is accepted. -/
def Member.accepts : Member → List (Yaml × Yaml) → Bool
  | .field f, entries =>
      match r.present entries f.key with
      | none => !f.required
      | some node => f.kind.accepts r node
  | .child key required object, entries =>
      match r.present entries key with
      | none => !required
      | some node => object.accepts node
  | .ofScalars key required item minItems unique, entries =>
      match r.present entries key with
      | none => !required
      | some (.sequence items) =>
          minItems ≤ items.length && items.all (item.kind.accepts r)
            && (!unique || decide (items.filterMap fun node =>
              r.read item.kind.reading (some node)).Nodup)
      | some _ => false
  | .ofObjects key required item, entries =>
      match r.present entries key with
      | none => !required
      | some (.sequence rows) =>
          rows.all (fun row => item.accepts row)
            && item.uniqueFields.all fun f =>
              decide (f.column r rows).Nodup
      | some _ => false

end

end Accepts

/-! ## What is read from them -/

section Rules

variable {r : Resolver}

theorem Kind.accepts_iff {k : Kind} {node : Yaml} :
    k.accepts r node = true ↔ ∃ value,
      r.read k.reading (some node) = some value ∧ k.admits r value = true := by
  unfold Kind.accepts
  cases r.read k.reading (some node) with
  | none => simp
  | some value => simp

theorem Kind.admits_integer {min max n : Int} :
    (Kind.integer (some min) (some max)).admits r n = true
      ↔ min ≤ n ∧ n ≤ max := by
  simp [Kind.admits]

theorem Kind.admits_values {values : List String} {text : String}
    (hvalues : values ≠ []) :
    (Kind.string none false values).admits r text = true
      ↔ text ∈ values := by
  simp [Kind.admits, hvalues]

theorem Member.acceptsAll_iff {members : List Member}
    {entries : List (Yaml × Yaml)} :
    Member.acceptsAll r members entries = true
      ↔ ∀ m ∈ members, m.accepts r entries = true := by
  induction members with
  | nil => simp [Member.acceptsAll]
  | cons m rest ih => simp [Member.acceptsAll, ih]

/-- A closed object has its members' keys only. -/
theorem Object.accepts_iff {members : List Member} {whens : List When}
    {node : Yaml} :
    (Object.closed members whens).accepts r node = true ↔
      ∃ entries, node = .map entries ∧
        (∀ e ∈ entries, ∃ m ∈ members, e.1.isKey m.key = true) ∧
        (∀ m ∈ members, m.accepts r entries = true) ∧
        ∀ w ∈ whens, w.holds r entries = true := by
  cases node with
  | map entries =>
      rw [Object.accepts, Bool.and_eq_true, Bool.and_eq_true,
        Member.acceptsAll_iff]
      simp [and_assoc]
  | null | scalar text quoted | sequence items => simp [Object.accepts]

/-- The rule of a case that applies. -/
theorem When.of_read {w : When} {entries : List (Yaml × Yaml)}
    (h : w.holds r entries = true)
    (hread : r.read .string (lookup entries w.key) = some w.value) :
    (∀ key ∈ w.require, ∃ node, r.present entries key = some node) ∧
      ∀ key ∈ w.forbid, r.present entries key = none := by
  unfold When.holds at h
  rw [if_pos hread] at h
  simpa [Option.isSome_iff_exists] using h

/-- A field is read as its kind admits, or is not there to be read. -/
theorem Member.field_read (hr : r.Lawful) {f : Field}
    {entries : List (Yaml × Yaml)}
    (h : (Member.field f).accepts r entries = true) :
    (r.read f.kind.reading (lookup entries f.key) = none
        ∧ f.required = false) ∨
      ∃ value, r.read f.kind.reading (lookup entries f.key) = some value ∧
        f.kind.admits r value = true := by
  rw [r.read_lookup hr]
  rw [Member.accepts] at h
  cases hnode : r.present entries f.key with
  | none =>
      rw [hnode] at h
      exact .inl ⟨hr.undefined _, by simpa using h⟩
  | some node =>
      rw [hnode] at h
      exact .inr (Kind.accepts_iff.mp h)

theorem Member.required_read (hr : r.Lawful) {f : Field}
    {entries : List (Yaml × Yaml)}
    (h : (Member.field f).accepts r entries = true)
    (hrequired : f.required = true) :
    ∃ value, r.read f.kind.reading (lookup entries f.key) = some value ∧
      f.kind.admits r value = true := by
  rcases Member.field_read hr h with ⟨-, hnot⟩ | hread
  · rw [hrequired] at hnot
    cases hnot
  · exact hread

theorem Field.column_cons {f : Field} {entries : List (Yaml × Yaml)}
    {value : f.kind.reading.Value}
    (h : r.read f.kind.reading (lookup entries f.key) = some value)
    (rows : List Yaml) :
    f.column r (.map entries :: rows) = value :: f.column r rows :=
  List.filterMap_cons_some h

theorem Member.child_present {key : String} {required : Bool} {object : Object}
    {entries : List (Yaml × Yaml)}
    (h : (Member.child key required object).accepts r entries = true) :
    (r.present entries key = none ∧ required = false) ∨
      ∃ node, lookup entries key = some node ∧
        object.accepts r node = true := by
  rw [Member.accepts] at h
  cases hnode : r.present entries key with
  | none =>
      rw [hnode] at h
      exact .inl ⟨rfl, by simpa using h⟩
  | some node =>
      rw [hnode] at h
      exact .inr ⟨node, r.lookup_of_present hnode, h⟩

theorem Member.ofScalars_present {key : String} {required : Bool}
    {item : Field} {minItems : Nat} {unique : Bool}
    {entries : List (Yaml × Yaml)}
    (h : (Member.ofScalars key required item minItems unique).accepts r entries
      = true) :
    (r.present entries key = none ∧ required = false) ∨
      ∃ items, lookup entries key = some (.sequence items) ∧
        minItems ≤ items.length ∧
        (∀ node ∈ items, item.kind.accepts r node = true) ∧
        (unique = true → (items.filterMap fun node =>
          r.read item.kind.reading (some node)).Nodup) := by
  rw [Member.accepts] at h
  cases hnode : r.present entries key with
  | none =>
      rw [hnode] at h
      exact .inl ⟨rfl, by simpa using h⟩
  | some node =>
      rw [hnode] at h
      cases node with
      | sequence items =>
          refine .inr ⟨items, r.lookup_of_present hnode, ?_⟩
          simp only [Bool.and_eq_true, decide_eq_true_eq, List.all_eq_true,
            Bool.or_eq_true, Bool.not_eq_true'] at h
          obtain ⟨⟨hmin, hall⟩, hunique⟩ := h
          refine ⟨hmin, hall, fun hset => ?_⟩
          rcases hunique with hnot | hnodup
          · rw [hset] at hnot
            cases hnot
          · exact hnodup
      | null | scalar text quoted | map entries => cases h

theorem Member.ofObjects_present {key : String} {required : Bool}
    {item : Object} {entries : List (Yaml × Yaml)}
    (h : (Member.ofObjects key required item).accepts r entries = true) :
    (r.present entries key = none ∧ required = false) ∨
      ∃ rows, lookup entries key = some (.sequence rows) ∧
        (∀ row ∈ rows, item.accepts r row = true) ∧
        ∀ f ∈ item.uniqueFields, (f.column r rows).Nodup := by
  rw [Member.accepts] at h
  cases hnode : r.present entries key with
  | none =>
      rw [hnode] at h
      exact .inl ⟨rfl, by simpa using h⟩
  | some node =>
      rw [hnode] at h
      cases node with
      | sequence rows =>
          refine .inr ⟨rows, r.lookup_of_present hnode, ?_⟩
          simpa using h
      | null | scalar text quoted | map entries => cases h

end Rules

/-! ## Writing what is accepted -/

/-- The values a resolver has a spelling for. -/
def Reading.InRange : (t : Reading) → t.Value → Prop
  | .int64, n => -2 ^ 63 ≤ n ∧ n < 2 ^ 63
  | .i2cAddress, address => 0x08 ≤ address ∧ address ≤ 0x77
  | .string, _ | .bool, _ => True

/-- How values are written so that they read back; a string is written as a
scalar with its text. -/
structure Spelling (r : Resolver) where
  node : (t : Reading) → t.Value → Yaml
  reads : ∀ t value, t.InRange value → r.read t (some (node t value))
    = some value
  text : ∀ value, ∃ quoted, node .string value = .scalar value quoted

section Written

variable {r : Resolver}

/-- A node that reads as something is present. -/
theorem Resolver.present_of_read (hr : r.Lawful) {t : Reading}
    {entries : List (Yaml × Yaml)} {key : String} {node : Yaml}
    {value : t.Value} (hnode : lookup entries key = some node)
    (hread : r.read t (some node) = some value) :
    r.present entries key = some node := by
  unfold Resolver.present
  rw [hnode]
  cases node with
  | null =>
      by_cases habsent : r.nullAbsent = true
      · rw [hr.null habsent] at hread
        cases hread
      · exact if_neg habsent
  | scalar text quoted | sequence items | map entries => rfl

theorem Member.field_accepted (hr : r.Lawful) {f : Field}
    {entries : List (Yaml × Yaml)} {node : Yaml}
    {value : f.kind.reading.Value} (hnode : lookup entries f.key = some node)
    (hread : r.read f.kind.reading (some node) = some value)
    (hadmits : f.kind.admits r value = true) :
    (Member.field f).accepts r entries = true := by
  rw [Member.accepts, r.present_of_read hr hnode hread]
  exact Kind.accepts_iff.mpr ⟨value, hread, hadmits⟩

theorem Member.field_omitted {f : Field} {entries : List (Yaml × Yaml)}
    (hnode : lookup entries f.key = none) (hrequired : f.required = false) :
    (Member.field f).accepts r entries = true := by
  rw [Member.accepts, r.present_of_lookup_none hnode]
  simp [hrequired]

theorem Member.child_accepted {key : String} {required : Bool}
    {object : Object} {entries fields : List (Yaml × Yaml)}
    (hnode : lookup entries key = some (.map fields))
    (haccepts : object.accepts r (.map fields) = true) :
    (Member.child key required object).accepts r entries = true := by
  rw [Member.accepts, r.present_of_lookup hnode (by simp)]
  exact haccepts

theorem Member.ofScalars_accepted {key : String} {required : Bool}
    {item : Field} {minItems : Nat} {unique : Bool}
    {entries : List (Yaml × Yaml)} {items : List Yaml}
    (hnode : lookup entries key = some (.sequence items))
    (hmin : minItems ≤ items.length)
    (hall : ∀ node ∈ items, item.kind.accepts r node = true)
    (hunique : (items.filterMap fun node =>
      r.read item.kind.reading (some node)).Nodup) :
    (Member.ofScalars key required item minItems unique).accepts r entries
      = true := by
  rw [Member.accepts, r.present_of_lookup hnode (by simp)]
  simp only [Bool.and_eq_true, decide_eq_true_eq, List.all_eq_true,
    Bool.or_eq_true]
  exact ⟨⟨hmin, hall⟩, .inr hunique⟩

theorem Member.ofObjects_accepted {key : String} {required : Bool}
    {item : Object} {entries : List (Yaml × Yaml)} {rows : List Yaml}
    (hnode : lookup entries key = some (.sequence rows))
    (hall : ∀ row ∈ rows, item.accepts r row = true)
    (hunique : ∀ f ∈ item.uniqueFields, (f.column r rows).Nodup) :
    (Member.ofObjects key required item).accepts r entries = true := by
  rw [Member.accepts, r.present_of_lookup hnode (by simp)]
  simp only [Bool.and_eq_true, decide_eq_true_eq, List.all_eq_true]
  exact ⟨hall, hunique⟩

/-- A case that does not apply, or whose rule is kept. -/
theorem When.holds_of {w : When} {entries : List (Yaml × Yaml)}
    {text : String} (hread : r.read .string (lookup entries w.key) = some text)
    (hrule : text = w.value →
      (∀ key ∈ w.require, ∃ node, r.present entries key = some node) ∧
        ∀ key ∈ w.forbid, r.present entries key = none) :
    w.holds r entries = true := by
  unfold When.holds
  rw [hread]
  by_cases heq : text = w.value
  · obtain ⟨hrequire, hforbid⟩ := hrule heq
    rw [if_pos (congrArg some heq)]
    simpa [Option.isSome_iff_exists] using ⟨hrequire, hforbid⟩
  · rw [if_neg fun h => heq (Option.some.inj h)]

end Written

end ConfigSchema
