import Mathlib.Data.List.Basic

/-!
# Schema — YAML nodes

A parsed document, and the reading and editing of it by key. A key is a
scalar node; of two entries with one key the first counts.
-/

namespace ConfigSchema

inductive Yaml where
  | null
  | scalar (text : String) (quoted : Bool)
  | sequence (items : List Yaml)
  | map (entries : List (Yaml × Yaml))

namespace Yaml

def isKey (key : String) : Yaml → Bool
  | .scalar text _ => text == key
  | _ => false

/-- The node under a key, if there is one. -/
def lookup (entries : List (Yaml × Yaml)) (key : String) : Option Yaml :=
  (entries.find? fun e => e.1.isKey key).map (·.2)

/-- `node[key]`, where the node itself may be undefined. A scalar has no
subscripts: that is an exception. -/
def subscript : Option Yaml → String → Except String (Option Yaml)
  | some (.scalar _ _), _ => .error "operator[] call on a scalar"
  | some (.map entries), key => .ok (lookup entries key)
  | _, _ => .ok none

/-- Edit the node under a key. -/
def adjust (f : Yaml → Yaml) (key : String) :
    List (Yaml × Yaml) → List (Yaml × Yaml)
  | [] => []
  | e :: rest =>
      if e.1.isKey key then (e.1, f e.2) :: rest else e :: adjust f key rest

/-- `node.remove(key)`. -/
def remove (key : String) (entries : List (Yaml × Yaml)) :
    List (Yaml × Yaml) :=
  entries.eraseP fun e => e.1.isKey key

@[simp] theorem isKey_scalar (key text : String) (quoted : Bool) :
    (Yaml.scalar text quoted).isKey key = (text == key) := rfl

theorem isKey_iff {node : Yaml} {key : String} :
    node.isKey key = true ↔ ∃ quoted, node = .scalar key quoted := by
  cases node with
  | scalar text quoted => simp [isKey]
  | null | sequence items | map entries => simp [isKey]

theorem isKey_ne {node : Yaml} {key key' : String} (h : node.isKey key = true)
    (hne : key ≠ key') : node.isKey key' = false := by
  obtain ⟨quoted, rfl⟩ := isKey_iff.mp h
  simp [isKey, hne]

@[simp] theorem lookup_nil (key : String) : lookup [] key = none := rfl

theorem lookup_cons (e : Yaml × Yaml) (rest : List (Yaml × Yaml))
    (key : String) :
    lookup (e :: rest) key
      = if e.1.isKey key then some e.2 else lookup rest key := by
  unfold lookup
  rw [List.find?_cons]
  cases e.1.isKey key <;> rfl

/-- An entry written under a plain key. -/
@[simp] theorem lookup_scalar (text : String) (quoted : Bool) (node : Yaml)
    (rest : List (Yaml × Yaml)) (key : String) :
    lookup ((.scalar text quoted, node) :: rest) key
      = if text = key then some node else lookup rest key := by
  simp [lookup_cons, isKey]

@[simp] theorem subscript_map (entries : List (Yaml × Yaml)) (key : String) :
    subscript (some (.map entries)) key = .ok (lookup entries key) := rfl

@[simp] theorem subscript_none (key : String) :
    subscript none key = .ok none := rfl

/-- Editing a node changes what is under its key, and nothing else. -/
theorem lookup_adjust (f : Yaml → Yaml) (key : String)
    (entries : List (Yaml × Yaml)) (key' : String) :
    lookup (adjust f key entries) key'
      = if key = key' then (lookup entries key').map f
        else lookup entries key' := by
  induction entries with
  | nil => simp [adjust]
  | cons e rest ih =>
      rw [adjust]
      by_cases hkey : e.1.isKey key = true
      · rw [if_pos hkey, lookup_cons, lookup_cons]
        by_cases heq : key = key'
        · subst heq
          simp [hkey]
        · have hother : e.1.isKey key' = false := isKey_ne hkey heq
          simp [hother, heq]
      · rw [if_neg hkey, lookup_cons, lookup_cons, ih]
        by_cases heq : key = key'
        · subst heq
          simp [hkey]
        · simp [heq]

theorem lookup_remove_ne {key key' : String} (hne : key ≠ key')
    (entries : List (Yaml × Yaml)) :
    lookup (remove key entries) key' = lookup entries key' := by
  unfold remove
  induction entries with
  | nil => rfl
  | cons e rest ih =>
      by_cases hkey : e.1.isKey key = true
      · rw [List.eraseP_cons_of_pos (by simpa using hkey), lookup_cons,
          isKey_ne hkey hne]
        rfl
      · rw [List.eraseP_cons_of_neg (by simpa using hkey), lookup_cons,
          lookup_cons, ih]

/-- Removing a key that was put in somewhere gives back what was there. -/
theorem remove_inserted {key : String} {before after : List (Yaml × Yaml)}
    {e : Yaml × Yaml} (he : e.1.isKey key = true)
    (hbefore : lookup before key = none) :
    remove key (before ++ e :: after) = before ++ after := by
  unfold remove
  induction before with
  | nil => exact List.eraseP_cons_of_pos (by simpa using he)
  | cons b rest ih =>
      rw [lookup_cons] at hbefore
      by_cases hkey : b.1.isKey key = true
      · rw [if_pos hkey] at hbefore
        cases hbefore
      · rw [if_neg hkey] at hbefore
        rw [List.cons_append, List.eraseP_cons_of_neg (by simpa using hkey),
          ih hbefore]
        rfl

theorem lookup_inserted {key : String} {before after : List (Yaml × Yaml)}
    {e : Yaml × Yaml} (he : e.1.isKey key = true)
    (hbefore : lookup before key = none) :
    lookup (before ++ e :: after) key = some e.2 := by
  induction before with
  | nil => rw [List.nil_append, lookup_cons, if_pos he]
  | cons b rest ih =>
      rw [lookup_cons] at hbefore
      by_cases hkey : b.1.isKey key = true
      · rw [if_pos hkey] at hbefore
        cases hbefore
      · rw [if_neg hkey] at hbefore
        rw [List.cons_append, lookup_cons, if_neg hkey, ih hbefore]

end Yaml

end ConfigSchema
