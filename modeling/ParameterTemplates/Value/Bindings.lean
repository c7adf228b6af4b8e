import ParameterTemplates.Text.Basic

/-! Finite maps from names to values, in the order in which the names were first set. -/
namespace ParameterTemplates

/-- Values under names, each name at most once. -/
structure Bindings (α : Type) where
  entries : List (Text × α)
  nodup : (entries.map Prod.fst).Nodup

namespace Bindings

variable {α : Type}

def empty : Bindings α := ⟨[], List.nodup_nil⟩

def names (b : Bindings α) : List Text := b.entries.map Prod.fst

def size (b : Bindings α) : Nat := b.entries.length

def find? (b : Bindings α) (name : Text) : Option α := b.entries.lookup name

/-- The entry with a new value if it is the entry of a name, else the entry. -/
def update (name : Text) (value : α) (e : Text × α) : Text × α :=
  if e.1 = name then (name, value) else e

theorem update_fst (name : Text) (value : α) (e : Text × α) : (update name value e).1 = e.1 := by
  unfold update
  split
  · next h => exact h.symm
  · rfl

theorem map_update_fst (name : Text) (value : α) (es : List (Text × α)) :
    (es.map (update name value)).map Prod.fst = es.map Prod.fst := by
  rw [List.map_map]
  exact List.map_congr_left fun e _ => update_fst name value e

/-- Sets the value of a name; a name that is there already keeps its place. -/
def set (b : Bindings α) (name : Text) (value : α) : Bindings α :=
  if h : name ∈ b.names then
    ⟨b.entries.map (update name value), by rw [map_update_fst]; exact b.nodup⟩
  else
    ⟨b.entries ++ [(name, value)], by
      rw [List.map_append, List.nodup_append]
      refine ⟨b.nodup, by simp, ?_⟩
      intro a ha c hc
      simp only [List.map_cons, List.map_nil, List.mem_singleton] at hc
      exact fun hac => h (hc ▸ hac ▸ ha)⟩

theorem names_set (b : Bindings α) (name : Text) (value : α) :
    (b.set name value).names = if name ∈ b.names then b.names else b.names ++ [name] := by
  unfold set
  split
  · exact map_update_fst name value b.entries
  · simp [names]

theorem lookup_update (name : Text) (value : α) (es : List (Text × α)) (x : Text) :
    (es.map (update name value)).lookup x =
      if x = name ∧ x ∈ es.map Prod.fst then some value else es.lookup x := by
  induction es with
  | nil => simp
  | cons e es ih =>
    obtain ⟨k, v⟩ := e
    by_cases hx : x = k
    · subst hx
      by_cases hk : x = name <;> simp [update, hk]
    · have hb : (x == k) = false := by simpa using hx
      have hmem : x ∈ ((k, v) :: es).map Prod.fst ↔ x ∈ es.map Prod.fst := by
        simp only [List.map_cons, List.mem_cons, hx, false_or]
      have hkey : (update name value (k, v)).1 = k := update_fst name value (k, v)
      rw [List.map_cons, ← Prod.eta (update name value (k, v)), hkey, List.lookup_cons, hb, ih,
        List.lookup_cons, hb]
      simp only [hmem]

theorem find?_set (b : Bindings α) (name : Text) (value : α) (x : Text) :
    (b.set name value).find? x = if x = name then some value else b.find? x := by
  unfold set find?
  split
  · next h =>
    simp only [lookup_update]
    by_cases hx : x = name
    · subst hx
      rw [if_pos ⟨rfl, h⟩, if_pos rfl]
    · simp [hx]
  · next h =>
    simp only [List.lookup_append]
    by_cases hx : x = name
    · subst hx
      have hnone : b.entries.lookup x = none := by
        rw [List.lookup_eq_none_iff]
        intro p hp
        have : x ≠ p.1 := fun hxp => h (hxp ▸ List.mem_map_of_mem hp)
        simpa using this
      simp [hnone]
    · have hb : (x == name) = false := by simpa using hx
      cases b.entries.lookup x <;> simp [List.lookup_cons, hx, hb]

end Bindings
end ParameterTemplates
