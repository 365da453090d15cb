/-!
# Bindings

A finite map from names to values that remembers the order in which names were first bound.
Binding a name again replaces its value and keeps its place. The main statements are `get?_insert`
and `names_insert`: what a write does to look-ups, and what it does to the order.
-/

namespace Stencil

/-- Names with their values, each name once, in the order of first binding. -/
structure Bindings (α : Type) where
  entries : List (String × α)
  nodup_names : (entries.map Prod.fst).Nodup

namespace Bindings

variable {α : Type}

/-- No bindings. -/
def empty : Bindings α := ⟨[], List.nodup_nil⟩

instance : Inhabited (Bindings α) := ⟨empty⟩

instance : EmptyCollection (Bindings α) := ⟨empty⟩

/-- The bound names, in order. -/
def names (b : Bindings α) : List String :=
  b.entries.map Prod.fst

/-- The value of a name. -/
def get? (b : Bindings α) (name : String) : Option α :=
  b.entries.lookup name

/-- Whether a name is bound. -/
def contains (b : Bindings α) (name : String) : Bool :=
  (b.get? name).isSome

/-- Writes one entry: in place when the name is there, else at the end. -/
def write (name : String) (value : α) : List (String × α) → List (String × α)
  | [] => [(name, value)]
  | (n, v) :: rest => if n = name then (n, value) :: rest else (n, v) :: write name value rest

theorem map_fst_write (name : String) (value : α) (es : List (String × α)) :
    (write name value es).map Prod.fst =
      if name ∈ es.map Prod.fst then es.map Prod.fst else es.map Prod.fst ++ [name] := by
  induction es with
  | nil => simp [write]
  | cons e es ih =>
    obtain ⟨n, v⟩ := e
    by_cases h : n = name
    · simp [write, h]
    · have h' : ¬ name = n := fun e => h e.symm
      by_cases hm : name ∈ es.map Prod.fst <;> simp_all [write]

theorem lookup_write (name : String) (value : α) (k : String) (es : List (String × α)) :
    (write name value es).lookup k = if k = name then some value else es.lookup k := by
  induction es with
  | nil =>
    by_cases h : k = name
    · simp [write, h]
    · simp [write, List.lookup_cons, h, beq_eq_false_iff_ne.2 h]
  | cons e es ih =>
    obtain ⟨n, v⟩ := e
    by_cases h : n = name
    · subst h
      by_cases hk : k = n
      · simp [write, hk]
      · simp [write, List.lookup_cons, hk, beq_eq_false_iff_ne.2 hk]
    · by_cases hk : k = n
      · subst hk
        simp [write, h]
      · simp [write, List.lookup_cons, h, ih, beq_eq_false_iff_ne.2 hk]

/-- Binds a name, anew or again. -/
def insert (b : Bindings α) (name : String) (value : α) : Bindings α where
  entries := write name value b.entries
  nodup_names := by
    rw [map_fst_write]
    split
    · exact b.nodup_names
    · rename_i h
      rw [List.nodup_append]
      refine ⟨b.nodup_names, by simp, ?_⟩
      intro a ha c hc
      rw [List.mem_singleton.1 hc]
      exact fun e => h (e ▸ ha)

/-- Binds several names, one after the other. -/
def insertAll (b : Bindings α) (pairs : List (String × α)) : Bindings α :=
  pairs.foldl (fun b p => b.insert p.1 p.2) b

/-- The bindings that a list of pairs describes: a repeated name keeps its first place and its
last value. -/
def ofList (pairs : List (String × α)) : Bindings α :=
  empty.insertAll pairs

/-- The same names with the same values, in any order. -/
def sameContents [BEq α] (a b : Bindings α) : Bool :=
  a.entries.length == b.entries.length && a.entries.all fun e => b.get? e.1 == some e.2

@[simp] theorem get?_empty (name : String) : (empty : Bindings α).get? name = none := rfl

@[simp] theorem names_empty : (empty : Bindings α).names = [] := rfl

/-- A write is read back, and leaves every other name alone. -/
theorem get?_insert (b : Bindings α) (name : String) (value : α) (k : String) :
    (b.insert name value).get? k = if k = name then some value else b.get? k :=
  lookup_write name value k b.entries

/-- Of several writes to one name the last is read back. -/
theorem get?_insertAll (b : Bindings α) (pairs : List (String × α)) (k : String) :
    (b.insertAll pairs).get? k = (pairs.reverse.lookup k).or (b.get? k) := by
  induction pairs generalizing b with
  | nil => rfl
  | cons p pairs ih =>
    obtain ⟨name, value⟩ := p
    have hstep : b.insertAll ((name, value) :: pairs) = (b.insert name value).insertAll pairs := rfl
    rw [hstep, ih, get?_insert, List.reverse_cons, List.lookup_append, Option.or_assoc]
    by_cases hk : k = name
    · simp [hk]
    · simp [List.lookup_cons, hk, beq_eq_false_iff_ne.2 hk]

/-- What is written over bindings is read first. -/
theorem get?_insertAll_eq_or (b : Bindings α) (pairs : List (String × α)) (k : String) :
    (b.insertAll pairs).get? k = ((ofList pairs).get? k).or (b.get? k) := by
  rw [ofList, get?_insertAll, get?_insertAll, get?_empty, Option.or_none]

/-- A bound name keeps its place; a new one comes last. -/
theorem names_insert (b : Bindings α) (name : String) (value : α) :
    (b.insert name value).names = if name ∈ b.names then b.names else b.names ++ [name] :=
  map_fst_write name value b.entries

theorem write_of_not_mem {name : String} (value : α) {es : List (String × α)}
    (h : name ∉ es.map Prod.fst) : write name value es = es ++ [(name, value)] := by
  induction es with
  | nil => rfl
  | cons e es ih =>
    obtain ⟨n, v⟩ := e
    have hne : n ≠ name := fun heq => h (by simp [heq])
    have hes : name ∉ es.map Prod.fst := fun hmem => h (by simp [hmem])
    rw [write, if_neg hne, ih hes, List.cons_append]

/-- New names are bound in order after those that are bound. -/
theorem entries_insertAll {b : Bindings α} {pairs : List (String × α)}
    (h : ((b.entries ++ pairs).map Prod.fst).Nodup) :
    (b.insertAll pairs).entries = b.entries ++ pairs := by
  induction pairs generalizing b with
  | nil => exact (List.append_nil _).symm
  | cons p pairs ih =>
    have hnew : p.1 ∉ b.entries.map Prod.fst := fun hmem => by
      rw [List.map_append, List.nodup_append] at h
      exact h.2.2 p.1 hmem p.1 (by simp) rfl
    have hinsert : (b.insert p.1 p.2).entries = b.entries ++ [p] := write_of_not_mem p.2 hnew
    have hstep : b.insertAll (p :: pairs) = (b.insert p.1 p.2).insertAll pairs := rfl
    rw [hstep, ih (by simpa [hinsert] using h), hinsert, List.append_assoc]
    rfl

/-- Bindings are those that their own entries describe. -/
theorem ofList_entries (b : Bindings α) : ofList b.entries = b := by
  have hentries : (ofList b.entries).entries = b.entries := entries_insertAll b.nodup_names
  cases b
  unfold ofList at hentries ⊢
  cases h : empty.insertAll _
  simp_all

end Bindings

end Stencil
