/-!
# Ordered mappings

A mapping is a list of entries in the order in which their keys were first put. Putting a key that
is there already changes its value and keeps its place.
-/

namespace TenantStore.Assoc

variable {κ α : Type}

/-- The value at a key, by the given test on keys. -/
def find? (p : κ → Bool) (es : List (κ × α)) : Option α :=
  (es.find? fun e => p e.1).map (·.2)

variable [DecidableEq κ]

def get? (k : κ) (es : List (κ × α)) : Option α :=
  find? (fun k' => k' = k) es

def put (k : κ) (v : α) : List (κ × α) → List (κ × α)
  | [] => [(k, v)]
  | e :: es => if e.1 = k then (e.1, v) :: es else e :: put k v es

def ofList (es : List (κ × α)) : List (κ × α) :=
  es.foldl (fun m e => put e.1 e.2 m) []

def erase (k : κ) (es : List (κ × α)) : List (κ × α) :=
  es.filter fun e => e.1 ≠ k

def keys (es : List (κ × α)) : List κ :=
  es.map (·.1)

@[simp] theorem get?_nil (k : κ) : get? k ([] : List (κ × α)) = none := rfl

theorem get?_cons (k : κ) (e : κ × α) (es : List (κ × α)) :
    get? k (e :: es) = if e.1 = k then some e.2 else get? k es := by
  by_cases h : e.1 = k <;> simp [get?, find?, h]

theorem get?_put (k k' : κ) (v : α) (es : List (κ × α)) :
    get? k' (put k v es) = if k' = k then some v else get? k' es := by
  induction es with
  | nil => grind [put, get?_cons, get?_nil]
  | cons e es ih => grind [put, get?_cons]

theorem get?_erase (k k' : κ) (es : List (κ × α)) :
    get? k' (erase k es) = if k' = k then none else get? k' es := by
  induction es with
  | nil => simp [erase]
  | cons e es ih =>
    simp only [erase, List.filter_cons] at ih ⊢
    grind [get?_cons]

theorem mem_keys_put {k k' : κ} {v : α} {es : List (κ × α)} :
    k' ∈ keys (put k v es) ↔ k' = k ∨ k' ∈ keys es := by
  induction es with
  | nil => simp [put, keys]
  | cons e es ih =>
    by_cases h : e.1 = k
    · simp [put, keys, h]
    · simp only [put, h, if_false, keys, List.map_cons, List.mem_cons] at ih ⊢
      rw [show (k' ∈ (put k v es).map (·.1)) = (k' ∈ keys (put k v es)) from rfl] at ih ⊢
      grind

theorem nodup_keys_put {k : κ} {v : α} {es : List (κ × α)} (h : (keys es).Nodup) :
    (keys (put k v es)).Nodup := by
  induction es with
  | nil => simp [put, keys]
  | cons e es ih =>
    simp only [keys, List.map_cons, List.nodup_cons] at h
    by_cases he : e.1 = k
    · simp only [put, he, if_true, keys, List.map_cons, List.nodup_cons]
      exact he ▸ h
    · simp only [put, he, if_false, keys, List.map_cons, List.nodup_cons]
      refine ⟨fun hm => ?_, ih h.2⟩
      rcases mem_keys_put.1 hm with hk | hk
      · exact he hk
      · exact h.1 hk

/-- A mapping made of entries has each key once. -/
theorem nodup_keys_ofList (es : List (κ × α)) : (keys (ofList es)).Nodup := by
  suffices ∀ m : List (κ × α), (keys m).Nodup →
      (keys (es.foldl (fun m e => put e.1 e.2 m) m)).Nodup from this [] (by simp [keys])
  induction es with
  | nil => exact fun m h => h
  | cons e es ih => exact fun m h => ih _ (nodup_keys_put h)

end TenantStore.Assoc
