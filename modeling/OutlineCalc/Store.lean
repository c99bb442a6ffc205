import OutlineCalc.Value

/-!
The names bound so far and how numbers are shown. The bindings are seen through `get?`: a name
keeps the value it was given last, and binding one name leaves all others alone.
-/

namespace OutlineCalc

/-- The value paired with a name. -/
def Store.lookup (name : String) : List (String × Value) → Option Value
  | [] => none
  | (other, value) :: more => if name = other then some value else lookup name more

/-- The pairs with a value put in place of the one a name has, or after all others. -/
def Store.put (name : String) (value : Value) : List (String × Value) → List (String × Value)
  | [] => [(name, value)]
  | (other, old) :: more => if name = other then (name, value) :: more else (other, old) :: put name value more

theorem Store.lookup_put (name sought : String) (value : Value) (bindings : List (String × Value)) :
    lookup sought (put name value bindings) = if sought = name then some value else lookup sought bindings := by
  induction bindings with
  | nil => simp [put, lookup]
  | cons binding more ih =>
    obtain ⟨other, old⟩ := binding
    by_cases found : name = other
    · subst found
      by_cases same : sought = name <;> simp [put, lookup, same]
    · by_cases here : sought = other
      · subst here
        simp [put, found, lookup, Ne.symm found]
      · simp [put, found, lookup, here, ih]

theorem Store.lookup_append (name : String) (bindings more : List (String × Value)) :
    lookup name (bindings ++ more) = (lookup name bindings).or (lookup name more) := by
  induction bindings with
  | nil => rfl
  | cons binding bindings ih =>
    by_cases found : name = binding.1 <;> simp [lookup, found, ih]

theorem Store.lookup_eq_none {name : String} {bindings : List (String × Value)}
    (unbound : ∀ value, (name, value) ∉ bindings) : lookup name bindings = none := by
  induction bindings with
  | nil => rfl
  | cons binding bindings ih =>
    obtain ⟨other, value⟩ := binding
    have differs : name ≠ other := by
      rintro rfl
      exact unbound value List.mem_cons_self
    rw [lookup, if_neg differs, ih fun value mem => unbound value (List.mem_cons_of_mem _ mem)]

/-- Bound names with their values, in the order they were first bound, and the way numbers are
shown. -/
structure Store where
  groupDigits : Bool := true
  fractionDigits : Int := 3
  bindings : List (String × Value) := []
deriving Repr

namespace Store

/-- The value bound to a name, if any. -/
def get? (store : Store) (name : String) : Option Value := lookup name store.bindings

/-- The value of a name; a name without one is unset. -/
def get (store : Store) (name : String) : Value := (store.get? name).getD .unset

/-- Whether a name is bound. -/
def contains (store : Store) (name : String) : Bool := (store.get? name).isSome

/-- Binds a name to a value in place of the one it had. -/
def set (store : Store) (name : String) (value : Value) : Store :=
  { store with bindings := put name value store.bindings }

/-- Unbinds all names and keeps the way numbers are shown. -/
def clear (store : Store) : Store := { store with bindings := [] }

@[simp] theorem get?_set (store : Store) (name sought : String) (value : Value) :
    (store.set name value).get? sought = if sought = name then some value else store.get? sought :=
  lookup_put name sought value store.bindings

/-- After several names were bound, a name has the value it was given last, or else the one it had. -/
theorem get?_foldl_set (store : Store) (name : String) (bindings : List (String × Value)) :
    (bindings.foldl (fun store (name, value) => store.set name value) store).get? name =
      (lookup name bindings.reverse).or (store.get? name) := by
  induction bindings generalizing store with
  | nil => rfl
  | cons binding bindings ih =>
    rw [List.foldl_cons, ih, List.reverse_cons, lookup_append, get?_set]
    by_cases same : name = binding.1 <;> simp [lookup, same]

@[simp] theorem get?_clear (store : Store) (name : String) : store.clear.get? name = none := rfl

@[simp] theorem groupDigits_set (store : Store) (name : String) (value : Value) :
    (store.set name value).groupDigits = store.groupDigits := rfl

@[simp] theorem fractionDigits_set (store : Store) (name : String) (value : Value) :
    (store.set name value).fractionDigits = store.fractionDigits := rfl

end Store

end OutlineCalc
