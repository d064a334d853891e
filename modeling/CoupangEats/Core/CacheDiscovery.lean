import CoupangEats.Core.CacheModule

/-!
How the cache wrapper finds its methods.

At the start `CacheModule` goes through the providers of the program and replaces, on
each instance, every method that is decorated with `@Cache` by its wrapper. Providers
may share an instance and instances a class, and a name may be found twice. In the end
each decorated method of a provided instance has been wrapped once, nothing else has
changed, and going through the providers again changes nothing (`wrapCache_once`).
-/

namespace CoupangEats

/-! ### The objects -/

/-- An object, by its identity. -/
abbrev ObjectId := ℕ

/-- A function: one of the program, or what `wrapMethod` has returned for it. -/
inductive Fn (φ : Type) where
  | original (code : φ)
  | wrapped (originalMethod : Fn φ) (self : ObjectId) (cacheOptions : CacheOptions)

/-- What a name reads as: a function, or no object at all. -/
inductive Property (φ : Type) where
  | fn (fn : Fn φ)
  | primitive

/-- What the classes of the program say: the options that `@Cache` has stored with a
function, what an object inherits from its prototype, and the names that the
`MetadataScanner` finds there. No instance is the prototype of another. -/
structure Classes (φ : Type) where
  decorated : φ → Option CacheOptions
  inherited : ObjectId → String → Property φ
  getAllMethodNames : ObjectId → List String

/-- The properties that objects have of their own. -/
abbrev Heap (φ : Type) := ObjectId × String → Option (Property φ)

/-- The wrapper of a provider. -/
structure InstanceWrapper where
  object : Option ObjectId
  metatype : Bool
  isDependencyTreeStatic : Bool

variable {φ : Type}

namespace Classes

variable (classes : Classes φ)

/-- `instance[name]`. -/
def read (heap : Heap φ) (place : ObjectId × String) : Property φ :=
  (heap place).getD (classes.inherited place.1 place.2)

/-- The metadata of a function is its own; a wrapper has none. -/
def cacheOptions : Fn φ → Option CacheOptions
  | .original code => classes.decorated code
  | .wrapped _ _ _ => none

/-- One turn of the loop of `wrapInstanceMethods`. `Reflector.get` throws on what is not an
object. -/
def wrapNamed (heap : Heap φ) (place : ObjectId × String) : Option (Heap φ) :=
  match classes.read heap place with
  | .primitive => none
  | .fn originalMethod =>
      match classes.cacheOptions originalMethod with
      | none => some heap
      | some options =>
          some (Function.update heap place (some (.fn (.wrapped originalMethod place.1 options))))

def wrapInstanceMethods (heap : Heap φ) (object : ObjectId) : Option (Heap φ) :=
  (classes.getAllMethodNames object).foldlM (fun heap name => classes.wrapNamed heap (object, name))
    heap

end Classes

def getInstances (providers : List InstanceWrapper) : List ObjectId :=
  ((providers.filter fun v => v.isDependencyTreeStatic).filter fun v => v.metatype).filterMap
    InstanceWrapper.object

def Classes.wrapCache (classes : Classes φ) (heap : Heap φ) (providers : List InstanceWrapper) :
    Option (Heap φ) :=
  (getInstances providers).foldlM classes.wrapInstanceMethods heap

/-! ### What is wrapped -/

section Wrapping

variable (classes : Classes φ)

/-- The properties that the loops come by. -/
def Classes.places (providers : List InstanceWrapper) : List (ObjectId × String) :=
  (getInstances providers).flatMap fun object =>
    (classes.getAllMethodNames object).map fun name => (object, name)

/-- A decorated function is replaced by its wrapper. -/
def Classes.wrap (object : ObjectId) : Property φ → Property φ
  | .primitive => .primitive
  | .fn originalMethod =>
      match classes.cacheOptions originalMethod with
      | none => .fn originalMethod
      | some options => .fn (.wrapped originalMethod object options)

/-- Behind `wrapCache` the decorated methods of the provided instances have been wrapped
once, everything else reads as before, and wrapping again changes nothing. -/
structure WrappedOnce (providers : List InstanceWrapper) (heap after : Heap φ) : Prop where
  listed : ∀ place ∈ classes.places providers,
    classes.read after place = classes.wrap place.1 (classes.read heap place)
  others : ∀ place ∉ classes.places providers, after place = heap place
  again : classes.wrapCache after providers = some after

variable {classes} {heap after : Heap φ}

theorem wrap_of_plain {object : ObjectId} {fn : Fn φ} (plain : classes.cacheOptions fn = none) :
    classes.wrap object (.fn fn) = .fn fn := by
  simp only [Classes.wrap, plain]

theorem wrap_of_decorated {object : ObjectId} {fn : Fn φ} {options : CacheOptions}
    (decorated : classes.cacheOptions fn = some options) :
    classes.wrap object (.fn fn) = .fn (.wrapped fn object options) := by
  simp only [Classes.wrap, decorated]

theorem wrap_eq_primitive {object : ObjectId} {property : Property φ} :
    classes.wrap object property = .primitive ↔ property = .primitive := by
  cases property with
  | primitive => exact Iff.rfl
  | fn originalMethod =>
      simp only [Classes.wrap]
      split <;> simp

/-- A wrapper is not wrapped. -/
theorem wrap_wrap (object : ObjectId) (property : Property φ) :
    classes.wrap object (classes.wrap object property) = classes.wrap object property := by
  cases property with
  | primitive => rfl
  | fn originalMethod =>
      cases options : classes.cacheOptions originalMethod with
      | none => rw [wrap_of_plain options, wrap_of_plain options]
      | some found => rw [wrap_of_decorated options, wrap_of_plain rfl]

theorem read_congr {place : ObjectId × String} (same : after place = heap place) :
    classes.read after place = classes.read heap place := by
  simp only [Classes.read, same]

theorem wrapNamed_eq_none {place : ObjectId × String} :
    classes.wrapNamed heap place = none ↔ classes.read heap place = .primitive := by
  unfold Classes.wrapNamed
  split
  · rename_i here
    simp [here]
  · rename_i originalMethod here
    rw [here]
    split <;> simp

/-- One turn wraps one property. -/
theorem wrapNamed_eq_some {place : ObjectId × String}
    (turn : classes.wrapNamed heap place = some after) :
    classes.read after place = classes.wrap place.1 (classes.read heap place) ∧
      ∀ other, other ≠ place → after other = heap other := by
  unfold Classes.wrapNamed at turn
  split at turn
  · cases turn
  · rename_i originalMethod here
    rw [here]
    split at turn
    · rename_i plain
      cases turn
      refine ⟨?_, fun other _ => rfl⟩
      rw [here, wrap_of_plain plain]
    · rename_i options decorated
      cases turn
      refine ⟨?_, fun other apart => Function.update_of_ne apart _ _⟩
      rw [Classes.read, Function.update_self, wrap_of_decorated decorated, Option.getD_some]

/-- The turn changes nothing where nothing is left to wrap. -/
theorem wrapNamed_idle {place : ObjectId × String} (readable : classes.read heap place ≠ .primitive)
    (done : classes.wrap place.1 (classes.read heap place) = classes.read heap place) :
    classes.wrapNamed heap place = some heap := by
  unfold Classes.wrapNamed
  split
  · rename_i here
    exact absurd here readable
  · rename_i originalMethod here
    rw [here] at done
    split
    · rfl
    · rename_i options decorated
      rw [wrap_of_decorated decorated, Property.fn.injEq] at done
      -- a function is not its own wrapper
      exact absurd (congrArg sizeOf done) (by simp; omega)

end Wrapping

/-! ### Loops -/

section Loops

variable {classes : Classes φ} {heap after : Heap φ}

/-- The two loops are one loop over the places. -/
theorem wrapCache_eq (providers : List InstanceWrapper) :
    classes.wrapCache heap providers =
      (classes.places providers).foldlM classes.wrapNamed heap := by
  unfold Classes.wrapCache Classes.places
  induction getInstances providers generalizing heap with
  | nil => rfl
  | cons object rest ih =>
      rw [List.foldlM_cons, List.flatMap_cons, List.foldlM_append, List.foldlM_map]
      exact Option.bind_congr fun after _ => ih

/-- A loop over places ends unless one of them is not an object. -/
theorem foldlM_wrapNamed_eq_none {places : List (ObjectId × String)} :
    places.foldlM classes.wrapNamed heap = none ↔
      ∃ place ∈ places, classes.read heap place = .primitive := by
  induction places generalizing heap with
  | nil => simp
  | cons place rest ih =>
      rw [List.foldlM_cons]
      cases turn : classes.wrapNamed heap place with
      | none =>
          have here := wrapNamed_eq_none.mp turn
          simp [here]
      | some next =>
          obtain ⟨wrapped, others⟩ := wrapNamed_eq_some turn
          have same (other : ObjectId × String) :
              classes.read next other = .primitive ↔ classes.read heap other = .primitive := by
            by_cases here : other = place
            · rw [here, wrapped, wrap_eq_primitive]
            · rw [read_congr (others other here)]
          have readable : classes.read heap place ≠ .primitive := by
            intro here
            rw [wrapNamed_eq_none.mpr here] at turn
            cases turn
          simp only [Option.bind_eq_bind, Option.bind_some, ih, same, List.mem_cons,
            exists_eq_or_imp, readable, false_or]

/-- A loop over places wraps each of them once, however often it comes by. -/
theorem foldlM_wrapNamed_eq_some {places : List (ObjectId × String)}
    (loop : places.foldlM classes.wrapNamed heap = some after) :
    (∀ place ∈ places, classes.read after place = classes.wrap place.1 (classes.read heap place)) ∧
      ∀ place ∉ places, after place = heap place := by
  induction places generalizing heap with
  | nil =>
      cases loop
      exact ⟨fun place mem => absurd mem List.not_mem_nil, fun place _ => rfl⟩
  | cons place rest ih =>
      rw [List.foldlM_cons] at loop
      obtain ⟨next, turn, loop⟩ := Option.bind_eq_some_iff.mp loop
      obtain ⟨wrapped, others⟩ := wrapNamed_eq_some turn
      obtain ⟨later, apart⟩ := ih loop
      constructor
      · intro other mem
        by_cases again : other ∈ rest
        · rw [later other again]
          by_cases here : other = place
          · rw [here, wrapped, wrap_wrap]
          · rw [read_congr (others other here)]
        · obtain rfl | mem := List.mem_cons.mp mem
          · rw [read_congr (apart other again), wrapped]
          · exact absurd mem again
      · intro other absent
        obtain ⟨here, absent⟩ := not_or.mp (List.mem_cons.not.mp absent)
        rw [apart other absent, others other here]

theorem foldlM_wrapNamed_idle {places : List (ObjectId × String)}
    (idle : ∀ place ∈ places, classes.wrapNamed heap place = some heap) :
    places.foldlM classes.wrapNamed heap = some heap := by
  induction places with
  | nil => rfl
  | cons place rest ih =>
      rw [List.foldlM_cons, idle place (List.mem_cons_self ..)]
      exact ih fun other mem => idle other (List.mem_cons_of_mem _ mem)

/-- However providers share instances: the start fails when a method of a provided instance
is shadowed by what is not an object, and otherwise wraps each decorated method of the
provided instances once and nothing else; wrapping again changes nothing. -/
theorem wrapCache_once (classes : Classes φ) (heap : Heap φ) (providers : List InstanceWrapper) :
    (classes.wrapCache heap providers = none ∧
        ∃ place ∈ classes.places providers, classes.read heap place = .primitive) ∨
      ∃ after, classes.wrapCache heap providers = some after ∧
        (∀ place ∈ classes.places providers, classes.read heap place ≠ .primitive) ∧
        WrappedOnce classes providers heap after := by
  cases started : classes.wrapCache heap providers with
  | none =>
      rw [wrapCache_eq, foldlM_wrapNamed_eq_none] at started
      exact .inl ⟨rfl, started⟩
  | some after =>
      rw [wrapCache_eq] at started
      have readable : ∀ place ∈ classes.places providers,
          classes.read heap place ≠ .primitive := by
        intro place mem here
        rw [foldlM_wrapNamed_eq_none.mpr ⟨place, mem, here⟩] at started
        cases started
      obtain ⟨listed, others⟩ := foldlM_wrapNamed_eq_some started
      refine .inr ⟨after, rfl, readable, listed, others, ?_⟩
      rw [wrapCache_eq]
      refine foldlM_wrapNamed_idle fun place mem => ?_
      refine wrapNamed_idle ?_ ?_
      · rw [listed place mem, Ne, wrap_eq_primitive]
        exact readable place mem
      · rw [listed place mem, wrap_wrap]

end Loops

end CoupangEats
