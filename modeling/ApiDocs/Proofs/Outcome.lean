import Mathlib.Data.List.Forall2

/-!
# What an outcome consists of

A computation that may fail is a chain of computations that may fail.  It succeeds exactly if each of
them does (`bind_eq_ok`), and fails by the fault of the first that fails (`bind_eq_error`).  One for
every element of a list succeeds if it does for each element (`mapM_eq_ok`).

Two chains of the same make have the same faults and related results if their links do (`Alike`).
Where their faults may differ, they can still have related results if both succeed (`Agree`).
-/

namespace ApiDocs

variable {ε α β : Type}

theorem bind_eq_ok {x : Except ε α} {f : α → Except ε β} {b : β} :
    (x >>= f) = .ok b ↔ ∃ a, x = .ok a ∧ f a = .ok b := by
  cases x with
  | error fault => exact ⟨fun h => (by cases h), fun ⟨_, h, _⟩ => (by cases h)⟩
  | ok a => exact ⟨fun h => ⟨a, rfl, h⟩, fun ⟨_, ha, h⟩ => (by cases ha; exact h)⟩

theorem bind_eq_error {x : Except ε α} {f : α → Except ε β} {fault : ε} :
    (x >>= f) = .error fault ↔ x = .error fault ∨ ∃ a, x = .ok a ∧ f a = .error fault := by
  cases x with
  | error found =>
    exact ⟨fun h => Or.inl (by cases h; rfl), fun h => h.elim (fun hx => by cases hx; rfl)
      fun ⟨_, ha, _⟩ => (by cases ha)⟩
  | ok a =>
    exact ⟨fun h => Or.inr ⟨a, rfl, h⟩, fun h => h.elim (fun hx => by cases hx)
      fun ⟨_, ha, h⟩ => (by cases ha; exact h)⟩

theorem map_eq_ok {f : α → β} {x : Except ε α} {b : β} :
    x.map f = .ok b ↔ ∃ a, x = .ok a ∧ f a = b := by
  cases x with
  | error fault => exact ⟨fun h => (by cases h), fun ⟨_, h, _⟩ => (by cases h)⟩
  | ok a =>
    exact ⟨fun h => ⟨a, rfl, Except.ok.inj h⟩, fun ⟨_, ha, h⟩ => (by cases ha; exact congrArg _ h)⟩

theorem mapError_eq_ok {ε' : Type} {f : ε → ε'} {x : Except ε α} {a : α} :
    x.mapError f = .ok a ↔ x = .ok a := by
  cases x with
  | error fault => exact ⟨fun h => (by cases h), fun h => (by cases h)⟩
  | ok b => exact ⟨fun h => (by cases h; rfl), fun h => (by cases h; rfl)⟩

/-- A computation that is known to succeed gives what it gives. -/
theorem eq_ok_getD {x : Except ε α} {fallback : α} (h : x.toOption.isSome = true) :
    x = .ok (x.toOption.getD fallback) := by
  cases x with
  | error fault => cases h
  | ok a => rfl

theorem mapM_eq_ok {f : α → Except ε β} : ∀ {xs : List α} {ys : List β},
    xs.mapM f = .ok ys ↔ List.Forall₂ (fun x y => f x = .ok y) xs ys
  | [], ys => by
    rw [List.mapM_nil, List.forall₂_nil_left_iff]
    exact ⟨fun h => (by cases h; rfl), fun h => (by rw [h]; rfl)⟩
  | x :: xs, ys => by
    rw [List.mapM_cons, bind_eq_ok, List.forall₂_cons_left_iff]
    constructor
    · rintro ⟨y, hy, hrest⟩
      obtain ⟨zs, hzs, hys⟩ := bind_eq_ok.mp hrest
      cases hys
      exact ⟨y, zs, hy, mapM_eq_ok.mp hzs, rfl⟩
    · rintro ⟨y, zs, hy, hzs, rfl⟩
      exact ⟨y, hy, bind_eq_ok.mpr ⟨zs, mapM_eq_ok.mpr hzs, rfl⟩⟩

/-- One success after another for all elements. -/
theorem exists_mapM_eq_ok {f : α → Except ε β} : ∀ {xs : List α}, (∀ x ∈ xs, ∃ y, f x = .ok y) →
    ∃ ys, xs.mapM f = .ok ys
  | [], _ => ⟨[], rfl⟩
  | x :: xs, h => by
    obtain ⟨y, hy⟩ := h x List.mem_cons_self
    obtain ⟨ys, hys⟩ := exists_mapM_eq_ok fun z hz => h z (List.mem_cons_of_mem x hz)
    exact ⟨y :: ys, mapM_eq_ok.mpr (.cons hy (mapM_eq_ok.mp hys))⟩

/-- What is related element by element has for every element on the right one on the left. -/
theorem exists_of_mem_right.{u, v} {α : Type u} {β : Type v} {R : α → β → Prop} :
    ∀ {xs : List α} {ys : List β} {y : β}, List.Forall₂ R xs ys → y ∈ ys → ∃ x ∈ xs, R x y
  | _, _, _, .nil, h => absurd h List.not_mem_nil
  | x :: _, _, _, .cons hx hrest, h => by
    rcases List.mem_cons.mp h with rfl | h
    · exact ⟨x, List.mem_cons_self, hx⟩
    · obtain ⟨z, hz, hR⟩ := exists_of_mem_right hrest h
      exact ⟨z, List.mem_cons_of_mem x hz, hR⟩

theorem mem_of_mapM_eq_ok {f : α → Except ε β} {xs : List α} {ys : List β} {y : β}
    (h : xs.mapM f = .ok ys) : y ∈ ys ↔ ∃ x ∈ xs, f x = .ok y := by
  constructor
  · exact exists_of_mem_right (mapM_eq_ok.mp h)
  · rintro ⟨x, hx, hxy⟩
    obtain ⟨z, hz, hxz⟩ := exists_of_mem_right (mapM_eq_ok.mp h).flip hx
    rw [hxy] at hxz
    cases hxz
    exact hz

/-- One for every element fails by the fault of one of them. -/
theorem exists_of_mapM_eq_error {f : α → Except ε β} {fault : ε} : ∀ {xs : List α},
    xs.mapM f = .error fault → ∃ x ∈ xs, f x = .error fault
  | [], h => by cases h
  | x :: xs, h => by
    rw [List.mapM_cons] at h
    rcases bind_eq_error.mp h with hx | ⟨y, -, h⟩
    · exact ⟨x, List.mem_cons_self, hx⟩
    · rcases bind_eq_error.mp h with h | ⟨ys, -, h⟩
      · obtain ⟨z, hz, hfault⟩ := exists_of_mapM_eq_error h
        exact ⟨z, List.mem_cons_of_mem x hz, hfault⟩
      · cases h

/-- What is done with every result may be done at the end. -/
theorem mapM_eq_map {γ : Type} {f : α → Except ε β} {g : α → Except ε γ} {h : β → γ} :
    ∀ {xs : List α}, (∀ x ∈ xs, g x = (f x).map h) → xs.mapM g = (xs.mapM f).map (List.map h)
  | [], _ => rfl
  | x :: xs, hx => by
    have hrest := mapM_eq_map fun y hy => hx y (List.mem_cons_of_mem x hy)
    rw [List.mapM_cons, List.mapM_cons, hrest, hx x List.mem_cons_self]
    cases f x with
    | error fault => rfl
    | ok b => cases xs.mapM f <;> rfl

/-- Elements that are passed over may be left out beforehand. -/
theorem mapM_filterMap {γ : Type} {f : α → Except ε (Option β)} {g : α → Option γ}
    {h : γ → Except ε β} : ∀ {xs : List α},
      (∀ x ∈ xs, f x = match g x with | some y => (h y).map some | none => .ok none) →
        (xs.mapM f).map (List.filterMap id) = (xs.filterMap g).mapM h
  | [], _ => rfl
  | x :: xs, hx => by
    have hrest := mapM_filterMap fun y hy => hx y (List.mem_cons_of_mem x hy)
    rw [List.mapM_cons, hx x List.mem_cons_self, List.filterMap_cons]
    cases g x with
    | none =>
      rw [← hrest]
      cases xs.mapM f <;> rfl
    | some y =>
      dsimp only
      rw [List.mapM_cons, ← hrest]
      cases h y with
      | error fault => rfl
      | ok b => cases xs.mapM f <;> rfl

/-- Lists that are made of the elements may be put together beforehand. -/
theorem mapM_flatMap {γ : Type} {f : α → Except ε (List β)} {g : α → List γ} {h : γ → Except ε β} :
    ∀ {xs : List α}, (∀ x ∈ xs, f x = (g x).mapM h) →
      (xs.mapM f).map List.flatten = (xs.flatMap g).mapM h
  | [], _ => rfl
  | x :: xs, hx => by
    have hrest := mapM_flatMap fun y hy => hx y (List.mem_cons_of_mem x hy)
    rw [List.mapM_cons, hx x List.mem_cons_self, List.flatMap_cons, List.mapM_append, ← hrest]
    cases (g x).mapM h with
    | error fault => rfl
    | ok ys => cases xs.mapM f <;> rfl

/-! ## Two computations -/

/-- Two computations that fail by the same fault, or both succeed with related results. -/
inductive Alike {ε α β : Type} (R : α → β → Prop) : Except ε α → Except ε β → Prop
  | ok {a : α} {b : β} (h : R a b) : Alike R (.ok a) (.ok b)
  | error (fault : ε) : Alike R (.error fault) (.error fault)

theorem Alike.bind {α' β' : Type} {R : α → β → Prop} {S : α' → β' → Prop} {x : Except ε α}
    {y : Except ε β} {f : α → Except ε α'} {g : β → Except ε β'} (hxy : Alike R x y)
    (hfg : ∀ a b, R a b → Alike S (f a) (g b)) : Alike S (x >>= f) (y >>= g) := by
  cases hxy with
  | ok h => exact hfg _ _ h
  | error fault => exact .error fault

theorem alike_mapM {α' β' : Type} {R : α' → β' → Prop} {f : α → Except ε α'}
    {g : β → Except ε β'} : ∀ {xs : List α} {ys : List β},
    List.Forall₂ (fun x y => Alike R (f x) (g y)) xs ys →
      Alike (List.Forall₂ R) (xs.mapM f) (ys.mapM g)
  | _, _, .nil => by
    rw [List.mapM_nil, List.mapM_nil]
    exact .ok .nil
  | _, _, .cons h hrest => by
    rw [List.mapM_cons, List.mapM_cons]
    refine h.bind fun a b hab => (alike_mapM hrest).bind fun as bs habs => ?_
    exact .ok (.cons hab habs)

/-- Two computations whose results are related if both succeed; the `strict` ones also fail
together, by the same fault. -/
def Agree (strict : Prop) (R : α → β → Prop) (x : Except ε α) (y : Except ε β) : Prop :=
  (∀ a b, x = .ok a → y = .ok b → R a b) ∧ (strict → Alike R x y)

theorem agree_ok {strict : Prop} {R : α → β → Prop} {a : α} {b : β} (h : R a b) :
    Agree strict R (.ok a : Except ε α) (.ok b) :=
  ⟨fun _ _ ha hb => (by cases ha; cases hb; exact h), fun _ => .ok h⟩

theorem Agree.bind {α' β' : Type} {strict : Prop} {R : α → β → Prop} {S : α' → β' → Prop}
    {x : Except ε α} {y : Except ε β} {f : α → Except ε α'} {g : β → Except ε β'}
    (hxy : Agree strict R x y) (hfg : ∀ a b, R a b → Agree strict S (f a) (g b)) :
    Agree strict S (x >>= f) (y >>= g) := by
  refine ⟨fun c d hc hd => ?_, fun h => (hxy.2 h).bind fun a b hab => (hfg a b hab).2 h⟩
  obtain ⟨a, ha, hc⟩ := bind_eq_ok.mp hc
  obtain ⟨b, hb, hd⟩ := bind_eq_ok.mp hd
  exact (hfg a b (hxy.1 a b ha hb)).1 c d hc hd

/-- Computations that start alike. -/
theorem agree_bind_self {α' β' : Type} {strict : Prop} {S : α' → β' → Prop} {x : Except ε α}
    {f : α → Except ε α'} {g : α → Except ε β'}
    (h : ∀ a, x = .ok a → Agree strict S (f a) (g a)) : Agree strict S (x >>= f) (x >>= g) := by
  have hself : Agree strict (fun a b => x = .ok a ∧ b = a) x x := by
    cases x with
    | error fault => exact ⟨fun _ _ ha _ => (by cases ha), fun _ => .error fault⟩
    | ok a => exact agree_ok ⟨rfl, rfl⟩
  refine hself.bind fun a b hab => ?_
  obtain ⟨ha, rfl⟩ := hab
  exact h b ha

theorem agree_mapM {γ : Type} {strict : Prop} {R : β → γ → Prop} {f : α → Except ε β} {g : α → Except ε γ} :
    ∀ {xs : List α}, (∀ x ∈ xs, Agree strict R (f x) (g x)) →
      Agree strict (List.Forall₂ R) (xs.mapM f) (xs.mapM g)
  | [], _ => by
    rw [List.mapM_nil, List.mapM_nil]
    exact agree_ok .nil
  | x :: xs, h => by
    have hrest := agree_mapM fun y hy => h y (List.mem_cons_of_mem x hy)
    rw [List.mapM_cons, List.mapM_cons]
    refine (h x List.mem_cons_self).bind fun b c hbc => hrest.bind fun bs cs hbcs => ?_
    exact agree_ok (.cons hbc hbcs)

end ApiDocs
