import Mathlib.Data.List.Basic

/-!
Successful runs of fallible computations.

`x >>= f` succeeds exactly when `x` does and `f` succeeds on its value; a list
is mapped successfully exactly when each element is. These are the two rules by
which a computation in `Except` is taken apart, so no proof unfolds a bind.
-/

namespace Lib

universe u v

variable {ε : Type u} {α β : Type v}

theorem bind_eq_ok_iff {x : Except ε α} {f : α → Except ε β} {b : β} :
    (x >>= f) = .ok b ↔ ∃ a, x = .ok a ∧ f a = .ok b := by
  cases x with
  | error e => exact ⟨nofun, nofun⟩
  | ok a => exact ⟨fun h => ⟨a, rfl, h⟩, fun ⟨_, same, h⟩ => by cases same; exact h⟩

theorem pure_eq_ok_iff {a b : α} : (pure a : Except ε α) = .ok b ↔ a = b :=
  ⟨fun h => Except.ok.inj h, fun h => congrArg _ h⟩

/-- A check that succeeds is followed by the rest. -/
theorem unit_bind_eq_ok_iff {β : Type} {x : Except ε Unit} {f : Unit → Except ε β} {b : β} :
    (x >>= f) = .ok b ↔ x = .ok () ∧ f () = .ok b := by
  rw [bind_eq_ok_iff]
  exact ⟨fun ⟨_, here, rest⟩ => ⟨here, rest⟩, fun ⟨here, rest⟩ => ⟨(), here, rest⟩⟩

/-- A list of checks succeeds when each does. -/
theorem forM_eq_ok_iff {γ : Type} {f : γ → Except ε Unit} {cs : List γ} :
    cs.forM f = .ok () ↔ ∀ c ∈ cs, f c = .ok () := by
  induction cs with
  | nil => exact ⟨fun _ => nofun, fun _ => rfl⟩
  | cons c cs ih =>
      rw [List.forall_mem_cons, ← ih]
      exact unit_bind_eq_ok_iff

/-- A fold keeps what each step keeps. -/
theorem foldlM_keeps {γ δ : Type} {f : δ → γ → Except ε δ} {P : δ → Prop} {cs : List γ} {d d' : δ}
    (keeps : ∀ c ∈ cs, ∀ d d', f d c = .ok d' → P d → P d') (holds : P d)
    (ran : cs.foldlM f d = .ok d') : P d' := by
  induction cs generalizing d with
  | nil =>
      cases ran
      exact holds
  | cons c cs ih =>
      obtain ⟨keepsHere, keepsThere⟩ := List.forall_mem_cons.mp keeps
      rw [List.foldlM_cons] at ran
      cases step : f d c with
      | error e =>
          rw [step] at ran
          cases ran
      | ok next =>
          rw [step] at ran
          exact ih keepsThere (keepsHere d next step holds) ran

/-- What one step of a fold brings about and the others keep holds after it. -/
theorem foldlM_establishes {γ δ : Type} {f : δ → γ → Except ε δ} {P : δ → Prop} {cs : List γ} {c : γ}
    {d d' : δ} (mem : c ∈ cs) (sets : ∀ d d', f d c = .ok d' → P d')
    (keeps : ∀ c ∈ cs, ∀ d d', f d c = .ok d' → P d → P d') (ran : cs.foldlM f d = .ok d') :
    P d' := by
  induction cs generalizing d with
  | nil => cases mem
  | cons first cs ih =>
      obtain ⟨keepsHere, keepsThere⟩ := List.forall_mem_cons.mp keeps
      rw [List.foldlM_cons] at ran
      cases step : f d first with
      | error e =>
          rw [step] at ran
          cases ran
      | ok next =>
          rw [step] at ran
          rcases List.mem_cons.mp mem with rfl | later
          · exact foldlM_keeps keepsThere (sets d next step) ran
          · exact ih later keepsThere ran

/-- A fold succeeds when each step does. -/
theorem exists_foldlM_ok {γ δ : Type} {f : δ → γ → Except ε δ} {cs : List γ}
    (each : ∀ c ∈ cs, ∀ d, ∃ d', f d c = .ok d') (d : δ) : ∃ d', cs.foldlM f d = .ok d' := by
  induction cs generalizing d with
  | nil => exact ⟨d, rfl⟩
  | cons c cs ih =>
      obtain ⟨here, there⟩ := List.forall_mem_cons.mp each
      obtain ⟨next, step⟩ := here d
      obtain ⟨done, ran⟩ := ih there next
      refine ⟨done, ?_⟩
      rw [List.foldlM_cons, step]
      exact ran

/-- A map that can only change nothing but the success of an element. -/
theorem mapM_eq_ok_iff {f : α → Except ε β} {g : α → β} {P : α → Prop}
    (elem : ∀ a b, f a = .ok b ↔ P a ∧ b = g a) {as : List α} {bs : List β} :
    as.mapM f = .ok bs ↔ (∀ a ∈ as, P a) ∧ bs = as.map g := by
  induction as generalizing bs with
  | nil =>
      rw [List.mapM_nil, pure_eq_ok_iff]
      exact ⟨fun h => ⟨nofun, h.symm⟩, fun h => h.2.symm⟩
  | cons a as ih =>
      rw [List.mapM_cons, bind_eq_ok_iff]
      constructor
      · rintro ⟨b, first, rest⟩
        obtain ⟨bs', tail, last⟩ := bind_eq_ok_iff.mp rest
        obtain ⟨here, rfl⟩ := (elem a b).mp first
        obtain ⟨there, rfl⟩ := ih.mp tail
        exact ⟨List.forall_mem_cons.mpr ⟨here, there⟩, (pure_eq_ok_iff.mp last).symm⟩
      · rintro ⟨all, rfl⟩
        obtain ⟨here, there⟩ := List.forall_mem_cons.mp all
        exact ⟨g a, (elem a _).mpr ⟨here, rfl⟩,
          bind_eq_ok_iff.mpr ⟨_, ih.mpr ⟨there, rfl⟩, rfl⟩⟩

/-- A list is mapped to the elementwise values. -/
theorem mapM_eq_ok_iff_forall₂ {f : α → Except ε β} {as : List α} {bs : List β} :
    as.mapM f = .ok bs ↔ List.Forall₂ (fun a b => f a = .ok b) as bs := by
  induction as generalizing bs with
  | nil =>
      rw [List.mapM_nil, pure_eq_ok_iff]
      constructor
      · rintro rfl
        exact .nil
      · intro paired
        cases paired
        rfl
  | cons a as ih =>
      rw [List.mapM_cons, bind_eq_ok_iff]
      constructor
      · rintro ⟨b, first, rest⟩
        obtain ⟨bs', tail, last⟩ := bind_eq_ok_iff.mp rest
        obtain rfl := pure_eq_ok_iff.mp last
        exact .cons first (ih.mp tail)
      · intro paired
        cases paired with
        | cons first tail =>
            exact ⟨_, first, bind_eq_ok_iff.mpr ⟨_, ih.mpr tail, rfl⟩⟩

/-- A list is mapped when each element is. -/
theorem exists_mapM_ok {f : α → Except ε β} {as : List α} (each : ∀ a ∈ as, ∃ b, f a = .ok b) :
    ∃ bs, as.mapM f = .ok bs := by
  induction as with
  | nil => exact ⟨[], rfl⟩
  | cons a as ih =>
      obtain ⟨b, first⟩ := each a List.mem_cons_self
      obtain ⟨bs, rest⟩ := ih fun a mem => each a (List.mem_cons_of_mem _ mem)
      refine ⟨b :: bs, ?_⟩
      rw [List.mapM_cons]
      exact bind_eq_ok_iff.mpr ⟨b, first, bind_eq_ok_iff.mpr ⟨bs, rest, rfl⟩⟩

theorem toOption_eq_some_iff {x : Except ε α} {a : α} : x.toOption = some a ↔ x = .ok a := by
  cases x with
  | error e => exact ⟨nofun, nofun⟩
  | ok b => exact ⟨fun same => congrArg Except.ok (Option.some.inj same),
      fun same => congrArg some (Except.ok.inj same)⟩

theorem bind_eq_error_iff {x : Except ε α} {f : α → Except ε β} {e : ε} :
    (x >>= f) = .error e ↔ x = .error e ∨ ∃ a, x = .ok a ∧ f a = .error e := by
  cases x with
  | error e' =>
      constructor
      · intro h
        exact .inl (congrArg Except.error (Except.error.inj h))
      · rintro (h | ⟨_, other, -⟩)
        · exact congrArg Except.error (Except.error.inj h)
        · cases other
  | ok a =>
      constructor
      · intro h
        exact .inr ⟨a, rfl, h⟩
      · rintro (none | ⟨_, same, h⟩)
        · cases none
        · cases same
          exact h

/-- A list is mapped to an error by one of its elements. -/
theorem exists_of_mapM_eq_error {f : α → Except ε β} {as : List α} {e : ε}
    (failed : as.mapM f = .error e) : ∃ a ∈ as, f a = .error e := by
  induction as with
  | nil => cases failed
  | cons a as ih =>
      rw [List.mapM_cons] at failed
      rcases bind_eq_error_iff.mp failed with first | ⟨b, -, rest⟩
      · exact ⟨a, List.mem_cons_self, first⟩
      · rcases bind_eq_error_iff.mp rest with later | ⟨bs, -, last⟩
        · obtain ⟨a', mem, its⟩ := ih later
          exact ⟨a', List.mem_cons_of_mem _ mem, its⟩
        · cases last

/-- A list of checks fails with the error of one of them. -/
theorem exists_of_forM_eq_error {γ : Type} {f : γ → Except ε Unit} {cs : List γ} {e : ε}
    (failed : cs.forM f = .error e) : ∃ c ∈ cs, f c = .error e := by
  induction cs with
  | nil => cases failed
  | cons c cs ih =>
      rcases bind_eq_error_iff.mp failed with first | ⟨_, -, rest⟩
      · exact ⟨c, List.mem_cons_self, first⟩
      · obtain ⟨later, mem, its⟩ := ih rest
        exact ⟨later, List.mem_cons_of_mem _ mem, its⟩

/-- A map succeeds exactly when the computation does. -/
theorem map_eq_ok_iff {x : Except ε α} {f : α → β} {b : β} :
    x.map f = .ok b ↔ ∃ a, x = .ok a ∧ f a = b := by
  cases x with
  | error e => exact ⟨nofun, nofun⟩
  | ok a =>
      constructor
      · intro h
        exact ⟨a, rfl, Except.ok.inj h⟩
      · rintro ⟨_, same, rfl⟩
        cases same
        rfl

/-- Two computations whose values have one image under `f` stay so under
continuations that respect it. -/
theorem map_bind_congr {γ δ : Type v} {x y : Except ε α} {f : α → γ} {k k' : α → Except ε β}
    {g : β → δ} (first : x.map f = y.map f)
    (rest : ∀ a b, f a = f b → (k a).map g = (k' b).map g) :
    (x >>= k).map g = (y >>= k').map g := by
  cases x with
  | error e =>
      cases y with
      | error e' =>
          cases first
          rfl
      | ok b => cases first
  | ok a =>
      cases y with
      | error e' => cases first
      | ok b => exact rest a b (Except.ok.inj first)

/-- A bind is followed by what is read of its values, errors being dropped. -/
theorem map_toOption_bind {γ δ : Type v} {x : Except ε α} {f : α → Except ε β} {p : α → γ}
    {q : β → δ} {y : Option γ} {h : γ → Option δ} (first : x.toOption.map p = y)
    (rest : ∀ a, x = .ok a → (f a).toOption.map q = h (p a)) :
    (x >>= f).toOption.map q = y.bind h := by
  subst first
  cases x with
  | error e => rfl
  | ok a => exact rest a rfl

/-- Two lists related elementwise have the images that the relation gives them. -/
theorem map_eq_of_forall₂ {A B C : Type} {T : A → B → Prop} {f : A → C} {g : B → C}
    (same : ∀ a b, T a b → g b = f a) {as : List A} {bs : List B} (paired : List.Forall₂ T as bs) :
    bs.map g = as.map f := by
  induction paired with
  | nil => rfl
  | cons here _ ih => rw [List.map_cons, List.map_cons, same _ _ here, ih]

/-- A filter that keeps every element. -/
theorem forall₂_filterMap {A B : Type} {T : A → B → Prop} {f : A → Option B} {as : List A}
    (each : ∀ a ∈ as, ∃ b, f a = some b ∧ T a b) : List.Forall₂ T as (as.filterMap f) := by
  induction as with
  | nil => exact .nil
  | cons a as ih =>
      obtain ⟨b, kept, related⟩ := each a List.mem_cons_self
      rw [List.filterMap_cons_some kept]
      exact .cons related (ih fun a mem => each a (List.mem_cons_of_mem _ mem))

/-- Each element of the second list belongs to one of the first. -/
theorem exists_of_forall₂ {A B : Type} {T : A → B → Prop} {as : List A} {bs : List B}
    (paired : List.Forall₂ T as bs) {b : B} (mem : b ∈ bs) : ∃ a ∈ as, T a b := by
  induction paired with
  | nil => cases mem
  | @cons a _ _ _ here _ ih =>
      rcases List.mem_cons.mp mem with rfl | mem
      · exact ⟨a, List.mem_cons_self, here⟩
      · obtain ⟨a, later, related⟩ := ih mem
        exact ⟨a, List.mem_cons_of_mem _ later, related⟩

/-- Two lists related elementwise are ordered by related relations alike. -/
theorem pairwise_iff_of_forall₂ {A B : Type} {T : A → B → Prop} {R : A → A → Prop}
    {S : B → B → Prop} (same : ∀ a b a' b', T a b → T a' b' → (R a a' ↔ S b b')) {as : List A}
    {bs : List B} (paired : List.Forall₂ T as bs) : as.Pairwise R ↔ bs.Pairwise S := by
  induction paired with
  | nil => simp
  | @cons a b as bs here rest ih =>
      have each : (∀ a' ∈ as, R a a') ↔ ∀ b' ∈ bs, S b b' := by
        clear ih
        induction rest with
        | nil => simp
        | cons there _ ih =>
            rw [List.forall_mem_cons, List.forall_mem_cons, same _ _ _ _ here there, ih]
      rw [List.pairwise_cons, List.pairwise_cons, each, ih]

/-- Lists related to one list elementwise are related to each other. -/
theorem forall₂_of_common {C A B : Type} {R : C → A → Prop} {S : C → B → Prop} {T : A → B → Prop}
    (common : ∀ c a b, R c a → S c b → T a b) {cs : List C} {as : List A} {bs : List B}
    (left : List.Forall₂ R cs as) (right : List.Forall₂ S cs bs) : List.Forall₂ T as bs := by
  induction left generalizing bs with
  | nil =>
      cases right
      exact .nil
  | cons here _ ih =>
      cases right with
      | cons there rest => exact .cons (common _ _ _ here there) (ih rest)

end Lib
