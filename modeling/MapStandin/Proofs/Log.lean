import MapStandin.Log

/-! # Computations that tell the same

Two computations are compared by what they tell and by what they come to. A chain of computations
tells the same as another if each of its links does. -/

namespace MapStandin.Narrated

variable {ε ε' δ δ' α α' β β' : Type} {E : ε → ε' → Prop} {R : α → α' → Prop} {S : β → β' → Prop}

/-- Both fail or both succeed, and what they come to goes together. -/
inductive Matches (E : ε → ε' → Prop) (R : α → α' → Prop) : Except ε α → Except ε' α' → Prop
  | error {e : ε} {e' : ε'} (together : E e e') : Matches E R (.error e) (.error e')
  | ok {a : α} {a' : α'} (together : R a a') : Matches E R (.ok a) (.ok a')

/-- Both tell the same, and what they come to goes together. -/
structure SameTale (E : ε → ε' → Prop) (R : α → α' → Prop) (x : Narrated ε α)
    (x' : Narrated ε' α') : Prop where
  events : x'.events = x.events
  result : Matches E R x.result x'.result

theorem Matches.refl (x : Except ε α) : Matches Eq Eq x x := by
  cases x with
  | error e => exact .error rfl
  | ok a => exact .ok rfl

theorem Matches.mapError {D : δ → δ' → Prop} {f : ε → δ} {f' : ε' → δ'} {x : Except ε α}
    {x' : Except ε' α'} (h : Matches E R x x') (hf : ∀ e e', E e e' → D (f e) (f' e')) :
    Matches D R (x.mapError f) (x'.mapError f') := by
  cases h with
  | error together => exact .error (hf _ _ together)
  | ok together => exact .ok together

theorem Matches.bind {f : α → Except ε β} {f' : α' → Except ε' β'} {x : Except ε α}
    {x' : Except ε' α'} (h : Matches E R x x') (hf : ∀ a a', R a a' → Matches E S (f a) (f' a')) :
    Matches E S (x.bind f) (x'.bind f') := by
  cases h with
  | error together => exact .error together
  | ok together => exact hf _ _ together

theorem Matches.of_isOk {x : Except ε α} {x' : Except ε' α'} (h : x'.isOk = x.isOk) :
    Matches (fun _ _ => True) (fun a a' => x = .ok a ∧ x' = .ok a') x x' := by
  cases x <;> cases x'
  · exact .error trivial
  · cases h
  · cases h
  · exact .ok ⟨rfl, rfl⟩

theorem Matches.mono {E' : ε → ε' → Prop} {R' : α → α' → Prop} {x : Except ε α}
    {x' : Except ε' α'} (h : Matches E R x x') (hE : ∀ e e', E e e' → E' e e')
    (hR : ∀ a a', R a a' → R' a a') : Matches E' R' x x' := by
  cases h with
  | error together => exact .error (hE _ _ together)
  | ok together => exact .ok (hR _ _ together)

theorem Matches.known {x : Except ε α} {x' : Except ε' α'} (h : Matches E R x x') :
    Matches E (fun a a' => R a a' ∧ x = .ok a ∧ x' = .ok a') x x' := by
  cases h with
  | error together => exact .error together
  | ok together => exact .ok ⟨together, rfl, rfl⟩

theorem Matches.map_eq {ζ : Type} {f : α → ζ} {x x' : Except ε α}
    (h : Matches Eq (fun a a' => f a' = f a) x x') : x'.map f = x.map f := by
  cases h with
  | error together => rw [together]
  | ok together => exact congrArg Except.ok together

/-! ## What a chain tells -/

section Members

variable {x : Narrated ε α} {f : α → Narrated ε β} {e : Event}

theorem mapError_of_ok {a : α} (h : x.result = .ok a) (g : ε → δ) :
    (x.mapError g).result = .ok a := by
  rw [result_mapError, h]
  rfl

theorem exists_of_bind {b : β} (h : (x >>= f).result = .ok b) :
    ∃ a, x.result = .ok a ∧ (f a).result = .ok b := by
  rw [result_bind] at h
  cases hx : x.result with
  | error e =>
    rw [hx] at h
    cases h
  | ok a =>
    rw [hx] at h
    exact ⟨a, rfl, h⟩

theorem of_ok_bind (a : α) (f : α → Narrated ε β) : (Narrated.of (.ok a) >>= f) = f a := rfl

theorem mem_events_of_first (h : e ∈ x.events) : e ∈ (x >>= f).events := by
  obtain ⟨result, events⟩ := x
  cases result with
  | error _ => exact h
  | ok a => exact List.mem_append_left _ h

theorem mem_events_of_later {a : α} (first : x.result = .ok a) (h : e ∈ (f a).events) :
    e ∈ (x >>= f).events := by
  obtain ⟨result, events⟩ := x
  obtain rfl : result = .ok a := first
  exact List.mem_append_right _ h

end Members

/-! ## The same tale -/

namespace SameTale

variable {x : Narrated ε α} {x' : Narrated ε' α'}

theorem refl (x : Narrated ε α) : SameTale Eq Eq x x := ⟨rfl, .refl x.result⟩

theorem pure {a : α} {a' : α'} (h : R a a') :
    SameTale E R (Pure.pure a : Narrated ε α) (Pure.pure a' : Narrated ε' α') := ⟨rfl, .ok h⟩

theorem of {r : Except ε α} {r' : Except ε' α'} (h : Matches E R r r') :
    SameTale E R (Narrated.of r) (Narrated.of r') := ⟨rfl, h⟩

theorem say (level : Level) {text text' : String} (h : text' = text) :
    SameTale E Eq (Narrated.say level text) (Narrated.say level text') := ⟨by rw [h]; rfl, .ok rfl⟩

theorem sayAll (level : Level) {texts texts' : List String} (h : texts' = texts) :
    SameTale E Eq (Narrated.sayAll level texts) (Narrated.sayAll level texts') :=
  ⟨by rw [h]; rfl, .ok rfl⟩

theorem bind {f : α → Narrated ε β} {f' : α' → Narrated ε' β'} (h : SameTale E R x x')
    (hf : ∀ a a', R a a' → SameTale E S (f a) (f' a')) : SameTale E S (x >>= f) (x' >>= f') := by
  obtain ⟨result, events⟩ := x
  obtain ⟨result', events'⟩ := x'
  obtain ⟨hevents, hresult⟩ := h
  obtain rfl : events' = events := hevents
  cases hresult with
  | error together => exact ⟨rfl, .error together⟩
  | ok together =>
    obtain ⟨hlater, hlast⟩ := hf _ _ together
    exact ⟨congrArg (events' ++ ·) hlater, hlast⟩

theorem mono {E' : ε → ε' → Prop} {R' : α → α' → Prop} (h : SameTale E R x x')
    (hE : ∀ e e', E e e' → E' e e') (hR : ∀ a a', R a a' → R' a a') : SameTale E' R' x x' :=
  ⟨h.events, h.result.mono hE hR⟩

theorem known (h : SameTale E R x x') :
    SameTale E (fun a a' => R a a' ∧ x.result = .ok a ∧ x'.result = .ok a') x x' :=
  ⟨h.events, h.result.known⟩

theorem mapError {D : δ → δ' → Prop} {f : ε → δ} {f' : ε' → δ'} (h : SameTale E R x x')
    (hf : ∀ e e', E e e' → D (f e) (f' e')) :
    SameTale D R (x.mapError f) (x'.mapError f') := ⟨h.events, h.result.mapError hf⟩

end SameTale

end MapStandin.Narrated
