import PreferenceSchema.Event

/-!
# Traced computations

A computation that ends in a value or an error, together with the events on the
way there.  The events before an error are kept.
-/

namespace PreferenceSchema

/-- The outcome of a computation and the events it reported, in order. -/
structure Traced (ε α : Type) where
  events : List Event
  outcome : Except ε α

namespace Traced

variable {ε α β : Type}

@[ext] theorem ext
    {x y : Traced ε α}
    (events : x.events = y.events)
    (outcome : x.outcome = y.outcome) :
    x = y := by
  cases x; cases y; simp_all

/-- Goes on with the value of a computation, unless it failed. -/
def andThen
    (x : Traced ε α)
    (f : α → Traced ε β) : Traced ε β :=
  match x.outcome with
  | .ok a => ⟨x.events ++ (f a).events, (f a).outcome⟩
  | .error e => ⟨x.events, .error e⟩

instance : Monad (Traced ε) where
  pure a := ⟨[], .ok a⟩
  bind := andThen

@[simp] theorem outcome_pure
    (a : α) :
    (pure a : Traced ε α).outcome = .ok a := rfl

@[simp] theorem events_pure (a : α) : (pure a : Traced ε α).events = [] := rfl

/-- The outcome of a sequence depends on the outcomes of its parts only. -/
@[simp] theorem outcome_bind
    (x : Traced ε α)
    (f : α → Traced ε β) :
    (x >>= f).outcome = x.outcome.bind fun a => (f a).outcome := by
  show (andThen x f).outcome = _
  unfold andThen Except.bind
  cases x.outcome <;> rfl

/-- A sequence reports the events of its second part once the first part has
succeeded. -/
theorem events_bind_of_ok
    {x : Traced ε α}
    {a : α}
    (h : x.outcome = .ok a)
    (f : α → Traced ε β) :
    (x >>= f).events = x.events ++ (f a).events := by
  show (andThen x f).events = _
  simp [andThen, h]

/-- After a failure nothing more is reported. -/
theorem events_bind_of_error
    {x : Traced ε α}
    {e : ε}
    (h : x.outcome = .error e)
    (f : α → Traced ε β) :
    (x >>= f).events = x.events := by
  show (andThen x f).events = _
  simp [andThen, h]

theorem andThen_assoc
    {γ : Type}
    (x : Traced ε α)
    (f : α → Traced ε β)
    (g : β → Traced ε γ) :
    andThen (andThen x f) g = andThen x fun a => andThen (f a) g := by
  unfold andThen
  cases x.outcome with
  | error e => rfl
  | ok a => cases h : (f a).outcome <;> simp [h]

theorem andThen_pure
    (x : Traced ε α) :
    (andThen x fun a => ⟨[], .ok a⟩) = x := by
  unfold andThen
  ext1 <;> cases x.outcome <;> simp

instance : LawfulMonad (Traced ε) :=
  LawfulMonad.mk' _ (fun x => andThen_pure x)
    (fun _ _ => by simp [pure, bind, andThen])
    (fun x f g => andThen_assoc x f g)

/-- A failure without events. -/
def fail (e : ε) : Traced ε α :=
  ⟨[], .error e⟩

@[simp] theorem outcome_fail
    (e : ε) :
    (fail e : Traced ε α).outcome = .error e := rfl

/-- A result without events. -/
def ofExcept (result : Except ε α) : Traced ε α :=
  ⟨[], result⟩

@[simp] theorem outcome_ofExcept
    (result : Except ε α) :
    (ofExcept result).outcome = result := rfl

/-- Reports events. -/
def report (events : List Event) : Traced ε Unit :=
  ⟨events, .ok ()⟩

@[simp] theorem outcome_report
    (events : List Event) :
    (report events : Traced ε Unit).outcome = .ok () := rfl

/-- The computation with another form of its errors. -/
def mapError
    {δ : Type}
    (f : ε → δ)
    (x : Traced ε α) : Traced δ α :=
  ⟨x.events, x.outcome.mapError f⟩

@[simp] theorem outcome_mapError
    {δ : Type}
    (f : ε → δ)
    (x : Traced ε α) :
    (x.mapError f).outcome = x.outcome.mapError f := rfl

@[simp] theorem events_mapError
    {δ : Type}
    (f : ε → δ)
    (x : Traced ε α) :
    (x.mapError f).events = x.events := rfl

end Traced
end PreferenceSchema
