import Mathlib.Data.List.Infix

/-!
# Scripts with effects

The scripts talk to the world through calls whose outcomes the model does not
compute: the urls they open, the commands they run, the lines they print and
log.  A `Script ε α` is a computation that causes effects of type `ε`, in
order, and ends with a value of type `α` or with the text of the Python
exception that ends it; nothing catches an exception unless the model says so.

`Script.Runs x evs r` relates a script to an `Except` computation `r` that says
what it computes: `x` has the value `r` and causes the effects `evs`, or a
prefix of them when `r` is an exception.  A script built from steps that each
run as a step of `r` runs as `r` (`Runs.bind`), and a loop of such steps runs
as the loop (`Runs.foldlM`).
-/

namespace TerrierScript

/-- A computation of a script: the effects it causes, in order, and its value
or the exception that ends it. -/
structure Script (ε α : Type) where
  events : List ε
  result : Except String α

namespace Script

variable {ε α β : Type}

def pure (a : α) : Script ε α := ⟨[], .ok a⟩

/-- Run `x`, then `f` on its value; an exception of `x` ends the computation. -/
def bind (x : Script ε α) (f : α → Script ε β) : Script ε β :=
  match x.result with
  | .ok a => ⟨x.events ++ (f a).events, (f a).result⟩
  | .error e => ⟨x.events, .error e⟩

instance : Monad (Script ε) where
  pure := pure
  bind := bind

@[simp] theorem mk_ok_bind (events : List ε) (a : α) (f : α → Script ε β) :
    (⟨events, .ok a⟩ : Script ε α) >>= f = ⟨events ++ (f a).events, (f a).result⟩ := rfl

@[simp] theorem mk_error_bind (events : List ε) (e : String) (f : α → Script ε β) :
    (⟨events, .error e⟩ : Script ε α) >>= f = ⟨events, .error e⟩ := rfl

@[simp] theorem pure_eq (a : α) : (Pure.pure a : Script ε α) = ⟨[], .ok a⟩ := rfl

instance : LawfulMonad (Script ε) := LawfulMonad.mk' (Script ε)
  (fun x => by
    obtain ⟨events, _ | a⟩ := x <;> simp [Functor.map, bind, pure])
  (fun _ _ => by simp)
  (fun x f g => by
    obtain ⟨events, _ | a⟩ := x
    · rfl
    · show (⟨events ++ (f a).events, (f a).result⟩ : Script ε _) >>= g = _
      cases hfa : f a with
      | mk events' r => cases r <;> simp [hfa])

theorem result_bind_of_ok {x : Script ε α} {a : α} (h : x.result = .ok a) (f : α → Script ε β) :
    (x >>= f).result = (f a).result := by
  obtain ⟨events, r⟩ := x
  cases h
  rfl

/-- A computation of the model that causes no effect. -/
def lift (x : Except String α) : Script ε α := ⟨[], x⟩

@[simp] theorem lift_bind (x : Except String α) (f : α → Except String β) :
    (lift (x >>= f) : Script ε β) = lift x >>= fun a => lift (f a) := by
  cases x <;> rfl

/-- One effect. -/
def emit (e : ε) : Script ε Unit := ⟨[e], .ok ()⟩

/-- `try: x  except C: handler`, where `catches e` says whether the exception
`e` is of a class the clause names. -/
def tryCatch (x : Script ε α) (catches : String → Bool) (handler : Script ε α) : Script ε α :=
  match x.result with
  | .error e => if catches e then ⟨x.events ++ handler.events, handler.result⟩ else x
  | .ok _ => x

/-! ## Running as an `Except` computation -/

/-- `x` has the value `r` and causes the effects `evs`, or a prefix of them when
`r` is an exception. -/
structure Runs (x : Script ε α) (evs : List ε) (r : Except String α) : Prop where
  result : x.result = r
  events : x.events <+: evs
  events_of_ok : ∀ a, r = .ok a → x.events = evs

theorem runs_mk (events : List ε) (r : Except String α) :
    (⟨events, r⟩ : Script ε α).Runs events r :=
  ⟨rfl, List.prefix_refl _, fun _ _ => rfl⟩

/-- One step of the script that runs as one step of the `Except` computation,
followed by a rest that runs as its rest. -/
theorem Runs.bind {x : Script ε α} {f : α → Script ε β} {evs₁ evs₂ : List ε}
    {r : Except String α} {g : α → Except String β} (hx : x.Runs evs₁ r)
    (hf : ∀ a, r = .ok a → (f a).Runs evs₂ (g a)) : (x >>= f).Runs (evs₁ ++ evs₂) (r >>= g) := by
  obtain ⟨events, r'⟩ := x
  obtain ⟨hr, hprefix, hok⟩ := hx
  dsimp only at hr hprefix hok
  subst hr
  cases r' with
  | error e => exact ⟨rfl, hprefix.trans (List.prefix_append _ _), fun _ h => nomatch h⟩
  | ok a =>
      obtain rfl : events = evs₁ := hok a rfl
      obtain ⟨hresult, hprefix', hok'⟩ := hf a rfl
      exact ⟨hresult, List.prefix_append_right_inj _ |>.mpr hprefix',
        fun b h => congrArg (events ++ ·) (hok' b h)⟩

/-- A loop of the script whose every iteration runs as an iteration of an
`Except` loop runs as that loop, causing the effects of every iteration. -/
theorem Runs.foldlM {γ : Type} {f : β → γ → Script ε β} {g : β → γ → Except String β}
    {evs : γ → List ε} :
    ∀ {xs : List γ}, (∀ b, ∀ x ∈ xs, (f b x).Runs (evs x) (g b x)) →
      ∀ b, (xs.foldlM f b).Runs (xs.flatMap evs) (xs.foldlM g b)
  | [], _, b => runs_mk [] (.ok b)
  | x :: xs, h, b => by
      rw [List.foldlM_cons, List.foldlM_cons, List.flatMap_cons]
      exact (h b x (List.mem_cons_self x xs)).bind fun b' _ =>
        Runs.foldlM (fun b y hy => h b y (List.mem_cons_of_mem x hy)) b'

/-- Effects caused before a computation that runs as `r`. -/
theorem Runs.append_left {x : Script ε α} {evs : List ε} {r : Except String α}
    (hx : x.Runs evs r) (pre : List ε) :
    (⟨pre ++ x.events, x.result⟩ : Script ε α).Runs (pre ++ evs) r :=
  ⟨hx.result, (List.prefix_append_right_inj pre).mpr hx.events,
    fun a h => congrArg (pre ++ ·) (hx.events_of_ok a h)⟩

end Script

@[simp] theorem except_ok_bind {ε α β : Type} (a : α) (f : α → Except ε β) :
    (Except.ok a >>= f) = f a := rfl

@[simp] theorem except_error_bind {ε α β : Type} (e : ε) (f : α → Except ε β) :
    (Except.error e >>= f) = .error e := rfl

/-- `d[key]`: a missing key raises `KeyError`. -/
def getKey {α : Type} (key : String) : Option α → Except String α
  | some a => .ok a
  | none => .error ("KeyError: '" ++ key ++ "'")

end TerrierScript
