import Mathlib.Data.Finmap
import Mathlib.Data.Nat.Digits

/-!
# Go calls, panics, and the `err2` handlers

The agency is written in Go with `github.com/lainio/err2`, and what its calls do on a failure
turns on *how a call ends*: whether a failure comes back as an `error` result, as a panic that
some deferred `err2` handler turns back into an `error`, or as a panic that nothing stops.  This
file fixes that vocabulary once, so that every function of the model can be read line by line
against its Go source.

* `Go α` is the outcome of a call: it returns an `α`, or it panics with a `Panic`.  A function
  with an `(T, error)` result returns a `Go (Except String T)`.
* `Panic` sorts panic values the way `err2`'s handlers sort them: an `error` value (what
  `err2.Check`, `try.To1`, the `e2` helpers and `assert.P` throw), a `runtime.Error` (an index out
  of range, a nil dereference, a failed type assertion), or any other value (`panic(msg)` on a
  string, `assert.D`).
* `Go.handle` is what `defer err2.Handle`, `err2.Return` and `err2.Annotate` do: they recover a
  panic that carries an `error` and hand every other panic on.  `Go.catchTrace` is
  `defer err2.CatchTrace`, which stops every panic.
* `GoSt σ α` is a call on a mutable receiver: the state it leaves behind, and its outcome.  A
  panic does not roll the receiver back, which is what makes a half-done update observable.

Go maps are `Finmap`s: a write is `Finmap.insert`, and two maps are equal when every lookup
agrees, which is Go's notion of map contents.  `strconv.Itoa` is `toString` on `ℕ`, and
`itoa_injective` is the one fact about it the proofs need.
-/

set_option autoImplicit false

namespace FindyAgent

/-! ## Outcomes of a call -/

/-- The Go runtime errors that the modelled code can raise. -/
inductive Fault where
  /-- An array index outside the array: `protocolName[id.TypeID]`. -/
  | indexOutOfRange
  /-- A method or field read through a nil pointer. -/
  | nilDereference
  /-- A single-valued type assertion `x.(*T)` whose dynamic type is not `*T`. -/
  | typeAssertion
  deriving DecidableEq, Repr

/-- A panic value, sorted the way `err2`'s handlers sort it. -/
inductive Panic where
  /-- A value of type `error`. -/
  | error (msg : String)
  /-- A `runtime.Error`. -/
  | runtime (f : Fault)
  /-- Any other value. -/
  | value (msg : String)
  deriving DecidableEq, Repr

/-- How a Go call ends: it returns, or it panics. -/
abbrev Go (α : Type) := Except Panic α

/-- Outcomes can be compared, so that a call on a fixed input can be checked by `decide`. -/
instance decEqExcept {ε α : Type} [DecidableEq ε] [DecidableEq α] : DecidableEq (Except ε α)
  | .ok a, .ok b => decidable_of_iff (a = b) (by simp)
  | .error e, .error e' => decidable_of_iff (e = e') (by simp)
  | .ok _, .error _ => isFalse (by simp)
  | .error _, .ok _ => isFalse (by simp)

/-! `Except.bind` and `Except.map` on a known outcome, for the `simp` calls that run a call. -/

section except

variable {ε α β : Type}

@[simp] theorem Except.bind_ok (a : α) (f : α → Except ε β) : (Except.ok a).bind f = f a := rfl
@[simp] theorem Except.bind_error (e : ε) (f : α → Except ε β) :
    (Except.error e).bind f = .error e := rfl
@[simp] theorem Except.map_ok (f : α → β) (a : α) : (Except.ok a : Except ε α).map f = .ok (f a) :=
  rfl
@[simp] theorem Except.map_error (f : α → β) (e : ε) :
    (Except.error e : Except ε α).map f = .error e := rfl

end except

namespace Go

variable {α β : Type}

/-- `err2.Check(err)`: a non-nil error becomes a panic that carries it. -/
def check : Option String → Go Unit
  | none => .ok ()
  | some e => .error (.error e)

/-- `try.To1(f())` and the `e2.X.Try` helpers: the value, or a panic carrying the error. -/
def tryTo (r : Except String α) : Go α :=
  match r with
  | .ok a => .ok a
  | .error e => .error (.error e)

/-- `defer err2.Handle(&err, f)` (and `err2.Return`, `err2.Annotate`): a panic carrying an
`error` is recovered into the error result, which then goes through `onError`; so does an
error the body returned.  Every other panic goes on. -/
def handle (onError : String → Go (Except String α)) : Go (Except String α) → Go (Except String α)
  | .ok (.ok a) => .ok (.ok a)
  | .ok (.error e) => onError e
  | .error (.error e) => onError e
  | .error p => .error p

/-- `defer err2.Return(&err)`: `handle` with nothing to do but keep the error. -/
def returnErr (r : Go (Except String α)) : Go (Except String α) :=
  handle (fun e => .ok (.error e)) r

/-- `defer err2.CatchTrace(...)` on a function whose result is not named: every panic is
stopped, and the function returns the zero value `zero` of its result. -/
def catchTrace (zero : α) : Go α → Go α
  | .ok a => .ok a
  | .error _ => .ok zero

/-- `assert.P.True(cond, msg)`: a failed assertion panics with an `error` carrying `msg`. -/
def assertP (cond : Bool) (msg : String) : Go Unit :=
  if cond then .ok () else .error (.error msg)

/-- `defer err2.Annotate(prefix, &err)`: `handle`, with the error prefixed by `prefix` and
`": "`. -/
def annotate (pfx : String) (r : Go (Except String α)) : Go (Except String α) :=
  handle (fun e => .ok (.error (pfx ++ ": " ++ e))) r

@[simp] theorem check_none : check none = .ok () := rfl
@[simp] theorem check_some (e : String) : check (some e) = .error (.error e) := rfl
@[simp] theorem tryTo_ok (a : α) : tryTo (.ok a : Except String α) = .ok a := rfl
@[simp] theorem tryTo_error (e : String) : tryTo (.error e : Except String α) = .error (.error e) :=
  rfl

/-- `err2.CatchTrace` never lets a panic through. -/
@[simp] theorem catchTrace_ne_error (zero : α) (r : Go α) (p : Panic) :
    catchTrace zero r ≠ .error p := by
  cases r <;> simp [catchTrace]

end Go

/-! ## Calls on a mutable receiver -/

/-- A call on a receiver of type `σ`: the state it leaves behind, and how it ended.  A panic
leaves every write made before it in place. -/
abbrev GoSt (σ α : Type) := σ × Go α

namespace GoSt

variable {σ α β : Type}

/-- Go on with `k` after a call that returned; after a panic the rest is skipped, and the state
is the one the panic left. -/
def andThen (r : GoSt σ α) (k : σ → α → GoSt σ β) : GoSt σ β :=
  match r with
  | (s, .ok a) => k s a
  | (s, .error p) => (s, .error p)

@[simp] theorem andThen_ok (s : σ) (a : α) (k : σ → α → GoSt σ β) :
    andThen (s, .ok a) k = k s a := rfl

@[simp] theorem andThen_error (s : σ) (p : Panic) (k : σ → α → GoSt σ β) :
    andThen (s, .error p) k = (s, .error p) := rfl

/-- `defer err2.Catch(...)` on a function with no results: a panic carrying an `error` ends the
call quietly, with the writes made so far; every other panic goes on. -/
def catchErr : GoSt σ Unit → GoSt σ Unit
  | (s, .error (.error _)) => (s, .ok ())
  | r => r

end GoSt

/-! ## Go maps and `strconv.Itoa` -/

/-- A Go `map[κ]ν`: lookups are what a Go map read returns, and a write is `Finmap.insert`. -/
abbrev GoMap (κ ν : Type) := Finmap fun _ : κ => ν

/-- Writing a key the value it already has leaves the map as it was. -/
theorem GoMap.insert_of_lookup {κ ν : Type} [DecidableEq κ] {m : GoMap κ ν} {k : κ} {v : ν}
    (h : m.lookup k = some v) : m.insert k v = m := by
  refine Finmap.ext_lookup fun x => ?_
  by_cases hx : x = k
  · subst hx; rw [Finmap.lookup_insert, h]
  · rw [Finmap.lookup_insert_of_ne _ hx]

/-- A read after a write. -/
theorem GoMap.lookup_insert_eq_ite {κ ν : Type} [DecidableEq κ] (m : GoMap κ ν) (k x : κ)
    (v : ν) : (m.insert k v).lookup x = if x = k then some v else m.lookup x := by
  split
  · subst x; exact Finmap.lookup_insert m
  · exact Finmap.lookup_insert_of_ne m ‹_›

/-- The keys of a map after a write: the written key joins them. -/
theorem GoMap.keys_insert {κ ν : Type} [DecidableEq κ] (m : GoMap κ ν) (k : κ) (v : ν) :
    (m.insert k v).keys = insert k m.keys := by
  ext x
  simp only [Finmap.mem_keys, Finmap.mem_insert, Finset.mem_insert]

section foldInsert

variable {κ ν : Type} [DecidableEq κ]

/-! A loop that writes the entries of a list into a map in turn, as `m[k] = v` in a `for`. -/

/-- Keys the loop does not write read as before. -/
theorem GoMap.lookup_foldl_insert_of_not_mem {l : List (κ × ν)} {k : κ}
    (h : k ∉ l.map Prod.fst) (m : GoMap κ ν) :
    (l.foldl (fun m e => m.insert e.1 e.2) m).lookup k = m.lookup k := by
  induction l generalizing m with
  | nil => rfl
  | cons e l ih =>
    rw [List.map_cons, List.mem_cons, not_or] at h
    rw [List.foldl_cons, ih h.2, Finmap.lookup_insert_of_ne _ h.1]

/-- With no key written twice, every entry is read back. -/
theorem GoMap.lookup_foldl_insert_of_mem {l : List (κ × ν)} (hl : (l.map Prod.fst).Nodup)
    {e : κ × ν} (he : e ∈ l) (m : GoMap κ ν) :
    (l.foldl (fun m e => m.insert e.1 e.2) m).lookup e.1 = some e.2 := by
  induction l generalizing m with
  | nil => cases he
  | cons d l ih =>
    rw [List.map_cons, List.nodup_cons] at hl
    rw [List.foldl_cons]
    rcases List.mem_cons.mp he with rfl | he
    · rw [lookup_foldl_insert_of_not_mem hl.1, Finmap.lookup_insert]
    · exact ih hl.2 he _

/-- The loop adds exactly the keys it writes. -/
theorem GoMap.keys_foldl_insert (l : List (κ × ν)) (m : GoMap κ ν) :
    (l.foldl (fun m e => m.insert e.1 e.2) m).keys = (l.map Prod.fst).toFinset ∪ m.keys := by
  induction l generalizing m with
  | nil => simp
  | cons e l ih =>
    rw [List.foldl_cons, ih, keys_insert, List.map_cons, List.toFinset_cons]
    ext x
    simp only [Finset.mem_union, Finset.mem_insert]
    tauto

end foldInsert

/-- The value of a decimal digit character. -/
def digitVal (c : Char) : ℕ := c.toNat - '0'.toNat

/-- The number a list of decimal digit characters spells, most significant first. -/
def ofDigitChars (l : List Char) : ℕ := l.foldl (fun acc c => 10 * acc + digitVal c) 0

theorem digitVal_digitChar : ∀ d < 10, digitVal (Nat.digitChar d) = d := by decide

/-- `toDigitsCore` puts its digits in front of the accumulator it is given. -/
theorem toDigitsCore_acc (fuel n : ℕ) (ds : List Char) :
    Nat.toDigitsCore 10 fuel n ds = Nat.toDigitsCore 10 fuel n [] ++ ds := by
  induction fuel generalizing n ds with
  | zero => rfl
  | succ fuel ih =>
    simp only [Nat.toDigitsCore]
    split
    · rfl
    · rw [ih _ (_ :: ds), ih _ [_], List.append_assoc, List.singleton_append]

/-- Any fuel beyond the number gives the same digits. -/
theorem toDigitsCore_fuel {f₁ f₂ n : ℕ} (ds : List Char) (h₁ : n < f₁) (h₂ : n < f₂) :
    Nat.toDigitsCore 10 f₁ n ds = Nat.toDigitsCore 10 f₂ n ds := by
  induction f₁ generalizing f₂ n ds with
  | zero => omega
  | succ k ih =>
    obtain ⟨j, rfl⟩ : ∃ j, f₂ = j + 1 := ⟨f₂ - 1, by omega⟩
    simp only [Nat.toDigitsCore]
    split
    · rfl
    · exact ih _ (by omega) (by omega)

/-- The decimal digits of `n` are those of `n / 10` followed by the last one. -/
theorem toDigits_eq (n : ℕ) : Nat.toDigits 10 n =
    if n / 10 = 0 then [Nat.digitChar (n % 10)]
    else Nat.toDigits 10 (n / 10) ++ [Nat.digitChar (n % 10)] := by
  rw [Nat.toDigits, Nat.toDigitsCore]
  split
  · rfl
  · rw [toDigitsCore_acc, Nat.toDigits, toDigitsCore_fuel [] (by omega) (Nat.lt_succ_self _)]

/-- Reading the decimal digits of `n` back gives `n`. -/
theorem ofDigitChars_toDigits (n : ℕ) : ofDigitChars (Nat.toDigits 10 n) = n := by
  induction n using Nat.strong_induction_on with
  | _ n ih =>
    have hd := digitVal_digitChar (n % 10) (Nat.mod_lt n (by decide))
    rw [toDigits_eq]
    split
    · simp only [ofDigitChars, List.foldl, hd]; omega
    · have ih' := ih (n / 10) (by omega)
      simp only [ofDigitChars] at ih' ⊢
      rw [List.foldl_append, ih']
      simp only [List.foldl, hd]; omega

/-- `strconv.Itoa` on the non-negative `int`s the code passes it. -/
def itoa (i : ℕ) : String := toString i

/-- `strconv.Itoa` is injective: distinct positions get distinct decimal strings. -/
theorem itoa_injective : Function.Injective itoa := by
  intro m n h
  have h' : Nat.toDigits 10 m = Nat.toDigits 10 n := congrArg String.data h
  rw [← ofDigitChars_toDigits m, h', ofDigitChars_toDigits]

/-- A decimal string is never empty, so neither is anything ending in one. -/
theorem append_itoa_ne_empty (p : String) (n : ℕ) : p ++ itoa n ≠ "" := by
  intro h
  have h' : p.data ++ Nat.toDigits 10 n = [] := congrArg String.data h
  rw [toDigits_eq] at h'
  split at h' <;> simp at h'

/-- A common prefix cancels from two concatenated strings. -/
theorem append_cancel_left {p a b : String} (h : p ++ a = p ++ b) : a = b := by
  obtain ⟨a⟩ := a
  obtain ⟨b⟩ := b
  have h' : p.data ++ a = p.data ++ b := congrArg String.data h
  rw [List.append_cancel_left h']

end FindyAgent
