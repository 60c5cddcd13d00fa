import Mathlib.Data.List.Basic

/-! # Error chains

`chromeos::Error`, and `brillo::Error` and `weave::Error` after it, is a chain: each link says
where it was made, its domain, code and message, and owns the error it wraps
(`GetInnerError`). An `ErrorPtr` may be null. `AddTo` is the only way the handlers and their
collaborators fill one in, and it always wraps what was there.
-/

namespace Buffet

/-- `tracked_objects::LocationSnapshot`, what an error keeps of the `FROM_HERE` it was made at.
The program counter of a `tracked_objects::Location` is not kept. -/
structure Location where
  functionName : String
  fileName : String
  lineNumber : Int
  deriving DecidableEq, Repr

/-- One link of a chain without the error it wraps. -/
structure ErrorEntry where
  location : Location
  domain : String
  code : String
  message : String
  deriving DecidableEq, Repr

/-- An error: its own link, and the error it wraps (`GetInnerError`), if any. -/
structure Error where
  location : Location
  domain : String
  code : String
  message : String
  innerError : Option Error
  deriving Repr

/-- `ErrorPtr`, a `std::unique_ptr<Error>`. `none` is null. -/
abbrev ErrorPtr := Option Error

namespace Error

def entry (e : Error) : ErrorEntry := ⟨e.location, e.domain, e.code, e.message⟩

/-- The chain from the outermost link to the innermost. -/
def links : Error → List ErrorEntry
  | ⟨l, d, c, m, none⟩ => [⟨l, d, c, m⟩]
  | ⟨l, d, c, m, some inner⟩ => ⟨l, d, c, m⟩ :: inner.links

/-- `Error::AddTo`: the new link wraps whatever `error` held, null or not. -/
def addTo (error : ErrorPtr) (location : Location) (domain code message : String) : ErrorPtr :=
  some ⟨location, domain, code, message, error⟩

/-- `Error::HasError`: `FindError` walks the chain for a link of this domain and code. -/
def hasError (e : Error) (domain code : String) : Bool :=
  e.links.any fun x => x.domain == domain && x.code == code

end Error

namespace ErrorPtr

def links : ErrorPtr → List ErrorEntry
  | none => []
  | some e => e.links

/-- `AddTo` with the fields of one entry. -/
def push (error : ErrorPtr) (x : ErrorEntry) : ErrorPtr :=
  Error.addTo error x.location x.domain x.code x.message

/-- What a callee that was handed `error` leaves there: it called `AddTo` once per entry of
`added`, in order, so the last one ends up outermost. -/
def addEntries (error : ErrorPtr) (added : List ErrorEntry) : ErrorPtr :=
  added.foldl push error

@[simp] theorem links_none : links none = [] := rfl
@[simp] theorem links_some (e : Error) : links (some e) = e.links := rfl

end ErrorPtr

namespace Error

@[simp] theorem links_eq (e : Error) : e.links = e.entry :: ErrorPtr.links e.innerError := by
  obtain ⟨l, d, c, m, _ | inner⟩ := e <;> rfl

theorem links_ne_nil (e : Error) : e.links ≠ [] := by simp

@[simp] theorem addTo_links (error : ErrorPtr) (l : Location) (d c m : String) :
    ErrorPtr.links (addTo error l d c m) = ⟨l, d, c, m⟩ :: ErrorPtr.links error := by
  simp [addTo, entry]

theorem eq_of_links_eq : ∀ {e f : Error}, e.links = f.links → e = f
  | ⟨l, d, c, m, none⟩, ⟨l', d', c', m', none⟩, h => by simp_all [links]
  | ⟨l, d, c, m, some e⟩, ⟨l', d', c', m', some f⟩, h => by
    simp only [links, List.cons.injEq, ErrorEntry.mk.injEq] at h
    obtain ⟨⟨rfl, rfl, rfl, rfl⟩, h⟩ := h
    rw [eq_of_links_eq h]
  | ⟨_, _, _, _, none⟩, ⟨_, _, _, _, some f⟩, h => by
    simp only [links, List.cons.injEq] at h
    exact absurd h.2.symm (links_ne_nil f)
  | ⟨_, _, _, _, some e⟩, ⟨_, _, _, _, none⟩, h => by
    simp only [links, List.cons.injEq] at h
    exact absurd h.2 (links_ne_nil e)

instance : DecidableEq Error := fun e f =>
  decidable_of_iff (e.links = f.links) ⟨eq_of_links_eq, congrArg links⟩

end Error

namespace ErrorPtr

theorem eq_of_links_eq {e f : ErrorPtr} (h : e.links = f.links) : e = f := by
  match e, f with
  | none, none => rfl
  | some e, some f => rw [Error.eq_of_links_eq h]
  | none, some f | some f, none => simp at h

@[simp] theorem push_links (error : ErrorPtr) (x : ErrorEntry) :
    (push error x).links = x :: error.links := by
  simp [push]

@[simp] theorem addEntries_links (error : ErrorPtr) (added : List ErrorEntry) :
    (addEntries error added).links = added.reverse ++ error.links := by
  induction added generalizing error with
  | nil => rfl
  | cons x xs ih => simp only [addEntries, List.foldl_cons] at ih ⊢; simp [ih]

theorem addEntries_eq_none (error : ErrorPtr) (added : List ErrorEntry) :
    addEntries error added = none ↔ error = none ∧ added = [] := by
  constructor
  · intro h
    have := congrArg links h
    simp only [addEntries_links, links_none, List.append_eq_nil, List.reverse_eq_nil_iff] at this
    exact ⟨eq_of_links_eq (by simp [this.2]), this.1⟩
  · rintro ⟨rfl, rfl⟩; rfl

theorem addEntries_isSome {added : List ErrorEntry} (h : added ≠ []) (error : ErrorPtr) :
    (addEntries error added).isSome := by
  rw [Option.isSome_iff_ne_none, Ne, addEntries_eq_none]
  exact fun h' => h h'.2

end ErrorPtr

end Buffet
