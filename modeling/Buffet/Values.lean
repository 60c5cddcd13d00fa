import Mathlib.Data.String.Basic

/-! # `std::map`, `chromeos::Any` and `VariantDictionary`

A `std::map` iterates in strictly increasing key order. Here that order is the map's own
invariant, so no operation needs it as a hypothesis.
-/

namespace Buffet

/-- `std::map<K, V>`: its entries, in the order it iterates them. -/
structure StdMap (κ ν : Type) [LinearOrder κ] where
  entries : List (κ × ν)
  sorted : entries.Pairwise (fun a b => a.1 < b.1)

namespace StdMap

variable {κ ν : Type} [LinearOrder κ]

/-- `std::map::emplace` on the entries: a key that is already there keeps its value. -/
def emplaceEntry (k : κ) (v : ν) : List (κ × ν) → List (κ × ν)
  | [] => [(k, v)]
  | (k', v') :: rest =>
    if k < k' then (k, v) :: (k', v') :: rest
    else if k' < k then (k', v') :: emplaceEntry k v rest
    else (k', v') :: rest

theorem mem_emplaceEntry {k : κ} {v : ν} {x : κ × ν} :
    ∀ {l : List (κ × ν)}, x ∈ emplaceEntry k v l → x = (k, v) ∨ x ∈ l
  | [], h => by simpa [emplaceEntry] using h
  | (k', v') :: rest, h => by
    unfold emplaceEntry at h
    split_ifs at h
    · simpa using h
    · rcases List.mem_cons.1 h with rfl | h
      · simp
      · rcases mem_emplaceEntry h with rfl | h <;> simp [h]
    · exact .inr h

theorem emplaceEntry_sorted (k : κ) (v : ν) :
    ∀ {l : List (κ × ν)}, l.Pairwise (fun a b => a.1 < b.1) →
      (emplaceEntry k v l).Pairwise (fun a b => a.1 < b.1)
  | [], _ => by simp [emplaceEntry]
  | (k', v') :: rest, h => by
    rw [List.pairwise_cons] at h
    unfold emplaceEntry
    split_ifs with hlt hgt
    · refine List.Pairwise.cons (fun x hx => ?_) (List.Pairwise.cons h.1 h.2)
      rcases List.mem_cons.1 hx with rfl | hx
      · exact hlt
      · exact lt_trans hlt (h.1 x hx)
    · refine List.Pairwise.cons (fun x hx => ?_) (emplaceEntry_sorted k v h.2)
      rcases mem_emplaceEntry hx with rfl | hx
      · exact hgt
      · exact h.1 x hx
    · exact List.Pairwise.cons h.1 h.2

theorem emplaceEntry_of_lt (k : κ) (v : ν) :
    ∀ {l : List (κ × ν)}, (∀ x ∈ l, x.1 < k) → emplaceEntry k v l = l ++ [(k, v)]
  | [], _ => rfl
  | (k', v') :: rest, h => by
    have hk : k' < k := h _ (List.mem_cons_self _ _)
    simp [emplaceEntry, not_lt.2 hk.le, hk,
      emplaceEntry_of_lt k v (fun x hx => h x (List.mem_cons_of_mem _ hx))]

def empty : StdMap κ ν := ⟨[], List.Pairwise.nil⟩

/-- `std::map::emplace`. -/
def emplace (m : StdMap κ ν) (k : κ) (v : ν) : StdMap κ ν :=
  ⟨emplaceEntry k v m.entries, emplaceEntry_sorted k v m.sorted⟩

/-- `std::map::emplace_hint(end(), k, v)`. The hint only says where to start looking, so the
map that results is that of `emplace`. -/
def emplaceHint (m : StdMap κ ν) (k : κ) (v : ν) : StdMap κ ν := m.emplace k v

/-- `std::map::find` on the entries. -/
def findEntry (k : κ) : List (κ × ν) → Option ν
  | [] => none
  | (k', v) :: rest => if k' = k then some v else findEntry k rest

/-- `std::map::find`. -/
def find (m : StdMap κ ν) (k : κ) : Option ν := findEntry k m.entries

@[simp] theorem empty_entries : (empty : StdMap κ ν).entries = [] := rfl
@[simp] theorem emplace_entries (m : StdMap κ ν) (k : κ) (v : ν) :
    (m.emplace k v).entries = emplaceEntry k v m.entries := rfl

theorem findEntry_of_lt {k : κ} : ∀ {l : List (κ × ν)}, (∀ x ∈ l, k < x.1) → findEntry k l = none
  | [], _ => rfl
  | (k', v') :: rest, h => by
    have hk : k < k' := h _ (List.mem_cons_self _ _)
    rw [findEntry, if_neg hk.ne', findEntry_of_lt fun x hx => h x (List.mem_cons_of_mem _ hx)]

theorem findEntry_emplaceEntry (k k' : κ) (v : ν) :
    ∀ {l : List (κ × ν)}, l.Pairwise (fun a b => a.1 < b.1) →
      findEntry k' (emplaceEntry k v l) =
        if k' = k ∧ (findEntry k l).isNone then some v else findEntry k' l
  | [], _ => by
    by_cases h : k' = k
    · subst h; simp [emplaceEntry, findEntry]
    · simp [emplaceEntry, findEntry, h, Ne.symm h]
  | (k₀, v₀) :: rest, hs => by
    rw [List.pairwise_cons] at hs
    rcases lt_trichotomy k k₀ with hlt | rfl | hgt
    · -- The new key goes first: it was not there.
      have hnone : findEntry k ((k₀, v₀) :: rest) = none := findEntry_of_lt fun x hx => by
        rcases List.mem_cons.1 hx with rfl | hx
        · exact hlt
        · exact lt_trans hlt (hs.1 x hx)
      rw [emplaceEntry, if_pos hlt, hnone]
      by_cases h : k' = k
      · subst h; simp [findEntry]
      · simp only [findEntry, h, Ne.symm h, if_false, false_and]
    · -- The key is there already: nothing changes.
      simp [emplaceEntry, findEntry]
    · -- It goes further on.
      rw [emplaceEntry, if_neg (not_lt.2 hgt.le), if_pos hgt, findEntry,
        findEntry_emplaceEntry k k' v hs.2]
      by_cases h : k₀ = k'
      · subst h; simp [findEntry, hgt.ne]
      · simp only [findEntry, if_neg h, if_neg hgt.ne]

theorem find_emplace (m : StdMap κ ν) (k k' : κ) (v : ν) :
    (m.emplace k v).find k' = if k' = k ∧ (m.find k).isNone then some v else m.find k' :=
  findEntry_emplaceEntry k k' v m.sorted

@[simp] theorem find_empty (k : κ) : (empty : StdMap κ ν).find k = none := rfl

theorem foldl_emplaceHint_entries {α : Type} (f : α → ν) :
    ∀ (l : List (κ × α)) (m : StdMap κ ν), l.Pairwise (fun a b => a.1 < b.1) →
      (∀ x ∈ m.entries, ∀ y ∈ l, x.1 < y.1) →
      (l.foldl (fun m p => m.emplaceHint p.1 (f p.2)) m).entries =
        m.entries ++ l.map (fun p => (p.1, f p.2))
  | [], m, _, _ => by simp
  | (k, v) :: rest, m, hs, hlt => by
    rw [List.pairwise_cons] at hs
    have happ : (m.emplaceHint k (f v)).entries = m.entries ++ [(k, f v)] :=
      emplaceEntry_of_lt _ _ (fun x hx => hlt x hx _ (List.mem_cons_self _ _))
    rw [List.foldl_cons, foldl_emplaceHint_entries f rest _ hs.2, happ]
    · simp
    · intro x hx y hy
      rw [happ, List.mem_append, List.mem_singleton] at hx
      rcases hx with hx | rfl
      · exact hlt x hx y (List.mem_cons_of_mem _ hy)
      · exact hs.1 y hy

end StdMap

/-- `chromeos::Any`, a value of one of the types a D-Bus variant carries. -/
inductive Any
  | bool (value : Bool)
  | int32 (value : Int)
  | string (value : String)
  | objectPath (value : String)
  | dictionary (value : List (String × Any))
  deriving Repr

namespace Any

/-- `Any::IsTypeCompatible<std::string>()`. -/
def isTypeCompatibleString : Any → Bool
  | string _ => true
  | _ => false

/-- `Any::Get<std::string>()`. The handlers call it only once `isTypeCompatibleString` holds. -/
def getString : Any → String
  | string s => s
  | _ => ""

end Any

/-- `chromeos::VariantDictionary`, a `std::map<std::string, chromeos::Any>`. -/
abbrev VariantDictionary := StdMap String Any

end Buffet
