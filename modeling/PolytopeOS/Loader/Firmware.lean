import PolytopeOS.Corelib.Action
import PolytopeOS.Corelib.Memory
import PolytopeOS.Loader.Types

/-!
# Firmware page allocation

Physical memory is a byte for every address and a set of typed pages. A
`Firmware` is any page allocator that grants only conventional pages, retypes
exactly those, and leaves the bytes of all others alone. Before it does, others
may have retyped pages, but none that was granted to the loader.
-/

namespace PolytopeOS.Loader
open Corelib

inductive AllocateType where
  | anyPages
  | address (address : UInt64)
  deriving DecidableEq, Repr

structure Machine where
  memory : Memory
  /-- The type of each physical page, by page number; `none` where there is none. -/
  pages : ℕ → Option MemoryType
  /-- Which pages were granted to the loader. -/
  owned : ℕ → Bool

/-- Give `count` pages from `first` on the type `ty`. -/
def retype (pages : ℕ → Option MemoryType) (first count : ℕ) (ty : MemoryType) :
    ℕ → Option MemoryType :=
  fun page => if first ≤ page ∧ page < first + count then some ty else pages page

/-- Add `count` pages from `first` on to the loader's. -/
def own (owned : ℕ → Bool) (first count : ℕ) : ℕ → Bool :=
  fun page => decide (first ≤ page ∧ page < first + count) || owned page

/-- The types under which the loader allocates. -/
def loaderTypes : List MemoryType := [kernelMemoryType, contractMemoryType, stackGuardMemoryType]

/-- The loader was granted the page, and it has the given type. -/
def Machine.Holds (m : Machine) (page : ℕ) (ty : MemoryType) : Prop :=
  m.owned page = true ∧ m.pages page = some ty

/-- The pages that the loader was granted keep their type. -/
def Retains (m m' : Machine) : Prop :=
  ∀ page, ∀ ty ∈ loaderTypes, m.Holds page ty → m'.Holds page ty

theorem Retains.refl (m : Machine) : Retains m m := fun _ _ _ h => h

theorem Retains.trans {m₁ m₂ m₃ : Machine} (h : Retains m₁ m₂) (h' : Retains m₂ m₃) :
    Retains m₁ m₃ := fun page ty hty hpage => h' page ty hty (h page ty hty hpage)

/-- What others do between two calls of the loader: they leave the pages that it
was granted. -/
structure Meanwhile (m m' : Machine) : Prop where
  owned : m'.owned = m.owned
  typed : ∀ page, m.owned page = true → m'.pages page = m.pages page
  memory : m'.memory = m.memory

theorem Meanwhile.refl (m : Machine) : Meanwhile m m := ⟨rfl, fun _ _ => rfl, rfl⟩

theorem Meanwhile.retains {m m' : Machine} (h : Meanwhile m m') : Retains m m' :=
  fun page _ _ hpage => ⟨(congrFun h.owned page).trans hpage.1,
    (h.typed page hpage.1).trans hpage.2⟩

/-- What a successful allocation of `count` pages at `base` does. -/
structure Granted (ty : MemoryType) (count : ℕ) (m : Machine) (base : ℕ) (m' : Machine) :
    Prop where
  nonnull : base ≠ 0
  aligned : base % pageBytes = 0
  fits : base + count * pageBytes ≤ 2 ^ 64
  conventional : ∀ page, base / pageBytes ≤ page → page < base / pageBytes + count →
    m.pages page = some .conventional
  retyped : m'.pages = retype m.pages (base / pageBytes) count ty
  owned : m'.owned = own m.owned (base / pageBytes) count
  frame : ∀ x, x < base ∨ base + count * pageBytes ≤ x → m'.memory x = m.memory x

/-- A page allocator, with its request refused (`none`) or granted. -/
structure Firmware where
  allocatePages : AllocateType → MemoryType → ℕ → Machine → Option (ℕ × Machine)
  granted : ∀ {request ty count m base m'},
    allocatePages request ty count m = some (base, m') →
      ∃ found, Meanwhile m found ∧ Granted ty count found base m'

/-- `boot::allocate_pages(..).map_err(|_| error)`. -/
def Firmware.allocate (firmware : Firmware) (request : AllocateType) (ty : MemoryType)
    (count : ℕ) (error : LoaderError) : Action Machine LoaderError ℕ := fun m =>
  match firmware.allocatePages request ty count m with
  | some (base, m') => (.ok base, m')
  | none => (.err error, m)

theorem Firmware.allocate_eq_ok {firmware : Firmware} {request : AllocateType} {ty : MemoryType}
    {count base : ℕ} {error : LoaderError} {m m' : Machine}
    (h : firmware.allocate request ty count error m = (.ok base, m')) :
    ∃ found, Meanwhile m found ∧ Granted ty count found base m' := by
  unfold Firmware.allocate at h
  split at h
  · next hgrant =>
    rw [Prod.mk.injEq, Exec.ok.injEq] at h
    obtain ⟨rfl, rfl⟩ := h
    exact firmware.granted hgrant
  · simp at h

/-- A first-fit allocator over the first `limit` pages that hands out a page
without touching its bytes. -/
def firstFit (limit : ℕ) : AllocateType → MemoryType → ℕ → Machine → Option (ℕ × Machine) :=
  fun request ty count m =>
    let free := fun first : ℕ => first ≠ 0 ∧ (first + count) * pageBytes ≤ 2 ^ 64 ∧
      ∀ i < count, m.pages (first + i) = some .conventional
    let grant := fun first : ℕ =>
      (first * pageBytes,
        { m with
          pages := retype m.pages first count ty
          owned := own m.owned first count : Machine })
    match request with
    | .address address =>
      if address.toNat % pageBytes = 0 ∧ free (address.toNat / pageBytes) then
        some (grant (address.toNat / pageBytes))
      else none
    | .anyPages => ((List.range limit).find? fun first => free first).map grant

/-- The laws are consistent: a first-fit allocator satisfies them. -/
def firstFitFirmware (limit : ℕ) : Firmware where
  allocatePages := firstFit limit
  granted := by
    intro request ty count m base m' h
    refine ⟨m, .refl m, ?_⟩
    have hpages : ∀ first : ℕ, (first ≠ 0 ∧ (first + count) * pageBytes ≤ 2 ^ 64 ∧
        ∀ i < count, m.pages (first + i) = some .conventional) →
        Granted ty count m (first * pageBytes)
          { m with
            pages := retype m.pages first count ty
            owned := own m.owned first count } := by
      rintro first ⟨hne, hfits, hfree⟩
      have hdiv : first * pageBytes / pageBytes = first := Nat.mul_div_cancel _ (by decide)
      refine ⟨Nat.mul_ne_zero hne (by decide), Nat.mul_mod_left _ _, ?_, ?_, ?_, ?_, fun _ _ => rfl⟩
      · rw [← Nat.add_mul]
        exact hfits
      · rw [hdiv]
        intro page hge hlt
        have hpage := hfree (page - first) (by omega)
        rwa [Nat.add_sub_cancel' hge] at hpage
      · rw [hdiv]
      · rw [hdiv]
    cases request with
    | address address =>
      simp only [firstFit] at h
      split at h
      · next hfree =>
        rw [Option.some.injEq, Prod.mk.injEq] at h
        obtain ⟨rfl, rfl⟩ := h
        exact hpages _ hfree.2
      · simp at h
    | anyPages =>
      simp only [firstFit, Option.map_eq_some_iff] at h
      obtain ⟨first, hfind, hgrant⟩ := h
      rw [Prod.mk.injEq] at hgrant
      obtain ⟨rfl, rfl⟩ := hgrant
      exact hpages first (by simpa using List.find?_some hfind)

end PolytopeOS.Loader
