import SyntaxOutline.Json.Failure

/-!
# Outcomes of readers

* `bind_eq_ok_iff` : a computation of two steps succeeds if both steps do.
* `takeWhile_run`, `dropWhile_run` : a run of characters is taken up to the first one outside it.
* `Within` : a reader that succeeds if the brackets of what it reads fit in the room it has, and
  otherwise fails because they do not. The notion composes along `bind` (`Within.bind`), so that the
  failure is followed through a whole text together with the success.
-/

namespace SyntaxOutline

section

variable {ε α β : Type}

theorem bind_eq_ok_iff {x : Except ε α} {f : α → Except ε β} {b : β} :
    (x >>= f) = .ok b ↔ ∃ a, x = .ok a ∧ f a = .ok b := by
  cases x with
  | error e =>
    constructor
    · intro h
      cases h
    · rintro ⟨a, ha, -⟩
      cases ha
  | ok a =>
    constructor
    · intro h
      exact ⟨a, rfl, h⟩
    · rintro ⟨a', ha, h⟩
      cases ha
      exact h

theorem bind_ne_ok {x : Except ε α} {f : α → Except ε β} {b : β} (h : ∀ a, f a ≠ .ok b) :
    (x >>= f) ≠ .ok b := by
  intro he
  obtain ⟨a, -, ha⟩ := bind_eq_ok_iff.mp he
  exact h a ha

theorem ok_bind (a : α) (f : α → Except ε β) : ((Except.ok a : Except ε α) >>= f) = f a := rfl

theorem error_bind (e : ε) (f : α → Except ε β) :
    ((Except.error e : Except ε α) >>= f) = .error e := rfl

end

section

variable {p : Char → Bool} {run rest : List Char}

theorem takeWhile_run (hrun : ∀ c ∈ run, p c = true) (hrest : ∀ c ∈ rest.head?, p c = false) :
    (run ++ rest).takeWhile p = run := by
  rw [List.takeWhile_append_of_pos hrun]
  cases rest with
  | nil => simp
  | cons c rest => simp [hrest c rfl]

theorem dropWhile_run (hrun : ∀ c ∈ run, p c = true) (hrest : ∀ c ∈ rest.head?, p c = false) :
    (run ++ rest).dropWhile p = rest := by
  rw [List.dropWhile_append_of_pos hrun]
  cases rest with
  | nil => simp
  | cons c rest => simp [hrest c rfl]

end

namespace Json

variable {α β : Type}

theorem failHere_ne_ok {cause : Cause} {rest : List Char} {a : α} :
    failHere cause rest ≠ .ok a := by
  simp [failHere]

theorem failNext_ne_ok {cause : Cause} {rest : List Char} {a : α} :
    failNext cause rest ≠ .ok a := by
  simp [failNext]

/-! ## Reading with bounded room -/

/-- The result is `a` if there is room enough, and otherwise the failure that there is not. -/
def Within (fits : Prop) (result : Except Failure α) (a : α) : Prop :=
  (fits → result = .ok a) ∧ (¬ fits → ∃ unread, result = .error ⟨.tooDeep, unread⟩)

theorem within_ok {result : Except Failure α} {a : α} (h : result = .ok a) :
    Within True result a :=
  ⟨fun _ => h, fun hn => absurd trivial hn⟩

theorem within_failNext {rest : List Char} {a : α} :
    Within False (failNext .tooDeep rest) a :=
  ⟨False.elim, fun _ => ⟨_, rfl⟩⟩

theorem Within.congr {fits fits' : Prop} {result : Except Failure α} {a : α}
    (h : Within fits result a) (hiff : fits' ↔ fits) : Within fits' result a :=
  ⟨fun hf => h.1 (hiff.mp hf), fun hn => h.2 (fun hf => hn (hiff.mpr hf))⟩

theorem Within.bind {fits fits' : Prop} {x : Except Failure α} {f : α → Except Failure β} {a : α}
    {b : β} (hx : Within fits x a) (hf : Within fits' (f a) b) :
    Within (fits ∧ fits') (x >>= f) b := by
  constructor
  · rintro ⟨h, h'⟩
    rw [hx.1 h, ok_bind, hf.1 h']
  · intro hn
    by_cases h : fits
    · obtain ⟨unread, he⟩ := hf.2 (fun h' => hn ⟨h, h'⟩)
      exact ⟨unread, by rw [hx.1 h, ok_bind, he]⟩
    · obtain ⟨unread, he⟩ := hx.2 h
      exact ⟨unread, by rw [he, error_bind]⟩

/-- A step that always succeeds needs no room. -/
theorem Within.bind_ok {fits : Prop} {x : Except Failure α} {f : α → Except Failure β} {a : α}
    {b : β} (hx : Within fits x a) (hf : f a = .ok b) : Within fits (x >>= f) b :=
  (hx.bind (within_ok hf)).congr (and_iff_left trivial).symm

end Json

end SyntaxOutline
