import SyntaxOutline.Json.Record
import SyntaxOutline.Proofs.Json.Values

/-!
# Reading values of one type

The trees that hold a string, a string or `null`, a flag, a word or a list, and the readers that
accept exactly these.

* `readText_reads`, `readText_readsOnly` : strings.
* `readOptionalText_reads`, `readOptional_readsOnly` : strings and `null`.
* `Tree.isWord_iff` : a tree has a value that is a word if and only if it is a row of digits whose
  number fits in 64 bits.
* `Decodes` : a reader succeeds exactly on the texts of the trees that stand for something, whatever
  room there is. So do the readers of flags and words (`readFlag_decodes`, `readWordValue_decodes`,
  `readOptionalWord_decodes`).
-/

namespace SyntaxOutline.Json

namespace Tree

/-- The value is a string that stands for the text. -/
def IsText (v : Tree) (s : String) : Prop := ∃ l : Literal, v = .string l ∧ l.value? = some s

/-- The value is a number without sign, fraction and exponent whose digits write the word. -/
def IsWord (v : Tree) (w : UInt64) : Prop :=
  ∃ n : Numeral, v = .number n ∧ n.IsPlain ∧ n.whole.toNat = w.toNat

section

variable {α : Type} (P : Tree → α → Prop) (v : Tree)

/-- The value is `null`, which stands for nothing, or a value of the given type. -/
def IsOptional : Option α → Prop
  | none => v = .null
  | some a => P v a

/-- The value is a list with elements of the given type. -/
def IsList (as : List α) : Prop := ∃ vs, v = .array vs ∧ List.Forall₂ P vs as

end

theorem IsText.nesting_eq {v : Tree} {s : String} (h : v.IsText s) : v.nesting = 0 := by
  obtain ⟨l, rfl, -⟩ := h
  rw [nesting]

theorem nesting_of_isOptional_isText {v : Tree} {s : Option String}
    (h : v.IsOptional IsText s) : v.nesting = 0 := by
  cases s with
  | none =>
    cases h
    rw [nesting]
  | some s => exact IsText.nesting_eq h

end Tree

/-! ## Values of the wrong type -/

theorem mismatch_ne_ok {α : Type} {expected : String} {cs : List Char} {a : α} :
    mismatch expected cs ≠ .ok a := by
  intro h
  cases cs with
  | nil => exact failHere_ne_ok h
  | cons c cs =>
    unfold mismatch at h
    dsimp only at h
    split at h
    · exact bind_ne_ok (fun _ => failHere_ne_ok) h
    split at h
    · exact bind_ne_ok (fun _ => failHere_ne_ok) h
    split at h
    · exact bind_ne_ok (fun _ => failHere_ne_ok) h
    split at h
    · exact bind_ne_ok (fun _ => failHere_ne_ok) h
    split at h
    · exact failHere_ne_ok h
    split at h
    · exact failHere_ne_ok h
    split at h
    · split at h
      · exact bind_ne_ok (fun _ => failHere_ne_ok) h
      · exact bind_ne_ok (fun _ => failHere_ne_ok) h
    · exact failNext_ne_ok h

theorem failInObject_ne_ok {α : Type} {reason : Mismatch} {cs : List Char} {a : α} :
    failInObject reason cs ≠ .ok a := by
  unfold failInObject
  split <;> exact failHere_ne_ok

/-! ## Whole texts -/

theorem exists_rest_of_readWhole {α : Type} {reader : Reader α} {text : String} {a : α}
    (h : readWhole reader text = .ok a) :
    ∃ rest, reader text.toList = .ok (a, rest) ∧ Blank rest := by
  obtain ⟨⟨a', rest⟩, hread, h⟩ := bind_eq_ok_iff.mp h
  dsimp only at h
  split at h
  · rename_i hrest
    cases h
    exact ⟨rest, hread, skipBlanks_eq_nil_iff.mp hrest⟩
  · exact absurd h failNext_ne_ok

/-! ## Readers of a type -/

section

variable {α : Type}

/-- The reader succeeds exactly on the texts of the trees that stand for something, and finds what
they stand for. -/
structure Decodes (reader : Reader α) (R : Tree → α → Prop) : Prop where
  reads : ∀ {v a cs rest}, R v a → Spaced v.tokens cs rest → Ends rest → reader cs = .ok (a, rest)
  only : ∀ {cs a rest}, reader cs = .ok (a, rest) → ∃ v, R v a ∧ Spaced v.tokens cs rest

theorem spaced_text (ts : List Token) : Spaced ts (ts.flatMap Token.text) [] := by
  induction ts with
  | nil => rfl
  | cons t ts ih => exact ⟨[], ts.flatMap Token.text, by simp [Blank], by simp, ih⟩

theorem ends_of_blank {cs : List Char} (h : Blank cs) : Ends cs := by
  intro c hc
  exact ends_of_isBlank (isBlank_iff.mpr (h c (List.mem_of_mem_head? hc)))

variable {reader : Reader α} {R : Tree → α → Prop}

/-- A tree stands for one thing only, because its text is read in one way. -/
theorem Decodes.unique (h : Decodes reader R) {v : Tree} {a b : α} (ha : R v a) (hb : R v b) :
    a = b := by
  have hspaced := spaced_text v.tokens
  have hends : Ends [] := ends_of_blank (by simp [Blank])
  have hread := h.reads ha hspaced hends
  rw [h.reads hb hspaced hends] at hread
  cases hread
  rfl

theorem Decodes.congr (h : Decodes reader R) {R' : Tree → α → Prop}
    (hiff : ∀ {v a}, R v a ↔ R' v a) : Decodes reader R' :=
  ⟨fun hv => h.reads (hiff.mpr hv), fun hread =>
    (h.only hread).imp fun _ hv => ⟨hiff.mp hv.1, hv.2⟩⟩

theorem Decodes.readWhole_eq_ok_iff (h : Decodes reader R) {text : String} {a : α} :
    readWhole reader text = .ok a ↔ ∃ v : Tree, v.Spells text ∧ R v a := by
  constructor
  · intro hread
    obtain ⟨rest, hread, hblank⟩ := exists_rest_of_readWhole hread
    obtain ⟨v, hv, hspaced⟩ := h.only hread
    exact ⟨v, ⟨rest, hblank, hspaced⟩, hv⟩
  · rintro ⟨v, ⟨rest, hblank, hspaced⟩, hv⟩
    rw [readWhole, h.reads hv hspaced (ends_of_blank hblank), ok_bind]
    dsimp only
    rw [skipBlanks_eq_nil_iff.mpr hblank]
    rfl

end

/-! ## Strings -/

theorem readText_reads (room : Nat) : Reads room readText Tree.IsText := by
  rintro _ s cs rest ⟨l, rfl, hl⟩ h -
  rw [Tree.tokens] at h
  obtain ⟨mid, hmid, rfl⟩ := spaced_string.mp h
  refine (within_ok ?_).congr (by simp [Tree.nesting])
  rw [readText, hmid]
  exact readString_eq_ok_iff.mpr ⟨l, hl, rfl⟩

theorem readText_readsOnly (room : Nat) : ReadsOnly room readText Tree.IsText := by
  intro cs s rest h
  unfold readText at h
  split at h
  · exact absurd h failHere_ne_ok
  · rename_i c mid hmid
    split at h
    · rename_i hc
      obtain ⟨l, hl, rfl⟩ := readString_eq_ok_iff.mp h
      refine ⟨.string l, ⟨by simp [Tree.nesting], l, rfl, hl⟩, ?_⟩
      rw [Tree.tokens]
      exact spaced_string.mpr ⟨rest, by rw [hmid, hc], rfl⟩
    · exact absurd h mismatch_ne_ok

theorem readOptionalText_reads (room : Nat) :
    Reads room (readOptional readText) (Tree.IsOptional Tree.IsText) := by
  intro v s cs rest hv h hrest
  have hnesting : v.nesting = 0 := Tree.nesting_of_isOptional_isText hv
  refine (within_ok ?_).congr (by simp [hnesting])
  cases s with
  | none =>
    cases hv
    rw [Tree.tokens] at h
    obtain ⟨mid, hmid, rfl⟩ := (spaced_cons_iff ⟨'n', _, rfl, by decide⟩).mp h
    rw [readOptional, hmid]
    exact bind_eq_ok_iff.mpr ⟨mid, readWord_eq_ok_iff.mpr rfl, rfl⟩
  | some s =>
    have hread := (readText_reads 0 v s _ rest hv (v.spaced_skipBlanks_iff.mpr h) hrest).1
      (Nat.le_of_eq hnesting)
    obtain ⟨l, rfl, hl⟩ := hv
    rw [Tree.tokens] at h
    obtain ⟨mid, hmid, -⟩ := spaced_string.mp h
    rw [hmid] at hread
    rw [readOptional, hmid]
    exact bind_eq_ok_iff.mpr ⟨(s, rest), hread, rfl⟩

theorem readOptional_readsOnly {α : Type} {room : Nat} {reader : Reader α} {P : Tree → α → Prop}
    (hreader : ReadsOnly room reader P) :
    ReadsOnly room (readOptional reader) (Tree.IsOptional P) := by
  intro cs a rest h
  unfold readOptional at h
  split at h
  · rename_i mid hmid
    obtain ⟨rest', hword, he⟩ := bind_eq_ok_iff.mp h
    cases he
    refine ⟨.null, ⟨by simp [Tree.nesting], rfl⟩, ?_⟩
    rw [Tree.tokens]
    refine (spaced_cons_iff ⟨'n', _, rfl, by decide⟩).mpr ⟨rest, ?_, rfl⟩
    rw [hmid, readWord_eq_ok_iff.mp hword]
    rfl
  · obtain ⟨⟨value, rest'⟩, hvalue, he⟩ := bind_eq_ok_iff.mp h
    cases he
    obtain ⟨v, hv, hspaced⟩ := hreader _ _ _ hvalue
    exact ⟨v, hv, v.spaced_skipBlanks_iff.mp hspaced⟩

/-! ## Words -/

namespace Numeral

theorem front_of_lt {n : Numeral} (h : n.whole.toNat < UInt64.size) :
    n.front = (n.whole.toNat, 0) := by
  have hfit : fitting 0 n.whole.chars = n.whole.chars.length := by
    refine Nat.findGreatest_eq ?_
    rw [List.take_length]
    exact h
  rw [front, appended, hfit, List.take_length, Nat.sub_self]
  rfl

theorem front_fst_of_snd {n : Numeral} (h : n.front.2 = 0) : n.front.1 = n.whole.toNat := by
  have hfit : fitting 0 n.whole.chars = n.whole.chars.length :=
    Nat.le_antisymm (fitting_le _ _) (Nat.sub_eq_zero_iff_le.mp h)
  rw [front, appended, hfit, List.take_length]
  rfl

theorem number?_of_isPlain {n : Numeral} (hplain : n.IsPlain) (h : n.whole.toNat < UInt64.size) :
    n.number? = some (.integer n.whole.toNat) := by
  obtain ⟨hsign, hfraction, hexponent⟩ := hplain
  unfold number?
  rw [hexponent, hfraction, front_of_lt h]
  simp [hsign]

theorem float?_ne_integer {n : Numeral} {exponent i : Int} :
    n.float? exponent ≠ some (.integer i) := by
  rw [float?_eq]
  intro h
  obtain ⟨x, -, he⟩ := Option.map_eq_some_iff.mp h
  cases he

/-- Only plain digits stand for a whole number that is not negative. -/
theorem isPlain_of_number? {n : Numeral} {i : Int} (h : n.number? = some (.integer i))
    (hi : 0 ≤ i) : n.IsPlain ∧ i = n.whole.toNat := by
  unfold number? at h
  split at h
  · rename_i hexponent
    split at h
    · rename_i hwhole
      have hfront := front_fst_of_snd hwhole.2
      split at h
      · rename_i hsign
        cases h
        exact ⟨⟨hsign, Option.isNone_iff_eq_none.mp hwhole.1, hexponent⟩, by rw [hfront]⟩
      · split at h
        · exact absurd h float?_ne_integer
        · rename_i hne
          cases h
          omega
    · exact absurd h float?_ne_integer
  · split at h
    · exact absurd h float?_ne_integer
    · split at h
      · cases h
      · cases h

end Numeral

theorem toWord_eq_ok_iff {num : Number} {w : UInt64} :
    num.toWord = .ok w ↔ num = .integer w.toNat := by
  constructor
  · intro h
    cases num with
    | float negative magnitude => cases h
    | integer i =>
      rw [Number.toWord] at h
      by_cases hi : 0 ≤ i ∧ i < UInt64.size
      · rw [if_pos hi, Except.ok.injEq] at h
        subst h
        have hlt : i.toNat < UInt64.size := by omega
        have hword : (UInt64.ofNat i.toNat).toNat = i.toNat := UInt64.toNat_ofNat_of_lt' hlt
        rw [hword, Int.toNat_of_nonneg hi.1]
      · rw [if_neg hi] at h
        cases h
  · rintro rfl
    have hlt : w.toNat < UInt64.size := w.toNat_lt
    rw [Number.toWord, if_pos (by omega), Int.toNat_natCast, UInt64.ofNat_toNat]

/-- The trees whose value is a word. -/
theorem Tree.isWord_iff {v : Tree} {w : UInt64} :
    v.IsWord w ↔ ∃ num : Number, v.value? = some (.number num) ∧ num.toWord = .ok w := by
  constructor
  · rintro ⟨n, rfl, hplain, hw⟩
    have hlt : n.whole.toNat < UInt64.size := by
      rw [hw]
      exact w.toNat_lt
    refine ⟨.integer n.whole.toNat, ?_, toWord_eq_ok_iff.mpr (by rw [hw])⟩
    rw [value?, Numeral.number?_of_isPlain hplain hlt]
    rfl
  · rintro ⟨num, hv, hw⟩
    obtain rfl := toWord_eq_ok_iff.mp hw
    cases v with
    | number n =>
      rw [value?] at hv
      obtain ⟨num, hn, he⟩ := Option.map_eq_some_iff.mp hv
      cases he
      obtain ⟨hplain, hi⟩ := Numeral.isPlain_of_number? hn (Int.natCast_nonneg _)
      exact ⟨n, rfl, hplain, by omega⟩
    | null => simp [value?] at hv
    | bool b => simp [value?] at hv
    | string s => simp [value?] at hv
    | array vs => simp [value?] at hv
    | object ms => simp [value?] at hv

/-! ## Flags and words -/

/-- The value is `true` or `false`. -/
def Tree.IsFlag (v : Tree) (b : Bool) : Prop := v = .bool b

theorem readFlag_decodes : Decodes readFlag Tree.IsFlag := by
  constructor
  · rintro _ b cs rest rfl hcs -
    rw [Tree.tokens] at hcs
    cases b with
    | true =>
      obtain ⟨mid, hmid, rfl⟩ := (spaced_cons_iff ⟨'t', _, rfl, by decide⟩).mp hcs
      rw [readFlag, hmid]
      exact bind_eq_ok_iff.mpr ⟨mid, readWord_eq_ok_iff.mpr rfl, rfl⟩
    | false =>
      obtain ⟨mid, hmid, rfl⟩ := (spaced_cons_iff ⟨'f', _, rfl, by decide⟩).mp hcs
      rw [readFlag, hmid]
      exact bind_eq_ok_iff.mpr ⟨mid, readWord_eq_ok_iff.mpr rfl, rfl⟩
  · intro cs b rest h
    unfold readFlag at h
    split at h
    · exact absurd h failHere_ne_ok
    · rename_i c tail hc
      split at h
      · rename_i ht
        obtain ⟨mid, hword, he⟩ := bind_eq_ok_iff.mp h
        cases he
        refine ⟨.bool true, rfl, ?_⟩
        rw [Tree.tokens]
        refine (spaced_cons_iff ⟨'t', _, rfl, by decide⟩).mpr ⟨rest, ?_, rfl⟩
        rw [hc, ht, readWord_eq_ok_iff.mp hword]
        rfl
      split at h
      · rename_i hf
        obtain ⟨mid, hword, he⟩ := bind_eq_ok_iff.mp h
        cases he
        refine ⟨.bool false, rfl, ?_⟩
        rw [Tree.tokens]
        refine (spaced_cons_iff ⟨'f', _, rfl, by decide⟩).mpr ⟨rest, ?_, rfl⟩
        rw [hc, hf, readWord_eq_ok_iff.mp hword]
        rfl
      · exact absurd h mismatch_ne_ok

/-- The text of a word begins with a digit. -/
theorem Tree.IsWord.exists_digit {v : Tree} {w : UInt64} (h : v.IsWord w) {cs rest : List Char}
    (hcs : Spaced v.tokens cs rest) :
    ∃ n : Numeral, v = .number n ∧ n.number? = some (.integer w.toNat) ∧ n.negative = false ∧
      ∃ c tail, skipBlanks cs = c :: tail ∧ c.isDigit = true ∧ c :: tail = n.unsigned ++ rest := by
  obtain ⟨n, rfl, hplain, hw⟩ := h
  have hlt : n.whole.toNat < UInt64.size := by
    rw [hw]
    exact w.toNat_lt
  have hnumber := Numeral.number?_of_isPlain hplain hlt
  rw [hw] at hnumber
  rw [Tree.tokens] at hcs
  obtain ⟨c, tail, htext, hc⟩ := n.exists_head
  have hunsigned : n.text = n.unsigned := by
    rw [Numeral.text, if_neg (by simp [hplain.1])]
  have hdigit : c.isDigit = true := by
    rcases hc with rfl | hc
    · obtain ⟨d, ds, hds⟩ := List.exists_cons_of_ne_nil n.whole.nonempty
      have hd : d.isDigit = true := n.whole.digits d (by rw [hds]; exact List.mem_cons_self)
      rw [hunsigned, Numeral.unsigned, hds] at htext
      rw [(List.cons.inj htext).1] at hd
      exact hd
    · exact hc
  have htoken : (Token.number n).text = c :: tail := htext
  obtain ⟨mid, hmid, rfl⟩ :=
    (spaced_cons_iff ⟨c, tail, htoken, isBlank_of_isDigit hdigit⟩).mp hcs
  rw [htoken, List.cons_append] at hmid
  refine ⟨n, rfl, hnumber, hplain.1, c, tail ++ mid, hmid, hdigit, ?_⟩
  rw [← List.cons_append, ← htext, hunsigned]

/-- What is read as a number that is a word is the text of a word. -/
theorem exists_word_of_numeral {n : Numeral} {num : Number} (hn : n.number? = some num)
    {w : UInt64} {cs mid rest : List Char} (hcs : skipBlanks cs = n.text ++ mid)
    (h : (match num.toWord with
      | .ok w => pure (w, mid)
      | .error reason => failHere (.shape reason) mid) = .ok (w, rest)) :
    ∃ v : Tree, v.IsWord w ∧ Spaced v.tokens cs rest := by
  split at h
  · rename_i w' hw
    cases h
    refine ⟨.number n, Tree.isWord_iff.mpr ⟨num, ?_, hw⟩, ?_⟩
    · rw [Tree.value?, hn]
      rfl
    · rw [← (Tree.number n).spaced_skipBlanks_iff, Tree.tokens, hcs]
      exact ⟨[], mid, by simp [Blank], rfl, rfl⟩
  · exact absurd h failHere_ne_ok

theorem readWordValue_digit {c : Char} {cs tail rest : List Char} {num : Number} {w : UInt64}
    (hc : skipBlanks cs = c :: tail) (hdigit : c.isDigit = true)
    (hread : readNumber false (c :: tail) = .ok (num, rest)) (hword : num.toWord = .ok w) :
    readWordValue cs = .ok (w, rest) := by
  unfold readWordValue
  rw [hc]
  dsimp only
  rw [if_pos (Or.inr hdigit), if_neg (isDigit_ne hdigit (by decide)), hread]
  simp only [ok_bind]
  rw [hword]
  rfl

theorem readWordValue_decodes : Decodes readWordValue Tree.IsWord := by
  constructor
  · intro v w cs rest hv hcs hrest
    obtain ⟨n, rfl, hnumber, hsign, c, tail, hc, hdigit, htext⟩ := hv.exists_digit hcs
    refine readWordValue_digit hc hdigit ?_ (toWord_eq_ok_iff.mpr rfl)
    rw [htext, ← hsign]
    exact (readNumber_unsigned n (hrest.endsAt n) _ rest).mpr ⟨hnumber, rfl⟩
  · intro cs w rest h
    unfold readWordValue at h
    split at h
    · exact absurd h failHere_ne_ok
    · rename_i c tail hc
      split at h
      · dsimp only at h
        split at h
        · rename_i hminus
          obtain ⟨⟨num, mid⟩, hread, hword⟩ := bind_eq_ok_iff.mp h
          obtain ⟨n, hneg, rfl, hn⟩ := exists_numeral_of_readNumber hread
          refine exists_word_of_numeral hn ?_ hword
          rw [hc, hminus, Numeral.text, if_pos hneg, List.cons_append]
        · obtain ⟨⟨num, mid⟩, hread, hword⟩ := bind_eq_ok_iff.mp h
          obtain ⟨n, hneg, hcs, hn⟩ := exists_numeral_of_readNumber hread
          refine exists_word_of_numeral hn ?_ hword
          rw [hc, hcs, Numeral.text, if_neg (by simp [hneg])]
      · exact absurd h mismatch_ne_ok

theorem readOptionalWord_decodes :
    Decodes (readOptional readWordValue) (Tree.IsOptional Tree.IsWord) := by
  constructor
  · intro v w cs rest hv hcs hrest
    cases w with
    | none =>
      cases hv
      rw [Tree.tokens] at hcs
      obtain ⟨mid, hmid, rfl⟩ := (spaced_cons_iff ⟨'n', _, rfl, by decide⟩).mp hcs
      rw [readOptional, hmid]
      exact bind_eq_ok_iff.mpr ⟨mid, readWord_eq_ok_iff.mpr rfl, rfl⟩
    | some w =>
      have hv : v.IsWord w := hv
      obtain ⟨n, -, -, -, c, tail, hc, hdigit, -⟩ := hv.exists_digit hcs
      have hread := readWordValue_decodes.reads hv (v.spaced_skipBlanks_iff.mpr hcs) hrest
      unfold readOptional
      split
      · rename_i mid hmid
        rw [hc] at hmid
        cases hmid
        cases hdigit
      · exact bind_eq_ok_iff.mpr ⟨(w, rest), hread, rfl⟩
  · intro cs w rest h
    have hwords : ReadsOnly 0 readWordValue Tree.IsWord := by
      intro cs w rest h
      obtain ⟨v, hv, hspaced⟩ := readWordValue_decodes.only h
      refine ⟨v, ⟨?_, hv⟩, hspaced⟩
      obtain ⟨n, rfl, -⟩ := hv
      simp [Tree.nesting]
    obtain ⟨v, ⟨-, hv⟩, hspaced⟩ := readOptional_readsOnly hwords _ _ _ h
    exact ⟨v, hv, hspaced⟩

end SyntaxOutline.Json
