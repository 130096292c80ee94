import SyntaxOutline.LineEnding
import SyntaxOutline.Proofs.Text.Slices

/-!
# Texts with carriage returns

A text in which lines end in line feeds becomes one in which they end in a carriage return and a
line feed if a return is put in front of every feed (`LineEnding.addReturns`). Taking the returns
off again gives the text back, whatever it holds (`unify_addReturns`); so the marked texts are the
same if there was no return to take off before (`mark_addReturns`).

A line ending may lie across the border of two texts, the return in one and the feed in the other.
Marking one text after the other leaves such a return in place, and only these: so the pieces are
longer than the marked whole by the number of such borders (`utf8ByteSize_join_mark`).
-/

namespace SyntaxOutline.LineEnding

/-- A character as it is written where lines end in a return and a feed. -/
def withReturn (c : Char) : List Char := if c = '\n' then ['\r', '\n'] else [c]

/-- The text with a carriage return in front of every line feed. -/
def addReturns (s : String) : String := String.ofList (s.toList.flatMap withReturn)

/-- The number of line feeds. -/
def feeds (s : String) : Nat := s.toList.count '\n'

theorem toList_addReturns (s : String) : (addReturns s).toList = s.toList.flatMap withReturn :=
  String.toList_ofList

theorem addReturns_append (s t : String) : addReturns (s ++ t) = addReturns s ++ addReturns t := by
  apply String.toList_injective
  simp only [toList_addReturns, String.toList_append, List.flatMap_append]

theorem addReturns_join (ss : List String) :
    addReturns (String.join ss) = String.join (ss.map addReturns) := by
  induction ss with
  | nil => rfl
  | cons s ss ih => rw [String.join_cons, addReturns_append, ih, List.map_cons, String.join_cons]

/-- Every line feed makes the text one byte longer. -/
theorem utf8ByteSize_addReturns (s : String) :
    (addReturns s).utf8ByteSize = s.utf8ByteSize + feeds s := by
  have hchars : ∀ cs : List Char, Text.utf8Length (cs.flatMap withReturn) =
      Text.utf8Length cs + cs.count '\n' := by
    intro cs
    induction cs with
    | nil => rfl
    | cons c cs ih =>
      by_cases hc : c = '\n'
      · subst hc
        have hreturn : '\r'.utf8Size = 1 := rfl
        simp only [List.flatMap_cons, withReturn, if_true, List.cons_append, List.nil_append,
          Text.utf8Length, ih, List.count_cons_self]
        omega
      · simp only [List.flatMap_cons, withReturn, if_neg hc, List.cons_append, List.nil_append,
          Text.utf8Length, ih, List.count_cons_of_ne hc]
        omega
  rw [← Text.utf8Length_toList, toList_addReturns, hchars, Text.utf8Length_toList, feeds]

/-! ## Taking returns off -/

theorem unify_cons {c : Char} {cs : List Char} (h : c = '\r' → cs.head? ≠ some '\n') :
    unify (c :: cs) = c :: unify cs := by
  rw [unify.eq_def]
  split
  · rename_i cs' he
    injection he with hc hcs
    subst hc hcs
    exact absurd rfl (h rfl)
  · rename_i he
    injection he with hc hcs
    subst hc hcs
    rfl
  · rename_i he
    cases he

/-- Behind an added return, every feed has one in front of it. -/
theorem head?_flatMap_withReturn (cs : List Char) :
    (cs.flatMap withReturn).head? ≠ some '\n' := by
  cases cs with
  | nil => nofun
  | cons c cs =>
    rw [List.flatMap_cons, withReturn]
    split
    · simp
    · rename_i hc
      simpa using hc

/-- Returns that were added are taken off again, and no others. -/
theorem unify_addReturns (s : String) : unify (addReturns s).toList = s.toList := by
  rw [toList_addReturns]
  induction s.toList with
  | nil => rfl
  | cons c cs ih =>
    rw [List.flatMap_cons]
    by_cases hc : c = '\n'
    · subst hc
      show unify ('\r' :: '\n' :: cs.flatMap withReturn) = '\n' :: cs
      rw [unify, ih]
    · rw [withReturn, if_neg hc]
      show unify (c :: cs.flatMap withReturn) = c :: cs
      rw [unify_cons fun _ => head?_flatMap_withReturn cs, ih]

/-- A text without a return in front of a feed is left as it is. -/
theorem unify_eq_self {cs : List Char} (h : ¬ ['\r', '\n'] <:+: cs) : unify cs = cs := by
  induction cs with
  | nil => rfl
  | cons c cs ih =>
    have hcs : ¬ ['\r', '\n'] <:+: cs := fun hinfix => h (List.infix_cons hinfix)
    rw [unify_cons ?_, ih hcs]
    rintro rfl hhead
    obtain ⟨rest, rfl⟩ := List.head?_eq_some_iff.mp hhead
    exact h ⟨[], rest, rfl⟩

/-- The two conventions for line endings give the same marked text. -/
theorem mark_addReturns {s : String} (h : ¬ ['\r', '\n'] <:+: s.toList) :
    mark (addReturns s) = mark s := by
  rw [mark, mark, unify_addReturns, unify_eq_self h]

/-! ## Line endings across borders -/

/-- A line ending lies across the border of two texts. -/
def Parted (s t : String) : Prop := s.toList.getLast? = some '\r' ∧ t.toList.head? = some '\n'

instance (s t : String) : Decidable (Parted s t) := inferInstanceAs (Decidable (_ ∧ _))

/-- The number of texts that end in a return, with a feed at the beginning of the next text that is
not empty. -/
def partings : List String → Nat
  | [] => 0
  | s :: ss => (if (ss.find? (· ≠ "")).any (Parted s) then 1 else 0) + partings ss

theorem unify_append {cs ds : List Char}
    (h : cs.getLast? = some '\r' → ds.head? ≠ some '\n') :
    unify (cs ++ ds) = unify cs ++ unify ds := by
  fun_induction unify cs with
  | case1 cs ih =>
    rw [List.cons_append, List.cons_append, unify, ih, List.cons_append]
    intro hlast
    apply h
    rw [List.getLast?_cons_cons, List.getLast?_cons, hlast, Option.getD_some]
  | case2 c cs hpair ih =>
    have hhead : c = '\r' → (cs ++ ds).head? ≠ some '\n' := by
      rintro rfl hfeed
      cases cs with
      | nil => exact h rfl hfeed
      | cons d cs =>
        cases hfeed
        exact hpair cs rfl rfl
    rw [List.cons_append, unify_cons hhead, ih, List.cons_append]
    intro hlast
    apply h
    rw [List.getLast?_cons, hlast, Option.getD_some]
  | case3 => rfl

theorem markFeeds_append (cs ds : List Char) :
    markFeeds (cs ++ ds) = markFeeds cs ++ markFeeds ds := by
  induction cs with
  | nil => rfl
  | cons c cs ih =>
    rw [List.cons_append, markFeeds, markFeeds, ih]
    split
    · rw [List.append_assoc]
    · rw [List.cons_append]

theorem mark_append {s t : String} (h : ¬ Parted s t) : mark (s ++ t) = mark s ++ mark t := by
  rw [mark, mark, mark, String.toList_append, unify_append fun hs ht => h ⟨hs, ht⟩,
    markFeeds_append, String.ofList_append]

/-- Texts that part a line ending keep its return if each is marked by itself. -/
theorem mark_append_mark {s t : String} (h : Parted s t) :
    (mark s ++ mark t).utf8ByteSize = (mark (s ++ t)).utf8ByteSize + 1 := by
  obtain ⟨cs, hs⟩ := List.getLast?_eq_some_iff.mp h.1
  obtain ⟨ds, ht⟩ := List.head?_eq_some_iff.mp h.2
  have hreturn : ∀ rest, unify (cs ++ '\r' :: rest) = unify cs ++ unify ('\r' :: rest) :=
    fun rest => unify_append fun _ => nofun
  have hfeed : unify ('\n' :: ds) = '\n' :: unify ds := unify_cons nofun
  have hwhole : unify (cs ++ ['\r'] ++ '\n' :: ds) = unify cs ++ unify ('\n' :: ds) := by
    rw [List.append_assoc, List.singleton_append, hreturn, unify, hfeed]
  have hfirst : unify (cs ++ ['\r']) = unify cs ++ ['\r'] := hreturn []
  have hsize : Text.utf8Length (markFeeds ['\r']) = 1 := rfl
  rw [mark, mark, mark, String.toList_append, hs, ht, hwhole, hfirst, ← String.ofList_append,
    Text.utf8ByteSize_ofList, Text.utf8ByteSize_ofList]
  simp only [markFeeds_append, Text.utf8Length_append, hsize]
  omega

/-- The joined text begins as the first text does that is not empty. -/
theorem head?_join (ss : List String) :
    (String.join ss).toList.head? = (ss.find? (· ≠ "")).bind (·.toList.head?) := by
  induction ss with
  | nil => rfl
  | cons s ss ih =>
    rw [String.join_cons, String.toList_append, List.head?_append, ih]
    by_cases hs : s = ""
    · subst hs
      rfl
    · obtain ⟨c, cs, hcs⟩ := List.exists_cons_of_ne_nil (mt String.toList_eq_nil_iff.mp hs)
      simp [hs, hcs]

theorem parted_join_iff {s : String} {ss : List String} :
    Parted s (String.join ss) ↔ (ss.find? (· ≠ "")).any (Parted s) := by
  rw [Parted, head?_join]
  cases ss.find? (· ≠ "") with
  | none => simp
  | some t =>
    rw [Option.bind_some, Option.any_some, decide_eq_true_eq, Parted]

/-- Texts that are marked one by one have one byte more for each line ending across a border. -/
theorem utf8ByteSize_join_mark (ss : List String) :
    (String.join (ss.map mark)).utf8ByteSize =
      (mark (String.join ss)).utf8ByteSize + partings ss := by
  induction ss with
  | nil => rfl
  | cons s ss ih =>
    rw [List.map_cons, String.join_cons, String.join_cons, String.utf8ByteSize_append, ih, partings]
    by_cases hparted : Parted s (String.join ss)
    · have hsize := mark_append_mark hparted
      rw [String.utf8ByteSize_append] at hsize
      rw [if_pos (parted_join_iff.mp hparted)]
      omega
    · rw [mark_append hparted, String.utf8ByteSize_append,
        if_neg (mt parted_join_iff.mpr hparted)]
      omega

/-- Marking goes through a join if and only if no line ending lies across a border. -/
theorem join_mark_eq_iff (ss : List String) :
    String.join (ss.map mark) = mark (String.join ss) ↔ partings ss = 0 := by
  constructor
  · intro h
    have hsize := utf8ByteSize_join_mark ss
    rw [h] at hsize
    omega
  · intro h
    induction ss with
    | nil => rfl
    | cons s ss ih =>
      rw [partings, Nat.add_eq_zero_iff] at h
      have hparted : ¬ Parted s (String.join ss) := by
        intro hparted
        rw [if_pos (parted_join_iff.mp hparted)] at h
        exact absurd h.1 Nat.one_ne_zero
      rw [List.map_cons, String.join_cons, String.join_cons, mark_append hparted, ih h.2]

end SyntaxOutline.LineEnding
