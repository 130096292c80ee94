import SyntaxOutline.Proofs.Text.LineEndings

/-!
# Marking in one pass

Marking a text goes over it twice. A single scan from left to right does the same
(`markFeeds_unify`): the feeds that the first pass leaves behind never meet a return that was not
in front of them before. From the scan one reads off what marking does to a text:

* no line feed is left (`feed_not_mem_scan`), so that marking twice is marking once;
* a return stays if and only if no feed follows it (`count_return_scan`);
* every feed without a return in front of it makes the text one byte longer (`utf8Length_scan`).

`mark_eq_scan` puts these together.
-/

namespace SyntaxOutline.LineEnding

/-- Writes the marker for every line ending and copies everything else, looking at each character
once. -/
def scan : List Char → List Char
  | '\r' :: '\n' :: cs => marker.toList ++ scan cs
  | '\n' :: cs => marker.toList ++ scan cs
  | c :: cs => c :: scan cs
  | [] => []

/-- The number of returns without a feed directly behind them. -/
def loneReturns (cs : List Char) : Nat :=
  (List.range cs.length).countP fun i => cs[i]? = some '\r' ∧ cs[i + 1]? ≠ some '\n'

/-- The number of feeds without a return directly in front of them. -/
def loneFeeds (cs : List Char) : Nat :=
  (List.range cs.length).countP fun i =>
    cs[i]? = some '\n' ∧ (i = 0 ∨ cs[i - 1]? ≠ some '\r')

/-! ## The two passes -/

/-- Where the scan copies a character, no line ending begins. -/
theorem head?_ne_feed {c : Char} {cs : List Char}
    (h : ∀ rest, c = '\r' → cs = '\n' :: rest → False) : c = '\r' → cs.head? ≠ some '\n' := by
  intro hc hhead
  obtain ⟨rest, hrest⟩ := List.head?_eq_some_iff.mp hhead
  exact h rest hc hrest

theorem markFeeds_feed (cs : List Char) :
    markFeeds ('\n' :: cs) = marker.toList ++ markFeeds cs := by
  rw [markFeeds, if_pos rfl]

/-- Taking off the returns and then writing the marks is a single scan. -/
theorem markFeeds_unify (cs : List Char) : markFeeds (unify cs) = scan cs := by
  fun_induction scan cs with
  | case1 cs ih => rw [unify, markFeeds_feed, ih]
  | case2 cs ih =>
    have hunify : unify ('\n' :: cs) = '\n' :: unify cs :=
      unify_cons fun h => absurd h (by decide)
    rw [hunify, markFeeds_feed, ih]
  | case3 c cs hpair hfeed ih =>
    have hc : c ≠ '\n' := hfeed
    rw [unify_cons (head?_ne_feed hpair), markFeeds, if_neg hc, ih]
  | case4 => rfl

/-! ## What the scan leaves -/

theorem feed_not_mem_scan (cs : List Char) : '\n' ∉ scan cs := by
  fun_induction scan cs with
  | case1 cs ih => simpa [marker] using ih
  | case2 cs ih => simpa [marker] using ih
  | case3 c cs _ hfeed ih =>
    have hc : '\n' ≠ c := fun h => hfeed h.symm
    simpa [hc] using ih
  | case4 => simp

/-- Without line feeds there is nothing to mark. -/
theorem scan_eq_self {cs : List Char} (h : '\n' ∉ cs) : scan cs = cs := by
  fun_induction scan cs with
  | case1 cs ih => simp at h
  | case2 cs ih => simp at h
  | case3 c cs _ _ ih =>
    have hcs : '\n' ∉ cs := fun hmem => h (List.mem_cons_of_mem c hmem)
    rw [ih hcs]
  | case4 => rfl

/-! ## Counting -/

theorem countP_range_succ (p : Nat → Bool) (n : Nat) :
    (List.range (n + 1)).countP p =
      (List.range n).countP (fun i => p (i + 1)) + if p 0 then 1 else 0 := by
  rw [List.range_succ_eq_map, List.countP_cons, List.countP_map]
  rfl

theorem loneReturns_cons (c : Char) (cs : List Char) :
    loneReturns (c :: cs) =
      loneReturns cs + if c = '\r' ∧ cs.head? ≠ some '\n' then 1 else 0 := by
  unfold loneReturns
  rw [List.length_cons, countP_range_succ]
  simp [List.head?_eq_getElem?]

/-- A return put in front of a text leaves one feed less alone if the text begins with a feed. -/
theorem loneFeeds_cons (c : Char) (cs : List Char) :
    loneFeeds (c :: cs) + (if c = '\r' ∧ cs.head? = some '\n' then 1 else 0) =
      loneFeeds cs + if c = '\n' then 1 else 0 := by
  unfold loneFeeds
  cases cs with
  | nil => simp
  | cons d cs =>
    rw [List.length_cons, countP_range_succ, List.length_cons, countP_range_succ,
      countP_range_succ]
    by_cases hc : c = '\r'
    · by_cases hd : d = '\n' <;> simp [hc, hd]
    · simp [hc]

theorem count_return_scan (cs : List Char) : (scan cs).count '\r' = loneReturns cs := by
  have hmarker : marker.toList.count '\r' = 0 := by decide
  fun_induction scan cs with
  | case1 cs ih =>
    rw [List.count_append, hmarker, ih, loneReturns_cons, loneReturns_cons]
    simp
  | case2 cs ih =>
    rw [List.count_append, hmarker, ih, loneReturns_cons]
    simp
  | case3 c cs hpair _ ih =>
    have hhead := head?_ne_feed hpair
    rw [List.count_cons, ih, loneReturns_cons]
    by_cases hc : c = '\r'
    · simp [hc, hhead hc]
    · simp [hc]
  | case4 => rfl

theorem utf8Length_scan (cs : List Char) :
    Text.utf8Length (scan cs) = Text.utf8Length cs + loneFeeds cs := by
  have hmarker : Text.utf8Length marker.toList = 2 := rfl
  have hreturn : '\r'.utf8Size = 1 := rfl
  have hfeed : '\n'.utf8Size = 1 := rfl
  -- the marker has as many bytes as a return with its feed, and one more than a feed
  fun_induction scan cs with
  | case1 cs ih =>
    have hpair := loneFeeds_cons '\r' ('\n' :: cs)
    have htail := loneFeeds_cons '\n' cs
    simp only [List.head?_cons, and_self, if_true, Char.reduceEq, if_false, false_and]
      at hpair htail
    rw [Text.utf8Length_append, ih, Text.utf8Length, Text.utf8Length]
    omega
  | case2 cs ih =>
    have htail := loneFeeds_cons '\n' cs
    simp only [if_true, Char.reduceEq, if_false, false_and] at htail
    rw [Text.utf8Length_append, ih, Text.utf8Length]
    omega
  | case3 c cs hpair hc ih =>
    have htail := loneFeeds_cons c cs
    rw [if_neg (fun h => head?_ne_feed hpair h.1 h.2), if_neg hc] at htail
    rw [Text.utf8Length, ih, Text.utf8Length]
    omega
  | case4 => rfl

/-- **One pass.** The marked text is what a single scan writes. It has no line feeds, so that
marking it again changes nothing; it keeps the returns that no feed follows; and it is longer than
the text by the number of feeds that no return precedes. -/
theorem mark_eq_scan (s : String) :
    mark s = String.ofList (scan s.toList) ∧
      '\n' ∉ (mark s).toList ∧
      mark (mark s) = mark s ∧
      (mark s).toList.count '\r' = loneReturns s.toList ∧
      (mark s).utf8ByteSize = s.utf8ByteSize + loneFeeds s.toList := by
  have hmark : ∀ t : String, mark t = String.ofList (scan t.toList) := by
    intro t
    rw [mark, markFeeds_unify]
  have hlist : (mark s).toList = scan s.toList := by
    rw [hmark, String.toList_ofList]
  have hfeed : '\n' ∉ (mark s).toList := by
    rw [hlist]
    exact feed_not_mem_scan s.toList
  refine ⟨hmark s, hfeed, ?_, ?_, ?_⟩
  · rw [hmark (mark s), scan_eq_self hfeed, String.ofList_toList]
  · rw [hlist, count_return_scan]
  · rw [hmark, Text.utf8ByteSize_ofList, utf8Length_scan, Text.utf8Length_toList]

end SyntaxOutline.LineEnding
